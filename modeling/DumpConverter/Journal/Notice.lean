/-
**Notices.**

What is told of the progress of a task. A journaled task gives its result together with the notices
up to there, also when it fails.

* `result_bind`: the result of a task is that of its steps in turn, whatever they tell.
-/

namespace DumpConverter

/-- How much a notice matters, or how much is to be shown: nothing at `off`, everything at `trace`. -/
inductive Level where
  | off | error | warn | info | debug | trace
deriving DecidableEq, Repr

namespace Level

/-- The place of a level in their order. -/
def rank : Level → Nat
  | off => 0
  | error => 1
  | warn => 2
  | info => 3
  | debug => 4
  | trace => 5

end Level

/-- What is told of a task. -/
inductive Notice where
  | loadedSettings (path : String)
  /-- The script to convert has been settled. -/
  | chosenInput (path : String)
  | readScript (path : String) (bytes : Nat)
  | changedByRule (rule : String) (hits : Nat)
  | wroteScript (path : String) (bytes hits : Nat)
deriving DecidableEq, Repr

/-- A task that tells of its progress. -/
structure Journaled (ε α : Type) where
  notices : List Notice
  result : Except ε α

namespace Journaled

variable {ε α β : Type}

/-- Goes on with the value of a task. -/
def bind (task : Journaled ε α) (next : α → Journaled ε β) : Journaled ε β :=
  match task.result with
  | .ok value => ⟨task.notices ++ (next value).notices, (next value).result⟩
  | .error error => ⟨task.notices, .error error⟩

instance : Monad (Journaled ε) where
  pure value := ⟨[], .ok value⟩
  bind := bind

/-- Tells something. -/
def tell (notice : Notice) : Journaled ε Unit := ⟨[notice], .ok ()⟩

/-- Tells several things. -/
def tellAll (notices : List Notice) : Journaled ε Unit := ⟨notices, .ok ()⟩

/-- A step that tells nothing. -/
def silent (result : Except ε α) : Journaled ε α := ⟨[], result⟩

/-- The result of a task is that of its steps in turn. -/
@[simp] theorem result_bind (task : Journaled ε α) (next : α → Journaled ε β) :
    (task >>= next).result = task.result.bind fun value => (next value).result := by
  change (bind task next).result = _
  unfold bind
  cases task.result <;> rfl

theorem bind_ok (notices : List Notice) (value : α) (next : α → Journaled ε β) :
    (⟨notices, .ok value⟩ : Journaled ε α) >>= next =
      ⟨notices ++ (next value).notices, (next value).result⟩ := rfl

theorem bind_error (notices : List Notice) (error : ε) (next : α → Journaled ε β) :
    (⟨notices, .error error⟩ : Journaled ε α) >>= next = ⟨notices, .error error⟩ := rfl

theorem pure_eq (value : α) : (pure value : Journaled ε α) = ⟨[], .ok value⟩ := rfl

@[simp] theorem result_pure (value : α) : (pure value : Journaled ε α).result = .ok value := rfl

@[simp] theorem result_silent (result : Except ε α) : (silent result).result = result := rfl

@[simp] theorem notices_silent (result : Except ε α) : (silent result).notices = [] := rfl

@[simp] theorem result_tell (notice : Notice) :
    (tell notice : Journaled ε Unit).result = .ok () := rfl

end Journaled

end DumpConverter
