import DumpConverter.Main
import DumpConverter.Proofs.Builtin.Autoincrement
import DumpConverter.Proofs.Builtin.GuardOnce
import DumpConverter.Proofs.Builtin.LeftOut
import DumpConverter.Proofs.Builtin.LineByLine
import DumpConverter.Proofs.Builtin.RemovedPragma
import DumpConverter.Proofs.Builtin.RowData
import DumpConverter.Proofs.Builtin.WholeWord
import DumpConverter.Proofs.CommandLine.Columns
import DumpConverter.Proofs.CommandLine.Failure
import DumpConverter.Proofs.CommandLine.Listing
import DumpConverter.Proofs.CommandLine.Modes
import DumpConverter.Proofs.CommandLine.OutputBeside
import DumpConverter.Proofs.Rule.Added
import DumpConverter.Proofs.Rule.Literal
import DumpConverter.Proofs.Rule.Selection
import DumpConverter.Proofs.Rule.Steps
import DumpConverter.Proofs.Settings.Decoding
