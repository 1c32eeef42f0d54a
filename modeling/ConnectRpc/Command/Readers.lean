import ConnectRpc.Command.Run
import ConnectRpc.Descriptor.Reading
import ConnectRpc.Yaml.Loader

/-!
# The readers of the program

The program runs with the readers of this library.
-/

namespace ConnectRpc.Command

/-- The files of a compiled schema. -/
def loadCompiled (bytes : Bytes) : Schema.Loaded (List Descriptor.FileDecl) :=
  match Descriptor.readFileSet bytes with
  | some files => .value files
  | none => .malformed "the octets are no file set"

/-- The readers of this library. -/
def libraryReaders : Readers Yaml.Part := ⟨Yaml.load, loadCompiled⟩

end ConnectRpc.Command
