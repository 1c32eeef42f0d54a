import ConnectRpc.Stub.Naming
import ConnectRpc.Stub.Profile
import ConnectRpc.Text.SlashPath

/-!
# Where units go

The unit of a schema file lies in the file's directory below the output root, under the file's stem;
every part of the path is made a module name. The runtime lies at the root, so a unit imports it
through as many dots as its path has parts.

* `clientPathParts`, `clientPath`: the path of a file's unit.
* `runtimePath`, `runtimeImport`: the path of the runtime and the way to it.
-/

namespace ConnectRpc.Stub

/-- The parts of the path of a schema file's unit. -/
def clientPathParts (fileName : String) (p : Profile) : List String :=
  let path := SlashPath.parse fileName
  path.parent.parts.map moduleName ++ [moduleName path.stem ++ p.clientSuffix ++ ".py"]

/-- The path of a schema file's unit. -/
def clientPath (fileName : String) (p : Profile) : String :=
  Text.joinText "/" (clientPathParts fileName p)

/-- The path of the runtime. -/
def runtimePath (p : Profile) : String := p.runtimeModule ++ ".py"

/-- The runtime's module as a schema file's unit imports it. -/
def runtimeImport (fileName : String) (p : Profile) : String :=
  let depth := (clientPath fileName p).toList.count '/'
  String.ofList (List.replicate (depth + 1) '.') ++ p.runtimeModule

end ConnectRpc.Stub
