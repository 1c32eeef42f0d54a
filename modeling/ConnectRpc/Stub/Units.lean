import ConnectRpc.Notice
import ConnectRpc.Number.Numeral
import ConnectRpc.Stub.ClientUnit
import ConnectRpc.Stub.RuntimeText

/-!
# The units of a schema

A schema becomes one client unit for each of its files that has services and, if there is any, the
runtime that they share, last.

* `units`: the units.
* `unitNotices`: what there is to say about making them, in the order of the files.
-/

namespace ConnectRpc.Stub

open Schema

/-- The runtime's unit. -/
def runtimeUnit (p : Profile) : SourceUnit where
  name := runtimePath p
  content := textOfLines
    (["# Connect protocol runtime shared by generated clients", "# Auto-generated - DO NOT EDIT"] ++
      runtimeLines)

/-- The file has services. -/
def hasServices (file : File) : Bool := !file.services.isEmpty

/-- The client units of a schema. -/
def clientUnits (files : List File) (p : Profile) : List SourceUnit :=
  (files.filter hasServices).map (clientUnit · p)

/-- The units of a schema. -/
def units (files : List File) (p : Profile) : List SourceUnit :=
  let clients := clientUnits files p
  if clients.isEmpty then [] else clients ++ [runtimeUnit p]

/-- What there is to say about the unit of a file. -/
def fileNotice (p : Profile) (file : File) : Notice :=
  if hasServices file then
    ⟨.debug, "connectgen.generation.client",
      "Rendered " ++ clientPath file.name p ++ " (" ++ Number.natText file.services.length ++
        " services)"⟩
  else ⟨.debug, "connectgen.generator", "Skipping " ++ file.name ++ ": no services"⟩

/-- What there is to say about making the units of a schema. -/
def unitNotices (files : List File) (p : Profile) : List Notice :=
  files.map (fileNotice p) ++
    [⟨.info, "connectgen.generator",
      "Generated " ++ Number.natText (units files p).length ++ " units"⟩]

end ConnectRpc.Stub
