import ConnectRpc.Stub.UnitPath
import ConnectRpc.Stub.View
import ConnectRpc.Text.Blank
import ConnectRpc.Text.Quoted

/-!
# Client units

The text generated for one schema file: a shape for every message of its methods, and a class for
every service. The text is made of a list of lines; some of them hold names of the schema as they
stand, with whatever line breaks these have.

* `ClientView.of`: what the lines name. A message type has one shape, from the first method that
  mentions it.
* `ClientView.lines`: the lines.
* `clientUnit`: the unit, its text ending in one line feed.
-/

namespace ConnectRpc.Stub

open Schema

/-- A generated text and its path below the output root. -/
structure SourceUnit where
  name : String
  content : String
  deriving DecidableEq, Repr

/-- The shape of a message: the key and the type hint of each field. -/
structure MessageView where
  name : String
  fields : List (String × String)
  deriving DecidableEq, Repr

/-- The class of a service. -/
structure ServiceView where
  className : String
  path : String
  methods : List MethodView
  deriving DecidableEq, Repr

/-- What the lines of a unit name. -/
structure ClientView where
  fileName : String
  runtimeImport : String
  baseUrl : Option String
  services : List ServiceView
  messages : List MessageView
  deriving DecidableEq, Repr

/-- The shape that a type name and its fields describe. -/
def MessageView.of (name : String) (fields : List Field) : MessageView :=
  ⟨name, fields.map fun f => (f.jsonName, fieldHint f)⟩

/-- Adds a shape unless one of its name is there. -/
def addMessage (messages : List MessageView) (m : MessageView) : List MessageView :=
  if messages.any (·.name == m.name) then messages else messages ++ [m]

/-- The shapes that a method mentions: its request's, then its response's. -/
def methodMessages (m : Method) : List MessageView :=
  [.of (typeName m.inputType) m.requestFields, .of (typeName m.outputType) m.responseFields]

/-- The class of a service. -/
def ServiceView.of (package : String) (s : Service) : ServiceView where
  className := Stub.className s.name
  path := s.path package
  methods := claimNames (s.methods.map MethodView.of)

/-- What the lines of a schema file's unit name. -/
def ClientView.of (file : File) (p : Profile) : ClientView where
  fileName := String.ofList ((file.name.toList.reverse.takeWhile (· != '/')).reverse)
  runtimeImport := Stub.runtimeImport file.name p
  baseUrl := p.baseUrl
  services := file.services.map (ServiceView.of file.package)
  messages := ((file.services.flatMap (·.methods)).flatMap methodMessages).foldl addMessage []

/-! ## Lines -/

/-- The lines above everything else. -/
def headLines (v : ClientView) : List String :=
  ["# Generated from " ++ v.fileName,
   "# Connect client for " ++ Text.joinText ", " (v.services.map (·.className)),
   "# Auto-generated - DO NOT EDIT",
   "# ruff: noqa: E501, E712",
   "from __future__ import annotations",
   "",
   "from collections.abc import Sequence",
   "from typing import Any, TypedDict",
   "",
   "from " ++ v.runtimeImport ++ " import CallResult, CancelToken, ConnectClient, signal"]

/-- The lines of a message's shape. -/
def MessageView.lines (m : MessageView) : List String :=
  ["", "", m.name ++ " = TypedDict(", "    " ++ Text.quote m.name ++ ",", "    \x7b"] ++
    (m.fields.map fun (key, hint) =>
      "        " ++ Text.quote key ++ ": " ++ hint ++ ",") ++
    ["    \x7d,", "    total=False,", ")"]

/-- The lines that put a parameter into the request. -/
def FieldView.lines (f : FieldView) : List String :=
  let store := "request_data[" ++ Text.quote f.jsonName ++ "] = " ++ f.value
  if f.omitCondition = "" then ["        " ++ store]
  else ["        if " ++ f.omitCondition ++ ":", "            " ++ store]

/-- The lines of a stub. -/
def MethodView.lines (path : String) (m : MethodView) : List String :=
  ["", "    # " ++ m.name ++ " - " ++ m.comment, "    async def " ++ m.stubName ++ "(",
    "        self,"] ++
    (m.params.map fun param => "        " ++ param ++ ",") ++
    ["    ) -> CallResult:", "        request_data: " ++ m.inputType ++ " = \x7b\x7d"] ++
    m.fields.flatMap FieldView.lines ++
    ["        return await self." ++ m.entryPoint ++ "(",
     "            " ++ Text.quote path ++ ",",
     "            " ++ Text.quote m.name ++ ",",
     "            request_data,",
     "            self." ++ m.signalName ++ ",",
     "            timeout=timeout,",
     "            cancel=cancel,",
     "        )"]

/-- The lines of a base URL, if there is one that is not empty. -/
def baseUrlLines : Option String → List String
  | none => []
  | some url => if url = "" then [] else ["    default_base_url = " ++ Text.quote url, ""]

/-- The lines of a service's class. -/
def ServiceView.lines (baseUrl : Option String) (s : ServiceView) : List String :=
  ["", "", "class " ++ s.className ++ "(ConnectClient):",
    "    \"\"\"Connect client for ``" ++ s.path ++ "``.\"\"\"", ""] ++
    baseUrlLines baseUrl ++
    (s.methods.map fun m => "    " ++ m.signalName ++ " = signal()") ++
    s.methods.flatMap (MethodView.lines s.path)

/-- The lines of a unit. -/
def ClientView.lines (v : ClientView) : List String :=
  headLines v ++ v.messages.flatMap MessageView.lines ++
    v.services.flatMap (ServiceView.lines v.baseUrl)

/-- The text of lines, without blanks at its end but for one line feed. -/
def textOfLines (lines : List String) : String :=
  String.ofList (Text.trimEnd (Text.joinText "\n" lines).toList) ++ "\n"

/-- The unit of a schema file. -/
def clientUnit (file : File) (p : Profile) : SourceUnit where
  name := clientPath file.name p
  content := textOfLines (ClientView.of file p).lines

end ConnectRpc.Stub
