import ConnectRpc.Command.Switch
import ConnectRpc.Stub.Profile

/-!
# Jobs

A job is what one command line asks for: a schema, a place for the units, the settings of the
profile, and how much to tell. The first operand is the schema. Of several values for one setting
the last counts.

* `Job.ofArguments`: the job of a command line. Arguments are first looked at one by one, so an
  ambiguous one is refused before anything else; a missing schema is refused before superfluous
  arguments are.
-/

namespace ConnectRpc.Command

/-- What a command line asks for. -/
structure Job where
  /-- The path of the schema. -/
  schema : String
  /-- The folder for the units. -/
  outputDir : String
  settings : Stub.Settings
  /-- How often more words were asked for. -/
  verbosity : Nat
  deriving DecidableEq, Repr

/-- Why a command line leads to no job. -/
inductive Stop where
  | help
  | rejected (r : Rejection)
  deriving DecidableEq, Repr

/-- A job that is being read. -/
structure Draft where
  schema : Option String := none
  outputDir : String := "."
  settings : Stub.Settings := .default
  verbosity : Nat := 0
  /-- The arguments that nothing asked for. -/
  extras : List String := []
  deriving DecidableEq, Repr

namespace Draft

/-- The draft with arguments that nothing asked for. -/
def addExtras (d : Draft) (arguments : List String) : Draft :=
  { d with extras := d.extras ++ arguments }

/-- The draft with an operand. -/
def addOperand (d : Draft) (text : String) : Draft :=
  if d.schema.isNone then { d with schema := some text } else d.addExtras [text]

/-- The draft after a switch without a value. -/
def raise (d : Draft) : Switch → Except Stop Draft
  | .help => .error .help
  | .verbose => .ok { d with verbosity := d.verbosity + 1 }
  | _ => .ok d

/-- The draft after switches without values. -/
def raiseAll (d : Draft) (flags : List Switch) : Except Stop Draft := flags.foldlM raise d

/-- The draft after a switch with its value. -/
def put (d : Draft) (value : String) : Switch → Draft
  | .outputDir => { d with outputDir := value }
  | .baseUrl => { d with settings := { d.settings with baseUrl := some value } }
  | .clientSuffix => { d with settings := { d.settings with clientSuffix := value } }
  | .runtimeModule => { d with settings := { d.settings with runtimeModule := value } }
  | .help | .verbose => d

/-- The draft after all arguments. A separator vanishes beside the schema. -/
def read (d : Draft) : List Item → Except Stop Draft
  | [] => .ok d
  | .operand text :: .separator :: rest =>
    if d.schema.isNone then read (d.addOperand text) rest
    else read (d.addExtras [text, "--"]) rest
  | .operand text :: rest => read (d.addOperand text) rest
  | .separator :: rest => read (if d.schema.isNone then d else d.addExtras ["--"]) rest
  | .unknown text :: rest => read (d.addExtras [text]) rest
  | .switch w :: rest =>
    match w.bundle with
    | .error r => .error (.rejected r)
    | .ok b =>
      match b.value with
      | some value => (d.raiseAll b.flags).bind fun d => read (d.put value b.last) rest
      | none =>
        if b.last.takesValue then
          match rest with
          | .operand value :: rest =>
            (d.raiseAll b.flags).bind fun d => read (d.put value b.last) rest
          | _ => .error (.rejected (.noValue b.last))
        else (d.raiseAll (b.flags ++ [b.last])).bind fun d => read d rest

/-- The job of a draft that is complete. -/
def finish (d : Draft) : Except Stop Job :=
  match d.schema with
  | none => .error (.rejected .noSchema)
  | some schema =>
    if d.extras.isEmpty then .ok ⟨schema, d.outputDir, d.settings, d.verbosity⟩
    else .error (.rejected (.unrecognized d.extras))

end Draft

/-- What the arguments are; after the first separator all are operands. -/
def itemsOf : List String → Except Rejection (List Item)
  | [] => .ok []
  | argument :: rest =>
    match Item.ofArgument argument with
    | .error r => .error r
    | .ok .separator => .ok (.separator :: rest.map .operand)
    | .ok item => (itemsOf rest).map (item :: ·)

/-- The job of a command line. -/
def Job.ofArguments (arguments : List String) : Except Stop Job :=
  match itemsOf arguments with
  | .error r => .error (.rejected r)
  | .ok items => (Draft.read {} items).bind Draft.finish

end ConnectRpc.Command
