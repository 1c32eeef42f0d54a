import ConnectRpc.Command.Job
import ConnectRpc.Descriptor.Basic
import ConnectRpc.Descriptor.Resolution
import ConnectRpc.Files.Storage
import ConnectRpc.Schema.Source
import ConnectRpc.Stub.Units

/-!
# Runs of the generator

A run makes the profile, reads the schema, makes its units and only then writes them, one after the
other. A compiled schema is known by the suffix of its file. The readers of YAML texts and of
compiled schemas are given to a run.

* `Job.run`: the run of a job over some storage.
* `run`: the run of a command line.
* `Report`: what a run has to tell, and how it ended.
-/

namespace ConnectRpc.Command

/-- The suffixes of files that hold compiled schemas. -/
def compiledSuffixes : List String := [".pb", ".binpb", ".desc", ".protoset"]

/-- The readers that a run is given. -/
structure Readers (α : Type) where
  yaml : Schema.YamlLoader α
  compiled : Bytes → Schema.Loaded (List Descriptor.FileDecl)

/-- Why a run came to no good end. -/
inductive RunError where
  | profile (e : Stub.ProfileError)
  | schemaMissing (path : SlashPath)
  | notCompiled (path : SlashPath) (problem : String)
  /-- The reader of compiled schemas failed. -/
  | readerFailed (reason : String)
  | resolution (e : Descriptor.ResolutionError)
  | source (e : Schema.SourceError)
  /-- A text of the schema holds half of a character. What becomes of the units of such a schema,
  which have no octets, is not followed. -/
  | halved
  | storage (f : StorageFault)
  deriving DecidableEq, Repr

/-- The wording of a failure that lies in what the run was given; the others cannot be anticipated.
-/
def RunError.message? : RunError → Option String
  | .profile e => some e.message
  | .schemaMissing path => some ("[Errno 2] No such file or directory: " ++ Text.quote path.text)
  | .notCompiled path problem => some ("Invalid descriptor set " ++ path.text ++ ": " ++ problem)
  | .readerFailed _ => none
  | .resolution e => some e.message
  | .source e => e.schemaText?
  | .halved => none
  | .storage _ => none

/-- How a run ended. -/
inductive Ending where
  /-- The units are written. -/
  | done (paths : List SlashPath)
  /-- The command line asks only how it is used. -/
  | help
  | rejected (r : Rejection)
  | failed (e : RunError)
  deriving DecidableEq, Repr

/-- What a run has to tell. -/
structure Report where
  /-- The notices that it shows. -/
  notices : List String
  ending : Ending
  deriving DecidableEq, Repr

/-! ## Schemas -/

section

variable {α : Type} [Schema.Document (List Text.Point) α] (readers : Readers α)

/-- The schema of a file that holds a document. -/
def readDocument (path : SlashPath) (bytes : Bytes) : Except RunError (List Schema.File) :=
  match Schema.readSource readers.yaml path bytes with
  | .error e => .error (.source e)
  | .ok files =>
    match files.mapM (Schema.File.texts? Text.characters?) with
    | some files => .ok files
    | none => .error .halved

/-- The schema of a file, and the notices about it. -/
def readSchema (path : SlashPath) (bytes : Bytes) :
    List Notice × Except RunError (List Schema.File) :=
  if compiledSuffixes.contains path.suffix then
    match readers.compiled bytes with
    | .malformed problem => ([], .error (.notCompiled path problem))
    | .failed reason => ([], .error (.readerFailed reason))
    | .value files =>
      let names := files.map (·.name)
      (Descriptor.schemaNotices files names,
        (Descriptor.schemaOf files names).mapError .resolution)
  else ([], readDocument readers path bytes)

end

/-! ## Runs -/

variable {m : Type → Type} [Monad m] {α : Type} [Schema.Document (List Text.Point) α]

/-- Writes the units of a schema below a folder. -/
def writeUnits (storage : Storage m) (folder : SlashPath) (units : List Stub.SourceUnit) :
    m Ending := do
  let files := units.map fun u =>
    (folder.append (Text.splitText '/' u.name), Utf8.encode u.content)
  match ← storage.writeAll files with
  | .ok () => return .done (files.map (·.1))
  | .error f => return .failed (.storage f)

/-- Makes the units of a schema file and writes them. -/
def generate (readers : Readers α) (storage : Storage m) (profile : Stub.Profile)
    (folder path : SlashPath) (bytes : Bytes) : m (List Notice × Ending) :=
  match readSchema readers path bytes with
  | (notices, .error e) => return (notices, .failed e)
  | (notices, .ok files) => do
    let ending ← writeUnits storage folder (Stub.units files profile)
    return (notices ++ Stub.unitNotices files profile, ending)

/-- The notices of a job and its end. -/
def Job.perform (job : Job) (readers : Readers α) (storage : Storage m) :
    m (List Notice × Ending) := do
  match Stub.Profile.make job.settings with
  | .error e => return ([], .failed (.profile e))
  | .ok profile =>
    let path := SlashPath.parse job.schema
    match ← storage.read path with
    | .error .missing => return ([], .failed (.schemaMissing path))
    | .error f => return ([], .failed (.storage f))
    | .ok bytes => generate readers storage profile (.parse job.outputDir) path bytes

/-- The run of a job. -/
def Job.run (job : Job) (readers : Readers α) (storage : Storage m) : m Report := do
  let (notices, ending) ← job.perform readers storage
  return ⟨Notice.shown (.ofVerbosity job.verbosity) notices, ending⟩

/-- The run of a command line. -/
def run (arguments : List String) (readers : Readers α) (storage : Storage m) : m Report :=
  match Job.ofArguments arguments with
  | .error .help => return ⟨[], .help⟩
  | .error (.rejected r) => return ⟨[], .rejected r⟩
  | .ok job => job.run readers storage

/-! ## Reports -/

/-- The name of the program. -/
def programName : String := "connectgen"

/-- The exit code of a run; a failure that could not be anticipated ends like one that could. -/
def Report.exitCode (r : Report) : Nat :=
  match r.ending with
  | .done _ | .help => 0
  | .failed _ => 1
  | .rejected _ => 2

/-- What a run prints as its result: where the units are. -/
def Report.output (r : Report) : List String :=
  match r.ending with
  | .done paths => paths.map (·.text)
  | _ => []

/-- What a run prints about itself: notices, and the error if there is one. -/
def Report.remarks (r : Report) : List String :=
  r.notices ++
    match r.ending with
    | .done _ | .help => []
    | .rejected e => [programName ++ ": error: " ++ e.message]
    | .failed e => ["error: " ++ e.message?.getD "the run was aborted"]

end ConnectRpc.Command
