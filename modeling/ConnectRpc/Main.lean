import ConnectRpc.Command.Readers

/-!
# The program

The command line of the generator, on the disk.
-/

namespace ConnectRpc.Main

/-- The fault that an error of the disk amounts to. -/
def faultOf : IO.Error → StorageFault
  | .noFileOrDirectory .. => .missing
  | .alreadyExists .. => .occupied
  | .inappropriateType _ code _ => if code = 20 then .notAFolder else .isAFolder
  | .invalidArgument .. => .unusablePath
  | _ => .refused

/-- The result of an action on the disk, or the fault that it ran into. -/
def guarded {α : Type} (action : IO α) : IO (Except StorageFault α) := do
  try
    return .ok (← action)
  catch e =>
    return .error (faultOf e)

/-- The disk. -/
def disk : Storage IO where
  read path := guarded do return (← IO.FS.readBinFile path.text).toList
  write path bytes := guarded do
    IO.FS.createDirAll path.parent.text
    IO.FS.writeBinFile path.text ⟨bytes.toArray⟩

/-- How the program is used. -/
def usage : String :=
  "usage: " ++ Command.programName ++ " " ++
    Text.joinText " "
      ((Command.Switch.all.map fun s =>
        "[" ++ s.label ++ (if s.takesValue then " VALUE]" else "]")) ++ ["schema"])

end ConnectRpc.Main

/-- Runs the generator. -/
def main (arguments : List String) : IO UInt32 := do
  let report ←
    ConnectRpc.Command.run arguments ConnectRpc.Command.libraryReaders ConnectRpc.Main.disk
  for line in report.remarks do
    IO.eprintln line
  if report.ending = .help then IO.println ConnectRpc.Main.usage
  for line in report.output do
    IO.println line
  return UInt32.ofNat report.exitCode
