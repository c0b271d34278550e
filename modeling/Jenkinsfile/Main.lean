/-
# The command line

    jenkinsweave [options] [path]

reads a pipeline file and prints its outline or its canonical form, or inserts a stage.
`Command.run` decides everything; what is here gives it the files of the system.
-/
import Jenkinsfile.Command.Run

namespace Jenkinsfile

open Command

/-- The system's code of an error, which may come negated. -/
def systemCode (code : UInt32) : Nat :=
  if code.toNat < 0x80000000 then code.toNat else 0x100000000 - code.toNat

/-- What kept the system from reading or writing a file. -/
def FileFault.ofError (path : Text) (e : IO.Error) : FileFault :=
  match e with
  | .noFileOrDirectory .. => ⟨.missing, path⟩
  | .inappropriateType _ code _ =>
    ⟨if systemCode code = 20 then .notFolder else .isFolder, path⟩
  | .permissionDenied .. => ⟨.other 13 "Permission denied".toList, path⟩
  | e => ⟨.other 5 e.toString.toList, path⟩

/-- Turns what the system throws into a fault. -/
def catchFault {α : Type} (path : Text) (act : IO α) : IO (Except FileFault α) := do
  try
    return .ok (← act)
  catch e =>
    return .error (.ofError path e)

/-- The files of the system. -/
def systemFiles : Files IO where
  stdin := do return (← (← IO.getStdin).readBinToEnd).toList
  read path := catchFault path do
    return (← IO.FS.readBinFile (String.ofList path)).toList
  write path bytes := catchFault path do
    IO.FS.writeBinFile (String.ofList path) ⟨bytes.toArray⟩

end Jenkinsfile

/-- Runs with the arguments of the command line. -/
def main (arguments : List String) : IO UInt32 := do
  let outcome ← Jenkinsfile.Command.run Jenkinsfile.systemFiles (arguments.map (·.toList))
  (← IO.getStderr).putStr (String.ofList outcome.stderr)
  (← IO.getStdout).putStr (String.ofList outcome.stdout)
  return outcome.exit.toUInt32
