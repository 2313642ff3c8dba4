import Lineup.Command.Outcome

/-! The program: it asks the system for variables and files, and writes what a call gives. -/

namespace Lineup

def ReadProblem.ofError (e : IO.Error) : ReadProblem :=
  match e with
  | .noFileOrDirectory .. => .noSuchFile
  | .inappropriateType _ code details =>
    if code = 20 then .notDirectory
    else if code = 21 then .isDirectory
    else .other details
  | e => .other (toString e)

def readBytes (p : Path) : IO (Except ReadProblem ByteArray) := do
  if p.text.toList.contains '\x00' then return .error .nulInPath
  else
    match ← (IO.FS.readBinFile p.text).toBaseIO with
    | .ok bytes => return .ok bytes
    | .error e => return .error (.ofError e)

/-- A file that is there but cannot be read still counts as a file. The log is not kept. -/
def systemWorld : World IO where
  variableOf := fun name => IO.getEnv name
  configDir := World.configDirBy fun name => IO.getEnv name
  read p := do
    match ← readBytes p with
    | .error problem => return .error problem
    | .ok bytes =>
      match String.fromUTF8? bytes with
      | some text => return .ok text
      | none => return .error .notText
  isFile p := do
    match ← readBytes p with
    | .ok _ | .error (.other _) => return true
    | .error _ => return false
  isThere p := do
    match ← readBytes p with
    | .ok _ | .error (.other _) | .error .isDirectory => return true
    | .error _ => return false
  note _ := return
  lines _ _ := return some ""

end Lineup

open Lineup in
def main (arguments : List String) : IO UInt32 := do
  let stdout ← IO.getStdout
  let stderr ← IO.getStderr
  let result ← Call.perform systemWorld (← stdout.isTty) arguments
  stdout.putStr result.stdout
  stderr.putStr result.stderr
  return result.code.toUInt32
