import Quarry.Command.Response

/-!
The program: runs or checks the script that its arguments name.
-/

namespace Quarry.Command

def inputErrorOf : IO.Error → InputError
  | .noFileOrDirectory .. => .unreadable "No such file or directory (os error 2)"
  | .permissionDenied .. => .unreadable "Permission denied (os error 13)"
  | .inappropriateType .. => .unreadable "Is a directory (os error 21)"
  | error => .unreadable (toString error)

def textOf (bytes : ByteArray) : Except InputError String :=
  match String.fromUTF8? bytes with
  | some text => .ok text
  | none => .error (.unreadable "stream did not contain valid UTF-8")

def readScript : ScriptInput → IO (Except InputError String)
  | .standardInput => do
    let stdin ← IO.getStdin
    if ← stdin.isTty then return .error .terminal
    return textOf (← stdin.readBinToEnd)
  | .file path => do
    try return textOf (← IO.FS.readBinFile path)
    catch error => return .error (inputErrorOf error)

end Quarry.Command

def main (arguments : List String) : IO UInt32 := do
  let names := ["PICKAXE_THREADS", "PICKAXE_MAX_THREADS", "PICKAXE_TIMEOUT_MS",
    "PICKAXE_ON_DOWNLOAD_ERROR", "PICKAXE_USER_AGENT"]
  let environment ← names.filterMapM fun name => do
    return (← IO.getEnv name).map fun value => (name, value)
  let response ← Quarry.Command.respond Quarry.Command.offline (environment.lookup ·)
    Quarry.Command.readScript (Quarry.Command.Request.ofArguments arguments)
  (← IO.getStdout).putStr response.stdout
  (← IO.getStderr).putStr response.stderr
  return response.exit.toUInt32
