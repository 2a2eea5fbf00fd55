import GridSql.Command.Run

/-!
# The program

Connects the commands with the file system, the environment and the terminal.
-/

namespace GridSql.Main

open Command

def readFile (path : String) : IO FileContent := do
  try
    let bytes ← IO.FS.readBinFile path
    match String.fromUTF8? bytes with
    | some s => return .text s
    | none => return .unreadable "stream did not contain valid UTF-8"
  catch
    | .noFileOrDirectory .. => return .absent "No such file or directory (os error 2)"
    | .inappropriateType .. => return .absent "Is a directory (os error 21)"
    | e => return .unreadable (toString e)

def environment : IO Environment := do
  let names := [configVariable, "XDG_CONFIG_HOME", "HOME"]
  let values ← names.mapM fun name => do return (name, ← IO.getEnv name)
  return fun name => (values.lookup name).join

end GridSql.Main

open GridSql in
def main (args : List String) : IO UInt32 := do
  let system : Command.System IO := ⟨← Main.environment, Main.readFile⟩
  let outcome ← Command.run system args
  match outcome with
  | .done text => IO.println text
  | .failed failure => IO.eprintln s!"Error: {failure.message}"
  | .misused => IO.eprintln s!"Usage: {Command.programName} <COMMAND>"
  return outcome.exitCode.toUInt32
