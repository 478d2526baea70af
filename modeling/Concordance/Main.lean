import Concordance.Settings.Arguments

/-!
# The command

Puts the settings of a node together from the arguments of the command and prints
them as JSON. If that fails, the reason goes to the error output. The server that a
node would start with these settings is not part of the library, and neither is what
it logs: the services answer requests that are decoded already.
-/

namespace Concordance

open Settings (Files)

/-- Reads a file, and keeps why that was not possible. -/
def readFile (path : String) : IO (Except ReadFault ByteArray) := do
  try
    return .ok (← IO.FS.readBinFile path)
  catch
    | .noFileOrDirectory .. => return .error .notFound
    | .inappropriateType .. => return .error .isDirectory
    | e => return .error (.other (toString e))

/-- Reads the files that the arguments name. -/
def readFiles (arguments : List String) : IO Files := do
  let contents ← (Settings.configPaths arguments).mapM fun path => do
    return (path, ← readFile path)
  return fun path => (contents.lookup path).getD (.error .notFound)

end Concordance

open Concordance in
/-- Prints the settings that the arguments give. -/
def main (arguments : List String) : IO UInt32 := do
  match Settings.ofArguments (← readFiles arguments) arguments with
  | .ok settings =>
    IO.println (encode settings)
    return 0
  | .error fault =>
    IO.eprintln s!"Error: {fault.message}"
    return 1
