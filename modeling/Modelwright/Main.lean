import Modelwright.Command.Run

namespace Modelwright

def succeeds (action : IO Unit) : IO Bool :=
  try
    action
    return true
  catch _ => return false

def readFile? (path : String) : IO (Option String) :=
  try return some (← IO.FS.readFile path)
  catch _ => return none

instance : FileSystem IO where
  pathExists path := succeeds (discard (IO.FS.realPath path))
  readText? := readFile?
  createDirectories path := succeeds (IO.FS.createDirAll path)
  write path contents := succeeds (IO.FS.writeFile path contents)
  rename source target := succeeds (IO.FS.rename source target)
  remove path := succeeds (IO.FS.removeFile path)

def Warning.line (warning : Warning) : String :=
  let details := warning.details.map fun (label, text) => " " ++ label ++ "=" ++ text
  " WARN " ++ warning.message ++ String.join details

def Report.print (report : Report) : IO UInt32 := do
  let errors ← IO.getStderr
  for warning in report.warnings do
    errors.putStrLn warning.line
  match report.error, report.stop with
  | some error, _ => errors.putStrLn ("Error: " ++ error.message)
  | none, some .misuse => errors.putStr (printed usage)
  | none, _ => pure ()
  (← IO.getStdout).putStr report.output
  return report.exitCode.toUInt32

end Modelwright

def main (arguments : List String) : IO UInt32 := do
  (← Modelwright.runArguments arguments).print
