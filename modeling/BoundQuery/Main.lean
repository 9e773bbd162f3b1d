import BoundQuery.CommandLine.Program

/-!
# The command line

Gives the program the files and the environment of the process, and prints its report.
-/

namespace BoundQuery

/-- Why reading a file failed. -/
def fileFault : IO.Error → FileFault
  | .noFileOrDirectory _ _ _ => .missing
  | .permissionDenied _ _ _ => .denied
  | .inappropriateType _ code _ => if code = 20 then .notDirectory else .isDirectory
  | .userError _ => .notText
  | e => .other (toString e)

/-- Reads a file of the process. -/
def readProcessFile (path : String) : IO (Except FileFault String) := do
  try return .ok (← IO.FS.readFile path)
  catch e => return .error (fileFault e)

/-- The directory of the settings of the user. -/
def settingsDirectory : IO (Option String) := do
  let given := (← IO.getEnv "XDG_CONFIG_HOME").filter (·.startsWith "/")
  let home ← IO.getEnv "HOME"
  return given.or (home.map (· ++ "/.config"))

/-- What the program knows of the process. -/
def processEnvironment : IO Program.Environment := do
  return ⟨(← settingsDirectory).map (· ++ "/sqlpipe/config.toml"),
    ← IO.getEnv "SQLPIPE_DATABASE_URL"⟩

/-- Prints a report; its exit code remains. -/
def printReport (report : Program.Report) : IO UInt32 := do
  IO.print report.output
  match report.error with
  | some text => IO.eprintln text
  | none => pure ()
  return UInt32.ofNat report.code

end BoundQuery

/-- Runs the program on the arguments of the process. -/
def main (arguments : List String) : IO UInt32 := do
  let environment ← BoundQuery.processEnvironment
  let report ← BoundQuery.Program.answer BoundQuery.readProcessFile environment arguments
  BoundQuery.printReport report
