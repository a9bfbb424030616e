import Std.Time.Format
import UiReplay.CommandLine.Program

/-!
# The executable

The executable takes its arguments and variables from the system, reads the file that
its command names, runs the program on it, writes the file that the command makes, and
prints what the program prints.

It has no connection to a device, so every request fails.  Nothing is decided here.
-/

namespace UiReplay.Executable

/-- The day, as it stands in the name of the log. -/
def today : IO String := do return toString (← Std.Time.PlainDate.now)

/-- The environment of the process. -/
def environment : IO Environment := do
  let deviceUrl ← IO.getEnv "RETRACE_DEVICE_URL"
  let timeout ← IO.getEnv "RETRACE_TIMEOUT"
  let logDir ← IO.getEnv "RETRACE_LOG_DIR"
  return ⟨deviceUrl, timeout, logDir⟩

/-- The file that a command reads. -/
def input? : Command → Option String
  | .selectors path | .replay path _ => some path
  | _ => none

/-- The file that a command makes. -/
def output? : Command → Option String
  | .record path _ _ => some path
  | _ => none

/-- The files with the one at a path as the system has it. -/
def gather (files : Files) (path : String) : IO Files := do
  try
    let bytes ← IO.FS.readBinFile path
    return files.provide path (.file (String.fromUTF8? bytes))
  catch _ => return files

/-- The files with the folder of the log, or with something in its way. -/
def gatherLog (files : Files) (folder : String) : IO Files := do
  try
    IO.FS.createDirAll folder
    return files
  catch _ => return files.provide folder (.file none)

/-- Writes a file that was made. -/
def write (files : Files) (path : String) : IO Unit := do
  match files.read? path with
  | .error _ => return
  | .ok text =>
      IO.FS.createDirAll ((FilePath.parent? path).getD ".")
      IO.FS.writeFile path text

/-- What is said when the arguments are not carried out. -/
def usageText : String :=
  "usage: [--device-url URL] [--timeout SECONDS] [--log-dir FOLDER] COMMAND\n" ++
  "commands: " ++ Text.joinWith ", " Command.names

/-- Shows how the program ended. -/
def report : Program.Ending → IO Unit
  | .done => return
  | .failed .overflow => IO.eprintln JobError.overflow.message
  | .failed e => do
      IO.eprintln ("Error: " ++ e.message)
      for cause in e.causes do IO.eprintln ("  caused by: " ++ cause)
  | .stopped why => if why.isQuestion then IO.println usageText else IO.eprintln usageText

/-- Runs the program on the files that its invocation names. -/
def runOn (env : Environment) (words : List String) : IO UInt32 := do
  let invocation := (Invocation.ofWords env words).toOption
  let mut files : Files := {}
  if let some i := invocation then files ← gatherLog files i.logFolder
  if let some path := invocation.bind fun i => input? i.command then files ← gather files path
  let seed ← IO.rand 0 1000000000000000000
  let desk : Desk := { files := files, ids := ⟨seed, 0⟩ }
  let (ending, desk) := Program.run env words (← today) desk
  for line in desk.lines do IO.println line
  if let some path := invocation.bind fun i => output? i.command then write desk.files path
  report ending
  return ending.exitCode.toUInt32

end UiReplay.Executable

/-- Runs the program on the arguments of the process. -/
def main (args : List String) : IO UInt32 := do
  UiReplay.Executable.runOn (← UiReplay.Executable.environment) args
