import UiReplay.CommandLine.Arguments
import UiReplay.CommandLine.Record
import UiReplay.CommandLine.Replay

/-!
# The program

The program reads its arguments, opens its log and carries out its command.  It exits
with 0 when all went well or only a text was asked for, with 1 when the command ended
with an error, with 2 when the arguments are wrong, and with 101 when it broke down.

The log is a file of its own for each day, and its folder is made first.  What is
written to it is not described here.

`exitCode_eq_zero_iff` says when the program exits with 0.
-/

namespace UiReplay

/-- What a command does. -/
def Command.job : Command → Job Unit
  | .ping => Job.ping
  | .dump => Job.dump
  | .press button => Job.press button
  | .selectors path => Job.selectors path
  | .replay path config => Job.replay path config
  | .record path name _ => Job.record path name

namespace Program

/-- How the program ended. -/
inductive Ending where
  /-- The arguments were not carried out. -/
  | stopped (why : Usage)
  /-- The command ended with an error. -/
  | failed (e : JobError)
  /-- All went well. -/
  | done

/-- The code with which the program exits. -/
def Ending.exitCode : Ending → Nat
  | .stopped why => why.exitCode
  | .failed e => e.exitCode
  | .done => 0

theorem exitCode_eq_zero_iff (e : Ending) :
    e.exitCode = 0 ↔ e = .done ∨ ∃ why, e = .stopped why ∧ why.isQuestion = true := by
  cases e with
  | stopped why => cases why <;> simp [Ending.exitCode, Usage.exitCode, Usage.isQuestion]
  | failed e => cases e <;> simp [Ending.exitCode, JobError.exitCode]
  | done => simp [Ending.exitCode]

/-- The name of the log file of a day. -/
def logName (day : String) : String := "retrace." ++ day ++ ".txt"

/-- Opens the log of a day in a folder. -/
def openLog (folder day : String) : Job Unit := do
  let files ← Job.orFail (.logFolder folder) ((← get).files.makeFolders? folder)
  modify fun d => { d with files := files.provide (folder ++ "/" ++ logName day) (.file (some "")) }

/-- Carries out an invocation. -/
def carryOut (i : Invocation) (day : String) : Job Unit := do
  openLog i.logFolder day
  modify fun d => { d with link := { d.link with client := { address := i.deviceUrl } } }
  i.command.job

/-- Runs the program on a day. -/
def run (env : Environment) (words : List String) (day : String) (d : Desk) : Ending × Desk :=
  match Invocation.ofWords env words with
  | .error why => (.stopped why, d)
  | .ok i =>
      match (carryOut i day).run d with
      | (.ok _, d) => (.done, d)
      | (.error e, d) => (.failed e, d)

end Program

end UiReplay
