import UiReplay.Device.Link
import UiReplay.Replay.Workflow
import UiReplay.Workflow.Storage

/-!
# Jobs

A job is what a command of the program does.  It works at a desk, where it finds files
and a link to the device, and where it prints lines.  It either succeeds or ends with
an error.  What it did before the error stays done.

An error is told with its causes (`JobError.chain`), the first text being the error
itself.  The reason of a reader and of the connection is not kept.

`run_print` and `run_orFail` say how the two basic steps of a job change the desk.
-/

namespace UiReplay

/-! ## Errors -/

/-- Why a job ends. -/
inductive JobError where
  /-- The folder of the log cannot be made. -/
  | logFolder (path : String) (fault : FileFault)
  /-- The device does not say that it is there. -/
  | unanswered (address : String) (cause : DeviceError)
  /-- The device does not tell its state. -/
  | noState (cause : DeviceError)
  /-- The device does not press a button. -/
  | notPressed (button : SystemButton) (cause : DeviceError)
  /-- A file cannot be read. -/
  | unreadable (path : String) (fault : FileFault)
  /-- A file holds no JSON value. -/
  | notJson (path : String)
  /-- Nothing in a file leads to an element. -/
  | noSelector (path : String)
  /-- Making selectors breaks down, and the program with it. -/
  | overflow
  /-- A workflow cannot be loaded or saved. -/
  | storage (cause : StorageError)
  /-- A replay does not start. -/
  | notStarted (cause : Refusal)
  /-- A replay came to its end, but not without failures. -/
  | stepsFailed (count : Nat)
  /-- A replay did not come to its end. -/
  | ended (status : ReplayStatus) (failure : Option StepFailure)

namespace JobError

/-- The text of an error. -/
def message : JobError → String
  | .logFolder path _ => "failed to create log directory " ++ path
  | .unanswered address _ => "device at " ++ address ++ " did not answer"
  | .noState _ => "failed to fetch device state"
  | .notPressed button _ => "global action '" ++ button.name ++ "' failed"
  | .unreadable path _ => "failed to read " ++ path
  | .notJson path => path ++ " is not valid JSON"
  | .noSelector path => "no selector can be generated for " ++ path
  | .overflow => "attempt to add with overflow"
  | .storage cause => cause.message
  | .notStarted _ => "replay did not start"
  | .stepsFailed count => Number.natText count ++ " step(s) failed"
  | .ended status none => "replay " ++ status.name
  | .ended status (some failure) => "replay " ++ status.name ++ ": " ++ failure.message

/-- The texts of what caused an error in a workflow file. -/
def storageCauses : StorageError → List String
  | .access _ fault => [fault.message]
  | .content .json => [Misreading.badText.message]
  | .content (.invalid problem) => [problem.message]
  | .content .yaml | .unsupported _ => []

/-- The texts of what caused an error. -/
def causes : JobError → List String
  | .logFolder _ fault | .unreadable _ fault => [fault.message]
  | .unanswered _ cause | .noState cause | .notPressed _ cause => [cause.message]
  | .notJson _ => [Misreading.badText.message]
  | .storage cause => storageCauses cause
  | .notStarted cause => [cause.message]
  | .noSelector _ | .overflow | .stepsFailed _ | .ended _ _ => []

/-- The code with which the program exits after an error. -/
def exitCode : JobError → Nat
  | .overflow => 101
  | _ => 1

/-- The texts of an error and its causes. -/
def chain (e : JobError) : List String := e.message :: e.causes

end JobError

/-! ## Desks -/

/-- What a job works with. -/
structure Desk where
  /-- The files. -/
  files : Files := {}
  /-- The link to the device. -/
  link : Link := {}
  /-- The number of the request, from zero, during which the user interrupts the
  program, if ever. -/
  interruptAt : Option Nat := none
  /-- How long the answer to the request of a number takes, in milliseconds. -/
  answerTime : Nat → Nat := fun _ => 0
  /-- The identifiers that are left. -/
  ids : IdSupply
  /-- The lines that were printed. -/
  lines : List String := []

/-- How long a question takes.  One that makes no request takes no time. -/
def Desk.timeOf (d : Desk) (q : Question) : Nat :=
  if (d.link.client.request? q).isSome then d.answerTime d.link.sent.length else 0

/-- Asks the device. -/
def Desk.ask (d : Desk) (q : Question) : Outcome × Desk :=
  let (outcome, link) := d.link.ask q
  (outcome, { d with link := link })

/-- What a command does. -/
abbrev Job (α : Type) := ExceptT JobError (StateM Desk) α

namespace Job

variable {α ε : Type}

/-- Prints lines. -/
def printAll (lines : List String) : Job Unit :=
  modify fun d => { d with lines := d.lines ++ lines }

/-- Prints a line. -/
def print (line : String) : Job Unit := printAll [line]

/-- Goes on with a value, or ends with the error that a cause makes. -/
def orFail (error : ε → JobError) : Except ε α → Job α
  | .ok a => pure a
  | .error e => throw (error e)

/-- Asks the device. -/
def ask (q : Question) : Job Outcome := modifyGet fun d => d.ask q

/-- Does something that needs new identifiers. -/
def withIds (make : IdSupply.With α) : Job α :=
  modifyGet fun d =>
    let (a, ids) := make.run d.ids
    (a, { d with ids := ids })

/-- The address of the device, as it was given. -/
def address : Job String := do return (← get).link.client.address

theorem run_print (line : String) (d : Desk) :
    (print line).run d = (.ok (), { d with lines := d.lines ++ [line] }) := rfl

theorem run_orFail (error : ε → JobError) (x : Except ε α) (d : Desk) :
    (orFail error x).run d = (x.mapError error, d) := by
  cases x <;> rfl

end Job

/-! ## Tests -/

example : (JobError.storage (.access "w.json" .missing)).chain
    = ["failed to access w.json: No such file or directory (os error 2)",
      "No such file or directory (os error 2)"] := by decide +kernel
example : (JobError.ended .cancelled none).chain = ["replay cancelled"] := by decide +kernel

end UiReplay
