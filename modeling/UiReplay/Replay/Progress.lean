import UiReplay.Device.Client
import UiReplay.Workflow.Basic

/-!
# The progress of a replay

A replay is idle, runs or is paused, and ends completed, failed or cancelled.  It
has one result for each step that it is done with.  A step succeeds, fails, runs out
of time or is skipped.

Whatever happens to a replay is published as an event: a change of its status, the
start and the end of a step, a note, and the failure of a step.  Events carry the
progress as it was.  The notes and the results hold what happened as data, and the
`message` functions put it into words.
-/

namespace UiReplay

/-! ## Statuses -/

/-- The status of a replay. -/
inductive ReplayStatus where
  /-- It has not started. -/
  | idle
  /-- It goes on. -/
  | running
  /-- It is held before its next step. -/
  | paused
  /-- It came to the end of the workflow. -/
  | completed
  /-- It ended at a step that failed. -/
  | failed
  /-- It was cancelled. -/
  | cancelled
deriving DecidableEq, Repr

namespace ReplayStatus

/-- The name of a status. -/
def name : ReplayStatus → String
  | .idle => "idle"
  | .running => "running"
  | .paused => "paused"
  | .completed => "completed"
  | .failed => "failed"
  | .cancelled => "cancelled"

/-- Whether the replay is over. -/
def isTerminal : ReplayStatus → Bool
  | .completed | .failed | .cancelled => true
  | .idle | .running | .paused => false

end ReplayStatus

/-- How a step ended. -/
inductive StepStatus where
  /-- It did what it says. -/
  | success
  /-- It did not. -/
  | failed
  /-- It is disabled. -/
  | skipped
  /-- Its element did not appear in time. -/
  | timeout
deriving DecidableEq, Repr

namespace StepStatus

/-- The name of a status. -/
def name : StepStatus → String
  | .success => "success"
  | .failed => "failed"
  | .skipped => "skipped"
  | .timeout => "timeout"

/-- Whether the step failed. -/
def isFailure : StepStatus → Bool
  | .failed | .timeout => true
  | .success | .skipped => false

end StepStatus

/-! ## What a step did -/

/-- Why a step does not succeed. -/
inductive StepError where
  /-- No selector of the chain leads to an element that can be used. -/
  | notFound (chain : Chain)
  /-- Nothing says where. -/
  | noSelector
  /-- The element did not appear in time. -/
  | timeout (chain : Chain) (waitedMs : Nat)
  /-- The device could not be talked to, or refused. -/
  | device (e : DeviceError)
  /-- The step is not valid. -/
  | invalid (problem : Problem)
  /-- The replay was cancelled. -/
  | cancelled

/-- The text of an error. -/
def StepError.message : StepError → String
  | .notFound chain => "no element matched " ++ chain.display
  | .noSelector => "no element matched no selector"
  | .timeout chain ms =>
      "element " ++ chain.display ++ " did not appear within " ++ Number.natText ms ++ " ms"
  | .device e => e.message
  | .invalid problem => problem.message
  | .cancelled => "cancelled"

/-- How a step ends that fails with an error. -/
def StepError.status : StepError → StepStatus
  | .timeout _ _ => .timeout
  | _ => .failed

/-- Where a press went. -/
inductive PressTarget where
  /-- To a point. -/
  | point (p : Point)
  /-- To a node, by its index. -/
  | node (index : Int)
  /-- To the middle of a recorded rectangle. -/
  | recorded (p : Point)
deriving DecidableEq, Repr

/-- A point between parentheses. -/
def Point.text (p : Point) : String :=
  "(" ++ Number.intText p.x ++ ", " ++ Number.intText p.y ++ ")"

/-- The target of a press in words. -/
def PressTarget.message : PressTarget → String
  | .point p => "at " ++ p.text
  | .node index => "node #" ++ Number.intText index
  | .recorded p => "recorded bounds centre " ++ p.text

/-- What a step did. -/
inductive Deed where
  /-- It waited. -/
  | waited (ms : Nat)
  /-- The element it waited for appeared. -/
  | appeared (selector : Selector)
  /-- It pressed. -/
  | pressed (long : Bool) (target : PressTarget)
  /-- It swiped. -/
  | swiped (direction : Direction) (path : Path)
  /-- It scrolled along a recorded way. -/
  | scrolled (direction : Direction)
  /-- It scrolled a node. -/
  | scrolledNode (way : ScrollWay) (index : Int)
  /-- It scrolled by a swipe. -/
  | scrolledBySwipe (direction : Direction)
  /-- It typed into what has the focus. -/
  | typedIntoFocus
  /-- It typed into a field. -/
  | typedIntoField
  /-- It typed into what lies in the middle of a recorded rectangle. -/
  | typedAtRecorded
  /-- It did nothing, because it is disabled. -/
  | disabled
deriving DecidableEq

/-- The deed in words. -/
def Deed.message : Deed → String
  | .waited ms => "Waited " ++ Number.natText ms ++ " ms"
  | .appeared selector => "Element appeared: " ++ selector.display
  | .pressed true target => "Long-pressed " ++ target.message
  | .pressed false target => "Tapped " ++ target.message
  | .swiped direction path =>
      "Swiped " ++ direction.name ++ " from " ++ path.start.text ++ " to " ++ path.finish.text
  | .scrolled direction => "Scrolled " ++ direction.name
  | .scrolledNode way index => "Scrolled " ++ way.name ++ " node #" ++ Number.intText index
  | .scrolledBySwipe direction => "Scrolled " ++ direction.name ++ " by swiping"
  | .typedIntoFocus => "Typed into focused field"
  | .typedIntoField => "Typed into field"
  | .typedAtRecorded => "Typed into field at recorded bounds"
  | .disabled => "step disabled"

/-- What a step that succeeds reports. -/
structure StepOutcome where
  /-- What it did. -/
  deed : Deed
  /-- The selector that led to the element, with its place in the chain. -/
  selector : Option (Selector × Nat) := none
  /-- Whether it took another way than the first. -/
  fallbackUsed : Bool := false

/-! ## Results -/

/-- The result of a step. -/
structure StepResult where
  /-- The identifier of the step. -/
  stepId : Uuid
  /-- The position of the step. -/
  stepIndex : Nat
  /-- The label of the step. -/
  stepName : String
  /-- The kind of its action. -/
  kind : ActionKind
  /-- How it ended. -/
  status : StepStatus
  /-- What it did. -/
  deed : Option Deed := none
  /-- Why it failed. -/
  error : Option StepError := none
  /-- How long it took. -/
  durationMs : Nat
  /-- The selector that led to the element, with its place in the chain. -/
  selector : Option (Selector × Nat) := none
  /-- Whether it took another way than the first. -/
  fallbackUsed : Bool := false

/-- The result of a step that was carried out. -/
def StepResult.ofOutcome (s : Step) (index : Nat) (name : String) (durationMs : Nat) :
    Except StepError StepOutcome → StepResult
  | .ok o => {
      stepId := s.id
      stepIndex := index
      stepName := name
      kind := s.kind
      status := .success
      deed := some o.deed
      durationMs := durationMs
      selector := o.selector
      fallbackUsed := o.fallbackUsed }
  | .error e => {
      stepId := s.id
      stepIndex := index
      stepName := name
      kind := s.kind
      status := e.status
      error := some e
      durationMs := durationMs }

/-- The result of a step that is disabled. -/
def StepResult.ofDisabled (s : Step) (index : Nat) (name : String) : StepResult where
  stepId := s.id
  stepIndex := index
  stepName := name
  kind := s.kind
  status := .skipped
  deed := some .disabled
  durationMs := 0

/-- The failure of a step. -/
structure StepFailure where
  /-- The label of the step. -/
  stepName : String
  /-- Why it failed. -/
  error : StepError

/-- The text of a failure. -/
def StepFailure.message (f : StepFailure) : String :=
  "Step '" ++ f.stepName ++ "' failed: " ++ f.error.message

/-- The failure that a result tells of. -/
def StepResult.failure? (r : StepResult) : Option StepFailure :=
  r.error.map fun e => ⟨r.stepName, e⟩

/-! ## Progress -/

/-- How far a replay has come. -/
structure Progress where
  /-- The identifier of the workflow. -/
  workflowId : Option Uuid := none
  /-- The name of the workflow. -/
  workflowName : String := ""
  /-- The status. -/
  status : ReplayStatus := .idle
  /-- How many steps there are. -/
  totalSteps : Nat := 0
  /-- The position of the step in progress. -/
  currentStep : Option Nat := none
  /-- The label of the step in progress. -/
  currentName : Option String := none
  /-- The results so far. -/
  results : List StepResult := []
  /-- Whether it has started. -/
  hasStarted : Bool := false
  /-- Whether it has ended. -/
  hasEnded : Bool := false
  /-- The failure that ended it. -/
  failure : Option StepFailure := none

namespace Progress

/-- The progress of a replay that has not started. -/
def idle : Progress := {}

/-- The progress when a workflow starts. -/
def start (p : Progress) (w : Workflow) : Progress :=
  { p with
    workflowId := some w.id
    workflowName := w.name
    status := .running
    totalSteps := w.steps.length
    hasStarted := true }

/-- The progress when a step starts. -/
def enter (p : Progress) (index : Nat) (name : String) : Progress :=
  { p with currentStep := some index, currentName := some name }

/-- The progress with one more result. -/
def add (p : Progress) (r : StepResult) : Progress := { p with results := p.results ++ [r] }

/-- The progress when the replay ends. -/
def finish (p : Progress) (status : ReplayStatus) (failure : Option StepFailure) : Progress :=
  { p with
    status := status
    failure := failure
    currentStep := none
    currentName := none
    hasEnded := true }

/-- How many steps succeeded. -/
def succeeded (p : Progress) : Nat := (p.results.filter fun r => r.status == .success).length

/-- How many steps failed. -/
def failed (p : Progress) : Nat := (p.results.filter fun r => r.status.isFailure).length

/-- How many steps were skipped. -/
def skipped (p : Progress) : Nat := (p.results.filter fun r => r.status == .skipped).length

end Progress

/-! ## Events -/

/-- What a replay notes. -/
inductive Note where
  /-- It starts. -/
  | replaying (name : String) (steps : Nat)
  /-- A step starts. -/
  | step (number total : Nat) (name : String)
  /-- A step is skipped. -/
  | skipping (name : String)
  /-- It is held. -/
  | waitingForResume
  /-- A request is repeated. -/
  | retrying (what : String) (attempt total : Nat) (e : DeviceError)
  /-- No element was found, so a press goes to a recorded point. -/
  | pressingRecorded (chain : Chain) (p : Point)
  /-- No element was found, so a recorded point gets the focus. -/
  | focusingRecorded (chain : Chain) (p : Point)
  /-- A scroll is replaced by a swipe. -/
  | swipingInstead (e : StepError)
  /-- It came to the end. -/
  | completed (succeeded failed skipped : Nat)

/-- The note in words. -/
def Note.message : Note → String
  | .replaying name steps => "Replaying '" ++ name ++ "' (" ++ Number.natText steps ++ " steps)"
  | .step number total name =>
      "Step " ++ Number.natText number ++ "/" ++ Number.natText total ++ ": " ++ name
  | .skipping name => "Skipping disabled step: " ++ name
  | .waitingForResume => "Waiting for resume"
  | .retrying what attempt total e =>
      what ++ " failed (attempt " ++ Number.natText attempt ++ "/" ++ Number.natText total ++
        "): " ++ e.message ++ ". Retrying..."
  | .pressingRecorded chain p =>
      "No element matched " ++ chain.display ++ "; using recorded bounds centre " ++ p.text
  | .focusingRecorded chain p =>
      "No element matched " ++ chain.display ++ "; focusing recorded bounds centre " ++ p.text
  | .swipingInstead e => "Scroll by selector failed (" ++ e.message ++ "); swiping instead"
  | .completed succeeded failed skipped =>
      "Replay completed: " ++ Number.natText succeeded ++ " succeeded, " ++
        Number.natText failed ++ " failed, " ++ Number.natText skipped ++ " skipped"

/-- What a replay publishes. -/
inductive ReplayEvent where
  /-- Its status is another. -/
  | statusChanged (p : Progress)
  /-- A step starts. -/
  | stepStarted (p : Progress)
  /-- A step is done with, its result being the last. -/
  | stepCompleted (p : Progress)
  /-- A note. -/
  | noted (n : Note)
  /-- A step failed. -/
  | stepFailed (f : StepFailure)

/-- How many events an observer that does not look is kept. -/
def eventCapacity : Nat := 256

/-- What an observer sees that looks after some events: how many it missed, and the
latest ones. -/
def observed (events : List ReplayEvent) : Nat × List ReplayEvent :=
  let missed := events.length - eventCapacity
  (missed, events.drop missed)

end UiReplay
