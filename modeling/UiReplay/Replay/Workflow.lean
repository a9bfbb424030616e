import UiReplay.Replay.Step

/-!
# Replaying a workflow

A workflow that is valid is replayed step by step.  Before each step the replay looks
whether it was cancelled and whether the gate is open.  A disabled step is skipped
without a delay after it.  A step in progress is not broken off by a pause, and one
that ends while a cancel comes in still counts.  Between two steps the replay sleeps.

A replay that is over is not started again before it is reset.
-/

namespace UiReplay

/-- Why a replay does not start. -/
inductive Refusal where
  /-- The last one is over, and nothing was reset. -/
  | alreadyOver (status : ReplayStatus)
  /-- The workflow is not valid. -/
  | invalid (problem : Problem)
deriving DecidableEq

/-- The text of a refusal. -/
def Refusal.message : Refusal → String
  | .alreadyOver status =>
      "run already finished as " ++ status.name ++
        "; reset the engine before replaying again"
  | .invalid problem => "workflow is not valid: " ++ problem.message

/-- How the gate was passed. -/
inductive Passage where
  /-- The replay goes on. -/
  | passed
  /-- The replay was cancelled. -/
  | cancelled
  /-- Nothing opens the gate. -/
  | stuck
deriving DecidableEq, Repr

/-- How the gate is passed now.  A closed gate is not. -/
def Control.passage? (c : Control) : Option Passage :=
  if c.isCancelled then some .cancelled
  else if c.isHeld then none
  else some .passed

/-- How a run came to its end. -/
inductive Ending where
  /-- It is over. -/
  | ended (p : Progress)
  /-- It is held for ever. -/
  | held

namespace Engine

variable {σ : Type} (g : Engine σ)

/-! ## The gate -/

/-- Looks at the gate, and again after each burst of calls. -/
def passAfter : List Burst → Act σ Passage
  | [] => return ((← get).control.passage?).getD .stuck
  | b :: rest => do
      match (← get).control.passage? with
      | some passage => return passage
      | none =>
          Run.receive b.elapsed b.calls
          passAfter rest

/-- Goes through the gate before a step. -/
def pass : Act σ Passage := do
  match (← get).control.passage? with
  | some passage => return passage
  | none =>
      Run.note .waitingForResume
      passAfter (← g.surroundings.ask .gate)

/-! ## The end -/

/-- Ends the run. -/
def finish (status : ReplayStatus) (failure : Option StepFailure) : Act σ Ending := do
  let p ← Run.update fun p => p.finish status failure
  if status = .completed then
    Run.note (.completed p.succeeded p.failed p.skipped)
  Run.publish (.statusChanged p)
  return .ended p

/-- Ends the run after its last step. -/
def complete : Act σ Ending := do
  if ← Run.isCancelled then finish .cancelled none else finish .completed none

/-! ## One step -/

/-- Announces a step. -/
def announce (index : Nat) (name : String) : Act σ Unit := do
  let p ← Run.update fun p => p.enter index name
  Run.publish (.stepStarted p)

/-- Carries out a step and gives back its result, none when it was cancelled. -/
def resultOf (total index : Nat) (name : String) (s : Step) : Act σ (Option StepResult) :=
  if s.enabled then do
    Run.note (.step (index + 1) total name)
    let before ← Run.time
    let outcome ← (g.execute s).run
    let after ← Run.time
    match outcome with
    | .error .cancelled => return none
    | outcome => return some (StepResult.ofOutcome s index name (after - before) outcome)
  else do
    Run.note (.skipping name)
    return some (StepResult.ofDisabled s index name)

/-- Adds a result. -/
def settle (r : StepResult) : Act σ Unit := do
  let p ← Run.update fun p => p.add r
  Run.publish (.stepCompleted p)

/-- Whether the replay goes on after a result.  If it does not, the ending is given. -/
def afterResult (r : StepResult) : Act σ (Option Ending) := do
  if ← Run.isCancelled then
    return some (← finish .cancelled none)
  else
    match r.failure? with
    | none => return none
    | some failure => do
        Run.publish (.stepFailed failure)
        if g.config.stopOnError then return some (← finish .failed (some failure))
        else return none

/-- Sleeps between two steps.  If a cancel ends the sleep, the ending is given. -/
def rest : Act σ (Option Ending) :=
  if g.config.stepDelay = 0 then return none
  else do
    match ← (g.sleep g.config.stepDelay).run with
    | .ok _ => return none
    | .error _ => return some (← finish .cancelled none)

/-! ## All steps -/

/-- Replays steps from a position on. -/
def replaySteps (total : Nat) : Nat → List Step → Act σ Ending
  | _, [] => complete
  | index, s :: others => do
      match ← g.pass with
      | .cancelled => finish .cancelled none
      | .stuck => return .held
      | .passed =>
          let name := g.namer.labelForStep s
          announce index name
          match ← g.resultOf total index name s with
          | none => finish .cancelled none
          | some r =>
              settle r
              match ← g.afterResult r with
              | some ending => return ending
              | none =>
                  match ← (if s.enabled && !others.isEmpty then g.rest else return none) with
                  | some ending => return ending
                  | none => replaySteps total (index + 1) others

/-- Replays a workflow that may be started. -/
def replayValid (w : Workflow) : Act σ Ending := do
  let p ← Run.update fun p => p.start w
  Run.publish (.statusChanged p)
  Run.note (.replaying w.name w.steps.length)
  g.replaySteps w.steps.length 0 w.steps

/-! ## Starting -/

/-- Why a workflow may not be started. -/
def refusal? (c : Control) (w : Workflow) : Option Refusal :=
  if c.status.isTerminal then some (.alreadyOver c.status)
  else
    match w.validate with
    | .ok _ => none
    | .error problem => some (.invalid problem)

/-- The state in which a run starts. -/
def startOf (c : Control) (w : Workflow) (around : σ) : Run σ where
  control := c
  screen := w.screen?.getD g.config.defaultScreen
  around := around

/-- Replays a workflow, and gives back how it ended and the state of the run. -/
def replay (w : Workflow) (c : Control) (around : σ) : Except Refusal (Ending × Run σ) :=
  match refusal? c w with
  | some refusal => .error refusal
  | none => .ok ((g.replayValid w).run (g.startOf c w around))

end Engine

end UiReplay
