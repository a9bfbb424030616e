import UiReplay.CommandLine.Job

/-!
# Replaying from a file

The workflow in a file is replayed on the device of a desk.  Each step that is done
with is shown with its position, a word for how it ended, its name, how long it took,
the selector if it was not the first, and the error if there was one.  At the end the
steps are counted.

Time passes where the replay sleeps and where it waits for an answer that takes its time
(`Desk.answerTime`).  An answer that would take longer than the client waits is one that
does not come.  The lines are printed from the events, and the events are looked at only
while the replay sleeps, while time passes, and when the replay is over.  As an observer is
kept a limited number of events, a long stretch between two looks loses its first lines
(`Job.eventsSeen`).

An interrupt cancels the replay.  It is noticed when time passes, during the request with
which it came or in a sleep after it.

`eventsSeen_published` says that no event is lost in a journal without suspensions that is
short enough.
-/

namespace UiReplay

/-! ## Surroundings -/

namespace Desk

/-- Whether the user has interrupted the program. -/
def isInterrupted (d : Desk) : Bool :=
  match d.interruptAt with
  | some number => number < d.link.sent.length
  | none => false

/-- The calls of the remote control while some time passes. -/
def callsIn (d : Desk) (ms : Nat) : List ControlCall :=
  if d.isInterrupted && ms != 0 then [.cancel] else []

/-- What happens at the desk while the device is asked. -/
def consult (d : Desk) (q : Question) {r : Request} (read : Outcome → r.Answer) :
    Interlude r × Desk :=
  let asked := d.ask q
  let ms := d.timeOf q
  ({ calls := asked.2.callsIn ms, elapsed := ms, answer := read asked.1 }, asked.2)

section

variable (d : Desk) (q : Question) {r : Request} (read : Outcome → r.Answer)

theorem calls_consult : (d.consult q read).1.calls = (d.ask q).2.callsIn (d.timeOf q) := by
  rw [consult]

theorem answer_consult : (d.consult q read).1.answer = read (d.link.ask q).1 := by
  rw [consult, ask]

theorem link_consult : (d.consult q read).2.link = (d.link.ask q).2 := by
  rw [consult, ask]

end

/-- What happens at the desk while a replay waits. -/
def respond (r : Request) (_ : Control) (d : Desk) : Interlude r × Desk :=
  match r with
  | .state => d.consult .state Outcome.state
  | .perform action => d.consult (.perform action) (Outcome.reached action.endpoint)
  | .sleep ms => ({ calls := d.callsIn ms, answer := () }, d)
  | .gate => ({ answer := [] }, d)

/-- A desk as the surroundings of a replay. -/
def surroundings : Surroundings Desk where
  respond := respond

end Desk

/-! ## Lines -/

/-- The word for how a step ended. -/
def StepStatus.mark : StepStatus → String
  | .success => "ok"
  | .failed => "FAIL"
  | .skipped => "skip"
  | .timeout => "TIMEOUT"

/-- A text with blanks up to a length. -/
def padded (width : Nat) (s : String) : String :=
  s ++ String.ofList (List.replicate (width - s.length) ' ')

/-- The line of a result, among so many steps. -/
def StepResult.line (total : Nat) (r : StepResult) : String :=
  let selector := if r.fallbackUsed then r.selector.map Prod.fst else none
  "[" ++ Number.natText (r.stepIndex + 1) ++ "/" ++ Number.natText total ++ "] " ++
    padded 7 r.status.mark ++ " " ++ r.stepName ++ " (" ++ Number.natText r.durationMs ++ " ms)" ++
    (selector.elim "" fun s => " via fallback " ++ s.display) ++
    r.error.elim "" fun e => ": " ++ e.message

/-- The line that an event shows. -/
def ReplayEvent.line? : ReplayEvent → Option String
  | .stepCompleted p => p.results.getLast?.map (StepResult.line p.totalSteps)
  | _ => none

/-- The line at the end. -/
def Progress.summary (p : Progress) : String :=
  p.status.name ++ ": " ++ Number.natText p.succeeded ++ " succeeded, " ++
    Number.natText p.failed ++ " failed, " ++ Number.natText p.skipped ++ " skipped"

/-- Why a replay that is over counts as an error. -/
def Progress.error? (p : Progress) : Option JobError :=
  match p.status with
  | .completed => if p.failed = 0 then none else some (.stepsFailed p.failed)
  | status => some (.ended status p.failure)

/-! ## The command -/

/-- Whether the events are looked at during a suspension. -/
def Suspension.isWatched (s : Suspension) : Bool :=
  match s.request with
  | .sleep _ => true
  | _ => s.interlude.elapsed != 0

namespace Job

/-- The events of a journal that are seen, after some that are still unseen. -/
def eventsSeen : List ReplayEvent → List JournalEntry → List ReplayEvent
  | unseen, [] => (observed unseen).2
  | unseen, .published e :: rest => eventsSeen (unseen ++ [e]) rest
  | unseen, .called _ _ :: rest => eventsSeen unseen rest
  | unseen, .suspended s :: rest =>
      if s.isWatched then (observed unseen).2 ++ eventsSeen [] rest
      else eventsSeen unseen rest

theorem eventsSeen_published (unseen events : List ReplayEvent)
    (h : unseen.length + events.length ≤ eventCapacity) :
    eventsSeen unseen (events.map .published) = unseen ++ events := by
  induction events generalizing unseen with
  | nil =>
      have : unseen.length - eventCapacity = 0 := by simp at h; omega
      simp [eventsSeen, observed, this]
  | cons e rest ih =>
      rw [List.map_cons, eventsSeen, ih (unseen ++ [e]) (by simp at h ⊢; omega)]
      simp

/-- Replays the workflow in a file. -/
def replay (path : String) (config : ReplayConfig) : Job Unit := do
  let loaded ← withIds (Workflow.load (← get).files path)
  let w ← orFail .storage loaded
  let engine : Engine Desk := { surroundings := Desk.surroundings, config := config }
  let (_, run) ← orFail .notStarted (engine.replay w .fresh (← get))
  set run.around
  printAll ((eventsSeen [] run.journal).filterMap ReplayEvent.line?)
  let p := run.control.progress
  print p.summary
  match p.error? with
  | some e => throw e
  | none => return

end Job

/-! ## Tests -/

example : padded 7 StepStatus.failed.mark = "FAIL   " := by decide +kernel
example : ({ status := .completed } : Progress).summary
    = "completed: 0 succeeded, 0 failed, 0 skipped" := by decide +kernel

end UiReplay
