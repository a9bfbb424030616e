import UiReplay.Replay.Control
import UiReplay.Selector.Matcher
import UiReplay.Workflow.Label
import UiReplay.Workflow.Validity

/-!
# Runs and their surroundings

A replay is suspended whenever it waits for something: for the state of the device,
for an action to be carried out, for time to pass, or for the gate to open.  What
happens meanwhile lies with its surroundings (`Surroundings.respond`): which calls of
the remote control come in, how much time passes, and what the answer is.  Nothing is
said of the surroundings, so a statement about all of them holds for every device and
for all calls of the remote control at the points of suspension.

Between two suspensions a replay is a plain computation on the state of its run.  The
journal of a run holds the events that were published, the calls of the remote control
with their replies, and the suspensions, in order.

A sleep lasts at least as long as it should, unless a cancel ends it.  At the gate the
calls come in bursts.  The replay looks at the gate before the first of them and after
each.  When no burst opens it, the replay stays where it is.
-/

namespace UiReplay

/-! ## Suspensions -/

/-- What a replay waits for. -/
inductive Request where
  /-- The state of the device. -/
  | state
  /-- An action of the device. -/
  | perform (action : DeviceAction)
  /-- Time to pass. -/
  | sleep (ms : Nat)
  /-- The gate to open. -/
  | gate
deriving DecidableEq, Repr

/-- Whether the device is asked. -/
def Request.isDevice : Request → Bool
  | .state | .perform _ => true
  | .sleep _ | .gate => false

/-- Calls of the remote control that come in before the replay looks at the gate. -/
structure Burst where
  /-- The time until then. -/
  elapsed : Nat
  /-- The calls, in order. -/
  calls : List ControlCall
deriving DecidableEq, Repr

/-- What a replay gets for what it waits for. -/
abbrev Request.Answer : Request → Type
  | .state => Except DeviceError DeviceState
  | .perform _ => Except DeviceError Unit
  | .sleep _ => Unit
  | .gate => List Burst

/-- What happens while a replay is suspended. -/
structure Interlude (r : Request) where
  /-- The calls of the remote control, in order. -/
  calls : List ControlCall := []
  /-- The time that passes. -/
  elapsed : Nat := 0
  /-- The answer. -/
  answer : r.Answer

/-- What a replay runs in, with a state of its own. -/
structure Surroundings (σ : Type) where
  /-- What happens while the replay waits for something. -/
  respond : (r : Request) → Control → σ → Interlude r × σ

/-! ## Runs -/

/-- A suspension. -/
structure Suspension where
  /-- When it began, counted from the start of the run. -/
  start : Nat
  /-- What the replay waited for. -/
  request : Request
  /-- What happened. -/
  interlude : Interlude request

/-- An entry of the journal of a run. -/
inductive JournalEntry where
  /-- An event was published. -/
  | published (e : ReplayEvent)
  /-- A call of the remote control came in and was answered. -/
  | called (x : ControlCall) (accepted : Bool)
  /-- The replay was suspended. -/
  | suspended (s : Suspension)

/-- What the journal says of calls: each with its reply, and what it publishes. -/
def JournalEntry.ofCalls (c : Control) : List ControlCall → List JournalEntry
  | [] => []
  | x :: rest =>
      let reply := c.call x
      .called x reply.accepted :: (reply.event.toList.map .published ++ ofCalls reply.control rest)

/-- The state of a run. -/
structure Run (σ : Type) where
  /-- What is shared with the remote controls. -/
  control : Control
  /-- The rectangle of the screen when the device does not tell it. -/
  screen : Rect
  /-- The rectangle of the screen that the device told last. -/
  seen : Option Rect := none
  /-- The time since the start. -/
  clock : Nat := 0
  /-- What happened so far. -/
  journal : List JournalEntry := []
  /-- The state of the surroundings. -/
  around : σ

/-- A computation of a run. -/
abbrev Act (σ α : Type) := StateM (Run σ) α

/-- A computation of a run that may fail its step. -/
abbrev Attempt (σ α : Type) := ExceptT StepError (StateM (Run σ)) α

/-- A computation that never fails its step. -/
def Act.sure {σ α : Type} (x : Act σ α) : Attempt σ α := ExceptT.lift x

namespace Run

variable {σ : Type}

/-- Publishes an event. -/
def publish (e : ReplayEvent) : Act σ Unit :=
  modify fun run => { run with journal := run.journal ++ [.published e] }

/-- Publishes a note. -/
def note (n : Note) : Act σ Unit := publish (.noted n)

/-- Changes the progress and gives it back. -/
def update (change : Progress → Progress) : Act σ Progress := fun run =>
  let control := run.control.update change
  (control.progress, { run with control := control })

/-- Whether a cancel was accepted. -/
def isCancelled : Act σ Bool := fun run => (run.control.isCancelled, run)

/-- The time since the start. -/
def time : Act σ Nat := fun run => (run.clock, run)

/-- The screen as far as it is known. -/
def knownScreen : Act σ Rect := fun run => (run.seen.getD run.screen, run)

/-- Remembers the screen of a tree, if its roots have rectangles. -/
def see (tree : List Node) : Act σ Unit :=
  modify fun run => { run with seen := (Node.screen? tree).or run.seen }

/-- Takes calls of the remote control after some time. -/
def receive (elapsed : Nat) (calls : List ControlCall) : Act σ Unit :=
  modify fun run =>
    { run with
      control := run.control.calls calls
      clock := run.clock + elapsed
      journal := run.journal ++ JournalEntry.ofCalls run.control calls }

/-- The events of a journal. -/
def eventsOf (journal : List JournalEntry) : List ReplayEvent :=
  journal.filterMap fun
    | .published e => some e
    | .called _ _ => none
    | .suspended _ => none

/-- The suspensions of a journal. -/
def suspensionsOf (journal : List JournalEntry) : List Suspension :=
  journal.filterMap fun
    | .published _ => none
    | .called _ _ => none
    | .suspended s => some s

end Run

/-- How long a suspension lasts: a sleep as long as it should, unless it is ended. -/
def Request.lasting (isCancelled : Bool) (elapsed : Nat) : Request → Nat
  | .sleep ms => if isCancelled then elapsed else max ms elapsed
  | _ => elapsed

/-- Suspends a run until its surroundings answer. -/
def Surroundings.ask {σ : Type} (w : Surroundings σ) (r : Request) : Act σ r.Answer := fun run =>
  let (i, around) := w.respond r run.control run.around
  let control := run.control.calls i.calls
  (i.answer, { run with
    control := control
    clock := run.clock + r.lasting control.isCancelled i.elapsed
    journal := run.journal ++
      .suspended ⟨run.clock, r, i⟩ :: JournalEntry.ofCalls run.control i.calls
    around := around })

end UiReplay
