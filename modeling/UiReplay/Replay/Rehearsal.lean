import UiReplay.Replay.Workflow

/-!
# Rehearsals

A rehearsal replays against a script.  The script says what the device answers and how
long each answer takes, and when the remote control is used.  Time stands still except
where a replay waits.

The states are given out one after the other, and the last one again and again.  The
results of actions are given out one after the other, and after the last one every
action succeeds.  A cue whose time comes while the replay waits is taken then, and the
cues that are left when the replay is over are taken afterwards.
-/

namespace UiReplay

/-! ## Scripts -/

/-- An answer of the device and the time that it takes. -/
structure ScriptedAnswer (α : Type) where
  /-- The answer. -/
  answer : Except DeviceError α
  /-- How long it takes. -/
  delay : Nat := 0

/-- A use of the remote control. -/
structure Cue where
  /-- When. -/
  time : Nat
  /-- The call, none for a look at the progress. -/
  call : Option ControlCall
deriving DecidableEq, Repr

/-- What a use of the remote control shows. -/
structure CueReply where
  /-- Whether a call took effect, none for a look. -/
  accepted : Option Bool
  /-- How many results there are. -/
  results : Nat
  /-- The status afterwards. -/
  status : ReplayStatus
deriving DecidableEq, Repr

/-- A script and how far it has come. -/
structure Stage where
  /-- The time. -/
  now : Nat := 0
  /-- The states to come. -/
  states : List (ScriptedAnswer DeviceState) := []
  /-- The results of actions to come. -/
  results : List (ScriptedAnswer Unit) := []
  /-- The uses of the remote control to come, by ascending times. -/
  cues : List Cue := []
  /-- What the past ones showed. -/
  replies : List CueReply := []

/-! ## Cues -/

/-- Cues that were taken. -/
structure Taken where
  /-- When each was taken, with its call. -/
  cues : List Cue := []
  /-- What each showed. -/
  replies : List CueReply := []
  /-- What was published. -/
  events : List ReplayEvent := []
  /-- What is shared afterwards. -/
  control : Control
  /-- The cues that are left. -/
  left : List Cue := []
  /-- When the last one was taken, if it ended the wait. -/
  stoppedAt : Option Nat := none

namespace Taken

/-- Takes a cue before others. -/
def prepend (cue : Cue) (reply : CueReply) (event : Option ReplayEvent) (t : Taken) : Taken :=
  { t with
    cues := cue :: t.cues
    replies := reply :: t.replies
    events := event.toList ++ t.events }

/-- Takes the cues whose time has come, until the wait ends. -/
def take (isDue : Nat → Bool) (isOver : Control → Bool) (c : Control) : List Cue → Taken
  | [] => { control := c }
  | cue :: rest =>
      if isDue cue.time then
        let reply : CallReply :=
          match cue.call with
          | some x => c.call x
          | none => ⟨true, none, c⟩
        let after := reply.control
        let shown : CueReply :=
          ⟨cue.call.map fun _ => reply.accepted, after.progress.results.length, after.status⟩
        if isOver after then
          { cues := [cue], replies := [shown], events := reply.event.toList, control := after,
            left := rest, stoppedAt := some cue.time }
        else (take isDue isOver after rest).prepend cue shown reply.event
      else { control := c, left := cue :: rest }

/-- The calls. -/
def calls (t : Taken) : List ControlCall := t.cues.filterMap Cue.call

/-- The calls in bursts of one. -/
def bursts : Nat → List Cue → List Burst
  | _, [] => []
  | now, cue :: rest => ⟨cue.time - now, cue.call.toList⟩ :: bursts (max now cue.time) rest

end Taken

/-! ## The stage as surroundings -/

namespace Stage

/-- The stage after some cues, at a time. -/
def after (s : Stage) (t : Taken) (time : Nat) : Stage :=
  { s with now := time, cues := t.left, replies := s.replies ++ t.replies }

/-- Waits until a time, which nothing cuts short. -/
def waitFully (s : Stage) (c : Control) (delay : Nat) : Taken × Stage :=
  let t := Taken.take (fun time => time < s.now + delay) (fun _ => false) c s.cues
  (t, s.after t (s.now + delay))

/-- The next state. -/
def nextState (s : Stage) : ScriptedAnswer DeviceState × Stage :=
  match s.states with
  | [] => (⟨.ok {}, 0⟩, s)
  | [last] => (last, s)
  | next :: others => (next, { s with states := others })

/-- The next result of an action. -/
def nextResult (s : Stage) : ScriptedAnswer Unit × Stage :=
  (s.results.headD ⟨.ok (), 0⟩, { s with results := s.results.tail })

/-- What happens on the stage while a replay waits. -/
def respond (r : Request) (c : Control) (s : Stage) : Interlude r × Stage :=
  match r with
  | .state =>
      let (next, s) := s.nextState
      let (t, s) := s.waitFully c next.delay
      (⟨t.calls, next.delay, next.answer⟩, s)
  | .perform _ =>
      let (next, s) := s.nextResult
      let (t, s) := s.waitFully c next.delay
      (⟨t.calls, next.delay, next.answer⟩, s)
  | .sleep ms =>
      let t := Taken.take (fun time => time < s.now + ms) Control.isCancelled c s.cues
      let time := t.stoppedAt.getD (s.now + ms)
      (⟨t.calls, time - s.now, ()⟩, s.after t time)
  | .gate =>
      let t := Taken.take (fun _ => true) (fun c => c.isCancelled || !c.isHeld) c s.cues
      (⟨[], 0, Taken.bursts s.now t.cues⟩, s.after t (t.stoppedAt.getD s.now))

/-- A stage as the surroundings of a replay. -/
def surroundings : Surroundings Stage where
  respond := respond

end Stage

/-! ## Rehearsals -/

/-- What can be seen of a replay. -/
structure Performance where
  /-- How it ended, or why it did not start. -/
  ending : Except Refusal Ending
  /-- How long it took. -/
  elapsed : Nat
  /-- What was published. -/
  events : List ReplayEvent
  /-- The requests to the device, with their times. -/
  requests : List (Nat × Request)
  /-- What the uses of the remote control showed. -/
  replies : List CueReply
  /-- What is shared afterwards. -/
  control : Control
  /-- The stage afterwards. -/
  stage : Stage

/-- The stage with cues whose times are counted from now. -/
def Stage.withCues (s : Stage) (cues : List Cue) : Stage :=
  { s with cues := cues.map fun cue => { cue with time := s.now + cue.time }, replies := [] }

/-- Replays a workflow on a stage with cues, and takes all cues that are left. -/
def Engine.rehearse (g : Engine Stage) (w : Workflow) (c : Control) (s : Stage)
    (cues : List Cue) : Performance :=
  let s := s.withCues cues
  let (ending, run) : Except Refusal Ending × Run Stage :=
    match g.replay w c s with
    | .error refusal => (.error refusal, g.startOf c w s)
    | .ok (ending, run) => (.ok ending, run)
  let rest := Taken.take (fun _ => true) (fun _ => false) run.control run.around.cues
  let time := ((rest.cues.getLast?).map Cue.time).getD 0
  let stage := run.around.after rest (max run.around.now time)
  { ending := ending
    elapsed := run.clock
    events := Run.eventsOf run.journal ++ rest.events
    requests := (Run.suspensionsOf run.journal).filterMap fun x =>
      if x.request.isDevice then some (s.now + x.start, x.request) else none
    replies := stage.replies
    control := rest.control
    stage := stage }

end UiReplay
