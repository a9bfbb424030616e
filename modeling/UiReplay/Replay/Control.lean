import UiReplay.Replay.Progress

/-!
# Remote control

Anyone may pause, resume and cancel a replay while it runs.  A pause holds it before
its next step.  A cancel is noticed wherever the replay looks for it, and also ends
an idle one at once.  Each call answers whether it took effect: a pause needs a
running replay, a resume a paused one, and a cancel one that is not over.

A pause and a resume have two parts.  First the status changes, then the gate is
closed or opened.  The parts are definitions of their own (`Control.toPaused?`,
`Control.closeGate`, `Control.toRunning?`, `Control.openGate`), because two callers
may mix them.
-/

namespace UiReplay

/-- A call of the remote control. -/
inductive ControlCall where
  /-- Hold before the next step. -/
  | pause
  /-- Go on. -/
  | resume
  /-- End. -/
  | cancel
deriving DecidableEq, Repr

/-- What the replay and its remote controls share. -/
structure Control where
  /-- The progress. -/
  progress : Progress := .idle
  /-- Whether the gate before the next step is closed. -/
  isHeld : Bool := false
  /-- Whether a cancel was accepted. -/
  isCancelled : Bool := false

/-- What comes of a call. -/
structure CallReply where
  /-- Whether the call took effect. -/
  accepted : Bool
  /-- What is published. -/
  event : Option ReplayEvent := none
  /-- What is shared afterwards. -/
  control : Control

namespace Control

/-! ## Parts -/

/-- The status. -/
def status (c : Control) : ReplayStatus := c.progress.status

/-- The control with another status. -/
def withStatus (c : Control) (status : ReplayStatus) : Control :=
  { c with progress := { c.progress with status := status } }

/-- The first part of a pause. -/
def toPaused? (c : Control) : Option Control :=
  if c.status = .running then some (c.withStatus .paused) else none

/-- The second part of a pause. -/
def closeGate (c : Control) : Control := { c with isHeld := true }

/-- The first part of a resume. -/
def toRunning? (c : Control) : Option Control :=
  if c.status = .paused then some (c.withStatus .running) else none

/-- The second part of a resume. -/
def openGate (c : Control) : Control := { c with isHeld := false }

/-- A change of the progress. -/
def update (c : Control) (change : Progress → Progress) : Control :=
  { c with progress := change c.progress }

/-! ## Calls -/

/-- Pauses a running replay. -/
def pause (c : Control) : CallReply :=
  match c.toPaused? with
  | none => ⟨false, none, c⟩
  | some c => ⟨true, some (.statusChanged c.progress), c.closeGate⟩

/-- Resumes a paused replay. -/
def resume (c : Control) : CallReply :=
  match c.toRunning? with
  | none => ⟨false, none, c⟩
  | some c => ⟨true, some (.statusChanged c.progress), c.openGate⟩

/-- Cancels a replay that is not over.  An idle one is over at once, any other ends
itself. -/
def cancel (c : Control) : CallReply :=
  if c.status.isTerminal then ⟨false, none, c⟩
  else if c.status = .idle then
    let c := c.update fun p => p.finish .cancelled none
    ⟨true, some (.statusChanged c.progress), { c with isCancelled := true }⟩
  else ⟨true, none, { c with isCancelled := true }⟩

/-- What comes of a call. -/
def call (c : Control) : ControlCall → CallReply
  | .pause => c.pause
  | .resume => c.resume
  | .cancel => c.cancel

/-- The control after calls. -/
def calls (c : Control) : List ControlCall → Control
  | [] => c
  | x :: rest => (c.call x).control.calls rest

/-- A new control in place of an old one. -/
def fresh : Control := {}

/-- Forgets the last replay: no cancel was accepted, the gate is open, and nothing has
started. -/
def reset (c : Control) : Control :=
  { c with isCancelled := false, isHeld := false, progress := .idle }

/-- What resetting publishes. -/
def resetEvent : ReplayEvent := .statusChanged fresh.progress

theorem reset_eq_fresh (c : Control) : c.reset = fresh := rfl

end Control

end UiReplay
