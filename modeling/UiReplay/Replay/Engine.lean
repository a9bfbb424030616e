import UiReplay.Replay.Run

/-!
# The engine

An engine replays workflows in its surroundings.  A request to the device that does
not get through is repeated after a delay, up to a number of attempts.  Any other
failure is final, since the next answer would be the same.  A cancel is looked for
before every attempt, and before and after every sleep.

Every tree that is fetched tells what rectangle the screen has, if its roots have
rectangles.
-/

namespace UiReplay

/-- How workflows are replayed. -/
structure ReplayConfig where
  /-- Whether the first step that fails ends the replay. -/
  stopOnError : Bool := true
  /-- How often a request is sent at most. -/
  maxAttempts : Nat := 3
  /-- The time before a request is repeated. -/
  retryDelay : Nat := 500
  /-- The time between two steps. -/
  stepDelay : Nat := 500
  /-- The time between two looks for an element. -/
  waitPoll : Nat := 250
  /-- The screen when neither the device nor the workflow tells it. -/
  defaultScreen : Rect := ⟨0, 0, 1080, 2400⟩
  /-- How long a long press takes that does not say it. -/
  longPressMs : Nat := 1000
  /-- How long a swipe takes that does not say it. -/
  swipeMs : Nat := 300
deriving DecidableEq, Repr

/-- An engine. -/
structure Engine (σ : Type) where
  /-- What it runs in. -/
  surroundings : Surroundings σ
  /-- How nodes are found. -/
  matcher : Matcher := {}
  /-- How steps are named. -/
  namer : Namer := {}
  /-- How workflows are replayed. -/
  config : ReplayConfig := {}
  /-- How often a wait looks that never sleeps, beyond its milliseconds.  It times out when
  it has used up these looks, even if its time is not over. -/
  idleLooks : Nat := 100000

namespace Engine

variable {σ α : Type}

/-- Fails with a cancel if one was accepted. -/
def checkCancelled : Attempt σ Unit := do
  if ← Run.isCancelled.sure then throw .cancelled

/-- Lets time pass, until a cancel. -/
def sleep (g : Engine σ) (ms : Nat) : Attempt σ Unit := do
  checkCancelled
  (g.surroundings.ask (.sleep ms)).sure
  checkCancelled

/-- How often a request is sent at most, and at least once. -/
def attempts (g : Engine σ) : Nat := max 1 g.config.maxAttempts

/-- Sends a request, and repeats it at most so many times. -/
def retry (g : Engine σ) (what : String) (call : Act σ (Except DeviceError α)) :
    Nat → Attempt σ α
  | 0 => do
      checkCancelled
      match ← Act.sure call with
      | .ok a => return a
      | .error e => throw (.device e)
  | left + 1 => do
      checkCancelled
      match ← Act.sure call with
      | .ok a => return a
      | .error e =>
          if e.isTransient then
            (Run.note (.retrying what (g.attempts - (left + 1)) g.attempts e)).sure
            g.sleep g.config.retryDelay
            g.retry what call left
          else throw (.device e)

/-- Has an action carried out. -/
def perform (g : Engine σ) (a : DeviceAction) : Attempt σ Unit :=
  g.retry a.endpoint (g.surroundings.ask (.perform a)) (g.attempts - 1)

/-- Fetches the tree and remembers the screen. -/
def fetchTree (g : Engine σ) : Attempt σ (List Node) := do
  let state ← g.retry DeviceState.endpoint (g.surroundings.ask .state) (g.attempts - 1)
  (Run.see state.tree).sure
  return state.tree

end Engine

end UiReplay
