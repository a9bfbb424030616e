import UiReplay.Replay.Workflow

/-!
# What an engine keeps between replays

One engine may replay many workflows.  It keeps three things from one replay to the next
(`Memory`): what it shares with the remote controls, the screen that the device told last,
and the screen that the last workflow was recorded on.  A replay starts with them and
leaves them changed (`Engine.replayWith`), and so does every call of the remote control.
Resetting forgets them one by one (`Memory.reset`).

`Engine.use` says what each use of an engine shows and what the engine keeps of it, and
`Engine.uses` says it of one use after the other.  Every replay may have surroundings of
its own.
-/

namespace UiReplay

/-- What an engine keeps. -/
structure Memory where
  /-- What is shared with the remote controls. -/
  control : Control := .fresh
  /-- The rectangle of the screen that the device told last. -/
  seen : Option Rect := none
  /-- The rectangle of the screen that the last workflow was recorded on. -/
  recorded : Option Rect := none

namespace Memory

/-- What a new engine keeps. -/
def new : Memory := {}

/-- What an engine keeps when it starts to replay a workflow. -/
def recording (m : Memory) (w : Workflow) : Memory := { m with recorded := w.screen? }

/-- Forgets the replays so far. -/
def reset (m : Memory) : Memory :=
  { m with seen := none, recorded := none, control := m.control.reset }

theorem reset_eq_new (m : Memory) : m.reset = new := by
  rw [reset, Control.reset_eq_fresh]
  rfl

end Memory

/-- A use of an engine. -/
inductive Use (σ : Type) where
  /-- A call of the remote control while no replay goes on. -/
  | call (x : ControlCall)
  /-- A look at the progress. -/
  | look
  /-- A replay of a workflow in some surroundings. -/
  | replay (w : Workflow) (surroundings : Surroundings σ) (around : σ)
  /-- A reset. -/
  | reset

/-- What a use of an engine shows. -/
inductive Shown where
  /-- Whether a call took effect, and what was published. -/
  | called (accepted : Bool) (event : Option ReplayEvent)
  /-- The progress. -/
  | looked (p : Progress)
  /-- Why a replay did not start. -/
  | refused (r : Refusal)
  /-- How a replay ended, how long it took, and all that happened. -/
  | replayed (ending : Ending) (elapsed : Nat) (journal : List JournalEntry)
  /-- What a reset published. -/
  | forgot (event : ReplayEvent)

namespace Engine

variable {σ : Type} (g : Engine σ)

/-- The engine in other surroundings. -/
def within (surroundings : Surroundings σ) : Engine σ := { g with surroundings := surroundings }

/-- The state in which a run starts. -/
def startWith (m : Memory) (around : σ) : Run σ where
  control := m.control
  screen := m.recorded.getD g.config.defaultScreen
  seen := m.seen
  around := around

/-- Replays a workflow with what the engine keeps, and gives back what it keeps then. -/
def replayWith (m : Memory) (w : Workflow) (around : σ) :
    Except Refusal (Ending × Run σ) × Memory :=
  match refusal? m.control w with
  | some refusal => (.error refusal, m)
  | none =>
      let m := m.recording w
      let (ending, run) := (g.replayValid w).run (g.startWith m around)
      (.ok (ending, run), { m with control := run.control, seen := run.seen })

/-- What a use shows, and what the engine keeps. -/
def use (m : Memory) : Use σ → Shown × Memory
  | .call x =>
      let reply := m.control.call x
      (.called reply.accepted reply.event, { m with control := reply.control })
  | .look => (.looked m.control.progress, m)
  | .replay w surroundings around =>
      match (g.within surroundings).replayWith m w around with
      | (.error refusal, m) => (.refused refusal, m)
      | (.ok (ending, run), m) => (.replayed ending run.clock run.journal, m)
  | .reset =>
      let m := m.reset
      (.forgot (.statusChanged m.control.progress), m)

/-- What uses show, one after the other, and what the engine keeps. -/
def uses (m : Memory) : List (Use σ) → List Shown × Memory
  | [] => ([], m)
  | u :: rest =>
      let (shown, m) := g.use m u
      let (others, m) := uses m rest
      (shown :: others, m)

theorem uses_cons (m : Memory) (u : Use σ) (rest : List (Use σ)) :
    g.uses m (u :: rest) =
      ((g.use m u).1 :: (g.uses (g.use m u).2 rest).1, (g.uses (g.use m u).2 rest).2) := rfl

end Engine

end UiReplay
