import Mathlib.Logic.Relation
import UiReplay.Proofs.Replay.Parts

/-!
# What carrying out a step does to a run

Whatever a step is, carrying it out changes the run by moves of three kinds
(`Engine.Move`).  A note is published, the screen of a tree is remembered, or the run is
suspended for the device or for time to pass.  The third kind needs that no cancel was
accepted, since the engine looks for one right before each of these suspensions.

`works_execute` says that carrying out a step is a sequence of moves, and that a step
fails with a cancel only if one was accepted.  `works_sleep` says the same of the sleep
between two steps.  So whatever the moves keep is kept by every step.

Each part of a step makes moves only (`works_sleep`, `works_perform`, `works_fetchTree`), where a
repeated request is an induction on the attempts that are left (`works_retry`).  So does what is
put together from them (`Composed.works`).
-/

namespace UiReplay

namespace Engine

variable {σ α β : Type}

/-! ## Moves -/

/-- What an engine does to a run at one point within a step or between two. -/
inductive Move (g : Engine σ) (run : Run σ) : Run σ → Prop where
  /-- It publishes a note. -/
  | note (n : Note) : Move g run (Run.note n run).2
  /-- It remembers the screen of a tree. -/
  | see (tree : List Node) : Move g run (Run.see tree run).2
  /-- It waits for something that is not the gate. -/
  | ask (r : Request) (inside : r ≠ .gate) (going : run.control.isCancelled = false) :
      Move g run (g.surroundings.ask r run).2

/-- Moves, one after the other. -/
abbrev Moves (g : Engine σ) : Run σ → Run σ → Prop := Relation.ReflTransGen g.Move

/-- From this run on, a computation makes moves only, and a cancel that it fails with was
accepted. -/
structure WorksFrom (g : Engine σ) (x : Attempt σ α) (run : Run σ) : Prop where
  /-- It makes moves. -/
  moves : g.Moves run (x.run run).2
  /-- It does not make up a cancel. -/
  honest : (x.run run).1 = .error .cancelled → (x.run run).2.control.isCancelled = true

/-- A computation makes moves only, and does not make up a cancel. -/
def Works (g : Engine σ) (x : Attempt σ α) : Prop := ∀ run, g.WorksFrom x run

variable {g : Engine σ}

/-! ## Computations made of others -/

/-- One computation after the other, whatever is done about a failure in between. -/
theorem WorksFrom.handle {x : Attempt σ α} {run : Run σ}
    {k : Except StepError α → Act σ (Except StepError β)} (hx : g.WorksFrom x run)
    (hk : g.WorksFrom (ExceptT.mk (k (x.run run).1)) (x.run run).2) :
    g.WorksFrom (ExceptT.mk (x.run >>= k)) run where
  moves := hx.moves.trans hk.moves
  honest := hk.honest

theorem Works.handle {x : Attempt σ α} {k : Except StepError α → Act σ (Except StepError β)}
    (hx : g.Works x)
    (hk : ∀ (outcome : Except StepError α) (run : Run σ),
      (outcome = .error .cancelled → run.control.isCancelled = true) →
        g.WorksFrom (ExceptT.mk (k outcome)) run) :
    g.Works (ExceptT.mk (x.run >>= k)) := by
  intro run
  exact (hx run).handle (hk _ _ (hx run).honest)

/-- A failure that is passed on. -/
theorem WorksFrom.error {run : Run σ} {e : StepError}
    (h : e = .cancelled → run.control.isCancelled = true) :
    g.WorksFrom (ExceptT.mk (pure (.error e)) : Attempt σ α) run := by
  refine ⟨.refl, fun he => h ?_⟩
  cases he
  rfl

theorem works_pure (a : α) : g.Works (pure a : Attempt σ α) := by
  intro run
  exact ⟨.refl, fun h => by cases h⟩

theorem works_throw {e : StepError} (h : e ≠ .cancelled) :
    g.Works (throw e : Attempt σ α) := by
  intro run
  exact .error fun he => absurd he h

theorem WorksFrom.bind {x : Attempt σ α} {f : α → Attempt σ β} {run : Run σ}
    (hx : g.WorksFrom x run)
    (hf : ∀ a, (x.run run).1 = .ok a → g.WorksFrom (f a) (x.run run).2) :
    g.WorksFrom (x >>= f) run := by
  refine WorksFrom.handle (k := ExceptT.bindCont f) hx ?_
  cases h : (x.run run).1 with
  | ok a => exact hf a h
  | error e => exact .error fun he => hx.honest (by rw [h, he])

theorem Works.bind {x : Attempt σ α} {f : α → Attempt σ β} (hx : g.Works x)
    (hf : ∀ a, g.Works (f a)) : g.Works (x >>= f) := by
  intro run
  exact (hx run).bind fun a _ => hf a _

theorem works_sure {x : Act σ α} (h : ∀ run, g.Moves run (x run).2) : g.Works x.sure := by
  intro run
  exact ⟨h run, fun he => by cases he⟩

/-- A computation that only looks at the run. -/
theorem works_look {x : Act σ α} (h : ∀ run, (x run).2 = run) : g.Works x.sure := by
  apply works_sure
  intro run
  rw [h]

theorem works_note (n : Note) : g.Works (Run.note n).sure :=
  works_sure fun _ => .single (.note n)

theorem works_see (tree : List Node) : g.Works (Run.see tree).sure :=
  works_sure fun _ => .single (.see tree)

/-! ## Suspensions -/

theorem run_checkCancelled (run : Run σ) :
    checkCancelled.run run =
      (if run.control.isCancelled then .error .cancelled else .ok (), run) := by
  show (if run.control.isCancelled then throw .cancelled else pure () : Attempt σ Unit).run run = _
  cases run.control.isCancelled <;> rfl

theorem works_checkCancelled : g.Works checkCancelled := by
  intro run
  constructor
  · rw [run_checkCancelled]
  · rw [run_checkCancelled]
    cases h : run.control.isCancelled with
    | true => exact fun _ => rfl
    | false => exact fun he => by cases he

/-- What comes after a look for a cancel starts without one. -/
theorem works_checked {x : Unit → Attempt σ α}
    (hx : ∀ run : Run σ, run.control.isCancelled = false → g.WorksFrom (x ()) run) :
    g.Works (checkCancelled >>= x) := by
  intro run
  refine (works_checkCancelled run).bind ?_
  intro _ ha
  rw [run_checkCancelled] at ha ⊢
  cases h : run.control.isCancelled with
  | true =>
      rw [h] at ha
      cases ha
  | false => exact hx run h

/-- A suspension, when no cancel was accepted. -/
theorem WorksFrom.ask {run : Run σ} {r : Request} (inside : r ≠ .gate)
    (going : run.control.isCancelled = false) : g.WorksFrom (g.surroundings.ask r).sure run where
  moves := .single (.ask r inside going)
  honest := fun he => by cases he

theorem works_sleep (ms : Nat) : g.Works (g.sleep ms) := by
  apply works_checked
  intro run going
  exact (WorksFrom.ask (by simp) going).bind fun _ _ => works_checkCancelled _

theorem run_sleep (ms : Nat) (run : Run σ) :
    (g.sleep ms).run run =
      if run.control.isCancelled then (.error .cancelled, run)
      else checkCancelled.run (g.surroundings.ask (.sleep ms) run).2 := by
  have hbind : (g.sleep ms).run run =
      ExceptT.bindCont (fun _ => (g.surroundings.ask (.sleep ms)).sure >>= fun _ => checkCancelled)
        (checkCancelled.run run).1 (checkCancelled.run run).2 := rfl
  rw [hbind, run_checkCancelled]
  cases run.control.isCancelled <;> rfl

/-- A sleep fails with nothing but a cancel. -/
theorem run_sleep_error (ms : Nat) (run : Run σ) (e : StepError)
    (h : ((g.sleep ms).run run).1 = .error e) : e = .cancelled := by
  rw [run_sleep] at h
  split at h
  · cases h
    rfl
  · rw [run_checkCancelled] at h
    split at h
    · cases h
      rfl
    · cases h

/-- Repeating a call that is a suspension, by induction on the attempts that are left. -/
theorem works_retry (what : String) {call : Act σ (Except DeviceError α)}
    (hcall : ∀ run : Run σ, run.control.isCancelled = false → g.WorksFrom call.sure run)
    (left : Nat) : g.Works (g.retry what call left) := by
  induction left with
  | zero =>
      apply works_checked
      intro run going
      refine (hcall run going).bind ?_
      intro answer _
      cases answer with
      | ok a => exact works_pure a _
      | error e => exact works_throw (by simp) _
  | succ left ih =>
      apply works_checked
      intro run going
      refine (hcall run going).bind ?_
      intro answer _
      cases answer with
      | ok a => exact works_pure a _
      | error e =>
          dsimp only
          split
          · exact (works_note _).bind (fun _ => (works_sleep _).bind fun _ => ih) _
          · exact works_throw (by simp) _

theorem works_perform (a : DeviceAction) : g.Works (g.perform a) :=
  works_retry _ (fun _ going => .ask (by simp) going) _

theorem works_fetchTree : g.Works g.fetchTree := by
  refine (works_retry _ (fun _ going => .ask (by simp) going) _).bind ?_
  intro state
  exact (works_see _).bind fun _ => works_pure _

/-! ## Steps -/

/-- What is put together from the parts of a step makes moves only, by induction on how it is put
together. -/
theorem Composed.works {x : Attempt σ α} (h : g.Composed x) : g.Works x := by
  induction h with
  | ended honest =>
      intro run
      exact ⟨.refl, fun he => absurd he honest⟩
  | handle _ passes _ first next =>
      refine first.handle ?_
      intro outcome run accepted
      by_cases cancelled : outcome = .error .cancelled
      · rw [cancelled, passes]
        exact .error fun _ => accepted cancelled
      · exact next outcome cancelled run
  | time => exact works_look fun _ => rfl
  | knownScreen => exact works_look fun _ => rfl
  | note n => exact works_note n
  | sleep ms => exact works_sleep ms
  | perform a => exact works_perform a
  | fetchTree => exact works_fetchTree

/-- Carrying out a step makes moves only, and fails with a cancel only if one was
accepted. -/
theorem works_execute (s : Step) : g.Works (g.execute s) := (composed_execute s).works

end Engine

end UiReplay
