import UiReplay.Proofs.Replay.Hearing
import UiReplay.Replay.Memory

/-!
# Engines that are reset

A reset leaves nothing of what an engine keeps, so whatever was done with it before, from then on
it shows what a new one shows (`uses_reset`).  With what a new engine keeps, a replay is that on a
fresh control (`replayWith_new`).

Nothing but a reset helps once a replay is over: calls are not accepted, replays are refused, and
the engine keeps what it has (`uses_of_over`).  That is so behind every replay that came to an end,
whatever the engine kept when it started (`uses_of_ended`).
-/

namespace UiReplay

namespace Engine

variable {σ : Type} (g : Engine σ)

/-! ## One replay -/

/-- An engine that keeps no screens replays a workflow on what is shared. -/
theorem replayWith_control (c : Control) (w : Workflow) (around : σ) :
    (g.replayWith { control := c } w around).1 = g.replay w c around := by
  rw [replayWith, replay]
  cases refusal? c w with
  | some refusal => rfl
  | none => rfl

/-- With a new engine a workflow is replayed on a fresh control. -/
theorem replayWith_new (w : Workflow) (around : σ) :
    (g.replayWith .new w around).1 = g.replay w .fresh around :=
  replayWith_control g .fresh w around

/-! ## Many uses -/

theorem uses_append (m : Memory) (first second : List (Use σ)) :
    g.uses m (first ++ second) =
      ((g.uses m first).1 ++ (g.uses (g.uses m first).2 second).1,
        (g.uses (g.uses m first).2 second).2) := by
  induction first generalizing m with
  | nil => rfl
  | cons u rest ih =>
      rw [List.cons_append, uses_cons, uses_cons, ih]
      rfl

/-- Whatever an engine was used for, from a reset on it shows what a new engine shows, and keeps
what a new engine keeps. -/
theorem uses_reset (m : Memory) (history later : List (Use σ)) :
    g.uses m (history ++ .reset :: later) =
      ((g.uses m history).1 ++ .forgot Control.resetEvent :: (g.uses .new later).1,
        (g.uses .new later).2) := by
  have step (m : Memory) : g.uses m (.reset :: later) =
      (.forgot Control.resetEvent :: (g.uses .new later).1, (g.uses .new later).2) := by
    rw [uses_cons, use, Memory.reset_eq_new]
    rfl
  rw [uses_append, step]

/-! ## Until a reset -/

/-- A use without effect on an engine with this progress. -/
inductive HasNoEffect (p : Progress) : Shown → Prop where
  | called : HasNoEffect p (.called false none)
  | looked : HasNoEffect p (.looked p)
  | refused : HasNoEffect p (.refused (.alreadyOver p.status))

variable {g} {m : Memory}

/-- When the last replay is over, no use but a reset has an effect. -/
theorem use_of_over (terminal : m.control.status.isTerminal = true) {u : Use σ}
    (stays : u ≠ .reset) :
    HasNoEffect m.control.progress (g.use m u).1 ∧ (g.use m u).2 = m := by
  cases u with
  | call x =>
      rw [use, Control.call_of_terminal terminal]
      exact ⟨.called, rfl⟩
  | look => exact ⟨.looked, rfl⟩
  | replay w surroundings around =>
      have refused : refusal? m.control w = some (.alreadyOver m.control.status) := by
        rw [refusal?, if_pos terminal]
      rw [use, replayWith, refused]
      exact ⟨.refused, rfl⟩
  | reset => exact absurd rfl stays

/-- An engine whose last replay is over stays as it is until it is reset, by induction on the
uses. -/
theorem uses_of_over (terminal : m.control.status.isTerminal = true) {us : List (Use σ)}
    (stays : .reset ∉ us) :
    (∀ shown ∈ (g.uses m us).1, HasNoEffect m.control.progress shown) ∧ (g.uses m us).2 = m := by
  induction us with
  | nil => exact ⟨fun _ h => absurd h List.not_mem_nil, rfl⟩
  | cons u rest ih =>
      obtain ⟨first, others⟩ : .reset ≠ u ∧ .reset ∉ rest := by simpa using stays
      obtain ⟨nothing, same⟩ := use_of_over (g := g) terminal (Ne.symm first)
      obtain ⟨noneLater, kept⟩ := ih others
      rw [uses_cons, same]
      exact ⟨List.forall_mem_cons.mpr ⟨nothing, noneLater⟩, kept⟩

/-! ## Behind a replay -/

/-- At the end of a replay the shared progress is the one that is given back, and says so. -/
def Concluded : Spot × Run σ → Prop
  | (.ended p, run) => run.control.progress = p ∧ p.status.isTerminal = true
  | _ => True

theorem concluded_finish {status : ReplayStatus} (terminal : status.isTerminal = true)
    (failure : Option StepFailure) (run : Run σ) :
    Concluded ((finish status failure run).1.spot, (finish status failure run).2) := by
  rw [finish_ending]
  refine ⟨?_, terminal⟩
  rw [finish_control]
  rfl

/-- A replay that is taken on comes to no other end. -/
theorem Concluded.advance {steps : List Step} {here there : Spot × Run σ}
    (h : g.Advance steps here there) : Concluded there := by
  cases h with
  | fail _ _ _ hx => exact hx ▸ concluded_finish rfl _ _
  | cancel _ _ hx => exact hx ▸ concluded_finish rfl _ _
  | complete _ _ hx => exact hx ▸ concluded_finish rfl _ _
  | _ => trivial

/-- A replay that came to an end left its progress, which is over. -/
theorem concluded_replayWith {w : Workflow} {around : σ} {p : Progress} {run : Run σ}
    {m' : Memory} (h : g.replayWith m w around = (.ok (.ended p, run), m')) :
    m'.control.progress = p ∧ p.status.isTerminal = true := by
  rw [replayWith] at h
  cases refused : refusal? m.control w with
  | some refusal =>
      rw [refused] at h
      cases h
  | none =>
      rw [refused] at h
      have concluded : Concluded
          (((g.replayValid w).run (g.startWith (m.recording w) around)).1.spot,
            ((g.replayValid w).run (g.startWith (m.recording w) around)).2) :=
        (course_replaySteps g w.steps _ 0 w.steps rfl (Nat.zero_le _) _).keeps
          (fun advance _ => Concluded.advance advance) trivial
      dsimp only at h
      generalize (g.replayValid w).run (g.startWith (m.recording w) around) = x at h concluded
      obtain ⟨ending, run'⟩ := x
      cases h
      exact concluded

/-- Behind a replay that came to an end, no use but a reset has an effect. -/
theorem uses_of_ended {w : Workflow} {around : σ} {p : Progress} {run : Run σ} {m' : Memory}
    (h : g.replayWith m w around = (.ok (.ended p, run), m')) {us : List (Use σ)}
    (stays : .reset ∉ us) :
    (∀ shown ∈ (g.uses m' us).1, HasNoEffect p shown) ∧ (g.uses m' us).2 = m' := by
  obtain ⟨rfl, terminal⟩ := concluded_replayWith h
  exact uses_of_over terminal stays

end Engine

end UiReplay
