import UiReplay.Proofs.Replay.Course
import UiReplay.Proofs.Replay.Tries

/-!
# What a replay keeps

A course tells every move of a replay.  Something may hold of a run before and behind each step
and not behind each of its moves.  For this it is enough that every step keeps it as a whole, and
that it is kept by whatever a replay does between its steps (`Engine.Invariant`).  Then a whole
replay keeps it (`Engine.Invariant.replay`).

A computation keeps what its parts keep (`Leads.bind`).  So a step keeps what is kept by notes,
sleeps, actions and looks at the tree (`Engine.Composed.keeps`), and a request that is repeated
keeps what the request keeps (`Engine.leads_retry`).
-/

namespace UiReplay

variable {σ α β : Type}

/-! ## Computations -/

/-- From runs of which something holds, a computation leads to runs of which something else
holds. -/
def Leads (P Q : Run σ → Prop) (x : Act σ α) : Prop := ∀ run, P run → Q (x run).2

/-- What holds of a run still holds behind a computation. -/
abbrev Keeps (P : Run σ → Prop) (x : Act σ α) : Prop := Leads P P x

section
variable {P Q R : Run σ → Prop}

theorem keeps_pure (a : α) : Keeps P (pure a : Act σ α) := fun _ h => h

/-- A computation that only looks at the run. -/
theorem keeps_look {x : Act σ α} (h : ∀ run, (x run).2 = run) : Keeps P x := by
  intro run hrun
  rw [h]
  exact hrun

theorem Leads.bind {x : Act σ α} {f : α → Act σ β} (hx : Leads P Q x) (hf : ∀ a, Leads Q R (f a)) :
    Leads P R (x >>= f) :=
  fun run hrun => hf _ _ (hx run hrun)

/-- One attempt after another, where a failure of the first is passed on. -/
theorem Leads.andThen {x : Attempt σ α} {f : α → Attempt σ β} (hx : Leads P Q x.run)
    (hf : ∀ a, Keeps Q (f a).run) : Leads P Q (x >>= f).run := by
  refine Leads.bind (f := ExceptT.bindCont f) hx fun outcome => ?_
  cases outcome with
  | ok a => exact hf a
  | error e => exact keeps_pure _

theorem Leads.sure {x : Act σ α} (hx : Leads P Q x) : Leads P Q x.sure.run :=
  hx.bind fun _ => keeps_pure _

end

namespace Engine

variable {g : Engine σ} {P : Run σ → Prop}

/-! ## Parts of a step -/

theorem keeps_checkCancelled : Keeps P (checkCancelled : Attempt σ Unit).run :=
  keeps_look fun run => congrArg Prod.snd (run_checkCancelled run)

theorem keeps_sleep (asks : ∀ ms, Keeps P (g.surroundings.ask (.sleep ms))) (ms : Nat) :
    Keeps P (g.sleep ms).run :=
  keeps_checkCancelled.andThen fun _ => (asks ms).sure.andThen fun _ => keeps_checkCancelled

/-- A computation leads somewhere with its value, and back with a failure. -/
def Brought {ε : Type} (P : Run σ → Prop) (Q : α → Run σ → Prop) (x : Except ε α × Run σ) : Prop :=
  match x.1 with
  | .ok a => Q a x.2
  | .error _ => P x.2

theorem brought_same {ε : Type} {x : Except ε α × Run σ} (h : P x.2) : Brought P (fun _ => P) x := by
  unfold Brought
  cases x.1 <;> exact h

theorem Brought.same {ε : Type} {x : Except ε α × Run σ} (h : Brought P (fun _ => P) x) :
    P x.2 := by
  unfold Brought at h
  cases hx : x.1 <;> rw [hx] at h <;> exact h

/-- A request leads where its last attempt leads, by induction on the attempts that are left. -/
theorem leads_retry {Q : α → Run σ → Prop} {call : Act σ (Except DeviceError α)}
    (hcall : ∀ run, P run → Brought P Q (call run)) (note : ∀ n, Keeps P (Run.note n))
    (asks : ∀ ms, Keeps P (g.surroundings.ask (.sleep ms))) (what : String) (left : Nat)
    (run : Run σ) (h : P run) : Brought P Q ((g.retry what call left).run run) := by
  have settle (run : Run σ) (h : P run) : Brought P Q (settled (call run).1, (call run).2) := by
    have brought := hcall run h
    unfold Brought at brought ⊢
    cases answer : (call run).1 <;> rw [answer] at brought <;> exact brought
  induction left generalizing run with
  | zero =>
      cases going : run.control.isCancelled with
      | true =>
          rw [run_retry_cancelled what 0 going]
          exact h
      | false =>
          rw [run_retry_settled what going fun _ _ => .inl rfl]
          exact settle run h
  | succ left ih =>
      cases going : run.control.isCancelled with
      | true =>
          rw [run_retry_cancelled what _ going]
          exact h
      | false =>
          by_cases again : ∃ e, (call run).1 = .error e ∧ e.isTransient = true
          · obtain ⟨e, answer, transient⟩ := again
            obtain ⟨n, retried⟩ := run_retry_again g what left going answer transient
            have failed : P (call run).2 := by
              have brought := hcall run h
              rw [Brought, answer] at brought
              exact brought
            have noted := note n _ failed
            have slept := asks g.config.retryDelay _ noted
            rw [retried]
            split
            · exact noted
            · split
              · exact slept
              · exact ih _ slept
          · rw [run_retry_settled what going fun e answer => .inr ?_]
            · exact settle run h
            · exact Bool.eq_false_iff.mpr fun transient => again ⟨e, answer, transient⟩

theorem keeps_perform {a : DeviceAction} (asks : Keeps P (g.surroundings.ask (.perform a)))
    (note : ∀ n, Keeps P (Run.note n)) (sleeps : ∀ ms, Keeps P (g.surroundings.ask (.sleep ms))) :
    Keeps P (g.perform a).run := by
  intro run h
  have brought : Brought P (fun _ => P) ((g.perform a).run run) :=
    leads_retry (fun run h => brought_same (asks run h)) note sleeps _ _ run h
  exact brought.same

/-- What the parts of a step keep, a step keeps, by induction on how it is put together. -/
theorem Composed.keeps {x : Attempt σ α} (h : g.Composed x)
    (note : ∀ n, Keeps P (Run.note n)) (sleep : ∀ ms, Keeps P (g.sleep ms).run)
    (perform : ∀ a, Keeps P (g.perform a).run) (fetchTree : Keeps P g.fetchTree.run) :
    Keeps P x.run := by
  induction h with
  | ended _ => exact keeps_pure _
  | handle _ passes _ first next =>
      refine Leads.bind first fun outcome => ?_
      by_cases cancelled : outcome = .error .cancelled
      · rw [cancelled, passes]
        exact keeps_pure _
      · exact next outcome cancelled
  | time => exact (keeps_look fun _ => rfl).sure
  | knownScreen => exact (keeps_look fun _ => rfl).sure
  | note n => exact (note n).sure
  | sleep ms => exact sleep ms
  | perform a => exact perform a
  | fetchTree => exact fetchTree

/-- A search through a chain keeps what its attempts keep, by induction on the selectors that are
left. -/
theorem keeps_firstHitFrom (c : Chain) {attempt : Selector → Attempt σ (Option α)}
    (hattempt : ∀ s, Keeps P (attempt s).run) (selectors : List Selector) (i : Nat)
    (last : Option StepError) : Keeps P (c.firstHitFrom attempt selectors i last).run := by
  induction selectors generalizing i last with
  | nil => exact keeps_pure _
  | cons s rest ih =>
      refine Leads.bind (hattempt s) fun outcome => ?_
      cases outcome with
      | ok found =>
          cases found with
          | none => exact ih _ _
          | some value => exact keeps_pure _
      | error e =>
          cases e with
          | cancelled => exact keeps_pure _
          | _ => exact ih _ _

/-! ## Replays -/

/-- What is kept by whatever a replay does between its steps, and by each step as a whole.  A step
may rely on more than that, because it was announced. -/
structure Invariant (g : Engine σ) (steps : List Step) (P : Run σ → Prop)
    (within : Nat → Run σ → Prop) : Prop where
  update : ∀ change, Keeps P (Run.update change)
  publish : ∀ e, Keeps P (Run.publish e)
  receive : ∀ elapsed calls, Keeps P (Run.receive elapsed calls)
  /-- Time passes, or the gate is waited for. -/
  ask : ∀ r, r.isDevice = false → Keeps P (g.surroundings.ask r)
  /-- A step is announced. -/
  enter : ∀ i name, Leads P (within i) (announce i name)
  /-- A step is carried out or skipped. -/
  step : ∀ {i s}, steps[i]? = some s → ∀ total name,
    Leads (within i) P (g.resultOf total i name s)

namespace Invariant

variable {steps : List Step} {within : Nat → Run σ → Prop}

section
variable (inv : g.Invariant steps P within)
include inv

theorem passAfter (bursts : List Burst) : Keeps P (passAfter bursts) := by
  induction bursts with
  | nil => exact keeps_look fun _ => rfl
  | cons b rest ih =>
      refine Leads.bind (keeps_look fun _ => rfl) fun run => ?_
      split
      · exact keeps_pure _
      · exact (inv.receive _ _).bind fun _ => ih

theorem pass : Keeps P g.pass := by
  refine Leads.bind (keeps_look fun _ => rfl) fun run => ?_
  split
  · exact keeps_pure _
  · exact (inv.publish _).bind fun _ => (inv.ask .gate rfl).bind fun _ => inv.passAfter _

theorem finish (status : ReplayStatus) (failure : Option StepFailure) :
    Keeps P (finish status failure) := by
  refine (inv.update _).bind fun p => ?_
  split
  · exact (inv.publish _).bind fun _ => (inv.publish _).bind fun _ => keeps_pure _
  · exact (inv.publish _).bind fun _ => keeps_pure _

theorem complete : Keeps P complete := by
  refine Leads.bind (keeps_look fun _ => rfl) fun cancelled => ?_
  split
  · exact inv.finish _ _
  · exact inv.finish _ _

theorem settle (r : StepResult) : Keeps P (settle r) :=
  (inv.update _).bind fun _ => inv.publish _

theorem afterResult (r : StepResult) : Keeps P (g.afterResult r) := by
  refine Leads.bind (keeps_look fun _ => rfl) fun cancelled => ?_
  split
  · exact (inv.finish _ _).bind fun _ => keeps_pure _
  · split
    · exact keeps_pure _
    · refine (inv.publish _).bind fun _ => ?_
      split
      · exact (inv.finish _ _).bind fun _ => keeps_pure _
      · exact keeps_pure _

theorem rest : Keeps P g.rest := by
  unfold Engine.rest
  split
  · exact keeps_pure _
  · refine Leads.bind (keeps_sleep (fun ms => inv.ask (.sleep ms) rfl) _) fun outcome => ?_
    split
    · exact keeps_pure _
    · exact (inv.finish _ _).bind fun _ => keeps_pure _

/-- The steps from a position on, by induction on those that are left. -/
theorem replaySteps (total i : Nat) (others : List Step) (hothers : steps.drop i = others) :
    Keeps P (g.replaySteps total i others) := by
  induction others generalizing i with
  | nil => exact inv.complete
  | cons s others ih =>
      have hs : steps[i]? = some s := by
        rw [← List.head?_drop, hothers, List.head?_cons]
      have hnext : steps.drop (i + 1) = others := by
        rw [← List.tail_drop, hothers, List.tail_cons]
      refine inv.pass.bind fun passage => ?_
      cases passage with
      | cancelled => exact inv.finish _ _
      | stuck => exact keeps_pure _
      | passed =>
          refine (inv.enter i _).bind fun _ => (inv.step hs total _).bind fun result => ?_
          cases result with
          | none => exact inv.finish _ _
          | some r =>
              refine (inv.settle r).bind fun _ => (inv.afterResult r).bind fun ending => ?_
              cases ending with
              | some ending => exact keeps_pure _
              | none =>
                  have rests :
                      Keeps P (if s.enabled && !others.isEmpty then g.rest else pure none) := by
                    split
                    · exact inv.rest
                    · exact keeps_pure _
                  refine rests.bind fun ending => ?_
                  cases ending with
                  | some ending => exact keeps_pure _
                  | none => exact ih (i + 1) hnext

end

/-- A replay that is not refused keeps what holds at its start. -/
theorem replay {w : Workflow} (inv : g.Invariant w.steps P within) {c : Control} {around : σ}
    {ending : Ending} {run : Run σ} (h : g.replay w c around = .ok (ending, run))
    (start : P (g.startOf c w around)) : P run := by
  have replays : Keeps P (g.replayValid w) :=
    (inv.update _).bind fun _ => (inv.publish _).bind fun _ => (inv.publish _).bind fun _ =>
      inv.replaySteps _ 0 _ rfl
  have kept := replays _ start
  unfold Engine.replay at h
  split at h
  · cases h
  · have outcome : (g.replayValid w) (g.startOf c w around) = (ending, run) := Except.ok.inj h
    rw [outcome] at kept
    exact kept

end Invariant

end Engine

end UiReplay
