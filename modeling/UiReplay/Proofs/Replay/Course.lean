import UiReplay.Proofs.Replay.Moves

/-!
# The course of a replay

A replay stands before a step, within it, behind it with its result, or it rests before
the next one, until it is over or held for ever (`Spot`).  `Engine.Advance` lists
everything that takes a run from one spot to the next, with what has to hold at that
moment: the gate is passed only when it is open and no cancel was accepted, a step is left
with a result that tells of it, and the run ends cancelled only after a cancel.

`course_replayValid` says that a replay takes such a course from its start to its end.
What holds at the start and is kept by every advance (`Course.keeps`) therefore holds at
the end of every replay, whatever the workflow, the device and the calls of the remote
control are.
-/

namespace UiReplay

/-! ## Spots -/

/-- Where a replay stands. -/
inductive Spot where
  /-- Before the step at a position, or behind the last one. -/
  | before (index : Nat)
  /-- In the step at a position. -/
  | within (index : Nat)
  /-- Behind the step at a position, which has a result. -/
  | behind (index : Nat) (r : StepResult)
  /-- Done with the step at a position. -/
  | resting (index : Nat)
  /-- At the end. -/
  | ended (p : Progress)
  /-- At a gate that nothing opens. -/
  | held

/-- A spot from which a replay goes on. -/
inductive Spot.IsOpen : Spot → Prop where
  | before (i : Nat) : IsOpen (.before i)
  | within (i : Nat) : IsOpen (.within i)
  | behind (i : Nat) (r : StepResult) : IsOpen (.behind i r)
  | resting (i : Nat) : IsOpen (.resting i)

/-- The spot at which an ending leaves a replay. -/
def Ending.spot : Ending → Spot
  | .ended p => .ended p
  | .held => .held

/-- What a result has to do with the step at a position. -/
structure StepResult.TellsOf (r : StepResult) (s : Step) (index : Nat) : Prop where
  /-- It has the position of the step. -/
  index : r.stepIndex = index
  /-- It has the identifier of the step. -/
  id : r.stepId = s.id
  /-- It is skipped if and only if the step is disabled. -/
  skipped : r.status = .skipped ↔ s.enabled = false
  /-- It tells of a failure if and only if it has the status of one. -/
  failure : r.failure?.isSome = r.status.isFailure

theorem StepResult.tellsOf_ofDisabled {s : Step} (h : s.enabled = false) (index : Nat)
    (name : String) : (StepResult.ofDisabled s index name).TellsOf s index where
  index := rfl
  id := rfl
  skipped := by simp [StepResult.ofDisabled, h]
  failure := rfl

theorem StepResult.tellsOf_ofOutcome {s : Step} (h : s.enabled = true) (index : Nat)
    (name : String) (durationMs : Nat) (outcome : Except StepError StepOutcome) :
    (StepResult.ofOutcome s index name durationMs outcome).TellsOf s index := by
  cases outcome with
  | ok o => exact ⟨rfl, rfl, by simp [StepResult.ofOutcome, h], rfl⟩
  | error e =>
      cases e <;> exact ⟨rfl, rfl, by simp [StepResult.ofOutcome, StepError.status, h], rfl⟩

/-- The result of a step that was carried out, none when it was cancelled. -/
def StepResult.ofEnd? (s : Step) (index : Nat) (name : String) (durationMs : Nat) :
    Except StepError StepOutcome → Option StepResult
  | .error .cancelled => none
  | outcome => some (.ofOutcome s index name durationMs outcome)

theorem StepResult.ofEnd?_eq_none {s : Step} {index : Nat} {name : String} {durationMs : Nat}
    {outcome : Except StepError StepOutcome}
    (h : ofEnd? s index name durationMs outcome = none) : outcome = .error .cancelled := by
  cases outcome with
  | ok o => cases h
  | error e =>
      cases e with
      | cancelled => rfl
      | _ => cases h

theorem StepResult.ofEnd?_eq_some {s : Step} {index : Nat} {name : String} {durationMs : Nat}
    {outcome : Except StepError StepOutcome} (h : outcome ≠ .error .cancelled) :
    ofEnd? s index name durationMs outcome = some (.ofOutcome s index name durationMs outcome) := by
  cases outcome with
  | ok o => rfl
  | error e =>
      cases e with
      | cancelled => exact absurd rfl h
      | _ => rfl

/-! ## How a gate is passed -/

theorem Control.passage?_eq_passed_iff {c : Control} :
    c.passage? = some .passed ↔ c.isCancelled = false ∧ c.isHeld = false := by
  unfold passage?
  cases c.isCancelled <;> cases c.isHeld <;> simp

theorem Control.passage?_eq_cancelled_iff {c : Control} :
    c.passage? = some .cancelled ↔ c.isCancelled = true := by
  unfold passage?
  cases c.isCancelled <;> cases c.isHeld <;> simp

theorem Control.passage?_eq_none_iff {c : Control} :
    c.passage? = none ↔ c.isCancelled = false ∧ c.isHeld = true := by
  unfold passage?
  cases c.isCancelled <;> cases c.isHeld <;> simp

theorem Control.passage?_ne_stuck (c : Control) : c.passage? ≠ some .stuck := by
  unfold passage?
  cases c.isCancelled <;> cases c.isHeld <;> simp

/-- The gate was not passed, and nothing is left to open it. -/
theorem Control.passage?_eq_none_of_getD {c : Control} (h : .stuck = c.passage?.getD .stuck) :
    c.passage? = none := by
  cases hc : c.passage? with
  | none => rfl
  | some p =>
      rw [hc, Option.getD_some] at h
      exact absurd (h ▸ hc) (passage?_ne_stuck c)

theorem Control.passage?_eq_some_of_getD {c : Control} {p : Passage} (hp : p ≠ .stuck)
    (h : p = c.passage?.getD .stuck) : c.passage? = some p := by
  cases hc : c.passage? with
  | none =>
      rw [hc, Option.getD_none] at h
      exact absurd h hp
  | some q =>
      rw [hc, Option.getD_some] at h
      rw [h]

namespace Engine

variable {σ : Type}

/-! ## Advances -/

/-- What takes a replay of some steps on. -/
inductive Advance (g : Engine σ) (steps : List Step) : Spot × Run σ → Spot × Run σ → Prop where
  /-- The replay notes that it waits at the gate. -/
  | noteGate {i : Nat} {run : Run σ} (h : run.control.passage? = none) :
      Advance g steps (.before i, run) (.before i, (Run.note .waitingForResume run).2)
  /-- The replay waits at the gate. -/
  | askGate {i : Nat} {run : Run σ} (h : run.control.passage? = none) :
      Advance g steps (.before i, run) (.before i, (g.surroundings.ask .gate run).2)
  /-- Calls come in at the gate. -/
  | receive {i : Nat} {run : Run σ} (elapsed : Nat) (calls : List ControlCall)
      (h : run.control.passage? = none) :
      Advance g steps (.before i, run) (.before i, (Run.receive elapsed calls run).2)
  /-- Nothing opens the gate. -/
  | stay {i : Nat} {run : Run σ} (h : run.control.passage? = none) :
      Advance g steps (.before i, run) (.held, run)
  /-- The replay starts the next step. -/
  | enter {i : Nat} {run : Run σ} {s : Step} (hs : steps[i]? = some s)
      (h : run.control.passage? = some .passed) :
      Advance g steps (.before i, run)
        (.within i, (announce i (g.namer.labelForStep s) run).2)
  /-- The step makes a move. -/
  | move {i : Nat} {run run' : Run σ} (h : g.Move run run') :
      Advance g steps (.within i, run) (.within i, run')
  /-- The step has a result. -/
  | settle {i : Nat} {run : Run σ} {s : Step} {r : StepResult} (hs : steps[i]? = some s)
      (hr : r.TellsOf s i) :
      Advance g steps (.within i, run) (.behind i r, (settle r run).2)
  /-- The step did not fail. -/
  | calm {i : Nat} {run : Run σ} {r : StepResult} (going : run.control.isCancelled = false)
      (hr : r.failure? = none) :
      Advance g steps (.behind i r, run) (.resting i, run)
  /-- The step failed, and the replay goes on. -/
  | regret {i : Nat} {run : Run σ} {r : StepResult} {f : StepFailure}
      (going : run.control.isCancelled = false) (hr : r.failure? = some f)
      (config : g.config.stopOnError = false) :
      Advance g steps (.behind i r, run) (.resting i, (Run.publish (.stepFailed f) run).2)
  /-- The step failed, and this ends the replay. -/
  | fail {i : Nat} {run : Run σ} {r : StepResult} {f : StepFailure}
      (going : run.control.isCancelled = false) (hr : r.failure? = some f)
      (config : g.config.stopOnError = true) {x : Ending × Run σ}
      (hx : x = finish .failed (some f) (Run.publish (.stepFailed f) run).2) :
      Advance g steps (.behind i r, run) (x.1.spot, x.2)
  /-- The replay sleeps before the next step. -/
  | sleep {i : Nat} {run : Run σ} (ms : Nat) (going : run.control.isCancelled = false) :
      Advance g steps (.resting i, run) (.resting i, (g.surroundings.ask (.sleep ms) run).2)
  /-- The replay turns to the next step. -/
  | turn {i : Nat} {run : Run σ} :
      Advance g steps (.resting i, run) (.before (i + 1), run)
  /-- A cancel ends the replay. -/
  | cancel {spot : Spot} {run : Run σ} (isOpen : spot.IsOpen)
      (cancelled : run.control.isCancelled = true) {x : Ending × Run σ}
      (hx : x = finish .cancelled none run) :
      Advance g steps (spot, run) (x.1.spot, x.2)
  /-- There is no step left. -/
  | complete {i : Nat} {run : Run σ} (hi : i = steps.length)
      (going : run.control.isCancelled = false) {x : Ending × Run σ}
      (hx : x = finish .completed none run) :
      Advance g steps (.before i, run) (x.1.spot, x.2)

/-- Advances, one after the other. -/
abbrev Course (g : Engine σ) (steps : List Step) : Spot × Run σ → Spot × Run σ → Prop :=
  Relation.ReflTransGen (g.Advance steps)

variable {g : Engine σ} {steps : List Step}

theorem act_bind {α β : Type} (x : Act σ α) (f : α → Act σ β) (run : Run σ) :
    (x >>= f) run = f (x run).1 (x run).2 := rfl

theorem act_get (run : Run σ) : (get : Act σ (Run σ)) run = (run, run) := rfl

/-- What every advance keeps, a course keeps. -/
theorem Course.keeps {P : Spot × Run σ → Prop}
    (hP : ∀ {here there}, g.Advance steps here there → P here → P there)
    {here there : Spot × Run σ} (h : g.Course steps here there) (start : P here) : P there := by
  induction h with
  | refl => exact start
  | tail _ advance ih => exact hP advance ih

/-- The moves of a step are a course. -/
theorem Moves.course {i : Nat} {run run' : Run σ} (h : g.Moves run run') :
    g.Course steps (.within i, run) (.within i, run') := by
  induction h with
  | refl => exact .refl
  | tail _ hm ih => exact ih.tail (.move hm)

theorem course_cancel {spot : Spot} (isOpen : spot.IsOpen) {run : Run σ}
    (cancelled : run.control.isCancelled = true) :
    g.Course steps (spot, run)
      ((finish .cancelled none run).1.spot, (finish .cancelled none run).2) :=
  .single (.cancel isOpen cancelled rfl)

/-! ## At the gate -/

theorem course_passAfter (g : Engine σ) (steps : List Step) (i : Nat) (bursts : List Burst)
    (run : Run σ) :
    g.Course steps (.before i, run) (.before i, (passAfter bursts run).2) ∧
      (passAfter bursts run).1 = (passAfter bursts run).2.control.passage?.getD .stuck := by
  induction bursts generalizing run with
  | nil => exact ⟨.refl, rfl⟩
  | cons b rest ih =>
      rw [passAfter, act_bind, act_get]
      cases h : run.control.passage? with
      | some passage =>
          refine ⟨.refl, ?_⟩
          show passage = run.control.passage?.getD .stuck
          rw [h]
          rfl
      | none =>
          have hrest := ih (Run.receive b.elapsed b.calls run).2
          exact ⟨.head (.receive b.elapsed b.calls h) hrest.1, hrest.2⟩

/-- The gate is passed as it stands in the end. -/
theorem course_pass (g : Engine σ) (steps : List Step) (i : Nat) (run : Run σ) :
    g.Course steps (.before i, run) (.before i, (g.pass run).2) ∧
      (g.pass run).1 = (g.pass run).2.control.passage?.getD .stuck := by
  rw [pass, act_bind, act_get]
  cases h : run.control.passage? with
  | some passage =>
      refine ⟨.refl, ?_⟩
      show passage = run.control.passage?.getD .stuck
      rw [h]
      rfl
  | none =>
      have hrest := course_passAfter g steps i
        (g.surroundings.ask .gate (Run.note .waitingForResume run).2).1
        (g.surroundings.ask .gate (Run.note .waitingForResume run).2).2
      exact ⟨.head (.noteGate h) (.head (.askGate h) hrest.1), hrest.2⟩

/-! ## In a step -/

/-- A step that is enabled is carried out, and its result is that of its outcome. -/
theorem resultOf_of_enabled {s : Step} (enabled : s.enabled = true) (total i : Nat)
    (name : String) (run : Run σ) :
    g.resultOf total i name s run =
      (StepResult.ofEnd? s i name
        (((g.execute s).run (Run.note (.step (i + 1) total name) run).2).2.clock - run.clock)
        ((g.execute s).run (Run.note (.step (i + 1) total name) run).2).1,
      ((g.execute s).run (Run.note (.step (i + 1) total name) run).2).2) := by
  simp only [resultOf, enabled, if_true, act_bind, Run.time]
  generalize (g.execute s).run (Run.note (.step (i + 1) total name) run).2 = x
  obtain ⟨outcome, after⟩ := x
  cases outcome with
  | ok o => rfl
  | error e => cases e <;> rfl

/-- A step ends without a result only when a cancel was accepted, and its result tells
of it. -/
theorem course_resultOf (g : Engine σ) (steps : List Step) (total i : Nat) (name : String)
    (s : Step) (run : Run σ) :
    g.Course steps (.within i, run) (.within i, (g.resultOf total i name s run).2) ∧
      ((g.resultOf total i name s run).1 = none →
        (g.resultOf total i name s run).2.control.isCancelled = true) ∧
      ∀ r, (g.resultOf total i name s run).1 = some r → r.TellsOf s i := by
  cases enabled : s.enabled with
  | false =>
      rw [resultOf, enabled]
      refine ⟨.single (.move (.note _)), ?_, ?_⟩
      · intro h
        cases h
      · intro r hr
        cases hr
        exact StepResult.tellsOf_ofDisabled enabled i name
  | true =>
      have works := works_execute (g := g) s (Run.note (.step (i + 1) total name) run).2
      rw [resultOf_of_enabled enabled]
      refine ⟨.head (.move (.note _)) works.moves.course, ?_, ?_⟩
      · intro h
        exact works.honest (StepResult.ofEnd?_eq_none h)
      · intro r hr
        rw [StepResult.ofEnd?_eq_some (fun h => by rw [h] at hr; cases hr)] at hr
        cases hr
        exact StepResult.tellsOf_ofOutcome enabled i name _ _

/-! ## Behind a step -/

/-- A result either ends the replay or lets it rest. -/
theorem course_afterResult (g : Engine σ) (steps : List Step) (i : Nat) (r : StepResult)
    (run : Run σ) :
    g.Course steps (.behind i r, run)
      (((g.afterResult r run).1.elim (.resting i) Ending.spot), (g.afterResult r run).2) := by
  cases cancelled : run.control.isCancelled with
  | true =>
      simp only [afterResult, act_bind, Run.isCancelled, cancelled, if_true]
      exact course_cancel (.behind i r) cancelled
  | false =>
      simp only [afterResult, act_bind, Run.isCancelled, cancelled]
      cases hr : r.failure? with
      | none => exact .single (.calm cancelled hr)
      | some f =>
          cases config : g.config.stopOnError with
          | true =>
              simp only [Bool.false_eq_true, if_false, act_bind, if_true]
              exact .single (.fail cancelled hr config rfl)
          | false =>
              simp only [Bool.false_eq_true, if_false, act_bind]
              exact .single (.regret cancelled hr config)

theorem course_sleep (g : Engine σ) (steps : List Step) (i ms : Nat) (run : Run σ) :
    g.Course steps (.resting i, run) (.resting i, ((g.sleep ms).run run).2) := by
  rw [run_sleep]
  split
  · exact .refl
  · next going =>
      rw [run_checkCancelled]
      exact .single (.sleep ms (Bool.eq_false_iff.mpr going))

/-- The sleep between two steps ends the replay only after a cancel. -/
theorem course_rest (g : Engine σ) (steps : List Step) (i : Nat) (run : Run σ) :
    g.Course steps (.resting i, run)
      (((g.rest run).1.elim (.resting i) Ending.spot), (g.rest run).2) := by
  by_cases h : g.config.stepDelay = 0
  · simp only [rest, h, if_true]
    exact .refl
  · have slept := course_sleep g steps i g.config.stepDelay run
    have honest := (works_sleep (g := g) g.config.stepDelay run).honest
    have only := run_sleep_error (g := g) g.config.stepDelay run
    simp only [rest, h, if_false, act_bind]
    generalize (g.sleep g.config.stepDelay).run run = x at slept honest only ⊢
    obtain ⟨outcome, after⟩ := x
    cases outcome with
    | ok _ => exact slept
    | error e =>
        have cancelled := honest (congrArg Except.error (only e rfl))
        exact slept.trans (course_cancel (.resting i) cancelled)

theorem course_restIf (g : Engine σ) (steps : List Step) (goes : Bool) (i : Nat) (run : Run σ) :
    g.Course steps (.resting i, run)
      ((((if goes then g.rest else pure none) run).1.elim (.resting i) Ending.spot),
        ((if goes then g.rest else pure none) run).2) := by
  cases goes with
  | true => exact course_rest g steps i run
  | false => exact .refl

/-! ## All steps -/

theorem course_complete (g : Engine σ) (steps : List Step) (run : Run σ) :
    g.Course steps (.before steps.length, run) ((complete run).1.spot, (complete run).2) := by
  rw [complete, act_bind]
  cases h : run.control.isCancelled with
  | true =>
      simp only [Run.isCancelled, h, if_true]
      exact course_cancel (.before _) h
  | false =>
      simp only [Run.isCancelled, h, Bool.false_eq_true, if_false]
      exact .single (.complete rfl h rfl)

/-- The replay of the steps from a position on, by induction on the steps that are left. -/
theorem course_replaySteps (g : Engine σ) (steps : List Step) (total i : Nat)
    (others : List Step) (hothers : steps.drop i = others) (hi : i ≤ steps.length)
    (run : Run σ) :
    g.Course steps (.before i, run)
      ((g.replaySteps total i others run).1.spot, (g.replaySteps total i others run).2) := by
  induction others generalizing i run with
  | nil =>
      have hlength : i = steps.length := Nat.le_antisymm hi (List.drop_eq_nil_iff.mp hothers)
      subst hlength
      exact course_complete g steps run
  | cons s others ih =>
      have hs : steps[i]? = some s := by
        rw [← List.head?_drop, hothers, List.head?_cons]
      have hnext : steps.drop (i + 1) = others := by
        rw [← List.tail_drop, hothers, List.tail_cons]
      have hi' : i + 1 ≤ steps.length := (List.getElem?_eq_some_iff.mp hs).1
      have hpass := course_pass g steps i run
      rw [replaySteps, act_bind]
      generalize g.pass run = x at hpass ⊢
      obtain ⟨passage, run⟩ := x
      obtain ⟨hgate, hpassage⟩ := hpass
      refine hgate.trans ?_
      cases passage with
      | cancelled =>
          have h := Control.passage?_eq_some_of_getD (by simp) hpassage
          exact course_cancel (.before i) (Control.passage?_eq_cancelled_iff.mp h)
      | stuck => exact .single (.stay (Control.passage?_eq_none_of_getD hpassage))
      | passed =>
          have hpassed := Control.passage?_eq_some_of_getD (by simp) hpassage
          refine .head (.enter hs hpassed) ?_
          -- What is left is the step itself, its result, and the sleep after it.
          simp only [act_bind]
          have hresult := course_resultOf g steps total i (g.namer.labelForStep s) s
            (announce i (g.namer.labelForStep s) run).2
          generalize g.resultOf total i _ s _ = x at hresult ⊢
          obtain ⟨result, run⟩ := x
          obtain ⟨hwork, hcancelled, htells⟩ := hresult
          refine hwork.trans ?_
          cases result with
          | none => exact course_cancel (.within i) (hcancelled rfl)
          | some r =>
              refine .head (.settle hs (htells r rfl)) ?_
              have hafter := course_afterResult g steps i r (settle r run).2
              simp only [act_bind]
              generalize g.afterResult r (settle r run).2 = x at hafter ⊢
              obtain ⟨ending, run⟩ := x
              refine hafter.trans ?_
              cases ending with
              | some ending => exact .refl
              | none =>
                  have hrest := course_restIf g steps (s.enabled && !others.isEmpty) i run
                  simp only [act_bind]
                  generalize (if s.enabled && !others.isEmpty then g.rest else pure none) run = x
                    at hrest ⊢
                  obtain ⟨ending, run⟩ := x
                  refine hrest.trans ?_
                  cases ending with
                  | some ending => exact .refl
                  | none => exact .head .turn (ih (i + 1) hnext hi' run)

/-! ## The whole replay -/

/-- The run before the first step. -/
def started (g : Engine σ) (w : Workflow) (c : Control) (around : σ) : Run σ :=
  let (p, run) := Run.update (fun p => p.start w) (g.startOf c w around)
  (Run.note (.replaying w.name w.steps.length) (Run.publish (.statusChanged p) run).2).2

theorem course_replayValid (g : Engine σ) (w : Workflow) (c : Control) (around : σ) :
    g.Course w.steps (.before 0, g.started w c around)
      (((g.replayValid w).run (g.startOf c w around)).1.spot,
        ((g.replayValid w).run (g.startOf c w around)).2) :=
  course_replaySteps g w.steps w.steps.length 0 w.steps rfl (Nat.zero_le _) _

/-- On a fresh control a valid workflow is replayed from its first step on. -/
theorem replay_fresh_of_valid (g : Engine σ) {w : Workflow} (valid : w.validate = .ok ())
    (around : σ) :
    g.replay w .fresh around =
      .ok (g.replaySteps w.steps.length 0 w.steps (g.started w .fresh around)) := by
  simp only [replay, refusal?, valid]
  rfl

/-- A fresh control starts every workflow that is valid. -/
theorem replay_fresh (g : Engine σ) {w : Workflow} (valid : w.validate = .ok ()) (around : σ) :
    ∃ ending run, g.replay w .fresh around = .ok (ending, run) :=
  ⟨_, _, replay_fresh_of_valid g valid around⟩

/-- A replay that is not refused takes its course. -/
theorem course_replay {g : Engine σ} {w : Workflow} {c : Control} {around : σ} {ending : Ending}
    {run : Run σ} (h : g.replay w c around = .ok (ending, run)) :
    g.Course w.steps (.before 0, g.started w c around) (ending.spot, run) := by
  unfold replay at h
  split at h
  · cases h
  · have hcourse := course_replayValid g w c around
    rw [Except.ok.inj h] at hcourse
    exact hcourse

end Engine

end UiReplay
