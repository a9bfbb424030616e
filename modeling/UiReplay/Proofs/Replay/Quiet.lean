import UiReplay.Proofs.Replay.Hearing
import UiReplay.Proofs.Replay.Requests

/-!
# Replays that nobody interferes with

Surroundings may make no use of the remote control (`Surroundings.IsQuiet`).  Then a run that is
not cancelled and whose gate is open stays so, whatever a step does (`Moves.control`), and every
step has a result (`exists_carried`).

So the loop over the steps is a plain recursion (`replaySteps_cons`): the step is carried out, its
result is taken, and then the replay ends if the result is a failure and failures end it, or else
it rests and goes on with the next step.  Behind the last step it is completed
(`replaySteps_nil`).
-/

namespace UiReplay

variable {σ : Type}

/-- Nobody uses the remote control while a run waits.  The gate, which asks for calls of its own,
is never reached when it is open. -/
def Surroundings.IsQuiet (w : Surroundings σ) : Prop :=
  ∀ r c around, (w.respond r c around).1.calls = []

/-- A run that is not cancelled and whose gate is open. -/
def Run.IsClear (run : Run σ) : Prop := run.control.passage? = some .passed

theorem Run.IsClear.going {run : Run σ} (h : run.IsClear) : run.control.isCancelled = false :=
  (Control.passage?_eq_passed_iff.mp h).1

/-- Whether a run is clear does not depend on its progress. -/
theorem Run.isClear_of_control {run run' : Run σ} {change : Progress → Progress}
    (h : run.IsClear) (control : run'.control = run.control.update change) : run'.IsClear := by
  rw [Run.IsClear, control]
  exact h

namespace Engine

variable {g : Engine σ} {run run' : Run σ}

/-! ## Moves -/

theorem control_ask (quiet : g.surroundings.IsQuiet) (r : Request) (run : Run σ) :
    (g.surroundings.ask r run).2.control = run.control := by
  show run.control.calls (g.surroundings.respond r run.control run.around).1.calls = run.control
  rw [quiet]
  rfl

theorem isClear_ask (quiet : g.surroundings.IsQuiet) (r : Request) (clear : run.IsClear) :
    (g.surroundings.ask r run).2.IsClear := by
  rw [Run.IsClear, control_ask quiet]
  exact clear

theorem Move.control (quiet : g.surroundings.IsQuiet) (h : g.Move run run') :
    run'.control = run.control := by
  cases h with
  | note n => rfl
  | see tree => rfl
  | ask r _ _ => exact control_ask quiet r run

theorem Moves.control (quiet : g.surroundings.IsQuiet) (h : g.Moves run run') :
    run'.control = run.control := by
  induction h with
  | refl => rfl
  | tail _ move ih => exact (move.control quiet).trans ih

theorem Move.sent (h : g.Move run run') : run.sent <+: run'.sent := by
  cases h with
  | note n => exact ⟨[], (List.append_nil _).trans (Run.sent_publish _ _).symm⟩
  | see tree => exact List.prefix_rfl
  | ask r _ _ =>
      obtain ⟨x, -, hsent⟩ := Run.sent_ask g.surroundings r run
      rw [hsent]
      exact List.prefix_append _ _

theorem Moves.sent (h : g.Moves run run') : run.sent <+: run'.sent := by
  induction h with
  | refl => exact List.prefix_rfl
  | tail _ move ih => exact ih.trans move.sent

theorem moves_resultOf (total index : Nat) (name : String) (s : Step) (run : Run σ) :
    g.Moves run (g.resultOf total index name s run).2 := by
  cases enabled : s.enabled with
  | false =>
      rw [resultOf, enabled]
      exact .single (.note _)
  | true =>
      rw [resultOf_of_enabled enabled]
      exact .head (.note _) (works_execute (g := g) s _).moves

/-! ## One step -/

/-- The result of the step at a position, and the run behind it. -/
def carried (g : Engine σ) (total index : Nat) (s : Step) (run : Run σ) :
    Option StepResult × Run σ :=
  g.resultOf total index (g.namer.labelForStep s) s
    (announce index (g.namer.labelForStep s) run).2

/-- A run once a result is added, and its failure told. -/
def taken (r : StepResult) (run : Run σ) : Run σ :=
  match r.failure? with
  | none => (settle r run).2
  | some f => (Run.publish (.stepFailed f) (settle r run).2).2

/-- A run after the sleep between two steps, if there is one. -/
def rested (g : Engine σ) (sleeps : Bool) (run : Run σ) : Run σ :=
  if sleeps = true ∧ g.config.stepDelay ≠ 0 then
    (g.surroundings.ask (.sleep g.config.stepDelay) run).2
  else run

theorem control_taken (r : StepResult) (run : Run σ) :
    (taken r run).control = run.control.update fun p => p.add r := by
  rw [taken]
  split <;> rfl

theorem sent_taken (r : StepResult) (run : Run σ) : (taken r run).sent = run.sent := by
  have settled : (settle r run).2.sent = run.sent := Run.sent_publish _ _
  rw [taken]
  split
  · exact settled
  · exact (Run.sent_publish _ _).trans settled

theorem control_rested (quiet : g.surroundings.IsQuiet) (sleeps : Bool) (run : Run σ) :
    (g.rested sleeps run).control = run.control := by
  rw [rested]
  split
  · exact control_ask quiet _ run
  · rfl

theorem sent_rested (sleeps : Bool) (run : Run σ) : (g.rested sleeps run).sent = run.sent := by
  rw [rested]
  split
  · obtain ⟨x, -, hsent⟩ := Run.sent_ask g.surroundings (.sleep g.config.stepDelay) run
    exact hsent.trans (List.append_nil _)
  · rfl

theorem sent_finish (status : ReplayStatus) (failure : Option StepFailure) (run : Run σ) :
    (finish status failure run).2.sent = run.sent := by
  rw [finish, act_bind]
  split
  · exact (Run.sent_publish _ _).trans (Run.sent_publish _ _)
  · exact Run.sent_publish _ _

/-- Every step has a result, and changes nothing that is shared but where the replay stands. -/
theorem exists_carried (quiet : g.surroundings.IsQuiet) (total index : Nat) (s : Step)
    (clear : run.IsClear) :
    ∃ r, (g.carried total index s run).1 = some r ∧ r.TellsOf s index ∧
      (g.carried total index s run).2.control =
        run.control.update fun p => p.enter index (g.namer.labelForStep s) := by
  have control := (moves_resultOf (g := g) total index (g.namer.labelForStep s) s
    (announce index (g.namer.labelForStep s) run).2).control quiet
  obtain ⟨-, cancelled, tells⟩ := course_resultOf g [] total index (g.namer.labelForStep s) s
    (announce index (g.namer.labelForStep s) run).2
  cases h : (g.carried total index s run).1 with
  | some r => exact ⟨r, rfl, tells r h, control⟩
  | none =>
      have accepted := cancelled h
      rw [control] at accepted
      cases accepted.symm.trans clear.going

theorem sent_carried (total index : Nat) (s : Step) (run : Run σ) :
    run.sent <+: (g.carried total index s run).2.sent := by
  have announced : (announce index (g.namer.labelForStep s) run).2.sent = run.sent :=
    Run.sent_publish _ _
  rw [← announced]
  exact (moves_resultOf ..).sent

theorem carried_of_disabled {s : Step} (disabled : s.enabled = false) (total index : Nat)
    (run : Run σ) :
    g.carried total index s run =
      (some (.ofDisabled s index (g.namer.labelForStep s)),
        (Run.note (.skipping (g.namer.labelForStep s))
          (announce index (g.namer.labelForStep s) run).2).2) := by
  rw [carried, resultOf, disabled]
  rfl

/-! ## All steps -/

theorem pass_of_clear (clear : run.IsClear) : g.pass run = (.passed, run) := by
  rw [pass, act_bind, act_get, show run.control.passage? = some .passed from clear]
  rfl

theorem afterResult_of_going (r : StepResult) (going : run.control.isCancelled = false) :
    g.afterResult r (settle r run).2 =
      if r.failure?.isSome && g.config.stopOnError then
        (some (finish .failed r.failure? (taken r run)).1,
          (finish .failed r.failure? (taken r run)).2)
      else (none, taken r run) := by
  have going : (settle r run).2.control.isCancelled = false := going
  rw [afterResult, act_bind]
  simp only [Run.isCancelled, going, Bool.false_eq_true, if_false]
  cases hr : r.failure? with
  | none =>
      simp only [taken, hr]
      rfl
  | some f =>
      simp only [taken, hr, act_bind]
      cases g.config.stopOnError <;> rfl

theorem restIf_of_clear (quiet : g.surroundings.IsQuiet) (sleeps : Bool) (clear : run.IsClear) :
    (if sleeps then g.rest else pure none : Act σ (Option Ending)) run =
      (none, g.rested sleeps run) := by
  cases sleeps with
  | false => rfl
  | true =>
      by_cases h : g.config.stepDelay = 0
      · rw [if_pos rfl, rest, if_pos h, rested, if_neg fun both => both.2 h]
        rfl
      · have slept : (g.sleep g.config.stepDelay).run run =
            (.ok (), (g.surroundings.ask (.sleep g.config.stepDelay) run).2) := by
          rw [run_sleep, clear.going, run_checkCancelled, control_ask quiet, clear.going]
          rfl
        rw [if_pos rfl, rest, if_neg h, act_bind, slept, rested, if_pos ⟨rfl, h⟩]
        rfl

/-- The run before the next step, when a step has a result and the replay goes on. -/
def behind (g : Engine σ) (total index : Nat) (s : Step) (others : List Step) (r : StepResult)
    (run : Run σ) : Run σ :=
  g.rested (s.enabled && !others.isEmpty) (taken r (g.carried total index s run).2)

theorem control_behind (quiet : g.surroundings.IsQuiet) (total index : Nat) (s : Step)
    (others : List Step) (r : StepResult) (clear : run.IsClear) :
    (g.behind total index s others r run).control =
      run.control.update fun p => (p.enter index (g.namer.labelForStep s)).add r := by
  obtain ⟨-, -, -, control⟩ := exists_carried quiet total index s clear
  rw [behind, control_rested quiet, control_taken, control]
  rfl

theorem isClear_behind (quiet : g.surroundings.IsQuiet) (total index : Nat) (s : Step)
    (others : List Step) (r : StepResult) (clear : run.IsClear) :
    (g.behind total index s others r run).IsClear :=
  Run.isClear_of_control clear (control_behind quiet total index s others r clear)

theorem results_taken (quiet : g.surroundings.IsQuiet) (total index : Nat) (s : Step)
    (r : StepResult) (clear : run.IsClear) :
    (taken r (g.carried total index s run).2).control.progress.results =
      run.control.progress.results ++ [r] := by
  obtain ⟨-, -, -, control⟩ := exists_carried quiet total index s clear
  rw [control_taken, control]
  rfl

theorem results_behind (quiet : g.surroundings.IsQuiet) (total index : Nat) (s : Step)
    (others : List Step) (r : StepResult) (clear : run.IsClear) :
    (g.behind total index s others r run).control.progress.results =
      run.control.progress.results ++ [r] := by
  rw [behind, control_rested quiet]
  exact results_taken quiet total index s r clear

theorem sent_behind (total index : Nat) (s : Step) (others : List Step) (r : StepResult)
    (run : Run σ) :
    (g.behind total index s others r run).sent = (g.carried total index s run).2.sent :=
  (sent_rested _ _).trans (sent_taken _ _)

/-- The replay of a step and of those behind it. -/
theorem replaySteps_cons (quiet : g.surroundings.IsQuiet) (total index : Nat) {s : Step}
    {others : List Step} {r : StepResult} (clear : run.IsClear)
    (hr : (g.carried total index s run).1 = some r) :
    g.replaySteps total index (s :: others) run =
      if r.failure?.isSome && g.config.stopOnError then
        finish .failed r.failure? (taken r (g.carried total index s run).2)
      else
        g.replaySteps total (index + 1) others (g.behind total index s others r run) := by
  obtain ⟨r', hr', -, control⟩ := exists_carried quiet total index s clear
  obtain rfl := Option.some.inj (hr.symm.trans hr')
  have clear := Run.isClear_of_control clear control
  rw [replaySteps, act_bind, pass_of_clear ‹run.IsClear›]
  simp only [act_bind]
  rw [show g.resultOf total index (g.namer.labelForStep s) s
    (announce index (g.namer.labelForStep s) run).2 = g.carried total index s run from rfl]
  rw [behind]
  generalize g.carried total index s run = x at hr clear ⊢
  obtain ⟨result, after⟩ := x
  cases hr
  simp only [act_bind, afterResult_of_going r clear.going]
  split
  · rfl
  · have clear := Run.isClear_of_control clear (control_taken r after)
    simp only [act_bind, restIf_of_clear quiet _ clear]

/-- Behind its last step a replay is completed. -/
theorem replaySteps_nil (total index : Nat) (clear : run.IsClear) :
    g.replaySteps total index [] run = finish .completed none run := by
  rw [replaySteps, complete, act_bind]
  simp only [Run.isCancelled, clear.going, Bool.false_eq_true, if_false]

theorem isClear_started (w : Workflow) (around : σ) : (g.started w .fresh around).IsClear := rfl

end Engine

end UiReplay
