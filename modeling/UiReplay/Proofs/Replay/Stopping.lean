import UiReplay.Proofs.Replay.Addressed
import UiReplay.Proofs.Replay.Quiet

/-!
# Replays that end at a failure

One engine may end a replay at the first failure, and another that is the same in all else goes on
behind it (`Engine.stopping`).  The two carry out a step in the same way (`execute_stopping`), so
they have one and the same run up to the first failure.  From there on only the second asks for
more, until it is completed (`completed_replaySteps`).

`Progress.EndsAtFailure` says how the two compare in the end: the results of the first are those of
the second up to the first failure (`upToFailure`).  `endsAtFailure_replaySteps` proves it by
induction on the steps that are left, and `replay_stopping` for the whole replay.
-/

namespace UiReplay

/-! ## Results up to a failure -/

/-- The results up to the first failure, which is the last of them. -/
def upToFailure : List StepResult → List StepResult
  | [] => []
  | r :: others => if r.status.isFailure then [r] else r :: upToFailure others

/-- Whether there is a failure among some results. -/
def hasFailure (results : List StepResult) : Bool := results.any fun r => r.status.isFailure

theorem upToFailure_cons_failure {r : StepResult} (h : r.status.isFailure = true)
    (others : List StepResult) : upToFailure (r :: others) = [r] := if_pos h

theorem upToFailure_append {earlier : List StepResult} (clean : hasFailure earlier = false)
    (others : List StepResult) :
    upToFailure (earlier ++ others) = earlier ++ upToFailure others := by
  induction earlier with
  | nil => rfl
  | cons r earlier ih =>
      obtain ⟨hr, clean⟩ : r.status.isFailure = false ∧ hasFailure earlier = false := by
        simpa [hasFailure] using clean
      rw [List.cons_append, upToFailure, if_neg (by simp [hr]), ih clean, List.cons_append]

/-- Without a failure these are all results. -/
theorem upToFailure_of_clean {results : List StepResult} (clean : hasFailure results = false) :
    upToFailure results = results := by
  have h := upToFailure_append clean []
  rwa [List.append_nil, upToFailure, List.append_nil] at h

/-- A progress that ends at the first failure of another, which is completed. -/
structure Progress.EndsAtFailure (p q : Progress) : Prop where
  /-- It has the results up to the first failure. -/
  results : p.results = upToFailure q.results
  /-- It failed if there is a failure, and is completed otherwise. -/
  status : p.status = if hasFailure q.results then .failed else .completed
  /-- The other one is completed. -/
  completed : q.status = .completed

namespace Engine

variable {σ α : Type}

/-! ## Two engines -/

/-- The engine, once it ends a replay at the first failure or goes on behind it. -/
def stopping (g : Engine σ) (stops : Bool) : Engine σ :=
  { g with config := { g.config with stopOnError := stops } }

variable (g : Engine σ) (stops : Bool)

/-- Within a step an engine does not look whether failures end the replay. -/
theorem execute_stopping (s : Step) : (g.stopping stops).execute s = g.execute s := by
  refine execute_tuned g stops g.idleLooks fun d _ => ?_
  unfold wait
  simp only [lookUntil_tuned]
  rfl

theorem carried_stopping (total index : Nat) (s : Step) (run : Run σ) :
    (g.stopping stops).carried total index s run = g.carried total index s run := by
  rw [carried, resultOf, execute_stopping]
  rfl

theorem behind_stopping (total index : Nat) (s : Step) (others : List Step) (r : StepResult)
    (run : Run σ) :
    (g.stopping stops).behind total index s others r run =
      g.behind total index s others r run := by
  rw [behind, carried_stopping]
  rfl

variable {g : Engine σ} {run : Run σ}

/-! ## The replay that goes on -/

/-- A replay that goes on behind failures is completed, by induction on the steps that are left.
It only adds results, one for each step, and requests. -/
theorem completed_replaySteps (quiet : g.surroundings.IsQuiet)
    (config : g.config.stopOnError = false) (total index : Nat) (steps : List Step)
    (clear : run.IsClear) :
    ∃ q run' more, g.replaySteps total index steps run = (.ended q, run') ∧
      q.status = .completed ∧ q.results = run.control.progress.results ++ more ∧
      more.length = steps.length ∧ run.sent <+: run'.sent := by
  induction steps generalizing index run with
  | nil =>
      rw [replaySteps_nil total index clear, finish_eq]
      exact ⟨_, _, [], rfl, rfl, (List.append_nil _).symm, rfl, [],
        (List.append_nil _).trans (sent_finish ..).symm⟩
  | cons s others ih =>
      obtain ⟨r, hr, -, -⟩ := exists_carried quiet total index s clear
      obtain ⟨q, run', more, hreplay, completed, results, length, sent⟩ :=
        ih (index + 1) (isClear_behind quiet total index s others r clear)
      refine ⟨q, run', r :: more, ?_, completed, ?_, congrArg (· + 1) length, ?_⟩
      · rw [replaySteps_cons quiet total index clear hr, config, Bool.and_false,
          if_neg Bool.false_ne_true, hreplay]
      · rw [results, results_behind quiet total index s others r clear, ← List.append_cons]
      · rw [sent_behind] at sent
        exact (sent_carried total index s run).trans sent

/-! ## Both replays -/

/-- From one run on, one replay ends at the first failure of the other, which is completed.  It is
by induction on the steps that are left: up to the first failure both are the same run, and behind
it only the second goes on. -/
theorem endsAtFailure_replaySteps (quiet : g.surroundings.IsQuiet) (total index : Nat)
    (steps : List Step) (clear : run.IsClear)
    (clean : hasFailure run.control.progress.results = false) :
    ∃ p run₁ q run₂, (g.stopping true).replaySteps total index steps run = (.ended p, run₁) ∧
      (g.stopping false).replaySteps total index steps run = (.ended q, run₂) ∧
      p.EndsAtFailure q ∧ q.results.length = run.control.progress.results.length + steps.length ∧
      run₁.sent <+: run₂.sent := by
  induction steps generalizing index run with
  | nil =>
      have atEnd (stops : Bool) : (g.stopping stops).replaySteps total index [] run =
          (.ended (run.control.progress.finish .completed none),
            (finish .completed none run).2) := by
        rw [replaySteps_nil total index clear, finish_eq]
      refine ⟨_, _, _, _, atEnd true, atEnd false, ⟨?_, ?_, rfl⟩, rfl, List.prefix_rfl⟩
      · exact (upToFailure_of_clean clean).symm
      · rw [if_neg (by simp [Progress.finish, clean])]
        rfl
  | cons s others ih =>
      obtain ⟨r, hr, tells, -⟩ := exists_carried quiet total index s clear
      have clear' := isClear_behind quiet total index s others r clear
      have turn (stops : Bool) : (g.stopping stops).replaySteps total index (s :: others) run =
          if r.failure?.isSome && stops then
            finish .failed r.failure? (taken r (g.carried total index s run).2)
          else (g.stopping stops).replaySteps total (index + 1) others
            (g.behind total index s others r run) := by
        rw [replaySteps_cons (g := g.stopping stops) quiet total index clear
          (by rw [carried_stopping, hr]), carried_stopping, behind_stopping]
        rfl
      rw [turn, turn, tells.failure, Bool.and_true, Bool.and_false, if_neg Bool.false_ne_true]
      cases failure : r.status.isFailure with
      | false =>
          rw [if_neg Bool.false_ne_true]
          have clean : hasFailure
              (g.behind total index s others r run).control.progress.results = false := by
            rw [results_behind quiet total index s others r clear]
            simpa [hasFailure, failure] using clean
          obtain ⟨p, run₁, q, run₂, first, second, ends, length, sent⟩ :=
            ih (index + 1) clear' clean
          refine ⟨p, run₁, q, run₂, first, second, ends, ?_, sent⟩
          rw [length, results_behind quiet total index s others r clear, List.length_append,
            List.length_singleton, List.length_cons, Nat.add_assoc, Nat.add_comm 1]
      | true =>
          -- Here the two part: the first is over, and the second is completed some time.
          obtain ⟨q, run₂, more, hreplay, completed, results, length, sent⟩ :=
            completed_replaySteps (g := g.stopping false) quiet rfl total (index + 1) others clear'
          rw [results_behind quiet total index s others r clear, ← List.append_cons] at results
          rw [if_pos rfl, hreplay, finish_eq]
          refine ⟨_, _, q, run₂, rfl, rfl, ⟨?_, ?_, completed⟩, ?_, ?_⟩
          · rw [results, upToFailure_append clean, upToFailure_cons_failure failure]
            exact results_taken quiet total index s r clear
          · rw [results, if_pos (by simp [hasFailure, failure])]
            rfl
          · rw [results, List.length_append, List.length_cons, length, List.length_cons]
          · rw [sent_finish, sent_taken, ← sent_behind total index s others r run]
            exact sent

/-- With surroundings in which nobody uses the remote control, a replay of a valid workflow that
ends at failures ends with the results of one that goes on behind them, up to the first failure.
It failed if there is one, and is completed otherwise.  The other one has a result for every step,
and what the first one asks the device for comes first in what the other one asks for. -/
theorem replay_stopping (g : Engine σ) (quiet : g.surroundings.IsQuiet) {w : Workflow}
    (valid : w.validate = .ok ()) (around : σ) :
    ∃ p run₁ q run₂, (g.stopping true).replay w .fresh around = .ok (.ended p, run₁) ∧
      (g.stopping false).replay w .fresh around = .ok (.ended q, run₂) ∧
      p.EndsAtFailure q ∧ q.results.length = w.steps.length ∧ run₁.sent <+: run₂.sent := by
  obtain ⟨p, run₁, q, run₂, first, second, ends, length, sent⟩ :=
    endsAtFailure_replaySteps (g := g) quiet w.steps.length 0 w.steps
      (isClear_started w around) rfl
  refine ⟨p, run₁, q, run₂, ?_, ?_, ends, length.trans (Nat.zero_add _), sent⟩
  · rw [replay_fresh_of_valid _ valid]
    exact congrArg Except.ok first
  · rw [replay_fresh_of_valid _ valid]
    exact congrArg Except.ok second

end Engine

theorem Surroundings.isQuiet_steady (state : DeviceState) : (steady state).IsQuiet := by
  intro r c around
  cases r <;> rfl

/-- A workflow of two taps, the first of which looks for a node. -/
def Workflow.twoTaps : Workflow where
  id := ⟨0⟩
  steps := [.confirm, { id := ⟨2⟩, action := .tap (.atPoint 5 5), order := 1 }]

/-- An engine on a device that shows nothing. -/
def Engine.lost : Engine Unit where
  surroundings := .steady {}

theorem Engine.replay_stopping_twoTaps :
    Engine.lost.surroundings.IsQuiet ∧ Workflow.twoTaps.validate = .ok () ∧
      ∃ p run₁ q run₂,
        (Engine.lost.stopping true).replay .twoTaps .fresh () = .ok (.ended p, run₁) ∧
          (Engine.lost.stopping false).replay .twoTaps .fresh () = .ok (.ended q, run₂) ∧
          p.EndsAtFailure q ∧ q.results.length = Workflow.twoTaps.steps.length ∧
            run₁.sent <+: run₂.sent :=
  ⟨Surroundings.isQuiet_steady _, rfl,
    Engine.replay_stopping Engine.lost (Surroundings.isQuiet_steady _) rfl ()⟩

end UiReplay
