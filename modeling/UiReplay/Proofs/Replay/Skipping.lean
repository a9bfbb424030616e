import UiReplay.Proofs.Replay.Addressed
import UiReplay.Proofs.Replay.Alike

/-!
# Replays without the disabled steps

A workflow that is valid stays so when its disabled steps are taken out and the others are
numbered anew (`Workflow.validate_withoutDisabled`).  On a machine both are replayed with the same
requests, the same status at the end, and the same statuses of the steps that are enabled
(`replay_skipping`).

The two replays stand at different positions, so their runs differ in the progress and in what is
published.  The invariant is that they are alike, and that their results agree but for the skipped
ones (`Agree`).  A disabled step keeps it without a move of the other replay
(`alike_behind_disabled`).  An enabled one keeps it together with its counterpart, unless it is the
last that is enabled: then the first replay may rest once more, and only disabled steps are left to
it (`sameButSkipped_disabled`).
-/

namespace UiReplay

/-! ## Workflows -/

namespace Workflow

/-- The workflow without the steps that are disabled. -/
def withoutDisabled (w : Workflow) : Workflow := w.withSteps (w.steps.filter Step.enabled)

theorem validate_withoutDisabled {w : Workflow} (valid : w.validate = .ok ()) :
    w.withoutDisabled.validate = .ok () := by
  obtain ⟨distinct, -⟩ := validate_eq_ok_iff.mp valid
  exact validate_eq_ok_iff.mpr (isValid_withSteps w (distinct.sublist (List.filter_sublist.map _)))

end Workflow

/-! ## Results -/

/-- The results of steps that were carried out. -/
def carriedOut (results : List StepResult) : List StepResult :=
  results.filter fun r => r.status != .skipped

/-- The statuses that results tell of, each with its step. -/
def statuses (results : List StepResult) : List (Uuid × StepStatus) :=
  results.map fun r => (r.stepId, r.status)

theorem statuses_append (results others : List StepResult) :
    statuses (results ++ others) = statuses results ++ statuses others :=
  List.map_append

theorem carriedOut_add_skipped {r : StepResult} (skipped : r.status = .skipped)
    (results : List StepResult) : carriedOut (results ++ [r]) = carriedOut results := by
  simp [carriedOut, skipped]

theorem carriedOut_add {r : StepResult} (going : r.status ≠ .skipped)
    (results : List StepResult) : carriedOut (results ++ [r]) = carriedOut results ++ [r] := by
  simp [carriedOut, going]

variable {σ : Type}

/-- Two runs whose results agree but for the skipped ones, the second having results for the steps
with these identifiers. -/
structure Agree (ids : List Uuid) (run run' : Run σ) : Prop where
  statuses : statuses (carriedOut run.control.progress.results) =
    statuses run'.control.progress.results
  ids : run'.control.progress.results.map StepResult.stepId = ids

/-- Two replays that are over with the same status, the second having results for the steps that
the first carried out, and that asked the device for the same.  When they are completed, these are
the steps with the given identifiers. -/
structure SameButSkipped (ids : List Uuid) (x y : Ending × Run σ) : Prop where
  ended : ∃ p q, x.1 = .ended p ∧ y.1 = .ended q ∧ p.status = q.status ∧
    statuses (carriedOut p.results) = statuses q.results ∧
    (q.status = .completed → q.results.map StepResult.stepId = ids)
  sent : x.2.sent = y.2.sent

section

variable {ids : List Uuid} {run run' next next' : Run σ} {r r' : StepResult}

theorem Agree.skip (h : Agree ids run run') (skipped : r.status = .skipped)
    (results : next.control.progress.results = run.control.progress.results ++ [r]) :
    Agree ids next run' := by
  refine ⟨?_, h.ids⟩
  rw [results, carriedOut_add_skipped skipped, h.statuses]

theorem Agree.add (h : Agree ids run run') (going : r.status ≠ .skipped)
    (id : r.stepId = r'.stepId) (status : r.status = r'.status)
    (results : next.control.progress.results = run.control.progress.results ++ [r])
    (results' : next'.control.progress.results = run'.control.progress.results ++ [r']) :
    Agree (ids ++ [r'.stepId]) next next' := by
  constructor
  · rw [results, results', carriedOut_add going, statuses_append, statuses_append, h.statuses]
    exact congrArg (_ ++ [·]) (Prod.ext id status)
  · rw [results', List.map_append, h.ids]
    rfl

end

namespace Engine

variable {g : Engine σ} {run run' : Run σ}

/-! ## Behind a step -/

theorem alike_taken (r : StepResult) (clear : run.IsClear) : (taken r run).Alike run := by
  have settled : (settle r run).2.Alike run :=
    ((clear.alike_update _).clear.alike_publish _).trans (clear.alike_update _)
  rw [taken]
  split
  · exact settled
  · exact (settled.clear.alike_publish _).trans settled

/-- A disabled step makes no difference. -/
theorem alike_behind_disabled {s : Step} (disabled : s.enabled = false) (total i : Nat)
    (others : List Step) (r : StepResult) (clear : run.IsClear) :
    (g.behind total i s others r run).Alike run := by
  have carried : (g.carried total i s run).2.Alike run := by
    rw [carried_of_disabled disabled]
    have announced : (announce i (g.namer.labelForStep s) run).2.Alike run :=
      ((clear.alike_update _).clear.alike_publish _).trans (clear.alike_update _)
    exact (announced.clear.alike_publish _).trans announced
  rw [behind, disabled, Bool.false_and, rested, if_neg (by simp)]
  exact (alike_taken r carried.clear).trans carried

/-- The runs behind a step are alike if the replay rests in both or in neither. -/
theorem alike_behind (machine : g.surroundings.IsMachine) {total total' i i' : Nat} {s s' : Step}
    {others others' : List Step}
    (rests : (s.enabled && !others.isEmpty) = (s'.enabled && !others'.isEmpty))
    (r r' : StepResult)
    (alike : (g.carried total i s run).2.Alike (g.carried total' i' s' run').2) :
    (g.behind total i s others r run).Alike (g.behind total' i' s' others' r' run') := by
  have taken : (taken r (g.carried total i s run).2).Alike
      (taken r' (g.carried total' i' s' run').2) :=
    ((alike_taken r alike.clear).trans alike).trans (alike_taken r' alike.clear').symm
  rw [behind, behind, rests, rested, rested]
  split
  · exact (blind_ask machine _ _ _ taken).2
  · exact taken

/-! ## Disabled steps -/

/-- A disabled step is skipped, and the replay goes on. -/
theorem replaySteps_cons_disabled (quiet : g.surroundings.IsQuiet) (total i : Nat) {s : Step}
    (disabled : s.enabled = false) (others : List Step) (clear : run.IsClear) :
    g.replaySteps total i (s :: others) run =
      g.replaySteps total (i + 1) others (g.behind total i s others
        (.ofDisabled s i (g.namer.labelForStep s)) run) := by
  rw [replaySteps_cons quiet total i clear (congrArg Prod.fst (carried_of_disabled disabled ..))]
  rfl

/-- When only disabled steps are left, the replay is completed without a request, by induction on
these steps. -/
theorem replaySteps_disabled (quiet : g.surroundings.IsQuiet) (total i : Nat) (steps : List Step)
    (disabled : steps.filter Step.enabled = []) (clear : run.IsClear) :
    ∃ p, (g.replaySteps total i steps run).1 = .ended p ∧ p.status = .completed ∧
      carriedOut p.results = carriedOut run.control.progress.results ∧
      (g.replaySteps total i steps run).2.sent = run.sent := by
  induction steps generalizing i run with
  | nil =>
      rw [replaySteps_nil total i clear, finish_eq]
      exact ⟨_, rfl, rfl, rfl, sent_finish ..⟩
  | cons s others ih =>
      obtain ⟨hs, disabled⟩ : s.enabled = false ∧ others.filter Step.enabled = [] := by
        simpa using disabled
      have alike := alike_behind_disabled (g := g) hs total i others
        (.ofDisabled s i (g.namer.labelForStep s)) clear
      rw [replaySteps_cons_disabled quiet total i hs others clear]
      obtain ⟨p, ended, completed, results, sent⟩ := ih (i + 1) disabled alike.clear
      refine ⟨p, ended, completed, ?_, sent.trans alike.sent⟩
      rw [results, results_behind quiet total i s others _ clear]
      exact carriedOut_add_skipped rfl _

/-! ## Both replays -/

/-- Behind the last enabled step the second replay is over, and the first one skips what is left. -/
theorem sameButSkipped_disabled (quiet : g.surroundings.IsQuiet) (total total' i j : Nat)
    {steps : List Step} (disabled : steps.filter Step.enabled = []) (clear : run.IsClear)
    (clear' : run'.IsClear) {ids : List Uuid} (agree : Agree ids run run')
    (sent : run.sent = run'.sent) :
    SameButSkipped ids (g.replaySteps total i steps run) (g.replaySteps total' j [] run') := by
  obtain ⟨p, ended, completed, kept, sentOnly⟩ :=
    replaySteps_disabled quiet total i steps disabled clear
  rw [replaySteps_nil total' j clear', finish_eq]
  refine ⟨⟨p, _, ended, rfl, completed, ?_, fun _ => agree.ids⟩, ?_⟩
  · rw [kept]
    exact agree.statuses
  · rw [sentOnly, sent_finish, sent]

/-- From runs that are alike and whose results agree, the replay of steps and that of the enabled
ones among them end the same way.  It is by induction on the steps. -/
theorem sameButSkipped_replaySteps (machine : g.surroundings.IsMachine) (total total' i j : Nat)
    (steps : List Step) {ids : List Uuid} (alike : run.Alike run') (agree : Agree ids run run') :
    SameButSkipped (ids ++ (steps.filter Step.enabled).map Step.id)
      (g.replaySteps total i steps run)
      (g.replaySteps total' j (Workflow.numberFrom j (steps.filter Step.enabled)) run') := by
  induction steps generalizing i j ids run run' with
  | nil =>
      rw [List.filter_nil, List.map_nil, List.append_nil]
      exact sameButSkipped_disabled machine.quiet total total' i j rfl alike.clear alike.clear'
        agree alike.sent
  | cons s others ih =>
      cases enabled : s.enabled with
      | false =>
          -- Only the first replay moves.
          have behind := alike_behind_disabled (g := g) enabled total i others
            (.ofDisabled s i (g.namer.labelForStep s)) alike.clear
          rw [replaySteps_cons_disabled machine.quiet total i enabled others alike.clear,
            List.filter_cons_of_neg (by simp [enabled])]
          exact ih (i + 1) j (behind.trans alike)
            (agree.skip rfl (results_behind machine.quiet total i s others _ alike.clear))
      | true =>
          -- Both replays move, and either both end here or none does.
          rw [List.filter_cons_of_pos enabled, Workflow.numberFrom_cons]
          obtain ⟨r, r', hr, hr', tells, tells', status, carried⟩ :=
            exists_alike_carried machine alike total total' i j s j
          have going : r.status ≠ .skipped := fun h => by
            rw [tells.skipped, enabled] at h
            cases h
          have id : r.stepId = r'.stepId := tells.id.trans tells'.id.symm
          have failure : r.failure?.isSome = r'.failure?.isSome := by
            rw [tells.failure, tells'.failure, status]
          rw [replaySteps_cons machine.quiet total i alike.clear hr,
            replaySteps_cons machine.quiet total' j alike.clear' hr', failure]
          cases stops : r'.failure?.isSome && g.config.stopOnError with
          | true =>
              have agree := agree.add going id status
                (results_taken machine.quiet total i s r alike.clear)
                (results_taken machine.quiet total' j (s.numbered j) r' alike.clear')
              rw [if_pos rfl, if_pos rfl, finish_eq, finish_eq]
              refine ⟨⟨_, _, rfl, rfl, rfl, agree.statuses, fun h => by cases h⟩, ?_⟩
              rw [sent_finish, sent_finish, sent_taken, sent_taken]
              exact carried.sent
          | false =>
              have agree := agree.add going id status
                (results_behind machine.quiet total i s others r alike.clear)
                (results_behind machine.quiet total' j (s.numbered j)
                  (Workflow.numberFrom (j + 1) (others.filter Step.enabled)) r' alike.clear')
              rw [if_neg Bool.false_ne_true, if_neg Bool.false_ne_true, List.map_cons,
                List.append_cons, show s.id = r'.stepId from tells'.id.symm]
              cases left : others.filter Step.enabled with
              | nil =>
                  -- The first replay may have rested, so the runs need not be alike any more.
                  rw [left] at agree
                  rw [List.map_nil, List.append_nil]
                  refine sameButSkipped_disabled machine.quiet total total' (i + 1) (j + 1) left
                    (isClear_behind machine.quiet total i s others r alike.clear)
                    (isClear_behind machine.quiet total' j _ _ r' alike.clear') agree ?_
                  rw [sent_behind, sent_behind, carried.sent]
              | cons t rest =>
                  rw [← left]
                  refine ih (i + 1) (j + 1) (alike_behind machine ?_ r r' carried) agree
                  cases others with
                  | nil => cases left
                  | cons u others =>
                      rw [left]
                      rfl

/-- On a machine, a replay of a valid workflow asks the device for just what the replay of the
workflow without the disabled steps asks for.  The steps that are enabled have the same statuses in
both, all of them have one when the replays are completed, and both end with the same status. -/
theorem replay_skipping (g : Engine σ) (machine : g.surroundings.IsMachine) {w : Workflow}
    (valid : w.validate = .ok ()) (around : σ) :
    ∃ x y, g.replay w .fresh around = .ok x ∧
      g.replay w.withoutDisabled .fresh around = .ok y ∧
      SameButSkipped ((w.steps.filter Step.enabled).map Step.id) x y := by
  refine ⟨_, _, replay_fresh_of_valid g valid around,
    replay_fresh_of_valid g (Workflow.validate_withoutDisabled valid) around, ?_⟩
  exact sameButSkipped_replaySteps machine _ _ 0 0 w.steps
    ⟨isClear_started w around, isClear_started w.withoutDisabled around, rfl, rfl, rfl, rfl, rfl⟩
    ⟨rfl, rfl⟩

end Engine

theorem Surroundings.isMachine_steady (state : DeviceState) : (steady state).IsMachine where
  quiet r _ _ := by cases r <;> rfl
  blind r _ _ _ := by cases r <;> rfl

/-- A workflow of two taps with a disabled wait between them. -/
def Workflow.twoTapsApart : Workflow where
  id := ⟨0⟩
  steps := [
    .confirm,
    { id := ⟨2⟩, action := .wait (.forMs 20), enabled := false, order := 1 },
    { id := ⟨3⟩, action := .tap (.atPoint 5 5), order := 2 }]

theorem Engine.replay_skipping_twoTapsApart :
    Engine.confirming.surroundings.IsMachine ∧ Workflow.twoTapsApart.validate = .ok () ∧
      ∃ x y, Engine.confirming.replay .twoTapsApart .fresh () = .ok x ∧
        Engine.confirming.replay Workflow.twoTapsApart.withoutDisabled .fresh () = .ok y ∧
          SameButSkipped [⟨1⟩, ⟨3⟩] x y :=
  ⟨Surroundings.isMachine_steady _, rfl,
    Engine.replay_skipping Engine.confirming (Surroundings.isMachine_steady _) rfl ()⟩

end UiReplay
