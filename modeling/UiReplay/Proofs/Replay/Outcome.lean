import UiReplay.Proofs.Control.Gate
import UiReplay.Proofs.Replay.Hearing
import UiReplay.Replay.Rehearsal

/-!
# How a replay ends

A replay that ends tells of a prefix of its workflow, one result for each step and in
order (`Follows`).  Its status says how it ended, and `Engine.Outcome` says what each
status means: there is a result for every step, or the last result is the first failure
and failures end the replay, or a cancel was accepted.

The invariant is `Engine.Standing`.  It says for every spot how many results there are,
that none but the one just added is a failure when failures end the replay, and that the
gate is closed only while the status is paused.
`Standing.advance` carries it through one advance, one case for each, and
`replay_outcome` through a whole replay.
-/

namespace UiReplay

/-! ## Results in order -/

/-- Results for the first steps, one for each and in order. -/
def Follows (steps : List Step) (results : List StepResult) : Prop :=
  ∀ (i : Nat) (r : StepResult), results[i]? = some r → ∃ s, steps[i]? = some s ∧ r.TellsOf s i

theorem Follows.nil (steps : List Step) : Follows steps [] := by
  intro i r h
  cases h

theorem Follows.add {steps : List Step} {results : List StepResult} {s : Step} {r : StepResult}
    (h : Follows steps results) (hs : steps[results.length]? = some s)
    (hr : r.TellsOf s results.length) : Follows steps (results ++ [r]) := by
  intro i r' hi
  rcases Nat.lt_trichotomy i results.length with hlt | heq | hgt
  · rw [List.getElem?_append_left hlt] at hi
    exact h i r' hi
  · subst heq
    rw [List.getElem?_concat_length] at hi
    cases hi
    exact ⟨s, hs, hr⟩
  · rw [List.getElem?_eq_none (by rw [List.length_append]; exact hgt)] at hi
    cases hi

/-- Every result counts as a success, as a failure, or as skipped. -/
theorem Progress.counts (p : Progress) :
    p.succeeded + p.failed + p.skipped = p.results.length := by
  unfold succeeded failed skipped
  induction p.results with
  | nil => rfl
  | cons r rest ih =>
      cases h : r.status <;> simp +decide [h] <;> omega

namespace Engine

variable {σ : Type}

/-- What a progress says when a replay of some steps is over. -/
structure Outcome (g : Engine σ) (steps : List Step) (run : Run σ) (p : Progress) : Prop where
  /-- It is the one that is shared. -/
  progress : run.control.progress = p
  /-- It has results for the first steps. -/
  follows : Follows steps p.results
  /-- It says that the replay is over. -/
  terminal : p.status.isTerminal = true
  /-- When it says that the replay came to its end, there is a result for every step. -/
  completed : p.status = .completed → p.results.length = steps.length
  /-- When it says that the replay failed, the last result is the first failure, and the
  progress tells of it. -/
  failed : p.status = .failed → g.config.stopOnError = true ∧ p.failure.isSome = true ∧
    ∃ earlier last, p.results = earlier ++ [last] ∧ last.status.isFailure = true ∧
      p.failure = last.failure? ∧ ∀ r ∈ earlier, r.status.isFailure = false
  /-- When it says that the replay was cancelled, a cancel was accepted. -/
  cancelled : p.status = .cancelled → .called .cancel true ∈ run.journal
  /-- It tells of a failure only when it says that the replay failed. -/
  failure : p.status ≠ .failed → p.failure = none
  /-- Every result is counted once. -/
  counts : p.succeeded + p.failed + p.skipped = p.results.length

/-! ## The invariant -/

/-- What is true of a run that goes on and has so many results, of which the pending ones
were just added. -/
structure Underway (g : Engine σ) (steps : List Step) (done : Nat) (pending : List StepResult)
    (run : Run σ) : Prop where
  /-- The status is that of a replay that goes on. -/
  active : run.control.status.IsActive
  /-- The gate is closed if and only if the status is paused. -/
  agrees : run.control.Agrees
  /-- There are results for the first steps. -/
  follows : Follows steps run.control.progress.results
  /-- There are so many results. -/
  length : run.control.progress.results.length = done
  /-- Before the pending ones there is no failure, when failures end the replay. -/
  clean : ∃ clean, run.control.progress.results = clean ++ pending ∧
    (g.config.stopOnError = true → ∀ r ∈ clean, r.status.isFailure = false)
  /-- No failure has ended the replay. -/
  failure : run.control.progress.failure = none
  /-- A cancel that is known was accepted. -/
  cancelled : run.control.isCancelled = true → .called .cancel true ∈ run.journal

/-- What is true of a run at a spot. -/
def Standing (g : Engine σ) (steps : List Step) : Spot × Run σ → Prop
  | (.before i, run) => g.Underway steps i [] run
  | (.within i, run) => g.Underway steps i [] run
  | (.behind i r, run) => g.Underway steps (i + 1) [r] run ∧ r.failure?.isSome = r.status.isFailure
  | (.resting i, run) => g.Underway steps (i + 1) [] run
  | (.ended p, run) => g.Outcome steps run p
  | (.held, run) => run.control.status = .paused ∧ run.control.isCancelled = false

variable {g : Engine σ} {steps : List Step}

section
variable {done : Nat} {pending : List StepResult} {run run' : Run σ}

/-- A run stays as it is if its results do and if its journal tells of a new cancel. -/
theorem Underway.keep (h : g.Underway steps done pending run)
    (active : run'.control.status.IsActive) (agrees : run'.control.Agrees)
    (results : run'.control.progress.results = run.control.progress.results)
    (failure : run'.control.progress.failure = run.control.progress.failure)
    (cancelled : run'.control.isCancelled = true →
      run.control.isCancelled = true ∨ .called .cancel true ∈ run'.journal)
    (journal : run.journal ⊆ run'.journal) : g.Underway steps done pending run' where
  active := active
  agrees := agrees
  follows := by rw [results]; exact h.follows
  length := by rw [results]; exact h.length
  clean := by rw [results]; exact h.clean
  failure := by rw [failure]; exact h.failure
  cancelled := by
    intro hc
    rcases cancelled hc with hc | hc
    · exact journal (h.cancelled hc)
    · exact hc

theorem Underway.hears (h : g.Underway steps done pending run) (heard : run.Hears run') :
    g.Underway steps done pending run' := by
  obtain ⟨own, xs, _, control, journal⟩ := heard
  have keeps := Control.keeps_calls h.active xs
  refine h.keep ?_ ?_ ?_ ?_ ?_ ?_
  · rw [control]
    exact keeps.active
  · rw [control]
    exact Control.agrees_calls h.active h.agrees xs
  · rw [control, keeps.progress]
  · rw [control, keeps.progress]
  · intro hc
    rw [control, Control.isCancelled_calls_iff] at hc
    rcases hc with hc | hc
    · exact .inl hc
    · refine .inr ?_
      rw [journal]
      exact List.mem_append_right _ (List.mem_append_right _ hc)
  · rw [journal]
    exact List.subset_append_left _ _

theorem Underway.publish (h : g.Underway steps done pending run) (e : ReplayEvent) :
    g.Underway steps done pending (Run.publish e run).2 :=
  h.keep h.active h.agrees rfl rfl .inl (List.subset_append_left _ _)

theorem Underway.announce (h : g.Underway steps done pending run) (i : Nat) (name : String) :
    g.Underway steps done pending (announce i name run).2 :=
  h.keep h.active h.agrees rfl rfl .inl (List.subset_append_left _ _)

/-- A result is added for the next step. -/
theorem Underway.settle {s : Step} {r : StepResult} (h : g.Underway steps done [] run)
    (hs : steps[done]? = some s) (hr : r.TellsOf s done) :
    g.Underway steps (done + 1) [r] (settle r run).2 where
  active := h.active
  agrees := h.agrees
  follows := h.follows.add (by rw [h.length]; exact hs) (by rw [h.length]; exact hr)
  length := by
    show (run.control.progress.results ++ [r]).length = done + 1
    rw [List.length_append, h.length, List.length_singleton]
  clean := by
    obtain ⟨clean, hclean, faultless⟩ := h.clean
    rw [List.append_nil] at hclean
    exact ⟨clean, congrArg (· ++ [r]) hclean, faultless⟩
  failure := h.failure
  cancelled := fun hc => List.mem_append_left _ (h.cancelled hc)

/-- The pending result does not count against the replay. -/
theorem Underway.accept {r : StepResult} (h : g.Underway steps done [r] run)
    (hr : g.config.stopOnError = true → r.status.isFailure = false) :
    g.Underway steps done [] run where
  active := h.active
  agrees := h.agrees
  follows := h.follows
  length := h.length
  clean := by
    obtain ⟨clean, hclean, faultless⟩ := h.clean
    refine ⟨clean ++ [r], by rw [hclean, List.append_nil], ?_⟩
    intro stops r' hr'
    rcases List.mem_append.mp hr' with hr' | hr'
    · exact faultless stops r' hr'
    · rw [List.mem_singleton.mp hr']
      exact hr stops
  failure := h.failure
  cancelled := h.cancelled

/-- A run that goes on has the outcome that it is ended with. -/
theorem Underway.outcome {status : ReplayStatus} {failure : Option StepFailure}
    (h : g.Underway steps done pending run) (terminal : status.isTerminal = true)
    (completed : status = .completed → done = steps.length)
    (failed : status = .failed → g.config.stopOnError = true ∧ failure.isSome = true ∧
      ∃ last, pending = [last] ∧ last.status.isFailure = true ∧ failure = last.failure?)
    (cancelled : status = .cancelled → run.control.isCancelled = true)
    (nothing : status ≠ .failed → failure = none) :
    g.Standing steps ((finish status failure run).1.spot, (finish status failure run).2) := by
  rw [finish_ending]
  have hcontrol := finish_control status failure run
  obtain ⟨own, hjournal, _⟩ := finish_journal status failure run
  generalize (finish status failure run).2 = after at hcontrol hjournal
  exact {
    progress := by rw [hcontrol]; rfl
    follows := h.follows
    terminal := terminal
    completed := fun hs => h.length.trans (completed hs)
    failed := by
      intro hs
      obtain ⟨stops, isSome, last, rfl, hlast, hfailure⟩ := failed hs
      obtain ⟨clean, hclean, faultless⟩ := h.clean
      exact ⟨stops, isSome, clean, last, hclean, hlast, hfailure, faultless stops⟩
    cancelled := by
      intro hs
      rw [hjournal]
      exact List.mem_append_left _ (h.cancelled (cancelled hs))
    failure := nothing
    counts := Progress.counts _ }

end

/-- A run that has not ended is underway. -/
theorem Standing.underway {spot : Spot} {run : Run σ} (h : g.Standing steps (spot, run))
    (isOpen : spot.IsOpen) : ∃ done pending, g.Underway steps done pending run := by
  cases isOpen with
  | before i => exact ⟨i, [], h⟩
  | within i => exact ⟨i, [], h⟩
  | behind i r => exact ⟨i + 1, [r], h.1⟩
  | resting i => exact ⟨i + 1, [], h⟩

/-- An advance keeps what is true of a run at a spot. -/
theorem Standing.advance {here there : Spot × Run σ} (advance : g.Advance steps here there)
    (h : g.Standing steps here) : g.Standing steps there := by
  cases advance with
  | noteGate _ => exact Underway.publish h _
  | askGate closed =>
      have going := (Control.passage?_eq_none_iff.mp closed).1
      exact Underway.hears h (Run.hears_ask _ _ going)
  | receive elapsed calls _ => exact Underway.hears h (Run.hears_receive elapsed calls _)
  | stay closed =>
      obtain ⟨going, held⟩ := Control.passage?_eq_none_iff.mp closed
      exact ⟨Underway.agrees h |>.mp held, going⟩
  | enter _ _ => exact Underway.announce h _ _
  | move move => exact Underway.hears h move.hears
  | settle hs hr => exact ⟨Underway.settle h hs hr, hr.failure⟩
  | calm _ hr =>
      refine h.1.accept fun _ => ?_
      rw [← h.2, hr]
      rfl
  | regret _ _ config =>
      refine (h.1.publish _).accept fun stops => ?_
      rw [config] at stops
      cases stops
  | fail _ hr config hx =>
      subst hx
      refine (h.1.publish _).outcome rfl (fun hs => by cases hs) ?_ (fun hs => by cases hs) ?_
      · intro _
        refine ⟨config, rfl, _, rfl, ?_, hr.symm⟩
        rw [← h.2, hr]
        rfl
      · intro hs
        exact absurd rfl hs
  | sleep ms going => exact Underway.hears h (Run.hears_ask _ _ going)
  | turn => exact h
  | cancel isOpen cancelled hx =>
      subst hx
      obtain ⟨done, pending, underway⟩ := h.underway isOpen
      exact underway.outcome rfl (fun hs => by cases hs) (fun hs => by cases hs)
        (fun _ => cancelled) (fun _ => rfl)
  | complete hi _ hx =>
      subst hx
      exact Underway.outcome h rfl (fun _ => hi) (fun hs => by cases hs) (fun hs => by cases hs)
        (fun _ => rfl)

/-! ## The whole replay -/

/-- Before the first step of a replay on a fresh control there are no results. -/
theorem standing_started (g : Engine σ) (w : Workflow) (around : σ) :
    g.Standing w.steps (.before 0, g.started w .fresh around) :=
  { active := .inl rfl
    agrees := Control.agrees_start w
    follows := .nil _
    length := rfl
    clean := ⟨[], rfl, fun _ _ h => absurd h List.not_mem_nil⟩
    failure := rfl
    cancelled := fun h => by cases h }

/-- A replay of a valid workflow on a fresh control stays paused for ever, or it is over with
an outcome, whatever its surroundings do. -/
theorem replay_outcome (g : Engine σ) {w : Workflow} (valid : w.validate = .ok ()) (around : σ) :
    ∃ ending run, g.replay w .fresh around = .ok (ending, run) ∧
      match ending with
      | .held => run.control.status = .paused ∧ run.control.isCancelled = false
      | .ended p => g.Outcome w.steps run p := by
  have hreplay : g.replay w .fresh around =
      .ok ((g.replayValid w).run (g.startOf .fresh w around)) := by
    simp only [replay, refusal?, valid]
    rfl
  generalize hx : (g.replayValid w).run (g.startOf .fresh w around) = x at hreplay
  obtain ⟨ending, run⟩ := x
  have standing := (course_replay hreplay).keeps Standing.advance (standing_started g w around)
  refine ⟨ending, run, hreplay, ?_⟩
  cases ending with
  | held => exact standing
  | ended p => exact standing

end Engine

/-- A workflow of two waits, the second of which is disabled. -/
def Workflow.twoWaits : Workflow where
  id := ⟨0⟩
  steps := [
    { id := ⟨1⟩, action := .wait (.forMs 10) },
    { id := ⟨2⟩, action := .wait (.forMs 20), enabled := false, order := 1 }]

theorem Engine.replay_outcome_twoWaits :
    Workflow.twoWaits.validate = .ok () ∧
      ∃ ending run, Engine.replay ⟨Stage.surroundings, {}, {}, {}, 0⟩ .twoWaits .fresh {} =
          .ok (ending, run) ∧
        match ending with
        | .held => run.control.status = .paused ∧ run.control.isCancelled = false
        | .ended p => Engine.Outcome ⟨Stage.surroundings, {}, {}, {}, 0⟩
            Workflow.twoWaits.steps run p :=
  ⟨rfl, Engine.replay_outcome _ rfl _⟩

end UiReplay
