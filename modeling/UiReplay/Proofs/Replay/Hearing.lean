import UiReplay.Proofs.Control.Calls
import UiReplay.Proofs.Replay.Course

/-!
# What a run hears

Whatever a replay does at a gate or within a step, its journal gets entries of its own and
then the calls that come in (`Run.Hears`).  The entries of its own are notes, and
suspensions as long as no cancel was accepted.  When it ends it writes notes and changes of
the status only (`Engine.finish_journal`).
-/

namespace UiReplay

/-! ## At the gate and within a step -/

/-- An entry that a replay makes at the gate or within a step. -/
inductive JournalEntry.IsOwn (isCancelled : Bool) : JournalEntry → Prop where
  /-- A note. -/
  | note (n : Note) : IsOwn isCancelled (.published (.noted n))
  /-- A suspension, as long as no cancel was accepted. -/
  | suspended (s : Suspension) (going : isCancelled = false) : IsOwn isCancelled (.suspended s)

variable {σ : Type}

/-- A run makes entries of its own, and then calls come in. -/
inductive Run.Hears (run run' : Run σ) : Prop where
  /-- The control is the one after the calls, and the journal says what happened. -/
  | intro (own : List JournalEntry) (xs : List ControlCall)
      (isOwn : ∀ e ∈ own, e.IsOwn run.control.isCancelled)
      (control : run'.control = run.control.calls xs)
      (journal : run'.journal = run.journal ++ (own ++ JournalEntry.ofCalls run.control xs)) :
      Hears run run'

theorem Run.hears_note (n : Note) (run : Run σ) : run.Hears (Run.note n run).2 := by
  refine .intro [.published (.noted n)] [] ?_ rfl rfl
  intro e he
  rw [List.mem_singleton.mp he]
  exact .note n

theorem Run.hears_receive (elapsed : Nat) (xs : List ControlCall) (run : Run σ) :
    run.Hears (Run.receive elapsed xs run).2 :=
  .intro [] xs (fun _ he => absurd he List.not_mem_nil) rfl rfl

theorem Run.hears_ask (w : Surroundings σ) (r : Request) {run : Run σ}
    (going : run.control.isCancelled = false) : run.Hears (w.ask r run).2 := by
  let i := (w.respond r run.control run.around).1
  refine .intro [.suspended ⟨run.clock, r, i⟩] i.calls ?_ rfl rfl
  intro e he
  rw [List.mem_singleton.mp he]
  exact .suspended _ going

namespace Engine

variable {g : Engine σ}

theorem Move.hears {run run' : Run σ} (h : g.Move run run') : run.Hears run' := by
  cases h with
  | note n => exact Run.hears_note n run
  | see tree =>
      exact .intro [] [] (fun _ he => absurd he List.not_mem_nil) rfl (List.append_nil _).symm
  | ask r _ going => exact Run.hears_ask g.surroundings r going

/-! ## The end -/

theorem finish_ending (status : ReplayStatus) (failure : Option StepFailure) (run : Run σ) :
    (finish status failure run).1 = .ended (run.control.progress.finish status failure) := by
  rw [finish, act_bind]
  split <;> rfl

theorem finish_eq (status : ReplayStatus) (failure : Option StepFailure) (run : Run σ) :
    finish status failure run =
      (.ended (run.control.progress.finish status failure), (finish status failure run).2) :=
  Prod.ext (finish_ending status failure run) rfl

theorem finish_control (status : ReplayStatus) (failure : Option StepFailure) (run : Run σ) :
    (finish status failure run).2.control =
      run.control.update fun p => p.finish status failure := by
  rw [finish, act_bind]
  split <;> rfl

/-- The end adds no more than notes and changes of the status to the journal. -/
theorem finish_journal (status : ReplayStatus) (failure : Option StepFailure) (run : Run σ) :
    ∃ own, (finish status failure run).2.journal = run.journal ++ own ∧
      ∀ e ∈ own, (∃ n, e = .published (.noted n)) ∨ ∃ p, e = .published (.statusChanged p) := by
  let p := run.control.progress.finish status failure
  rw [finish, act_bind]
  split
  · refine ⟨[.published (.noted (.completed p.succeeded p.failed p.skipped))] ++
      [.published (.statusChanged p)], ?_, by simp⟩
    exact List.append_assoc run.journal
      [.published (.noted (.completed p.succeeded p.failed p.skipped))] _
  · exact ⟨[.published (.statusChanged p)], rfl, by simp⟩

end Engine

end UiReplay
