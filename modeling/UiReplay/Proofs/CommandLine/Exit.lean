import UiReplay.CommandLine.Program
import UiReplay.Proofs.Replay.Outcome

/-!
# When a replay from a file succeeds

A script sees of a replay only whether the command succeeded.  `Job.replay_ok_iff` says what this
means: the file holds a valid workflow, the replay came to its end, and every step succeeded or was
skipped.  Whether failures end the replay does not matter.

Nothing pauses the replay at a desk (`Desk.neverPauses_surroundings`), so the gate stays open
(`Engine.Unheld`) and a workflow that is loaded is replayed to an end (`Desk.exists_replays`).  What
its progress says then decides (`Job.run_replay`), together with what every replay keeps to: its
results are those of its first steps, and there are as many of them as steps when it came to its
end (`Engine.Outcome`).
-/

namespace UiReplay

/-! ## Replays that nothing holds -/

/-- No pause comes in while a replay waits. -/
def Surroundings.NeverPauses {σ : Type} (w : Surroundings σ) : Prop :=
  ∀ r c around, .pause ∉ (w.respond r c around).1.calls

namespace Control

theorem isHeld_call {c : Control} {x : ControlCall} (h : x ≠ .pause)
    (opened : c.isHeld = false) : (c.call x).control.isHeld = false := by
  have answers := c.answers_call x
  generalize c.call x = reply at answers
  cases answers with
  | refused => exact opened
  | paused _ => exact absurd rfl h
  | resumed _ => rfl
  | ended _ => exact opened
  | cancelled _ => exact opened

/-- Only a pause closes the gate. -/
theorem isHeld_calls {c : Control} {xs : List ControlCall} (h : .pause ∉ xs)
    (opened : c.isHeld = false) : (c.calls xs).isHeld = false := by
  induction xs generalizing c with
  | nil => exact opened
  | cons x rest ih =>
      refine ih (fun hrest => h (List.mem_cons_of_mem x hrest)) (isHeld_call ?_ opened)
      rintro rfl
      exact h List.mem_cons_self

end Control

namespace Engine

variable {σ : Type} {g : Engine σ} {steps : List Step}

/-- The gate is open, and the replay is not held. -/
def Unheld (here : Spot × Run σ) : Prop := here.2.control.isHeld = false ∧ here.1 ≠ .held

theorem isHeld_ask (never : g.surroundings.NeverPauses) (r : Request) {run : Run σ}
    (opened : run.control.isHeld = false) :
    (g.surroundings.ask r run).2.control.isHeld = false :=
  Control.isHeld_calls (never r run.control run.around) opened

theorem unheld_finish (status : ReplayStatus) (failure : Option StepFailure) {run : Run σ}
    (opened : run.control.isHeld = false) :
    Unheld ((finish status failure run).1.spot, (finish status failure run).2) := by
  constructor
  · rw [finish_control]
    exact opened
  · rw [finish_ending]
    exact fun h => by cases h

/-- Without a pause no advance leads to a closed gate. -/
theorem Unheld.advance (never : g.surroundings.NeverPauses) {here there : Spot × Run σ}
    (advance : g.Advance steps here there) (h : Unheld here) : Unheld there := by
  have opened := h.1
  have shut {c : Control} (closed : c.passage? = none) : c.isHeld = true :=
    (Control.passage?_eq_none_iff.mp closed).2
  cases advance with
  | noteGate closed => exact absurd (shut closed) (Bool.eq_false_iff.mp opened)
  | askGate closed => exact absurd (shut closed) (Bool.eq_false_iff.mp opened)
  | receive _ _ closed => exact absurd (shut closed) (Bool.eq_false_iff.mp opened)
  | stay closed => exact absurd (shut closed) (Bool.eq_false_iff.mp opened)
  | enter _ _ => exact ⟨opened, fun h => by cases h⟩
  | move move =>
      refine ⟨?_, fun h => by cases h⟩
      cases move with
      | note n => exact opened
      | see tree => exact opened
      | ask r _ _ => exact isHeld_ask never r opened
  | settle _ _ => exact ⟨opened, fun h => by cases h⟩
  | calm _ _ => exact ⟨opened, fun h => by cases h⟩
  | regret _ _ _ => exact ⟨opened, fun h => by cases h⟩
  | fail _ _ _ hx =>
      subst hx
      exact unheld_finish _ _ opened
  | sleep ms _ => exact ⟨isHeld_ask never (.sleep ms) opened, fun h => by cases h⟩
  | turn => exact ⟨opened, fun h => by cases h⟩
  | cancel _ _ hx =>
      subst hx
      exact unheld_finish _ _ opened
  | complete _ _ hx =>
      subst hx
      exact unheld_finish _ _ opened

/-- Without a pause a valid workflow is replayed to an end. -/
theorem exists_ended (never : g.surroundings.NeverPauses) {w : Workflow}
    (valid : w.validate = .ok ()) (around : σ) :
    ∃ p run, g.replay w .fresh around = .ok (.ended p, run) := by
  obtain ⟨ending, run, replayed⟩ := replay_fresh g valid around
  have unheld : Unheld (ending.spot, run) :=
    (course_replay replayed).keeps (Unheld.advance never) ⟨rfl, fun h => by cases h⟩
  cases ending with
  | ended p => exact ⟨p, run, replayed⟩
  | held => exact absurd rfl unheld.2

/-- A replay that is over has the outcome that its progress tells. -/
theorem outcome_of_ended {w : Workflow} {around : σ} {p : Progress} {run : Run σ}
    (replayed : g.replay w .fresh around = .ok (.ended p, run)) : g.Outcome w.steps run p :=
  (course_replay replayed).keeps Standing.advance (standing_started g w around)

end Engine

namespace Workflow

theorem validate_of_parse {text : String} {format : Format} {ids ids' : IdSupply} {w : Workflow}
    (h : (parse text format).run ids = (.ok w, ids')) : w.validate = .ok () := by
  unfold parse at h
  split at h
  · cases h
  · rw [StateT.run_bind] at h
    simp only [bind] at h
    split at h
    · next valid =>
        cases h
        exact valid
    · cases h

/-- What is loaded is valid. -/
theorem validate_of_load {files : Files} {path : String} {ids ids' : IdSupply} {w : Workflow}
    (h : (load files path).run ids = (.ok w, ids')) : w.validate = .ok () := by
  unfold load at h
  split at h
  · cases h
  · split at h
    · cases h
    · rw [StateT.run_bind] at h
      generalize parsed : (parse _ _).run ids = x at h
      obtain ⟨result, ids''⟩ := x
      cases result with
      | ok w' =>
          cases h
          exact validate_of_parse parsed
      | error e => cases h

end Workflow

namespace Desk

theorem pause_notMem_callsIn (d : Desk) (ms : Nat) : .pause ∉ d.callsIn ms := by
  unfold callsIn
  split <;> simp

theorem neverPauses_surroundings : surroundings.NeverPauses := by
  intro r c d
  cases r with
  | state =>
      simp only [surroundings, respond, calls_consult]
      exact pause_notMem_callsIn _ _
  | perform action =>
      simp only [surroundings, respond, calls_consult]
      exact pause_notMem_callsIn _ _
  | sleep ms => exact pause_notMem_callsIn d ms
  | gate => exact List.not_mem_nil

/-- A file holds a valid workflow, and the replay of it at a desk is over. -/
inductive Replays (d : Desk) (path : String) (config : ReplayConfig) (w : Workflow)
    (p : Progress) : Prop
  | intro {ids : IdSupply} {run : Run Desk}
      (loads : (Workflow.load d.files path).run d.ids = (.ok w, ids))
      (valid : w.validate = .ok ())
      (ends : Engine.replay { surroundings := surroundings, config := config } w .fresh
        { d with ids := ids } = .ok (.ended p, run))

/-- What is loaded is replayed to an end. -/
theorem exists_replays {d : Desk} {path : String} {w : Workflow}
    (loads : ((Workflow.load d.files path).run d.ids).1 = .ok w) (config : ReplayConfig) :
    ∃ p, d.Replays path config w p := by
  generalize loaded : (Workflow.load d.files path).run d.ids = x at loads
  obtain ⟨_, ids⟩ := x
  cases loads
  have valid := Workflow.validate_of_load loaded
  obtain ⟨p, run, ends⟩ :=
    Engine.exists_ended (g := { surroundings := surroundings, config := config })
      neverPauses_surroundings valid { d with ids := ids }
  exact ⟨p, .intro loaded valid ends⟩

end Desk

/-! ## What counts as an error -/

namespace Progress

/-- A replay counts as a success when it came to its end and no step failed. -/
theorem error?_eq_none_iff (p : Progress) :
    p.error? = none ↔ p.status = .completed ∧ ∀ r ∈ p.results, r.status.isFailure = false := by
  have none_failed : p.failed = 0 ↔ ∀ r ∈ p.results, r.status.isFailure = false := by
    simp [failed]
  rw [error?]
  cases p.status <;> simp [none_failed]

end Progress

theorem StepStatus.isFailure_eq_false_iff {status : StepStatus} :
    status.isFailure = false ↔ status = .success ∨ status = .skipped := by
  cases status <;> simp [isFailure]

theorem StepStatus.isFailure_of_failed {status : StepStatus}
    (h : status = .failed ∨ status = .timeout) : status.isFailure = true := by
  rcases h with rfl | rfl <;> rfl

namespace Desk.Replays

variable {d : Desk} {path : String} {config : ReplayConfig} {w : Workflow} {p : Progress}

theorem follows (h : d.Replays path config w p) : Follows w.steps p.results := by
  obtain ⟨-, -, ends⟩ := h
  exact (Engine.outcome_of_ended ends).follows

/-- A replay that came to its end has a result for every step. -/
theorem exists_result (h : d.Replays path config w p) (completed : p.status = .completed) {i : Nat}
    {s : Step} (hs : w.steps[i]? = some s) :
    ∃ r, p.results[i]? = some r ∧ r.TellsOf s i := by
  obtain ⟨-, -, ends⟩ := h
  have outcome := Engine.outcome_of_ended ends
  have here : i < p.results.length := by
    rw [outcome.completed completed]
    exact (List.getElem?_eq_some_iff.mp hs).1
  have result := List.getElem?_eq_getElem here
  obtain ⟨s', hs', tells⟩ := outcome.follows i _ result
  cases hs.symm.trans hs'
  exact ⟨_, result, tells⟩

/-- A replay counts as a success when it came to its end and no step failed. -/
theorem error?_eq_none_iff (h : d.Replays path config w p) :
    p.error? = none ↔ p.status = .completed ∧ ∀ (i : Nat) (s : Step), w.steps[i]? = some s →
      ∃ r : StepResult, p.results[i]? = some r ∧ r.TellsOf s i ∧
        (r.status = .success ∨ r.status = .skipped) := by
  rw [Progress.error?_eq_none_iff, and_congr_right_iff]
  intro completed
  constructor
  · intro faultless i s hs
    obtain ⟨r, hr, tells⟩ := h.exists_result completed hs
    have calm := faultless r (List.mem_of_getElem? hr)
    exact ⟨r, hr, tells, StepStatus.isFailure_eq_false_iff.mp calm⟩
  · intro each r hr
    obtain ⟨i, hi⟩ := List.getElem?_of_mem hr
    obtain ⟨s, hs, -⟩ := h.follows i r hi
    obtain ⟨r', hr', -, calm⟩ := each i s hs
    cases hi.symm.trans hr'
    exact StepStatus.isFailure_eq_false_iff.mpr calm

end Desk.Replays

namespace Job

variable {α β : Type}

theorem run_bind (x : Job α) (f : α → Job β) (d : Desk) :
    (x >>= f).run d = match x.run d with
      | (.ok a, d) => (f a).run d
      | (.error e, d) => (.error e, d) := by
  show StateT.run (x.run >>= ExceptT.bindCont f) d = _
  rw [StateT.run_bind]
  show StateT.run (ExceptT.bindCont f (x.run d).1) (x.run d).2 = _
  generalize x.run d = y
  obtain ⟨result, d⟩ := y
  cases result <;> rfl

theorem run_get (d : Desk) : (get : Job Desk).run d = (.ok d, d) := rfl

theorem run_withIds (make : IdSupply.With α) (d : Desk) :
    (withIds make).run d = (.ok (make.run d.ids).1, { d with ids := (make.run d.ids).2 }) := rfl

theorem run_orFail_ok {ε : Type} (error : ε → JobError) (a : α) (d : Desk) :
    (orFail error (.ok a)).run d = (.ok a, d) := run_orFail error (.ok a) d

theorem run_orFail_error {ε : Type} (error : ε → JobError) (e : ε) (d : Desk) :
    (orFail error (.error e : Except ε α)).run d = (.error (error e), d) :=
  run_orFail error (.error e) d

variable {path : String} {config : ReplayConfig} {d : Desk}

/-- A file that is not loaded is not replayed. -/
theorem run_replay_of_not_loaded {e : StorageError}
    (h : ((Workflow.load d.files path).run d.ids).1 = .error e) :
    ((replay path config).run d).1 = .error (.storage e) := by
  simp only [replay, run_bind, run_get, run_withIds, h, run_orFail_error]

/-- The progress at the end decides. -/
theorem run_replay {w : Workflow} {p : Progress} (h : d.Replays path config w p) :
    ((replay path config).run d).1 = p.error?.elim (.ok ()) .error := by
  obtain ⟨loads, -, ends⟩ := h
  have progress := (Engine.outcome_of_ended ends).progress
  simp only [replay, run_bind, run_get, run_withIds, loads, ends, run_orFail_ok, progress]
  cases p.error? <;> rfl

theorem run_replay_eq_ok_iff {w : Workflow} {p : Progress} (h : d.Replays path config w p) :
    ((replay path config).run d).1 = .ok () ↔ p.error? = none := by
  rw [run_replay h]
  cases p.error? <;> simp

/-- The command for a replay succeeds if and only if the file holds a valid workflow, the replay
comes to its end, and every step succeeds or is skipped.  It ends with an error when the replay
fails or is cancelled, and when a step fails or runs out of time, also where this does not end the
replay.  What is loaded is always replayed to an end. -/
theorem replay_ok_iff (path : String) (config : ReplayConfig) (d : Desk) :
    let result := ((Command.replay path config).job.run d).1
    (result = .ok () ↔ ∃ w p, d.Replays path config w p ∧ p.status = .completed ∧
      ∀ (i : Nat) (s : Step), w.steps[i]? = some s →
        ∃ r : StepResult, p.results[i]? = some r ∧ r.TellsOf s i ∧
          (r.status = .success ∨ r.status = .skipped)) ∧
    (∀ w p, d.Replays path config w p →
      (p.status = .failed ∨ p.status = .cancelled ∨
        ∃ r ∈ p.results, r.status = .failed ∨ r.status = .timeout) →
      ∃ e, result = .error e) ∧
    (∀ w, ((Workflow.load d.files path).run d.ids).1 = .ok w →
      ∃ p, d.Replays path config w p) ∧
    ∀ e, ((Workflow.load d.files path).run d.ids).1 = .error e → result = .error (.storage e) := by
  dsimp only [Command.job]
  refine ⟨⟨?_, ?_⟩, ?_, fun w loads => Desk.exists_replays loads config, fun e failed =>
    run_replay_of_not_loaded failed⟩
  · intro succeeded
    cases loaded : ((Workflow.load d.files path).run d.ids).1 with
    | error e =>
        rw [run_replay_of_not_loaded loaded] at succeeded
        cases succeeded
    | ok w =>
        obtain ⟨p, replays⟩ := Desk.exists_replays loaded config
        have calm := (run_replay_eq_ok_iff replays).mp succeeded
        exact ⟨w, p, replays, replays.error?_eq_none_iff.mp calm⟩
  · rintro ⟨w, p, replays, calm⟩
    exact (run_replay_eq_ok_iff replays).mpr (replays.error?_eq_none_iff.mpr calm)
  · intro w p replays bad
    cases blame : p.error? with
    | some e => exact ⟨e, by rw [run_replay replays, blame]; rfl⟩
    | none =>
        obtain ⟨completed, faultless⟩ := p.error?_eq_none_iff.mp blame
        rw [completed] at bad
        rcases bad with bad | bad | ⟨r, hr, bad⟩
        · cases bad
        · cases bad
        · cases (faultless r hr).symm.trans (StepStatus.isFailure_of_failed bad)

end Job

end UiReplay
