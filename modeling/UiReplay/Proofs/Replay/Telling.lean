import UiReplay.Proofs.Replay.Outcome

/-!
# What the events of a replay tell

The events of a replay follow a grammar (`Tells`).  The first says that it runs.  Then one
step after the other starts and is done with, in order.  In between the status changes from
running to paused and back, in turn.  The last event says how the replay ended, and only a
cancel ends it within a step.  Notes and failures of steps may stand in between.

`Told` says for every spot of a replay what its events have told by then, and
`Told.advance` carries this through one advance.  `replay_tells` is the statement about a
whole replay: the last event carries the progress that is given back, and no event comes
behind it, since calls of the remote control are refused and no workflow is started any
more.
-/

namespace UiReplay

/-- What the events have told of the steps. -/
inductive Whereabouts where
  /-- So many steps are done with, and none is in progress. -/
  | between (done : Nat)
  /-- The step at a position is in progress. -/
  | amid (index : Nat)

/-- What the events have told of the replay. -/
inductive Scene where
  /-- It goes on. -/
  | going (place : Whereabouts) (status : ReplayStatus)
  /-- It is over. -/
  | over (p : Progress)

/-- What events may come one after the other, and what they have told then. -/
inductive Tells : List ReplayEvent → Scene → Prop where
  | start {p : Progress} (running : p.status = .running) (results : p.results = []) :
      Tells [.statusChanged p] (.going (.between 0) .running)
  | pause {es : List ReplayEvent} {place : Whereabouts} {p : Progress}
      (h : Tells es (.going place .running)) (paused : p.status = .paused) :
      Tells (es ++ [.statusChanged p]) (.going place .paused)
  | resume {es : List ReplayEvent} {place : Whereabouts} {p : Progress}
      (h : Tells es (.going place .paused)) (running : p.status = .running) :
      Tells (es ++ [.statusChanged p]) (.going place .running)
  | note {es : List ReplayEvent} {place : Whereabouts} {status : ReplayStatus} (n : Note)
      (h : Tells es (.going place status)) : Tells (es ++ [.noted n]) (.going place status)
  | regret {es : List ReplayEvent} {done : Nat} {status : ReplayStatus} (f : StepFailure)
      (h : Tells es (.going (.between done) status)) :
      Tells (es ++ [.stepFailed f]) (.going (.between done) status)
  /-- The next step starts, never in a replay that is paused. -/
  | enter {es : List ReplayEvent} {i : Nat} {p : Progress}
      (h : Tells es (.going (.between i) .running)) (running : p.status = .running)
      (current : p.currentStep = some i) (results : p.results.length = i) :
      Tells (es ++ [.stepStarted p]) (.going (.amid i) .running)
  /-- The step in progress is done with, and its result is the last one. -/
  | settle {es : List ReplayEvent} {i : Nat} {status : ReplayStatus} {p : Progress}
      {earlier : List StepResult} {r : StepResult} (h : Tells es (.going (.amid i) status))
      (results : p.results = earlier ++ [r]) (length : p.results.length = i + 1)
      (index : r.stepIndex = i) :
      Tells (es ++ [.stepCompleted p]) (.going (.between (i + 1)) status)
  /-- The replay ends with no step in progress. -/
  | finish {es : List ReplayEvent} {done : Nat} {status : ReplayStatus} {p : Progress}
      (h : Tells es (.going (.between done) status)) (terminal : p.status.isTerminal = true)
      (current : p.currentStep = none) : Tells (es ++ [.statusChanged p]) (.over p)
  /-- A cancel ends the replay within a step. -/
  | cut {es : List ReplayEvent} {i : Nat} {status : ReplayStatus} {p : Progress}
      (h : Tells es (.going (.amid i) status)) (cancelled : p.status = .cancelled)
      (current : p.currentStep = none) : Tells (es ++ [.statusChanged p]) (.over p)

theorem Tells.notes {es : List ReplayEvent} {place : Whereabouts} {status : ReplayStatus}
    (h : Tells es (.going place status)) (ns : List Note) :
    Tells (es ++ ns.map .noted) (.going place status) := by
  induction ns generalizing es with
  | nil => simpa using h
  | cons n rest ih => simpa using ih (h.note n)

/-! ## The events of a journal -/

namespace Run

variable {σ : Type}

@[simp] theorem eventsOf_nil : eventsOf [] = [] := rfl

@[simp] theorem eventsOf_append (a b : List JournalEntry) :
    eventsOf (a ++ b) = eventsOf a ++ eventsOf b :=
  List.filterMap_append

@[simp] theorem eventsOf_published (e : ReplayEvent) (rest : List JournalEntry) :
    eventsOf (.published e :: rest) = e :: eventsOf rest := rfl

@[simp] theorem eventsOf_called (x : ControlCall) (accepted : Bool) (rest : List JournalEntry) :
    eventsOf (.called x accepted :: rest) = eventsOf rest := rfl

@[simp] theorem eventsOf_suspended (s : Suspension) (rest : List JournalEntry) :
    eventsOf (.suspended s :: rest) = eventsOf rest := rfl

@[simp] theorem eventsOf_map_published (es : List ReplayEvent) :
    eventsOf (es.map .published) = es := by
  induction es with
  | nil => rfl
  | cons e rest ih => simp [ih]

theorem eventsOf_ofCalls_cons (c : Control) (x : ControlCall) (rest : List ControlCall) :
    eventsOf (JournalEntry.ofCalls c (x :: rest)) =
      (c.call x).event.toList ++ eventsOf (JournalEntry.ofCalls (c.call x).control rest) := by
  simp [JournalEntry.ofCalls]

/-- At the gate and within a step, a replay itself publishes notes only. -/
theorem eventsOf_own {isCancelled : Bool} {own : List JournalEntry}
    (h : ∀ e ∈ own, e.IsOwn isCancelled) : ∃ ns : List Note, eventsOf own = ns.map .noted := by
  induction own with
  | nil => exact ⟨[], rfl⟩
  | cons e rest ih =>
      obtain ⟨ns, hns⟩ := ih fun e' he' => h e' (List.mem_cons_of_mem _ he')
      cases h e List.mem_cons_self with
      | note n => exact ⟨n :: ns, by simp [hns]⟩
      | suspended s _ => exact ⟨ns, by simp [hns]⟩

end Run

/-! ## The events of calls -/

section
variable {es : List ReplayEvent} {place : Whereabouts} {c : Control}

theorem Tells.call (h : Tells es (.going place c.status)) (active : c.status.IsActive)
    (x : ControlCall) :
    Tells (es ++ (c.call x).event.toList) (.going place (c.call x).control.status) := by
  have answers := c.answers_call x
  generalize c.call x = reply at answers ⊢
  cases answers with
  | refused => simpa using h
  | paused running => exact .pause (by rw [running] at h; exact h) rfl
  | resumed paused => exact .resume (by rw [paused] at h; exact h) rfl
  | ended idle => exact absurd idle active.not_idle
  | cancelled _ =>
      rw [Option.toList_none, List.append_nil]
      exact h

/-- Calls to a replay that goes on are told by their changes of the status. -/
theorem Tells.calls (h : Tells es (.going place c.status)) (active : c.status.IsActive)
    (xs : List ControlCall) :
    Tells (es ++ Run.eventsOf (JournalEntry.ofCalls c xs)) (.going place (c.calls xs).status) := by
  induction xs generalizing c es with
  | nil =>
      rw [JournalEntry.ofCalls, Run.eventsOf_nil, List.append_nil]
      exact h
  | cons x rest ih =>
      rw [Run.eventsOf_ofCalls_cons, ← List.append_assoc]
      exact ih (h.call active x) (Control.keeps_call active x).active

end

/-- Calls to a replay that is over change nothing of its status and publish nothing. -/
theorem Control.calls_of_terminal {c : Control} (terminal : c.status.isTerminal = true)
    (xs : List ControlCall) :
    (c.calls xs).status = c.status ∧ Run.eventsOf (JournalEntry.ofCalls c xs) = [] := by
  induction xs generalizing c with
  | nil => exact ⟨rfl, rfl⟩
  | cons x rest ih =>
      have status := status_call_of_terminal terminal x
      have silent : (c.call x).event = none := by
        have answers := c.answers_call x
        generalize c.call x = reply at answers ⊢
        cases answers with
        | refused => rfl
        | paused h => rw [h] at terminal; cases terminal
        | resumed h => rw [h] at terminal; cases terminal
        | ended h => rw [h] at terminal; cases terminal
        | cancelled _ => rfl
      obtain ⟨hstatus, hevents⟩ := ih (c := (c.call x).control) (by rw [status]; exact terminal)
      refine ⟨hstatus.trans status, ?_⟩
      rw [Run.eventsOf_ofCalls_cons, silent, hevents]
      rfl

/-! ## The invariant -/

namespace Engine

variable {σ : Type}

/-- What the events of a run have told at a spot. -/
def Told : Spot × Run σ → Prop
  | (.before i, run) => Tells (Run.eventsOf run.journal) (.going (.between i) run.control.status)
  | (.within i, run) => Tells (Run.eventsOf run.journal) (.going (.amid i) run.control.status)
  | (.behind i _, run) =>
      Tells (Run.eventsOf run.journal) (.going (.between (i + 1)) run.control.status)
  | (.resting i, run) =>
      Tells (Run.eventsOf run.journal) (.going (.between (i + 1)) run.control.status)
  | (.ended p, run) => Tells (Run.eventsOf run.journal) (.over p)
  | (.held, run) =>
      ∃ done, Tells (Run.eventsOf run.journal) (.going (.between done) run.control.status)

section
variable {run run' : Run σ} {place : Whereabouts}

theorem tells_hears
    (h : Tells (Run.eventsOf run.journal) (.going place run.control.status))
    (active : run.control.status.IsActive) (heard : run.Hears run') :
    Tells (Run.eventsOf run'.journal) (.going place run'.control.status) := by
  obtain ⟨own, xs, isOwn, control, journal⟩ := heard
  obtain ⟨ns, hns⟩ := Run.eventsOf_own isOwn
  rw [journal, control, Run.eventsOf_append, Run.eventsOf_append, hns, ← List.append_assoc]
  exact (h.notes ns).calls active xs

/-- The end is told by the last event. -/
theorem eventsOf_finish (status : ReplayStatus) (failure : Option StepFailure) (run : Run σ) :
    ∃ ns : List Note, Run.eventsOf (finish status failure run).2.journal =
      Run.eventsOf run.journal ++ ns.map .noted ++
        [.statusChanged (run.control.progress.finish status failure)] := by
  let p := run.control.progress.finish status failure
  rw [finish, act_bind]
  split
  · refine ⟨[.completed p.succeeded p.failed p.skipped], ?_⟩
    exact (Run.eventsOf_append _ _).trans (congrArg (· ++ _) (Run.eventsOf_append _ _))
  · exact ⟨[], by rw [List.map_nil, List.append_nil]; exact Run.eventsOf_append _ _⟩

/-- A replay ends between two steps, or within one by a cancel. -/
theorem told_finish {status now : ReplayStatus} {failure : Option StepFailure}
    (h : Tells (Run.eventsOf run.journal) (.going place now)) (terminal : status.isTerminal = true)
    (within : ∀ i, place = .amid i → status = .cancelled) :
    Told ((finish status failure run).1.spot, (finish status failure run).2) := by
  obtain ⟨ns, hns⟩ := eventsOf_finish status failure run
  rw [finish_ending]
  show Tells (Run.eventsOf _) _
  rw [hns]
  cases place with
  | between done => exact .finish (h.notes ns) terminal rfl
  | amid i => exact .cut (h.notes ns) (within i rfl) rfl

end

theorem Told.exists_going {spot : Spot} {run : Run σ} (h : Told (spot, run))
    (isOpen : spot.IsOpen) :
    ∃ place, Tells (Run.eventsOf run.journal) (.going place run.control.status) := by
  cases isOpen with
  | before i => exact ⟨_, h⟩
  | within i => exact ⟨_, h⟩
  | behind i r => exact ⟨_, h⟩
  | resting i => exact ⟨_, h⟩

variable {g : Engine σ} {steps : List Step}

theorem Underway.running {done : Nat} {pending : List StepResult} {run : Run σ}
    (h : g.Underway steps done pending run) (passed : run.control.passage? = some .passed) :
    run.control.status = .running := by
  rcases h.active with running | paused
  · exact running
  · have held := h.agrees.mpr paused
    rw [(Control.passage?_eq_passed_iff.mp passed).2] at held
    cases held

/-- An advance keeps what the events tell. -/
theorem Told.advance {here there : Spot × Run σ} (advance : g.Advance steps here there)
    (standing : g.Standing steps here) (h : Told here) : Told there := by
  cases advance with
  | noteGate _ => exact tells_hears h (Underway.active standing) (Run.hears_note _ _)
  | askGate closed =>
      have going := (Control.passage?_eq_none_iff.mp closed).1
      exact tells_hears h (Underway.active standing) (Run.hears_ask _ _ going)
  | receive elapsed calls _ =>
      exact tells_hears h (Underway.active standing) (Run.hears_receive elapsed calls _)
  | stay _ => exact ⟨_, h⟩
  | @enter i run s hs passed =>
      have running := Underway.running standing passed
      have length := Underway.length standing
      show Tells (Run.eventsOf (_ ++ [_])) (.going _ run.control.status)
      rw [Run.eventsOf_append]
      replace h : Tells _ (.going _ run.control.status) := h
      rw [running] at h ⊢
      exact .enter h running rfl length
  | move move => exact tells_hears h (Underway.active standing) move.hears
  | @settle i run s r hs hr =>
      show Tells (Run.eventsOf (_ ++ [_])) _
      rw [Run.eventsOf_append]
      refine .settle h rfl ?_ hr.index
      show (run.control.progress.results ++ [r]).length = i + 1
      rw [List.length_append, Underway.length standing, List.length_singleton]
  | calm _ _ => exact h
  | regret _ _ _ =>
      show Tells (Run.eventsOf (_ ++ [_])) _
      rw [Run.eventsOf_append]
      exact .regret _ h
  | @fail i run r f _ _ _ x hx =>
      subst hx
      have regretted : Tells (Run.eventsOf (run.journal ++ [.published (.stepFailed f)]))
          (.going (.between (i + 1)) run.control.status) := by
        rw [Run.eventsOf_append]
        exact .regret _ h
      exact told_finish regretted rfl fun i hi => by cases hi
  | sleep ms going => exact tells_hears h (Underway.active standing) (Run.hears_ask _ _ going)
  | turn => exact h
  | cancel isOpen _ hx =>
      subst hx
      obtain ⟨place, hplace⟩ := h.exists_going isOpen
      exact told_finish hplace rfl fun _ _ => rfl
  | complete _ _ hx =>
      subst hx
      exact told_finish h rfl fun i hi => by cases hi

/-! ## The whole replay -/

theorem told_started (g : Engine σ) (w : Workflow) (around : σ) :
    Told (.before 0, g.started w .fresh around) :=
  Tells.note (.replaying w.name w.steps.length)
    (.start (p := Control.fresh.progress.start w) rfl rfl)

/-- A control whose replay is over starts no workflow. -/
theorem replay_of_terminal (g : Engine σ) {c : Control} (terminal : c.status.isTerminal = true)
    (w : Workflow) (around : σ) : g.replay w c around = .error (.alreadyOver c.status) := by
  rw [replay, refusal?, if_pos terminal]

/-- The events of a replay on a fresh control follow the grammar up to its end, where they
carry the progress that is given back.  Calls that come later publish nothing, and no
workflow is started any more.  A replay that is held for ever has told that it is paused. -/
theorem replay_tells (g : Engine σ) {w : Workflow} (valid : w.validate = .ok ()) (around : σ) :
    ∃ ending run, g.replay w .fresh around = .ok (ending, run) ∧
      match ending with
      | .held => ∃ done, Tells (Run.eventsOf run.journal) (.going (.between done) .paused)
      | .ended p => Tells (Run.eventsOf run.journal) (.over p) ∧
          ∀ xs, Run.eventsOf (JournalEntry.ofCalls run.control xs) = [] ∧
            ∀ w' around', g.replay w' (run.control.calls xs) around' =
              .error (.alreadyOver p.status) := by
  obtain ⟨ending, run, hreplay⟩ := replay_fresh g valid around
  have course := course_replay hreplay
  have kept := course.keeps (P := fun x => g.Standing w.steps x ∧ Told x)
    (fun advance h => ⟨h.1.advance advance, h.2.advance advance h.1⟩)
    ⟨standing_started g w around, told_started g w around⟩
  refine ⟨ending, run, hreplay, ?_⟩
  obtain ⟨standing, told⟩ := kept
  cases ending with
  | held =>
      obtain ⟨done, hdone⟩ := told
      rw [standing.1] at hdone
      exact ⟨done, hdone⟩
  | ended p =>
      have status : run.control.status = p.status := congrArg Progress.status standing.progress
      have terminal : run.control.status.isTerminal = true := by rw [status]; exact standing.terminal
      refine ⟨told, fun xs => ?_⟩
      obtain ⟨same, silent⟩ := Control.calls_of_terminal terminal xs
      refine ⟨silent, fun w' around' => ?_⟩
      rw [replay_of_terminal g (by rw [same]; exact terminal), same, status]

end Engine

/-- A stage on which a replay is paused in a step, and resumed at the gate. -/
def Stage.pausing : Stage where
  cues := [⟨5, some .pause⟩, ⟨700, some .resume⟩]

theorem Engine.replay_tells_pausing :
    Workflow.twoWaits.validate = .ok () ∧
      ∃ ending run, Engine.replay ⟨Stage.surroundings, {}, {}, {}, 0⟩ .twoWaits .fresh .pausing =
          .ok (ending, run) ∧
        match ending with
        | .held => ∃ done, Tells (Run.eventsOf run.journal) (.going (.between done) .paused)
        | .ended p => Tells (Run.eventsOf run.journal) (.over p) ∧
            ∀ xs, Run.eventsOf (JournalEntry.ofCalls run.control xs) = [] ∧
              ∀ w' around', Engine.replay ⟨Stage.surroundings, {}, {}, {}, 0⟩ w'
                (run.control.calls xs) around' = .error (.alreadyOver p.status) :=
  ⟨rfl, Engine.replay_tells _ rfl _⟩

end UiReplay
