import Mathlib.Data.List.Induction
import UiReplay.Proofs.Replay.Outcome

/-!
# What pauses and resumes do to a replay

From a pause that was accepted until the next resume that is, only the step in progress goes
on: no step starts, and the device is asked for nothing but that step.  The steps start in
order while the replay runs, and behind a resume that no pause follows the replay goes on to
its end (`Engine.Paced`, `Engine.replay_paced`).

A journal is read from left to right.  It says whether the gate is closed (`gateAfter`), which
step is in progress (`stepInProgress`) and how many steps have started (`startsIn`).  Every
entry has to fit to what stands before it (`Fits`).  The invariant `Watched` ties this reading
to the control, one entry at a time (`Watched.snoc`), and `Watches.advance` carries it along
the course of a replay.
-/

namespace UiReplay

/-! ## Reading a journal -/

namespace JournalEntry

/-- Whether the gate is closed behind an entry. -/
def gateAfter (isHeld : Bool) : JournalEntry → Bool
  | .called .pause true => true
  | .called .resume true => false
  | _ => isHeld

/-- The step in progress behind an entry. -/
def stepAfter (step : Option Nat) : JournalEntry → Option Nat
  | .published (.stepStarted p) => p.currentStep
  | .published (.stepCompleted _) => none
  | .published (.statusChanged p) => if p.status.isTerminal then none else step
  | _ => step

/-- Whether an entry tells of a step that starts. -/
def isStart : JournalEntry → Bool
  | .published (.stepStarted _) => true
  | _ => false

end JournalEntry

/-- Whether the gate is closed behind a journal. -/
def gateAfter (isHeld : Bool) (journal : List JournalEntry) : Bool :=
  journal.foldl JournalEntry.gateAfter isHeld

/-- The step in progress behind a journal. -/
def stepInProgress (journal : List JournalEntry) : Option Nat :=
  journal.foldl JournalEntry.stepAfter none

/-- How many steps have started in a journal. -/
def startsIn (journal : List JournalEntry) : Nat := journal.countP JournalEntry.isStart

section
variable (isHeld : Bool) (journal own : List JournalEntry) (e : JournalEntry)

theorem gateAfter_append :
    gateAfter isHeld (journal ++ own) = gateAfter (gateAfter isHeld journal) own :=
  List.foldl_append

theorem gateAfter_snoc :
    gateAfter isHeld (journal ++ [e]) = e.gateAfter (gateAfter isHeld journal) := by
  rw [gateAfter_append]
  rfl

theorem stepInProgress_snoc :
    stepInProgress (journal ++ [e]) = e.stepAfter (stepInProgress journal) := by
  rw [stepInProgress, List.foldl_append]
  rfl

theorem startsIn_append : startsIn (journal ++ own) = startsIn journal + startsIn own :=
  List.countP_append

theorem startsIn_snoc : startsIn (journal ++ [e]) = startsIn journal + e.isStart.toNat := by
  rw [startsIn_append]
  cases h : e.isStart <;> simp [startsIn, h]

end

theorem JournalEntry.gateAfter_closed {e : JournalEntry} (h : e ≠ .called .resume true) :
    e.gateAfter true = true := by
  unfold gateAfter
  split
  · rfl
  · exact absurd rfl h
  · rfl

theorem JournalEntry.gateAfter_open {e : JournalEntry} (h : e ≠ .called .pause true) :
    e.gateAfter false = false := by
  unfold gateAfter
  split
  · exact absurd rfl h
  · rfl
  · rfl

theorem gateAfter_eq_self {isHeld : Bool} {own : List JournalEntry}
    (h : ∀ e ∈ own, e.gateAfter isHeld = isHeld) : gateAfter isHeld own = isHeld := by
  induction own with
  | nil => rfl
  | cons e rest ih =>
      rw [gateAfter, List.foldl_cons, h e List.mem_cons_self]
      exact ih fun e' he' => h e' (List.mem_cons_of_mem _ he')

/-- From a pause to the next resume the gate is closed. -/
theorem gateAfter_pause {isHeld : Bool} {before during : List JournalEntry}
    (noResume : .called .resume true ∉ during) :
    gateAfter isHeld (before ++ .called .pause true :: during) = true := by
  rw [gateAfter_append]
  show gateAfter true during = true
  refine gateAfter_eq_self fun e he => JournalEntry.gateAfter_closed ?_
  rintro rfl
  exact noResume he

/-- From a resume to the next pause the gate is open. -/
theorem gateAfter_resume {isHeld : Bool} {before during : List JournalEntry}
    (noPause : .called .pause true ∉ during) :
    gateAfter isHeld (before ++ .called .resume true :: during) = false := by
  rw [gateAfter_append]
  show gateAfter false during = false
  refine gateAfter_eq_self fun e he => JournalEntry.gateAfter_open ?_
  rintro rfl
  exact noPause he

theorem startsIn_eq_zero {own : List JournalEntry} (h : ∀ p, .published (.stepStarted p) ∉ own) :
    startsIn own = 0 := by
  refine List.countP_eq_zero.mpr fun e he hstart => ?_
  unfold JournalEntry.isStart at hstart
  split at hstart
  · exact h _ he
  · cases hstart

/-- Without a start, a step in progress was in progress all the time. -/
theorem stepInProgress_of_append {journal own : List JournalEntry}
    (h : ∀ p, .published (.stepStarted p) ∉ own)
    (hsome : (stepInProgress (journal ++ own)).isSome = true) :
    stepInProgress journal = stepInProgress (journal ++ own) := by
  induction own using List.reverseRecOn with
  | nil => rw [List.append_nil]
  | append_singleton own e ih =>
      have noStart : ∀ p, e ≠ .published (.stepStarted p) := by
        rintro p rfl
        exact h p (by simp)
      rw [← List.append_assoc, stepInProgress_snoc] at hsome ⊢
      have same : e.stepAfter (stepInProgress (journal ++ own)) =
          stepInProgress (journal ++ own) := by
        unfold JournalEntry.stepAfter at hsome ⊢
        split at hsome
        · exact absurd rfl (noStart _)
        · cases hsome
        · split at hsome
          · cases hsome
          · next going => rw [if_neg going]
        · rfl
      rw [same] at hsome ⊢
      exact ih (fun p hp => h p (List.mem_append_left _ hp)) hsome

/-! ## Entries that fit -/

/-- Every entry of a journal fits to what stands before it. -/
def EachFits (fits : List JournalEntry → JournalEntry → Prop) (journal : List JournalEntry) : Prop :=
  ∀ before e after, journal = before ++ e :: after → fits before e

namespace EachFits

variable {fits : List JournalEntry → JournalEntry → Prop} {journal own : List JournalEntry}

theorem nil (fits : List JournalEntry → JournalEntry → Prop) : EachFits fits [] := by
  intro before e after h
  simp at h

theorem snoc {e : JournalEntry} (h : EachFits fits journal) (he : fits journal e) :
    EachFits fits (journal ++ [e]) := by
  intro before e' after hj
  rcases List.eq_nil_or_concat after with rfl | ⟨rest, last, rfl⟩
  · obtain ⟨rfl, he'⟩ := List.append_inj' hj rfl
    cases he'
    exact he
  · rw [List.concat_eq_append, ← List.cons_append, ← List.append_assoc] at hj
    obtain ⟨hj, _⟩ := List.append_inj' hj rfl
    exact h before e' rest hj

/-- Entries that fit anywhere. -/
theorem append (h : EachFits fits journal) (anywhere : ∀ before, ∀ e ∈ own, fits before e) :
    EachFits fits (journal ++ own) := by
  induction own using List.reverseRecOn with
  | nil => rwa [List.append_nil]
  | append_singleton own e ih =>
      rw [← List.append_assoc]
      refine snoc (ih fun before e he => ?_) (anywhere _ e (by simp))
      exact anywhere before e (List.mem_append_left _ he)

end EachFits

/-- Whether an entry fits to what stands before it. -/
def Fits (isHeld : Bool) (before : List JournalEntry) : JournalEntry → Prop
  | .published (.stepStarted p) => gateAfter isHeld before = false ∧ p.status = .running ∧
      p.currentStep = some (startsIn before)
  | .suspended s => s.request.isDevice = true → (stepInProgress before).isSome = true
  | _ => True

/-- Every entry of a journal fits. -/
def AllFit (isHeld : Bool) (journal : List JournalEntry) : Prop :=
  ∀ before e after, journal = before ++ e :: after → Fits isHeld before e

theorem AllFit.nil (isHeld : Bool) : AllFit isHeld [] := EachFits.nil _

theorem AllFit.snoc {isHeld : Bool} {journal : List JournalEntry} {e : JournalEntry}
    (h : AllFit isHeld journal) (fits : Fits isHeld journal e) : AllFit isHeld (journal ++ [e]) :=
  EachFits.snoc h fits

/-- Entries that fit anywhere. -/
theorem AllFit.append {isHeld : Bool} {journal own : List JournalEntry} (h : AllFit isHeld journal)
    (fits : ∀ before, ∀ e ∈ own, Fits isHeld before e) : AllFit isHeld (journal ++ own) :=
  EachFits.append h fits

section
variable {isHeld : Bool} {journal before during after : List JournalEntry}

/-- From a pause to the next resume no step starts. -/
theorem AllFit.no_start (fit : AllFit isHeld journal)
    (hj : journal = before ++ .called .pause true :: (during ++ after))
    (noResume : .called .resume true ∉ during) (p : Progress) :
    .published (.stepStarted p) ∉ during := by
  intro hp
  obtain ⟨earlier, later, rfl⟩ := List.append_of_mem hp
  have hsplit : journal = (before ++ .called .pause true :: earlier) ++
      .published (.stepStarted p) :: (later ++ after) := by
    rw [hj]
    simp
  have closed : gateAfter isHeld (before ++ .called .pause true :: earlier) = true :=
    gateAfter_pause fun hr => noResume (List.mem_append_left _ hr)
  obtain ⟨opened, _⟩ := fit _ _ _ hsplit
  rw [closed] at opened
  cases opened

/-- From a pause to the next resume the device is asked only for the step that was in progress
at the pause. -/
theorem AllFit.same_step (fit : AllFit isHeld journal)
    (hj : journal = before ++ .called .pause true :: (during ++ after))
    (noStart : ∀ p, .published (.stepStarted p) ∉ during) {earlier later : List JournalEntry}
    {s : Suspension} (hd : during = earlier ++ .suspended s :: later)
    (device : s.request.isDevice = true) :
    ∃ i, stepInProgress before = some i ∧
      stepInProgress (before ++ .called .pause true :: earlier) = some i := by
  subst hd
  have hsplit : journal = (before ++ .called .pause true :: earlier) ++
      .suspended s :: (later ++ after) := by
    rw [hj]
    simp
  have busy := fit _ _ _ hsplit device
  obtain ⟨i, hi⟩ := Option.isSome_iff_exists.mp busy
  refine ⟨i, ?_, hi⟩
  rw [stepInProgress_of_append (fun p hp => ?_) busy, hi]
  rcases List.mem_cons.mp hp with hp | hp
  · cases hp
  · exact noStart p (List.mem_append_left _ hp)

end

/-! ## The invariant -/

/-- What is true of a control and a journal that had the gate so at its start: the journal
tells of so many starts and of the step in progress, and its entries fit. -/
structure Watched (isHeld : Bool) (starts : Nat) (step : Option Nat) (c : Control)
    (journal : List JournalEntry) : Prop where
  active : c.status.IsActive
  latched : c.status = .paused → c.isHeld = true
  gate : gateAfter isHeld journal = c.isHeld
  starts : startsIn journal = starts
  step : stepInProgress journal = step
  fit : AllFit isHeld journal

namespace Watched

variable {isHeld : Bool} {starts : Nat} {step : Option Nat} {c : Control}
  {journal : List JournalEntry}

/-- One more entry, by which the gate becomes what the control says. -/
theorem snoc (h : Watched isHeld starts step c journal) (e : JournalEntry) (c' : Control)
    (active : c'.status.IsActive) (latched : c'.status = .paused → c'.isHeld = true)
    (gate : e.gateAfter c.isHeld = c'.isHeld) (fits : Fits isHeld journal e) :
    Watched isHeld (starts + e.isStart.toNat) (e.stepAfter step) c' (journal ++ [e]) where
  active := active
  latched := latched
  gate := by rw [gateAfter_snoc, h.gate, gate]
  starts := by rw [startsIn_snoc, h.starts]
  step := by rw [stepInProgress_snoc, h.step]
  fit := h.fit.snoc fits

/-- An event is published with a change of the progress that is none of the status. -/
theorem publish (h : Watched isHeld starts step c journal) (e : ReplayEvent)
    (change : Progress → Progress) (status : (c.update change).status = c.status)
    (fits : Fits isHeld journal (.published e)) :
    Watched isHeld (starts + (JournalEntry.published e).isStart.toNat)
      ((JournalEntry.published e).stepAfter step) (c.update change)
      (journal ++ [.published e]) :=
  h.snoc (.published e) (c.update change) (by rw [status]; exact h.active)
    (by rw [status]; exact h.latched) rfl fits

theorem note (h : Watched isHeld starts step c journal) (n : Note) :
    Watched isHeld starts step c (journal ++ [.published (.noted n)]) :=
  h.publish (.noted n) id rfl trivial

/-- A suspension, for the device only within a step. -/
theorem suspend (h : Watched isHeld starts step c journal) (s : Suspension)
    (within : s.request.isDevice = true → step.isSome = true) :
    Watched isHeld starts step c (journal ++ [.suspended s]) :=
  h.snoc (.suspended s) c h.active h.latched rfl (by rw [Fits, h.step]; exact within)

theorem call (h : Watched isHeld starts step c journal) (x : ControlCall) :
    Watched isHeld starts step (c.call x).control
      (journal ++ .called x (c.call x).accepted :: (c.call x).event.toList.map .published) := by
  have answers := c.answers_call x
  generalize c.call x = reply at answers ⊢
  cases answers with
  | refused => exact h.snoc (.called x false) c h.active h.latched (by cases x <;> rfl) trivial
  | paused _ =>
      have closed := h.snoc (.called .pause true) (c.withStatus .paused).closeGate (.inr rfl)
        (fun _ => rfl) rfl trivial
      have told := closed.snoc (.published (.statusChanged (c.withStatus .paused).progress)) _
        closed.active closed.latched rfl trivial
      rw [List.append_assoc] at told
      exact told
  | resumed _ =>
      have opened := h.snoc (.called .resume true) (c.withStatus .running).openGate (.inl rfl)
        (fun paused => by cases paused) rfl trivial
      have told := opened.snoc (.published (.statusChanged (c.withStatus .running).progress)) _
        opened.active opened.latched rfl trivial
      rw [List.append_assoc] at told
      exact told
  | ended idle => exact absurd idle h.active.not_idle
  | cancelled _ =>
      exact h.snoc (.called .cancel true) { c with isCancelled := true } h.active h.latched rfl
        trivial

/-- Calls come in, one after the other. -/
theorem calls (h : Watched isHeld starts step c journal) (xs : List ControlCall) :
    Watched isHeld starts step (c.calls xs) (journal ++ JournalEntry.ofCalls c xs) := by
  induction xs generalizing c journal with
  | nil =>
      rw [JournalEntry.ofCalls, List.append_nil]
      exact h
  | cons x rest ih =>
      have := ih (h.call x)
      rw [List.append_assoc, List.cons_append] at this
      exact this

end Watched

theorem Watched.ask {σ : Type} {isHeld : Bool} {starts : Nat} {step : Option Nat} {run : Run σ}
    (h : Watched isHeld starts step run.control run.journal) (w : Surroundings σ) (r : Request)
    (within : r.isDevice = true → step.isSome = true) :
    Watched isHeld starts step (w.ask r run).2.control (w.ask r run).2.journal := by
  let i := (w.respond r run.control run.around).1
  have asked := (h.suspend ⟨run.clock, r, i⟩ within).calls i.calls
  rw [List.append_assoc] at asked
  exact asked

/-- A pause, a resume and a pause leave a replay paused. -/
theorem Control.calls_wavering {c : Control} (running : c.status = .running) :
    c.calls [.pause, .resume, .pause] = (c.withStatus .paused).closeGate := by
  have paused : (c.call .pause).control = (c.withStatus .paused).closeGate := by
    rw [call, pause, toPaused?_eq_some_iff.mpr ⟨running, rfl⟩]
  rw [calls, paused]
  rfl

/-! ## Along a course -/

namespace Engine

variable {σ : Type}

/-- How a replay of some steps may be over, so many of them having started. -/
inductive EndsBy (g : Engine σ) (steps : List Step) (starts : Nat) (run : Run σ)
    (p : Progress) : Prop where
  | completed (status : p.status = .completed) (all : starts = steps.length)
  | failed (status : p.status = .failed) (config : g.config.stopOnError = true)
  | cancelled (status : p.status = .cancelled) (accepted : run.control.isCancelled = true)

/-- What is true of a run at a spot whose gate stood so at its start. -/
def Watches (g : Engine σ) (steps : List Step) (isHeld : Bool) : Spot × Run σ → Prop
  | (.before i, run) => Watched isHeld i none run.control run.journal
  | (.within i, run) => Watched isHeld (i + 1) (some i) run.control run.journal
  | (.behind i _, run) => Watched isHeld (i + 1) none run.control run.journal
  | (.resting i, run) => Watched isHeld (i + 1) none run.control run.journal
  | (.ended p, run) =>
      AllFit isHeld run.journal ∧ g.EndsBy steps (startsIn run.journal) run p
  | (.held, run) => AllFit isHeld run.journal ∧ gateAfter isHeld run.journal = true

variable {g : Engine σ} {steps : List Step} {isHeld : Bool}

theorem Watches.exists_watched {spot : Spot} {run : Run σ}
    (h : g.Watches steps isHeld (spot, run)) (isOpen : spot.IsOpen) :
    ∃ starts step, Watched isHeld starts step run.control run.journal := by
  cases isOpen with
  | before i => exact ⟨_, _, h⟩
  | within i => exact ⟨_, _, h⟩
  | behind i r => exact ⟨_, _, h⟩
  | resting i => exact ⟨_, _, h⟩

theorem watched_move {starts i : Nat} {run run' : Run σ}
    (h : Watched isHeld starts (some i) run.control run.journal) (move : g.Move run run') :
    Watched isHeld starts (some i) run'.control run'.journal := by
  cases move with
  | note n => exact h.note n
  | see tree => exact h
  | ask r _ _ => exact h.ask g.surroundings r fun _ => rfl

/-- The end adds entries that fit anywhere. -/
theorem watches_finish {starts : Nat} {step : Option Nat} {run : Run σ} {status : ReplayStatus}
    {failure : Option StepFailure} (h : Watched isHeld starts step run.control run.journal)
    (ends : g.EndsBy steps starts run (run.control.progress.finish status failure)) :
    g.Watches steps isHeld
      ((finish status failure run).1.spot, (finish status failure run).2) := by
  obtain ⟨own, hjournal, hown⟩ := finish_journal status failure run
  have hcontrol := finish_control status failure run
  rw [finish_ending]
  generalize (finish status failure run).2 = after at hjournal hcontrol ⊢
  have noStart : startsIn own = 0 := by
    refine List.countP_eq_zero.mpr fun e he => ?_
    rcases hown e he with ⟨n, rfl⟩ | ⟨p, rfl⟩ <;> exact Bool.false_ne_true
  refine ⟨?_, ?_⟩
  · rw [hjournal]
    refine h.fit.append fun before e he => ?_
    rcases hown e he with ⟨n, rfl⟩ | ⟨p, rfl⟩ <;> exact trivial
  · rw [hjournal, startsIn_append, noStart, h.starts, Nat.add_zero]
    cases ends with
    | completed status all => exact .completed status all
    | failed status config => exact .failed status config
    | cancelled status accepted => exact .cancelled status (by rw [hcontrol]; exact accepted)

/-- An advance keeps what is true of a run at a spot. -/
theorem Watches.advance {here there : Spot × Run σ} (advance : g.Advance steps here there)
    (h : g.Watches steps isHeld here) : g.Watches steps isHeld there := by
  cases advance with
  | noteGate _ => exact Watched.note h _
  | askGate _ => exact Watched.ask h _ _ fun device => by cases device
  | receive elapsed calls _ => exact Watched.calls h calls
  | stay closed =>
      exact ⟨Watched.fit h, (Watched.gate h).trans (Control.passage?_eq_none_iff.mp closed).2⟩
  | @enter i run s _ passed =>
      have opened := (Control.passage?_eq_passed_iff.mp passed).2
      have running : run.control.status = .running := by
        refine (Watched.active h).resolve_right fun paused => ?_
        have held := Watched.latched h paused
        rw [opened] at held
        cases held
      let name := g.namer.labelForStep s
      refine Watched.publish h (.stepStarted (run.control.progress.enter i name))
        (fun p => p.enter i name) rfl ?_
      exact ⟨(Watched.gate h).trans opened, running, congrArg some (Watched.starts h).symm⟩
  | move move => exact watched_move h move
  | @settle i run s r _ _ =>
      exact Watched.publish h (.stepCompleted (run.control.progress.add r)) (fun p => p.add r) rfl
        trivial
  | calm _ _ => exact h
  | regret _ _ _ => exact Watched.publish h (.stepFailed _) id rfl trivial
  | @fail i run r f _ _ config x hx =>
      subst hx
      have regretted : Watched isHeld (i + 1) none (Run.publish (.stepFailed f) run).2.control
          (Run.publish (.stepFailed f) run).2.journal :=
        Watched.publish h (.stepFailed f) id rfl trivial
      exact watches_finish regretted (.failed rfl config)
  | sleep ms _ => exact Watched.ask h _ _ fun device => by cases device
  | turn => exact h
  | cancel isOpen cancelled hx =>
      subst hx
      obtain ⟨starts, step, watched⟩ := h.exists_watched isOpen
      exact watches_finish watched (.cancelled rfl cancelled)
  | complete hi _ hx =>
      subst hx
      exact watches_finish h (.completed rfl hi)

theorem watches_started (g : Engine σ) (w : Workflow) (c : Control) (around : σ) :
    g.Watches w.steps c.isHeld (.before 0, g.started w c around) := by
  have started : Watched c.isHeld 0 none (g.started w c around).control
      [.published (.statusChanged (c.progress.start w))] :=
    { active := .inl rfl
      latched := fun paused => by cases paused
      gate := rfl
      starts := rfl
      step := rfl
      fit := (AllFit.nil _).snoc trivial }
  exact started.note (.replaying w.name w.steps.length)

/-! ## The whole replay -/

/-- What pauses and resumes do to a replay of some steps. -/
structure Paced (g : Engine σ) (steps : List Step) (ending : Ending) (run : Run σ) : Prop where
  /-- From a pause to the next resume no step starts, and the device is asked only for the step
  that was in progress at the pause and still is. -/
  holds : ∀ before during after,
    run.journal = before ++ .called .pause true :: (during ++ after) →
    .called .resume true ∉ during →
    (∀ p, .published (.stepStarted p) ∉ during) ∧
      ∀ earlier s later, during = earlier ++ .suspended s :: later → s.request.isDevice = true →
        ∃ i, stepInProgress before = some i ∧
          stepInProgress (before ++ .called .pause true :: earlier) = some i
  /-- A step starts only while the replay runs, and it is the one behind those that started. -/
  ordered : ∀ before p after, run.journal = before ++ .published (.stepStarted p) :: after →
    p.status = .running ∧ p.currentStep = some (startsIn before)
  /-- Behind a pause that no resume follows, the replay is held for ever, unless it fails, is
  cancelled, or had started its last step. -/
  stays : ∀ before after, run.journal = before ++ .called .pause true :: after →
    .called .resume true ∉ after →
    ending = .held ∨ ∃ p, ending = .ended p ∧ g.EndsBy steps (startsIn before) run p
  /-- Behind a resume that no pause follows, the replay goes on until every step has started,
  unless it fails or is cancelled. -/
  goesOn : ∀ before after, run.journal = before ++ .called .resume true :: after →
    .called .pause true ∉ after →
    ∃ p, ending = .ended p ∧ g.EndsBy steps (startsIn run.journal) run p

theorem allFit_of_replay {g : Engine σ} {w : Workflow} {c : Control} {around : σ} {ending : Ending}
    {run : Run σ} (h : g.replay w c around = .ok (ending, run)) : AllFit c.isHeld run.journal := by
  have watches := (course_replay h).keeps Watches.advance (watches_started g w c around)
  cases ending with
  | held => exact watches.1
  | ended p => exact watches.1

/-- A replay keeps to its pauses and resumes, whatever its surroundings do.  A pause, a resume
and a pause that come in before the replay looks at the gate leave it closed. -/
theorem replay_paced {g : Engine σ} {w : Workflow} {c : Control} {around : σ} {ending : Ending}
    {run : Run σ} (h : g.replay w c around = .ok (ending, run)) :
    g.Paced w.steps ending run ∧
      ∀ c' : Control, c'.status = .running → c'.isCancelled = false →
        (c'.calls [.pause, .resume, .pause]).passage? = none := by
  have watches := (course_replay h).keeps Watches.advance (watches_started g w c around)
  have fit := allFit_of_replay h
  refine ⟨{ holds := ?_, ordered := ?_, stays := ?_, goesOn := ?_ }, ?_⟩
  · intro before during after hj noResume
    have noStart := fit.no_start hj noResume
    exact ⟨noStart, fun earlier s later hd device => fit.same_step hj noStart hd device⟩
  · intro before p after hj
    exact (fit before _ after hj).2
  · intro before after hj noResume
    cases ending with
    | held => exact .inl rfl
    | ended p =>
        refine .inr ⟨p, rfl, ?_⟩
        have hj' : run.journal = before ++ .called .pause true :: (after ++ []) := by
          rw [hj, List.append_nil]
        have noStart : startsIn (.called .pause true :: after) = 0 := by
          refine startsIn_eq_zero fun q hq => fit.no_start hj' noResume q ?_
          exact (List.mem_cons.mp hq).resolve_left fun hc => by cases hc
        have ends := watches.2
        rw [hj, startsIn_append, noStart, Nat.add_zero] at ends
        exact ends
  · intro before after hj noPause
    cases ending with
    | held =>
        have closed := watches.2
        rw [hj, gateAfter_resume noPause] at closed
        cases closed
    | ended p => exact ⟨p, rfl, watches.2⟩
  · intro c' running going
    rw [Control.calls_wavering running]
    exact Control.passage?_eq_none_iff.mpr ⟨going, rfl⟩

end Engine

/-- A stage on which a replay is paused, resumed and paused within a step, and resumed at the
gate. -/
def Stage.wavering : Stage where
  cues := [⟨5, some .pause⟩, ⟨6, some .resume⟩, ⟨7, some .pause⟩, ⟨700, some .resume⟩]

theorem Engine.replay_paced_wavering :
    ∃ ending run, Engine.replay ⟨Stage.surroundings, {}, {}, {}, 0⟩ .twoWaits .fresh .wavering =
          .ok (ending, run) ∧
        Engine.Paced ⟨Stage.surroundings, {}, {}, {}, 0⟩ Workflow.twoWaits.steps ending run ∧
        ∀ c : Control, c.status = .running → c.isCancelled = false →
          (c.calls [.pause, .resume, .pause]).passage? = none := by
  obtain ⟨ending, run, replayed⟩ :=
    Engine.replay_fresh ⟨Stage.surroundings, {}, {}, {}, 0⟩ (w := .twoWaits) rfl .wavering
  exact ⟨ending, run, replayed, Engine.replay_paced replayed⟩

end UiReplay
