import UiReplay.Proofs.Recording.Replayable
import UiReplay.Proofs.Replay.Addressed
import UiReplay.Proofs.Replay.Tries

/-!
# How recorded gestures are replayed

The way of a finger is all that a device needs to be told, and so is the point of a press.  The
step of an event that knows one of them is therefore replayed by one request, with what was
recorded (`Recorder.doneBy_gesture`).  The tree is not fetched, and the selectors that the element
of the event gave are not used.

The direction of a scroll is that of its content, which moves against the finger.  The recorder
takes the direction of the finger when the event has none of its own.  So such a scroll is turned
round when it is replayed by its direction, without its way (`Recorder.agrees_with_finger_iff`).
-/

namespace UiReplay

/-- The device accepts every action. -/
def Surroundings.AcceptsActions {σ : Type} (w : Surroundings σ) : Prop :=
  ∀ a c around, (w.respond (.perform a) c around).1.answer = .ok ()

namespace Direction

theorem opposite_ne (d : Direction) : d.opposite ≠ d := by
  cases d <;> simp [opposite]

theorem opposite_eq_iff {a b : Direction} : a.opposite = b ↔ a = b.opposite := by
  constructor
  · rintro rfl
    exact (opposite_opposite a).symm
  · rintro rfl
    exact opposite_opposite b

end Direction

/-! ## Steps of one request -/

/-- The data of a swipe or scroll that only tells the direction. -/
def SwipeData.withoutWay (d : SwipeData) : SwipeData :=
  { direction := d.direction, durationMs := d.durationMs }

namespace Engine

variable {σ α β : Type} {g : Engine σ}

/-- Unless a cancel was accepted, an action that the device accepts is asked for once. -/
theorem run_perform (accepts : g.surroundings.AcceptsActions) (a : DeviceAction) (run : Run σ) :
    (g.perform a).run run =
      if run.control.isCancelled then (.error .cancelled, run)
      else (.ok (), (g.surroundings.ask (.perform a) run).2) := by
  have answer : (g.surroundings.ask (.perform a) run).1 = .ok () := accepts a _ _
  split
  · next cancelled => exact run_retry_cancelled _ _ cancelled
  · next going =>
      have settles : ∀ e, (g.surroundings.ask (.perform a) run).1 = .error e →
          g.attempts - 1 = 0 ∨ e.isTransient = false := by
        intro e he
        rw [answer] at he
        cases he
      rw [perform, run_retry_settled _ (Bool.eq_false_iff.mpr going) settles, answer]
      rfl

/-- Whatever state a run is in, a computation asks for one action of the device, which may depend
on the screen, and brings something.  Behind a cancel it asks for nothing. -/
def AsksFor (g : Engine σ) (x : Attempt σ α) (act : Rect → DeviceAction) : Prop :=
  ∀ run, ∃ b, x.run run =
    if run.control.isCancelled then (.error .cancelled, run)
    else (.ok b, (g.surroundings.ask (.perform (act (run.seen.getD run.screen))) run).2)

theorem asksFor_perform (accepts : g.surroundings.AcceptsActions) (a : DeviceAction) :
    g.AsksFor (g.perform a) fun _ => a := fun run => ⟨(), run_perform accepts a run⟩

/-- What comes after the request asks for nothing. -/
theorem AsksFor.bind_pure {x : Attempt σ α} {act : Rect → DeviceAction} (asks : g.AsksFor x act)
    (f : α → β) : g.AsksFor (x >>= fun a => pure (f a)) act := by
  intro run
  obtain ⟨a, executed⟩ := asks run
  refine ⟨f a, ?_⟩
  show ExceptT.bindCont (fun a => pure (f a) : α → Attempt σ β) (x.run run).1 (x.run run).2 = _
  rw [executed]
  cases run.control.isCancelled <;> rfl

theorem asksFor_swipeAcross (accepts : g.surroundings.AcceptsActions) (d : SwipeData)
    (direction : Direction) :
    g.AsksFor (g.swipeAcross d direction) fun screen =>
      g.swipeAlong d (Path.across screen direction) := by
  intro run
  exact (asksFor_perform accepts _).bind_pure _ run

theorem asksFor_scroll {d : SwipeData} {p : Path} (accepts : g.surroundings.AcceptsActions)
    (way : d.path? = some p) (chain : Option Chain) :
    g.AsksFor (g.scroll chain d) fun _ => g.swipeAlong d p := by
  simp only [scroll, way]
  exact (asksFor_perform accepts _).bind_pure _

/-- Without a way and a selector, the finger goes across the screen and against the content. -/
theorem asksFor_scroll_withoutWay (accepts : g.surroundings.AcceptsActions) (d : SwipeData) :
    g.AsksFor (g.scroll none d.withoutWay) fun screen =>
      g.swipeAlong d (Path.across screen d.direction.opposite) :=
  (asksFor_swipeAcross accepts d.withoutWay d.direction.opposite).bind_pure _

/-- Whatever state a run is in, a step is done by one action of the device, which may depend on the
screen, and asks for nothing else.  Behind a cancel it is not done and asks for nothing at all. -/
structure DoneBy (g : Engine σ) (s : Step) (act : Rect → DeviceAction) : Prop where
  /-- What the step adds to the requests of the run. -/
  requests : ∀ total i name run, (g.resultOf total i name s run).2.requests =
    run.requests ++
      if run.control.isCancelled then [] else [.perform (act (run.seen.getD run.screen))]
  /-- The step succeeds. -/
  result : ∀ total i name run, run.control.isCancelled = false →
    ∃ r, (g.resultOf total i name s run).1 = some r ∧ r.status = .success

theorem AsksFor.doneBy {s : Step} {act : Rect → DeviceAction} (asks : g.AsksFor (g.carryOut s) act)
    (enabled : s.enabled = true) (valid : s.validate = .ok ()) : g.DoneBy s act := by
  constructor
  · intro total i name run
    let noted := (Run.note (.step (i + 1) total name) run).2
    have same : noted.requests = run.requests := Run.requests_note _ _
    obtain ⟨o, executed⟩ := asks noted
    rw [resultOf_of_enabled enabled, execute_of_validate valid, executed, ← same]
    show Run.requests (if run.control.isCancelled then _ else _ :
      Except StepError StepOutcome × Run σ).2 = _
    split
    · exact (List.append_nil _).symm
    · exact Run.requests_ask _ _ _
  · intro total i name run going
    obtain ⟨o, executed⟩ := asks (Run.note (.step (i + 1) total name) run).2
    have control : (Run.note (.step (i + 1) total name) run).2.control = run.control := rfl
    rw [resultOf_of_enabled enabled, execute_of_validate valid, executed, control, going]
    exact ⟨_, rfl, rfl⟩

end Engine

/-! ## Steps of events -/

namespace RecordedEvent

variable {e : RecordedEvent}

/-- How long the swipe of an event takes when it is replayed. -/
def swipeMs (config : ReplayConfig) (e : RecordedEvent) : Nat :=
  match e.durationMs with
  | none => 300
  | some 0 => config.swipeMs
  | some ms => ms

/-- How long the long press of an event takes when it is replayed. -/
def longPressMs (config : ReplayConfig) (e : RecordedEvent) : Nat :=
  match e.durationMs with
  | none | some 0 => config.longPressMs
  | some ms => ms

/-- The way of the finger is that of the recorded movement. -/
theorem path?_swipeData (e : RecordedEvent) : e.swipeData.path? = e.path? := by
  rw [swipeData, SwipeData.path?]
  cases e.path? <;> rfl

theorem swipeAlong_swipeData {σ : Type} (g : Engine σ) (e : RecordedEvent) (p : Path) :
    g.swipeAlong e.swipeData p = .swipe p (e.swipeMs g.config) := by
  rw [Engine.swipeAlong, swipeData, swipeMs]
  rcases e.durationMs with _ | _ | ms <;> rfl

theorem not_isPress_of_movement (kind : e.kind? = some .swipe ∨ e.kind? = some .scroll) :
    ¬ e.IsPress := by
  rintro (press | press) <;> rw [press] at kind <;> rcases kind with kind | kind <;> cases kind

end RecordedEvent

namespace Recorder

variable {r : Recorder} {e : RecordedEvent} {action : Action}

/-- An event that has an action and says where it went has a step that is carried out when it is
replayed. -/
theorem exists_step?
    (h : e.action? (r.generator.generate (.ofValue e.element)).isSome = some action)
    (aims : r.Aims e) (ids : IdSupply) :
    ∃ s, ((r.step? e).run ids).1 = some s ∧ s.action = action ∧ s.enabled = true ∧
      ∀ order, Step.validate { s with order := order } = .ok () := by
  have made : ∃ s, ((r.step? e).run ids).1 = some s ∧ s.action = action ∧ s.enabled = true := by
    rw [run_step?, stepWith?, describe?, h]
    exact ⟨_, rfl, rfl, rfl⟩
  obtain ⟨s, made, haction, enabled⟩ := made
  exact ⟨s, made, haction, enabled, fun order => (validate_stepWith? made order).mpr aims⟩

variable {σ : Type} {g : Engine σ}

end Recorder

/-- A scroll of which the way of the finger is known, but no direction. -/
def RecordedEvent.draggedUp : RecordedEvent where
  id := 1
  action := "scroll"
  startX := some 540
  startY := some 1800
  endX := some 540
  endY := some 600

namespace Recorder

/-- The way of a recorded scroll is kept.  Without it the finger goes against the direction that is
kept, and this is the direction of the way just when the event says the opposite itself. -/
theorem agrees_with_finger_iff {p : Path} (kind : e.kind? = some .scroll)
    (way : e.path? = some p) (r : Recorder) (ids : IdSupply) :
    ∃ s d, ((r.step? e).run ids).1 = some s ∧ s.action = .scroll d ∧ d.path? = some p ∧
      d.direction = e.direction.getD p.direction ∧
      (d.direction.opposite = p.direction ↔ e.direction = some p.direction.opposite) ∧
      ∀ {σ : Type} {g : Engine σ}, g.surroundings.AcceptsActions →
        (g.DoneBy s fun _ => .swipe p (e.swipeMs g.config)) ∧
        g.DoneBy { s with action := .scroll d.withoutWay, selector := none } fun screen =>
          .swipe (Path.across screen d.direction.opposite) (e.swipeMs g.config) := by
  have aims : r.Aims e := fun press =>
    absurd press (RecordedEvent.not_isPress_of_movement (.inr kind))
  have scrolls : e.action? (r.generator.generate (.ofValue e.element)).isSome =
      some (.scroll e.swipeData) := by
    rw [RecordedEvent.action?, kind]
  obtain ⟨s, made, action, enabled, valid⟩ := exists_step? scrolls aims ids
  have kept : e.swipeData.path? = some p := by rw [RecordedEvent.path?_swipeData, way]
  have direction : e.swipeData.direction = e.direction.getD p.direction := by
    rw [RecordedEvent.swipeData, way]
    cases e.direction <;> rfl
  refine ⟨s, e.swipeData, made, action, kept, direction, ?_, ?_⟩
  · rw [direction]
    cases e.direction with
    | none => simp [Direction.opposite_ne]
    | some d => rw [Option.getD_some, Option.some_inj, Direction.opposite_eq_iff]
  · intro σ g accepts
    simp only [← RecordedEvent.swipeAlong_swipeData]
    constructor
    · refine Engine.AsksFor.doneBy ?_ enabled (valid s.order)
      simp only [Engine.carryOut, action]
      exact Engine.asksFor_scroll accepts kept _
    · exact (Engine.asksFor_scroll_withoutWay accepts _).doneBy enabled rfl

end Recorder

/-- The direction that is kept for this scroll is that of the finger, so a replay without the way
goes back. -/
theorem Recorder.scrolls_against_draggedUp :
    ∃ s d p, ((({} : Recorder).step? .draggedUp).run ⟨0, 0⟩).1 = some s ∧ s.action = .scroll d ∧
      RecordedEvent.draggedUp.path? = some p ∧ p.start ≠ p.finish ∧
      RecordedEvent.draggedUp.direction = none ∧ d.direction.opposite ≠ p.direction := by
  have kind : RecordedEvent.draggedUp.kind? = some .scroll := by decide +kernel
  have aims : Aims {} .draggedUp := fun press =>
    absurd press (RecordedEvent.not_isPress_of_movement (.inr kind))
  obtain ⟨s, made, action, -⟩ :=
    exists_step? (r := {}) (by rw [RecordedEvent.action?, kind]) aims ⟨0, 0⟩
  exact ⟨s, _, _, made, action, rfl, by decide, rfl, by decide⟩

/-- The same scroll, of which the direction of the content was recorded. -/
theorem Recorder.agrees_with_finger_iff_draggedUp :
    let e : RecordedEvent := { RecordedEvent.draggedUp with direction := some .down }
    (e.kind? = some .scroll ∧ e.path? = some ⟨⟨540, 1800⟩, ⟨540, 600⟩⟩) ∧
    ∃ s d, ((({} : Recorder).step? e).run ⟨0, 0⟩).1 = some s ∧ s.action = .scroll d ∧
      d.direction.opposite = (Path.mk ⟨540, 1800⟩ ⟨540, 600⟩).direction := by
  have kind : RecordedEvent.kind? { RecordedEvent.draggedUp with direction := some .down } =
      some .scroll := by decide +kernel
  obtain ⟨s, d, made, action, -, -, agrees, -⟩ := agrees_with_finger_iff kind rfl {} ⟨0, 0⟩
  exact ⟨⟨kind, rfl⟩, s, d, made, action, agrees.mpr rfl⟩

end UiReplay
