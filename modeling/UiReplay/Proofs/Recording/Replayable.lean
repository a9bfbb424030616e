import UiReplay.Proofs.Json.Ordered
import UiReplay.Recording.Session
import UiReplay.Workflow.Validity

/-!
# Which recorded events can be replayed

The recorder makes a step of every event whose action it knows, a typing without a text
apart (`Recorder.stepWith?_eq_none_iff`), if it does not break down over it.  The way of a finger is kept as a whole or not at
all, so the steps that swipe and scroll are valid, as are those that type and wait.

A press is different.  Its step is valid exactly when the element gives a selector or both
coordinates are there (`Recorder.Aims`).  The recorder does not look at this, so a press
that says nothing of where it went becomes a step that every replay refuses
(`Recorder.refused_blindTap`).

`Recorder.validate_recorded` says when a recorded step is valid, of the step that an event
becomes and of the step that a session appends.
-/

namespace UiReplay

/-! ## Events -/

namespace RecordedEvent

variable {e : RecordedEvent}

/-- The event is a short or long press. -/
def IsPress (e : RecordedEvent) : Prop := e.kind? = some .tap ∨ e.kind? = some .longTap

/-- The event names an action that can be replayed, and what it types if it types. -/
def IsReplayable (e : RecordedEvent) : Prop :=
  ∃ kind, e.kind? = some kind ∧ (kind = .inputText → ∃ s, e.text = some s ∧ s ≠ "")

theorem kind?_ne_unusable (e : RecordedEvent) : e.kind? ≠ some .unusable := by
  intro h
  have hmem := Fields.mem_of_find? h
  simp [kinds] at hmem

theorem typed?_eq_some_iff {s : String} : e.typed? = some s ↔ e.text = some s ∧ s ≠ "" := by
  rw [typed?, Option.bind_eq_some_iff]
  constructor
  · rintro ⟨t, ht, h⟩
    rw [Option.ite_none_left_eq_some] at h
    obtain ⟨hne, hs⟩ := h
    cases hs
    exact ⟨ht, hne⟩
  · rintro ⟨ht, hne⟩
    exact ⟨s, ht, if_neg hne⟩

/-- The way of a finger is kept as a whole or not at all. -/
theorem given_swipeData (e : RecordedEvent) : e.swipeData.given = 0 ∨ e.swipeData.given = 4 := by
  rw [swipeData]
  cases e.path? with
  | none => exact .inl rfl
  | some p => exact .inr rfl

/-- An event has no action exactly when it is not one that can be replayed. -/
theorem action?_eq_none_iff {located : Bool} : e.action? located = none ↔ ¬ e.IsReplayable := by
  rw [action?, IsReplayable]
  cases hk : e.kind? with
  | none => simp
  | some kind =>
      cases kind with
      | unusable => exact absurd hk (kind?_ne_unusable e)
      | inputText =>
          have none_iff : e.typed? = none ↔ ¬ ∃ s, e.typed? = some s := by
            rw [← Option.isSome_iff_exists, Option.not_isSome_iff_eq_none]
          simp [none_iff, typed?_eq_some_iff]
      | _ => simp

/-- The step of an action is valid unless it is a press that does not say where. -/
theorem validate_action {chain : Option Chain} {action : Action}
    (h : e.action? chain.isSome = some action) (s : Step) (haction : s.action = action)
    (hchain : s.selector = chain) :
    s.validate = .ok () ↔ (e.IsPress → chain.isSome ∨ (e.x.isSome ∧ e.y.isSome)) := by
  rw [action?] at h
  rw [Step.validate, haction, hchain, IsPress]
  cases hk : e.kind? with
  | none => simp [hk] at h
  | some kind =>
      rw [hk] at h
      cases kind with
      | tap =>
          cases h
          cases chain <;> cases hx : e.x <;> cases hy : e.y <;>
            simp [tapData, TapData.point?, hx, hy]
      | longTap =>
          cases h
          cases chain <;> cases hx : e.x <;> cases hy : e.y <;>
            simp [tapData, TapData.point?, hx, hy]
      | swipe =>
          cases h
          rcases given_swipeData e with hg | hg <;> simp [hg]
      | scroll =>
          cases h
          rcases given_swipeData e with hg | hg <;> simp [hg]
      | inputText =>
          obtain ⟨text, htext, rfl⟩ := Option.map_eq_some_iff.mp h
          simp [(typed?_eq_some_iff.mp htext).2]
      | wait =>
          cases h
          simp
      | unusable => exact absurd hk (kind?_ne_unusable e)

end RecordedEvent

/-! ## The recorder and its session -/

namespace Recorder

/-- A press says where it went: its element gives a selector, or its point is complete. -/
def Aims (r : Recorder) (e : RecordedEvent) : Prop :=
  e.IsPress → (r.generator.generate (.ofValue e.element)).isSome ∨ (e.x.isSome ∧ e.y.isSome)

theorem stepWith?_eq_none_iff {r : Recorder} {e : RecordedEvent} {id : Uuid} :
    r.stepWith? e id = none ↔ ¬ e.IsReplayable := by
  rw [stepWith?, describe?, Option.map_eq_none_iff, Option.map_eq_none_iff]
  exact RecordedEvent.action?_eq_none_iff

/-- The number that a step gets in its workflow does not matter. -/
theorem validate_stepWith? {r : Recorder} {e : RecordedEvent} {id : Uuid} {s : Step}
    (h : r.stepWith? e id = some s) (order : Nat) :
    Step.validate { s with order := order } = .ok () ↔ r.Aims e := by
  obtain ⟨⟨action, chain, name⟩, hd, rfl⟩ := Option.map_eq_some_iff.mp h
  obtain ⟨action, ha, hd⟩ := Option.map_eq_some_iff.mp hd
  cases hd
  exact RecordedEvent.validate_action ha _ rfl rfl

theorem run_step? (r : Recorder) (e : RecordedEvent) (ids : IdSupply) :
    ((r.step? e).run ids).1 = r.stepWith? e ids.next := rfl

end Recorder

namespace Session

/-- A session appends the step of an event that is new, unless the recorder breaks down over it,
and nothing else. -/
theorem record_workflow (t : Session) (e : RecordedEvent) (ids : IdSupply) :
    ((t.record e).run ids).1.2.workflow =
      if t.isNew e = true ∧ e.overflows = false then
        match t.recorder.stepWith? e ids.next with
        | some s => t.workflow.push s
        | none => t.workflow
      else t.workflow := by
  rw [StateT.run]
  cases new : t.isNew e with
  | false => rw [record_of_not_isNew new, if_neg (by simp)]
  | true =>
      cases broken : e.overflows with
      | true =>
          rw [record_of_overflows new broken, if_neg (by simp)]
          rfl
      | false =>
          rw [record_of_isNew new broken, if_pos ⟨rfl, rfl⟩]
          cases t.recorder.stepWith? e ids.next <;> rfl

/-- The step that a session appends is the one that the recorder makes, with its number. -/
theorem stepWith?_of_appended {t : Session} {e : RecordedEvent} {ids : IdSupply} {i : Nat}
    {s : Step} (hi : t.workflow.steps.length ≤ i)
    (hs : ((t.record e).run ids).1.2.workflow.steps[i]? = some s) :
    ∃ made, t.recorder.stepWith? e ids.next = some made ∧ s = { made with order := i } := by
  have old : t.workflow.steps[i]? = none := List.getElem?_eq_none hi
  rw [record_workflow] at hs
  split at hs
  · cases hmade : t.recorder.stepWith? e ids.next with
    | none =>
        rw [hmade] at hs
        rw [old] at hs
        cases hs
    | some made =>
        rw [hmade] at hs
        change (Workflow.numberFrom 0 (t.workflow.steps ++ [made]))[i]? = some s at hs
        rw [Workflow.getElem?_numberFrom, Nat.zero_add, List.getElem?_append_right hi] at hs
        obtain ⟨last, hlast, rfl⟩ := Option.map_eq_some_iff.mp hs
        rw [List.mem_singleton.mp (List.mem_of_getElem? hlast)]
        exact ⟨made, rfl, rfl⟩
  · rw [old] at hs
    cases hs

end Session

namespace Recorder

/-- An event becomes a step exactly when it can be replayed.  The step is valid exactly
when the event says where it went, if it is a press, and so is the step that a session
appends for it. -/
theorem validate_recorded (r : Recorder) (e : RecordedEvent) (ids : IdSupply) :
    (((r.step? e).run ids).1 = none ↔ ¬ e.IsReplayable) ∧
      (∀ s, ((r.step? e).run ids).1 = some s → (s.validate = .ok () ↔ r.Aims e)) ∧
      ∀ t : Session, t.recorder = r →
        (¬ e.IsReplayable → ((t.record e).run ids).1.2.workflow = t.workflow) ∧
        ∀ i s, t.workflow.steps.length ≤ i →
          ((t.record e).run ids).1.2.workflow.steps[i]? = some s →
            (s.validate = .ok () ↔ r.Aims e) := by
  refine ⟨stepWith?_eq_none_iff, fun s hs => validate_stepWith? hs s.order, ?_⟩
  rintro t rfl
  constructor
  · intro hnot
    have made : t.recorder.stepWith? e ids.next = none := stepWith?_eq_none_iff.mpr hnot
    rw [Session.record_workflow, made, ite_self]
  · intro i s hi hs
    obtain ⟨made, hmade, rfl⟩ := Session.stepWith?_of_appended hi hs
    exact validate_stepWith? hmade i

/-- A tap of which nothing is known. -/
def blindTap : RecordedEvent := { id := 1, action := "tap" }

/-- A tap of which only one coordinate is known. -/
def halfTap : RecordedEvent := { id := 2, action := "tap", x := some 5 }

/-- A press that does not say where becomes a step all the same, and that step is not
valid. -/
theorem refused_blindTap :
    (∃ s, ((({} : Recorder).step? blindTap).run ⟨0, 0⟩).1 = some s ∧
      s.validate = .error (.missingTarget "Tap")) ∧
    ∃ s, ((({} : Recorder).step? halfTap).run ⟨0, 0⟩).1 = some s ∧
      s.validate = .error (.incompleteCoordinates "Tap") := by
  have bare : Generator.generate {} (.ofValue .null) = none := by decide +kernel
  have blind : blindTap.element = .null := rfl
  have half : halfTap.element = .null := rfl
  constructor
  · refine ⟨{ id := IdSupply.next ⟨0, 0⟩, action := .tap {}, name := "Tap" }, ?_, rfl⟩
    rw [run_step?, stepWith?, describe?, blind, bare]
    rfl
  · refine ⟨{ id := IdSupply.next ⟨0, 0⟩, action := .tap { x := some 5 }, name := "Tap" }, ?_, rfl⟩
    rw [run_step?, stepWith?, describe?, half, bare]
    rfl

end Recorder

end UiReplay
