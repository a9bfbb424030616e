import Mathlib
import UiReplay.Device.Client
import UiReplay.Proofs.Json.Ordered
import UiReplay.Proofs.Json.Records
import UiReplay.Proofs.Recording.Accepted

/-!
# Answers with an item that is no event

The events of an answer are decoded as one list.  If each item is an event, the session takes
them, until the recorder breaks down over one.  If one is not, the whole answer is an error, and the
session stays as it was (`Outcome.events_of_items`).  It asks for the same events again, so an item
that the device keeps sending keeps all later events out of the recording.

So the steps that an answer should bring are appended exactly when each item is an event and those
from the first breakdown on have no step, or when there are no such steps anyway
(`Session.absorb_gains_iff`).  One bad item is enough to lose a good one
(`Session.absorb_loses_goodItem`).
-/

namespace UiReplay

/-! ## Lists of documents -/

namespace Decode

variable {α : Type} {decode : Decoder α} {ds : List Document}

theorem each_of_forall (h : ∀ d ∈ ds, ∃ a, decode d = .ok a) :
    each decode ds = .ok (ds.filterMap fun d => (decode d).toOption) := by
  rw [each_eq_ok_iff]
  induction ds with
  | nil => exact .nil
  | cons d rest ih =>
      obtain ⟨a, ha⟩ := h d List.mem_cons_self
      rw [List.filterMap_cons_some (by rw [ha]; rfl)]
      exact .cons ha (ih fun e he => h e (List.mem_cons_of_mem _ he))

theorem each_of_exists {d : Document} (hd : d ∈ ds) (bad : ∀ a, decode d ≠ .ok a) :
    ∃ fault, each decode ds = .error fault := by
  cases h : each decode ds with
  | error fault => exact ⟨fault, rfl⟩
  | ok as =>
      obtain ⟨a, -, ha⟩ := exists_of_mem_right (each_eq_ok_iff.mp h).flip hd
      exact absurd ha (bad a)

end Decode

/-! ## Items of an answer -/

namespace RecordedEvent

/-- A value is an event. -/
def IsEvent (v : Json) : Prop := ∃ e, decode v.document = .ok e

/-- The events among some values, each decoded on its own. -/
def among (items : List Json) : List RecordedEvent :=
  items.filterMap fun v => (decode v.document).toOption

variable {env : Envelope} {items : List Json}

theorem listOfEnvelope_of_items (success : env.isSuccess = true)
    (data : env.data = some (.list items)) :
    listOfEnvelope env =
      match Decode.each decode (Json.documents items) with
      | .ok events => .ok events
      | .error fault => .error (.unexpected endpoint (.badValue fault)) := by
  obtain ⟨status, message, content⟩ := env
  cases data
  rw [listOfEnvelope, Envelope.check, if_pos success]
  rfl

end RecordedEvent

namespace Outcome

variable {o : Outcome} {endpoint : String} {env : Envelope} {items : List Json} {since : Option Nat}

theorem isSuccess_of_envelope (h : o.envelope endpoint = .ok env) : env.isSuccess = true := by
  unfold envelope at h
  split at h
  · cases h
  · cases h
  · split at h
    · split at h
      · next e _ =>
          rw [Envelope.check] at h
          split at h
          · next success =>
              cases h
              exact success
          · cases h
      · cases h
    · cases h

/-- An answer brings all its items, or none when one of them is no event. -/
theorem events_of_items (answered : o.envelope (Question.events since).endpoint = .ok env)
    (data : env.data = some (.list items)) :
    ((∀ v ∈ items, RecordedEvent.IsEvent v) → o.events since = .ok (RecordedEvent.among items)) ∧
      ((∃ v ∈ items, ¬ RecordedEvent.IsEvent v) → ∃ error, o.events since = .error error) := by
  have events : o.events since = RecordedEvent.listOfEnvelope env := by
    rw [Outcome.events, answered]
    rfl
  rw [events, RecordedEvent.listOfEnvelope_of_items (isSuccess_of_envelope answered) data,
    Json.documents_eq_map]
  constructor
  · intro all
    rw [Decode.each_of_forall, List.filterMap_map]
    · rfl
    · intro d hd
      obtain ⟨v, hv, rfl⟩ := List.mem_map.mp hd
      exact all v hv
  · rintro ⟨v, hv, bad⟩
    obtain ⟨fault, hfault⟩ := Decode.each_of_exists (List.mem_map_of_mem hv)
      fun e he => bad ⟨e, he⟩
    rw [hfault]
    exact ⟨_, rfl⟩

end Outcome

/-! ## What the session takes -/

namespace Session

variable {o : Outcome} {env : Envelope} {items : List Json}

/-- The events that an answer should bring: of its items those that are events, in ascending order,
each with a number above all that were seen. -/
def due (s : Session) (items : List Json) : List RecordedEvent :=
  RecordedEvent.accepted s.seen (inOrder (RecordedEvent.among items))

/-- The steps that an answer should bring are appended exactly when each item is an event and the
events from the first breakdown on have no step, or when there are no steps.  If an item is no
event, the session stays as it was. -/
theorem absorb_gains_iff (s : Session)
    (answered : o.envelope (Question.events s.last).endpoint = .ok env)
    (data : env.data = some (.list items)) (ids : IdSupply) :
    (s.Gains (s.absorb (o.events s.last) ids).1.session (s.due items) ↔
        (∀ v ∈ items, RecordedEvent.IsEvent v) ∧
            (∀ e ∈ RecordedEvent.fromBreakdown (s.due items), s.recorder.describe? e = none) ∨
          ∀ e ∈ s.due items, s.recorder.describe? e = none) ∧
      ((∃ v ∈ items, ¬ RecordedEvent.IsEvent v) →
        (s.absorb (o.events s.last) ids).1 = { session := s }) := by
  obtain ⟨whole, none⟩ := Outcome.events_of_items answered data
  have stays : (∃ v ∈ items, ¬ RecordedEvent.IsEvent v) →
      (s.absorb (o.events s.last) ids).1 = { session := s } := by
    intro bad
    obtain ⟨error, h⟩ := none bad
    rw [h]
    rfl
  refine ⟨?_, stays⟩
  by_cases all : ∀ v ∈ items, RecordedEvent.IsEvent v
  · have accepts := recordAll_accepts s.last_eq_max?_seen (inOrder (RecordedEvent.among items)) ids
    have idle : (∀ e ∈ s.due items, s.recorder.describe? e = .none) →
        ∀ e ∈ RecordedEvent.fromBreakdown (s.due items), s.recorder.describe? e = .none :=
      fun none e he => none e ((List.dropWhile_sublist _).mem he)
    rw [whole all, and_iff_right all, or_iff_left_of_imp idle]
    exact accepts.gains_iff
  · have bad : ∃ v ∈ items, ¬ RecordedEvent.IsEvent v := by
      simpa only [not_forall, exists_prop] using all
    rw [stays bad, or_iff_right fun h => all h.1]
    exact (Gains.refl s).append_iff

/-- The item for a wait with a number. -/
def waitItem (id : Int) : Json := .record [("action", .text "wait"), ("id", .integer id)]

/-- An answer with two waits out of order. -/
def twoWaits : Outcome := .answered 200
  "\x7b\"data\":[\x7b\"id\":2,\"action\":\"wait\"\x7d,\x7b\"id\":1,\"action\":\"wait\"\x7d]\x7d"

theorem absorb_gains_iff_twoWaits :
    ∃ env, twoWaits.envelope (Question.events blank.last).endpoint = .ok env ∧
      env.data = some (.list [waitItem 2, waitItem 1]) ∧
      blank.Gains (blank.absorb (twoWaits.events blank.last) ⟨0, 0⟩).1.session
        (blank.due [waitItem 2, waitItem 1]) := by
  have answered : twoWaits.envelope (Question.events blank.last).endpoint =
      .ok ⟨none, none, some (.list [waitItem 2, waitItem 1])⟩ := by
    cbv
  refine ⟨_, answered, rfl, (absorb_gains_iff blank answered rfl ⟨0, 0⟩).1.mpr (.inl ⟨?_, ?_⟩)⟩
  · intro v hv
    simp only [List.mem_cons, List.not_mem_nil, or_false] at hv
    rcases hv with rfl | rfl
    · exact ⟨_, rfl⟩
    · exact ⟨_, rfl⟩
  · have unbroken : RecordedEvent.fromBreakdown (blank.due [waitItem 2, waitItem 1]) = [] := by
      refine RecordedEvent.fromBreakdown_eq_nil_iff.mpr fun e he => ?_
      have among : e ∈ [RecordedEvent.waitNumbered 2, RecordedEvent.waitNumbered 1] :=
        (inOrder_perm _).mem_iff.mp ((RecordedEvent.accepted_sublist _ _).mem he)
      simp only [List.mem_cons, List.not_mem_nil, or_false] at among
      rcases among with rfl | rfl
      · exact RecordedEvent.overflows_waitNumbered 2
      · exact RecordedEvent.overflows_waitNumbered 1
    rw [unbroken]
    exact List.forall_mem_nil _

/-- An answer with a wait and an item whose number is a text. -/
def spoiltWait : Outcome := .answered 200
  "\x7b\"data\":[\x7b\"id\":1,\"action\":\"wait\"\x7d,\x7b\"id\":\"bad\"\x7d]\x7d"

/-- One item that is no event keeps a good one out of the recording. -/
theorem absorb_loses_goodItem :
    ∃ env, spoiltWait.envelope (Question.events blank.last).endpoint = .ok env ∧
      env.data = some (.list [waitItem 1, .record [("id", .text "bad")]]) ∧
      RecordedEvent.decode (waitItem 1).document = .ok (.waitNumbered 1) ∧
      (blank.recorder.describe? (.waitNumbered 1)).isSome = true ∧
      blank.isNew (.waitNumbered 1) = true ∧
      (blank.absorb (spoiltWait.events blank.last) ⟨0, 0⟩).1 = { session := blank } := by
  have answered : spoiltWait.envelope (Question.events blank.last).endpoint =
      .ok ⟨none, none, some (.list [waitItem 1, .record [("id", .text "bad")]])⟩ := by
    cbv
  have bad : ¬ RecordedEvent.IsEvent (.record [("id", .text "bad")]) := by
    rintro ⟨e, he⟩
    cases he
  refine ⟨_, answered, rfl, rfl, rfl, rfl, ?_⟩
  obtain ⟨error, failed⟩ := (Outcome.events_of_items answered rfl).2
    ⟨_, List.mem_cons_of_mem _ List.mem_cons_self, bad⟩
  rw [failed]
  rfl

end Session

end UiReplay
