import Mathlib.Data.List.Forall2
import Mathlib.Data.List.TakeWhile
import UiReplay.Proofs.Recording.Replayable

/-!
# Which events a session accepts

An event is *accepted* when its number exceeds every number seen before, whether or not the
events before were accepted or became steps (`RecordedEvent.accepted`).  So the numbers of the
accepted events strictly increase, and none comes twice.

The last number that a session remembers is the greatest that it has seen, and with it the
session appends just the steps of the accepted events, up to the first over which the recorder
breaks down (`Session.recordAll_accepts`).  So it lacks the steps of the events from there on, if
they have any (`Session.Accepts.gains_iff`).  Of events in ascending order all numbers above those
seen are accepted (`exists_mem_accepted`).
-/

namespace UiReplay

/-! ## Accepted events -/

namespace RecordedEvent

/-- The events whose number exceeds all numbers seen before.  Each event counts as seen. -/
def accepted : List Nat → List RecordedEvent → List RecordedEvent
  | _, [] => []
  | seen, e :: rest =>
      if ∀ id ∈ seen, id < e.id then e :: accepted (seen ++ [e.id]) rest
      else accepted (seen ++ [e.id]) rest

variable {seen : List Nat} {events : List RecordedEvent} {e : RecordedEvent}

theorem accepted_sublist (seen : List Nat) (events : List RecordedEvent) :
    (accepted seen events).Sublist events := by
  induction events generalizing seen with
  | nil => exact .slnil
  | cons e rest ih =>
      rw [accepted]
      split
      · exact (ih _).cons_cons e
      · exact (ih _).cons e

theorem accepted_append (seen : List Nat) (events events' : List RecordedEvent) :
    accepted seen (events ++ events') =
      accepted seen events ++ accepted (seen ++ events.map id) events' := by
  induction events generalizing seen with
  | nil => simp [accepted]
  | cons e rest ih =>
      rw [List.cons_append, accepted, accepted, ih, List.map_cons, List.append_assoc,
        List.singleton_append]
      split
      · rfl
      · rfl

/-- The numbers of accepted events exceed those seen before. -/
theorem above_of_mem_accepted (h : e ∈ accepted seen events) : ∀ id ∈ seen, id < e.id := by
  induction events generalizing seen with
  | nil => cases h
  | cons f rest ih =>
      have later : e ∈ accepted (seen ++ [f.id]) rest → ∀ id ∈ seen, id < e.id :=
        fun h id hid => ih h id (List.mem_append_left _ hid)
      rw [accepted] at h
      split at h
      · next new =>
          rcases List.mem_cons.mp h with rfl | h
          · exact new
          · exact later h
      · exact later h

/-- The numbers of accepted events strictly increase. -/
theorem accepted_pairwise (seen : List Nat) (events : List RecordedEvent) :
    (accepted seen events).Pairwise fun a b => a.id < b.id := by
  induction events generalizing seen with
  | nil => exact .nil
  | cons e rest ih =>
      rw [accepted]
      split
      · refine List.pairwise_cons.mpr ⟨fun f hf => ?_, ih _⟩
        exact above_of_mem_accepted hf e.id (List.mem_append_right _ List.mem_cons_self)
      · exact ih _

/-- A wait with a number. -/
def waitNumbered (id : Nat) : RecordedEvent := { id := id, action := "wait" }

theorem overflows_waitNumbered (id : Nat) : (waitNumbered id).overflows = false := rfl

example : (accepted [3] [waitNumbered 5, waitNumbered 4, waitNumbered 5, waitNumbered 7]).map id =
    [5, 7] := by decide

/-- Of events in ascending order all numbers above those seen are accepted, each with the first
event that has it. -/
theorem exists_mem_accepted (ascending : events.Pairwise fun a b => a.id ≤ b.id) (h : e ∈ events)
    (above : ∀ id ∈ seen, id < e.id) : ∃ f ∈ accepted seen events, f.id = e.id := by
  induction events generalizing seen with
  | nil => cases h
  | cons f rest ih =>
      obtain ⟨below, ascending⟩ := List.pairwise_cons.mp ascending
      by_cases same : f.id = e.id
      · rw [accepted, if_pos (same ▸ above)]
        exact ⟨f, List.mem_cons_self, same⟩
      · have hrest : e ∈ rest := by
          rcases List.mem_cons.mp h with rfl | h
          · exact absurd rfl same
          · exact h
        have less : f.id < e.id := Nat.lt_of_le_of_ne (below e hrest) same
        have above : ∀ id ∈ seen ++ [f.id], id < e.id := by
          intro id hid
          rcases List.mem_append.mp hid with hid | hid
          · exact above id hid
          · exact List.mem_singleton.mp hid ▸ less
        obtain ⟨g, hg, hid⟩ := ih ascending hrest above
        refine ⟨g, ?_, hid⟩
        rw [accepted]
        split
        · exact List.mem_cons_of_mem _ hg
        · exact hg

/-! ## Breakdowns -/

/-- The events before the first over which the recorder breaks down. -/
def beforeBreakdown (events : List RecordedEvent) : List RecordedEvent :=
  events.takeWhile fun e => !e.overflows

/-- The events from the first on over which the recorder breaks down. -/
def fromBreakdown (events : List RecordedEvent) : List RecordedEvent :=
  events.dropWhile fun e => !e.overflows

theorem before_append_fromBreakdown (events : List RecordedEvent) :
    beforeBreakdown events ++ fromBreakdown events = events :=
  List.takeWhile_append_dropWhile

theorem fromBreakdown_eq_nil_iff : fromBreakdown events = [] ↔ ∀ e ∈ events, e.overflows = false := by
  simp [fromBreakdown, List.dropWhile_eq_nil_iff]

end RecordedEvent

/-! ## The greatest number seen -/

theorem max?_append_of_above {seen : List Nat} {n : Nat} (h : ∀ id ∈ seen, id < n) :
    (seen ++ [n]).max? = some n := by
  refine List.max?_eq_some_iff.mpr ⟨by simp, fun id hid => ?_⟩
  rcases List.mem_append.mp hid with hid | hid
  · exact Nat.le_of_lt (h id hid)
  · exact Nat.le_of_eq (List.mem_singleton.mp hid)

theorem exists_max?_of_mem {seen : List Nat} {n : Nat} (h : n ∈ seen) :
    ∃ m, seen.max? = some m ∧ n ≤ m := by
  obtain ⟨m, hm⟩ := Option.isSome_iff_exists.mp (List.isSome_max?_iff.mpr (List.ne_nil_of_mem h))
  exact ⟨m, hm, (List.max?_eq_some_iff.mp hm).2 n h⟩

theorem max?_append_of_le {seen : List Nat} {n : Nat} (h : ∃ id ∈ seen, n ≤ id) :
    (seen ++ [n]).max? = seen.max? := by
  obtain ⟨id, hid, le⟩ := h
  obtain ⟨m, hm, idle⟩ := exists_max?_of_mem hid
  obtain ⟨mem, greatest⟩ := List.max?_eq_some_iff.mp hm
  refine hm ▸ List.max?_eq_some_iff.mpr ⟨List.mem_append_left _ mem, fun k hk => ?_⟩
  rcases List.mem_append.mp hk with hk | hk
  · exact greatest k hk
  · exact List.mem_singleton.mp hk ▸ Nat.le_trans le idle

/-! ## Sessions -/

namespace Session

/-- The numbers that a session remembers as seen. -/
def seen (s : Session) : List Nat := s.last.toList

theorem last_eq_max?_seen (s : Session) : s.last = s.seen.max? := by
  rw [seen]
  cases s.last <;> rfl

/-- A session that has seen nothing. -/
def blank : Session := { workflow := { id := ⟨1⟩ } }

variable {s s' s'' : Session} {seen : List Nat} {events events' : List RecordedEvent}

/-- An event is new exactly when it exceeds all that was seen. -/
theorem isNew_iff (h : s.last = seen.max?) {e : RecordedEvent} :
    s.isNew e = true ↔ ∀ id ∈ seen, id < e.id := by
  unfold isNew
  split
  · next hlast =>
      rw [hlast] at h
      rw [List.max?_eq_none_iff.mp h.symm]
      simp
  · next m hlast =>
      obtain ⟨mem, greatest⟩ := List.max?_eq_some_iff.mp (h.symm.trans hlast)
      rw [decide_eq_true_iff]
      exact ⟨fun lt id hid => Nat.lt_of_le_of_lt (greatest id hid) lt, fun above => above m mem⟩

/-- A session got the steps of some events at the end of its workflow, in their order.  Events
without a step are passed over. -/
structure Gains (s s' : Session) (events : List RecordedEvent) : Prop where
  recorder : s'.recorder = s.recorder
  workflow : s'.workflow = { s.workflow with steps := s'.workflow.steps }
  steps : ∃ new, s'.workflow.steps.map Workflow.content =
      s.workflow.steps.map Workflow.content ++ new ∧
    List.Forall₂ (fun e t => ∃ id, s.recorder.stepWith? e id = some t)
      (events.filter fun e => (s.recorder.describe? e).isSome) new

theorem Gains.refl (s : Session) : s.Gains s [] where
  recorder := rfl
  workflow := rfl
  steps := ⟨[], (List.append_nil _).symm, .nil⟩

theorem Gains.trans (h : s.Gains s' events) (h' : s'.Gains s'' events') :
    s.Gains s'' (events ++ events') where
  recorder := h'.recorder.trans h.recorder
  workflow := by rw [h'.workflow, h.workflow]
  steps := by
    obtain ⟨new, hnew, made⟩ := h.steps
    obtain ⟨new', hnew', made'⟩ := h'.steps
    rw [h.recorder] at made'
    refine ⟨new ++ new', by rw [hnew', hnew, List.append_assoc], ?_⟩
    rw [List.filter_append]
    exact List.rel_append made made'

/-- A session that got the steps of some events has those of more events too exactly when these
have none. -/
theorem Gains.append_iff (h : s.Gains s' events) :
    s.Gains s' (events ++ events') ↔ ∀ e ∈ events', s.recorder.describe? e = none := by
  obtain ⟨new, hnew, made⟩ := h.steps
  constructor
  · intro gains
    obtain ⟨new', hnew', made'⟩ := gains.steps
    obtain rfl : new = new' := List.append_cancel_left (hnew.symm.trans hnew')
    have length := made.length_eq.trans made'.length_eq.symm
    rw [List.filter_append, List.length_append] at length
    have nothing := List.eq_nil_of_length_eq_zero (Nat.left_eq_add.mp length)
    rw [List.filter_eq_nil_iff] at nothing
    exact fun e he => by simpa using nothing e he
  · intro none
    refine ⟨h.recorder, h.workflow, new, hnew, ?_⟩
    have nothing : events'.filter (fun e => (s.recorder.describe? e).isSome) = [] :=
      List.filter_eq_nil_iff.mpr fun e he => by rw [none e he]; exact Bool.false_ne_true
    rw [List.filter_append, nothing, List.append_nil]
    exact made

theorem gains_saw (s : Session) (e : RecordedEvent) : s.Gains (s.saw e) [] where
  recorder := rfl
  workflow := rfl
  steps := ⟨[], (List.append_nil _).symm, .nil⟩

theorem gains_record {e : RecordedEvent} (new : s.isNew e = true) (whole : e.overflows = false)
    (ids : IdSupply) : s.Gains (s.record e ids).1.2 [e] := by
  rw [record_of_isNew new whole]
  cases described : s.recorder.describe? e with
  | none =>
      have made : s.recorder.stepWith? e ids.next = none := by
        rw [Recorder.stepWith?, described]
        rfl
      rw [made]
      refine ⟨rfl, rfl, [], (List.append_nil _).symm, ?_⟩
      simp [described]
  | some parts =>
      obtain ⟨action, chain, name⟩ := parts
      have made : s.recorder.stepWith? e ids.next =
          some { id := ids.next, action := action, selector := chain, name := name } := by
        rw [Recorder.stepWith?, described]
        rfl
      rw [made]
      refine ⟨rfl, rfl,
        [{ id := ids.next, action := action, selector := chain, name := name }], ?_, ?_⟩
      · exact (Workflow.content_renumber 0 _).trans (List.map_append ..)
      · simp only [List.filter_cons, described, Option.isSome_some, if_true, List.filter_nil]
        exact .cons ⟨ids.next, made⟩ .nil

theorem last_record {e : RecordedEvent} (new : s.isNew e = true) (whole : e.overflows = false)
    (ids : IdSupply) : (s.record e ids).1.2.last = some e.id := by
  rw [record_of_isNew new whole]
  cases s.recorder.stepWith? e ids.next <;> rfl

/-- What a session makes of events when it has seen some numbers. -/
structure Accepts (s : Session) (seen : List Nat) (events : List RecordedEvent) (i : Intake) :
    Prop where
  /-- The steps of the accepted events are appended, up to the first breakdown. -/
  gains : s.Gains i.session (RecordedEvent.beforeBreakdown (RecordedEvent.accepted seen events))
  /-- The recorder breaks down over accepted events only. -/
  broken : i.broken = true ↔ ∃ e ∈ RecordedEvent.accepted seen events, e.overflows = true
  /-- Without a breakdown the session remembers the greatest number seen. -/
  last : i.broken = false → i.session.last = (seen ++ events.map RecordedEvent.id).max?

theorem Accepts.whole_iff {i : Intake} (h : s.Accepts seen events i) :
    i.broken = false ↔ ∀ e ∈ RecordedEvent.accepted seen events, e.overflows = false := by
  rw [← Bool.not_eq_true, h.broken]
  simp

/-- The steps of all accepted events are appended exactly when those from the first breakdown on
have none. -/
theorem Accepts.gains_iff {i : Intake} (h : s.Accepts seen events i) :
    s.Gains i.session (RecordedEvent.accepted seen events) ↔
      ∀ e ∈ RecordedEvent.fromBreakdown (RecordedEvent.accepted seen events),
        s.recorder.describe? e = none := by
  rw [← h.gains.append_iff, RecordedEvent.before_append_fromBreakdown]

/-- A session that remembers the greatest number seen appends the steps of the accepted events up to
the first breakdown, by induction on the events. -/
theorem recordAll_accepts (h : s.last = seen.max?) (events : List RecordedEvent)
    (ids : IdSupply) : s.Accepts seen events (s.recordAll events ids).1 := by
  induction events generalizing s seen ids with
  | nil =>
      refine ⟨.refl s, iff_of_false Bool.false_ne_true (by simp [RecordedEvent.accepted]), fun _ => ?_⟩
      rw [List.map_nil, List.append_nil]
      exact h
  | cons e rest ih =>
      rw [recordAll_cons]
      by_cases above : ∀ id ∈ seen, id < e.id
      · have new := (isNew_iff h).mpr above
        have accepted : RecordedEvent.accepted seen (e :: rest) =
            e :: RecordedEvent.accepted (seen ++ [e.id]) rest := if_pos above
        cases broken : e.overflows with
        | true =>
            rw [if_pos ⟨new, rfl⟩]
            refine ⟨?_, ?_, fun whole => by cases whole⟩
            · rw [accepted, RecordedEvent.beforeBreakdown, List.takeWhile_cons, broken]
              exact s.gains_saw e
            · rw [accepted]
              exact iff_of_true rfl ⟨e, List.mem_cons_self, broken⟩
        | false =>
            have last : (s.record e ids).1.2.last = (seen ++ [e.id]).max? := by
              rw [last_record new broken, max?_append_of_above above]
            obtain ⟨gains, breaks, last⟩ := ih last (s.record e ids).2
            rw [if_neg (by simp)]
            refine ⟨?_, ?_, fun whole => ?_⟩
            · rw [accepted, RecordedEvent.beforeBreakdown, List.takeWhile_cons, broken]
              exact (gains_record new broken ids).trans gains
            · rw [accepted, breaks]
              simp [broken]
            · rw [List.map_cons, List.append_cons]
              exact last whole
      · have old : s.isNew e = false :=
          Bool.eq_false_iff.mpr fun new => above ((isNew_iff h).mp new)
        have accepted : RecordedEvent.accepted seen (e :: rest) =
            RecordedEvent.accepted (seen ++ [e.id]) rest := if_neg above
        have last : s.last = (seen ++ [e.id]).max? := by
          have le : ∃ id ∈ seen, e.id ≤ id := by
            simpa using above
          rw [max?_append_of_le le, h]
        obtain ⟨gains, breaks, last⟩ := ih last ids
        rw [if_neg (by simp [old]), record_of_not_isNew old]
        refine ⟨?_, ?_, fun whole => ?_⟩
        · rw [accepted]
          exact gains
        · rw [accepted]
          exact breaks
        · rw [List.map_cons, List.append_cons]
          exact last whole

/-- More events are taken after some only if the recorder does not break down over these. -/
theorem recordAll_append (s : Session) (events events' : List RecordedEvent) (ids : IdSupply) :
    s.recordAll (events ++ events') ids =
      if (s.recordAll events ids).1.broken = true then s.recordAll events ids
      else (s.recordAll events ids).1.session.recordAll events' (s.recordAll events ids).2 := by
  induction events generalizing s ids with
  | nil => rfl
  | cons e rest ih =>
      rw [List.cons_append, recordAll_cons, recordAll_cons]
      split
      · rfl
      · exact ih _ _

/-- Events that are taken in order ascend. -/
theorem pairwise_inOrder (events : List RecordedEvent) :
    (inOrder events).Pairwise fun a b => a.id ≤ b.id := by
  have transitive : ∀ a b c : RecordedEvent, decide (a.id ≤ b.id) = true →
      decide (b.id ≤ c.id) = true → decide (a.id ≤ c.id) = true :=
    fun _ _ _ hab hbc =>
      decide_eq_true (Nat.le_trans (of_decide_eq_true hab) (of_decide_eq_true hbc))
  have total : ∀ a b : RecordedEvent, (decide (a.id ≤ b.id) || decide (b.id ≤ a.id)) = true :=
    fun a b => by simpa using Nat.le_total a.id b.id
  exact (List.pairwise_mergeSort transitive total events).imp of_decide_eq_true

theorem inOrder_perm (events : List RecordedEvent) : (inOrder events).Perm events :=
  List.mergeSort_perm _ _

end Session

end UiReplay
