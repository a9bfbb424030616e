import UiReplay.Recording.Step

/-!
# Recording sessions

A session collects the steps of recorded events in a workflow.  It remembers the
number of the last event and ignores an event whose number is not greater.  An
event that becomes no step counts as seen, also when the recorder breaks down over it.

A feed is asked again and again for the events after the last one.  An answer that
is an error changes nothing.  The events of an answer are taken by ascending
numbers, those of one number in their order (`Session.absorb`).  When the recorder
breaks down over one of them, the others are not taken.

`record_of_not_isNew`, `record_of_overflows` and `record_of_isNew` say what comes of an
event, and `recordAll_cons` what comes of several.
-/

namespace UiReplay

/-- A recording. -/
structure Session where
  /-- The steps so far. -/
  workflow : Workflow
  /-- The number of the last event. -/
  last : Option Nat := none
  /-- How steps are made. -/
  recorder : Recorder := {}

/-- What came of an event. -/
inductive Reception where
  /-- Its step was appended. -/
  | step (id : Uuid)
  /-- It became no step. -/
  | nothing
  /-- The recorder broke down. -/
  | breakdown
deriving DecidableEq, Repr

/-- What came of several events. -/
structure Intake where
  /-- The session as it was left. -/
  session : Session
  /-- Whether the recorder broke down. -/
  broken : Bool := false

namespace Session

/-- Whether an event comes after the last one. -/
def isNew (s : Session) (e : RecordedEvent) : Bool :=
  match s.last with
  | none => true
  | some id => id < e.id

/-- The session that has seen an event. -/
def saw (s : Session) (e : RecordedEvent) : Session := { s with last := some e.id }

/-- The session with a step more. -/
def append (s : Session) (step : Step) : Session :=
  { s with workflow := s.workflow.push step }

/-- Takes an event. -/
def record (s : Session) (e : RecordedEvent) : IdSupply.With (Reception × Session) :=
  if s.isNew e then
    if e.overflows then pure (.breakdown, s.saw e)
    else do
      match ← s.recorder.step? e with
      | some step => return (.step step.id, (s.saw e).append step)
      | none => return (.nothing, s.saw e)
  else pure (.nothing, s)

/-- Takes events one after the other, until the recorder breaks down. -/
def recordAll (s : Session) : List RecordedEvent → IdSupply.With Intake
  | [] => pure { session := s }
  | e :: rest => do
      let (reception, s) ← s.record e
      match reception with
      | .breakdown => return { session := s, broken := true }
      | .step _ | .nothing => s.recordAll rest

/-- The events by ascending numbers. -/
def inOrder (events : List RecordedEvent) : List RecordedEvent :=
  events.mergeSort fun a b => a.id ≤ b.id

/-- Takes the answer of a feed. -/
def absorb (s : Session) : Except DeviceError (List RecordedEvent) → IdSupply.With Intake
  | .ok events => s.recordAll (inOrder events)
  | .error _ => pure { session := s }

variable {s : Session} {e : RecordedEvent}

theorem record_of_not_isNew (old : s.isNew e = false) (ids : IdSupply) :
    s.record e ids = ((.nothing, s), ids) := by
  rw [record, old]
  rfl

theorem record_of_overflows (new : s.isNew e = true) (broken : e.overflows = true)
    (ids : IdSupply) : s.record e ids = ((.breakdown, s.saw e), ids) := by
  rw [record, new, broken]
  rfl

theorem record_of_isNew (new : s.isNew e = true) (whole : e.overflows = false) (ids : IdSupply) :
    s.record e ids =
      (match s.recorder.stepWith? e ids.next with
        | some step => (.step step.id, (s.saw e).append step)
        | none => (.nothing, s.saw e), { ids with given := ids.given + 1 }) := by
  have made : s.recorder.step? e ids =
      (s.recorder.stepWith? e ids.next, { ids with given := ids.given + 1 }) := rfl
  simp only [record, new, whole, if_true, Bool.false_eq_true, if_false, bind, StateT.bind, made]
  cases s.recorder.stepWith? e ids.next <;> rfl

/-- The session goes on with the other events unless the recorder breaks down over the first. -/
theorem recordAll_cons (s : Session) (e : RecordedEvent) (rest : List RecordedEvent)
    (ids : IdSupply) :
    s.recordAll (e :: rest) ids =
      if s.isNew e = true ∧ e.overflows = true then ({ session := s.saw e, broken := true }, ids)
      else (s.record e ids).1.2.recordAll rest (s.record e ids).2 := by
  simp only [recordAll, bind, StateT.bind]
  cases new : s.isNew e with
  | false => rw [record_of_not_isNew new, if_neg (by simp)]
  | true =>
      cases broken : e.overflows with
      | true =>
          rw [record_of_overflows new broken, if_pos ⟨rfl, rfl⟩]
          rfl
      | false =>
          rw [record_of_isNew new broken, if_neg (by simp)]
          cases s.recorder.stepWith? e ids.next <;> rfl

end Session

end UiReplay
