import UiReplay.Proofs.Workflow.Places

/-!
# Editing a workflow

Four calls change the steps of a workflow: a step is added at the end or at a position, taken out
by its identifier, or moved from one position to another (`Workflow.Edit`).  A call is refused when
a position lies beyond the steps, or when no step has the identifier.  It is carried out in all
other cases.

One call either is refused and changes nothing, or it adds, takes out or moves the one step that
it names, and all other steps stay as they were and in their order (`Workflow.edited_edit`).  The
numbers are the positions after each call (`Workflow.Edited.isNumbered`), hence after any sequence
of calls on a workflow that is new or was read (`Workflow.edits_numbered`).
-/

namespace UiReplay

namespace Workflow

/-! ## Calls -/

/-- A call that changes the steps of a workflow. -/
inductive Edit where
  /-- Adds a step at the end. -/
  | push (s : Step)
  /-- Puts a step at a position. -/
  | insert (index : Nat) (s : Step)
  /-- Takes the first step with an identifier out. -/
  | remove (id : Uuid)
  /-- Moves the step at one position to another. -/
  | move (source target : Nat)

/-- What a call answers. -/
inductive EditReply where
  /-- The step with this identifier was added. -/
  | added (id : Uuid)
  /-- This step was taken out. -/
  | removed (s : Step)
  /-- A step was moved. -/
  | moved
  /-- The call is refused for a reason. -/
  | refused (p : Problem)
  /-- No step has the identifier. -/
  | unknown

/-- What a call answers, and the workflow behind it. -/
def edit (w : Workflow) : Edit → EditReply × Workflow
  | .push s => (.added s.id, w.push s)
  | .insert index s =>
      match w.insert? index s with
      | .ok w' => (.added s.id, w')
      | .error p => (.refused p, w)
  | .remove id =>
      match w.remove? id with
      | some (s, w') => (.removed s, w')
      | none => (.unknown, w)
  | .move source target =>
      match w.move? source target with
      | .ok w' => (.moved, w')
      | .error p => (.refused p, w)

/-- The workflow behind calls, one after the other. -/
def edits (w : Workflow) : List Edit → Workflow
  | [] => w
  | e :: rest => (w.edit e).2.edits rest

/-! ## What a call does -/

/-- A call on some steps is refused, with its answer. -/
inductive Edit.Refuses (steps : List Step) : Edit → EditReply → Prop
  | insert {index : Nat} (s : Step) (beyond : steps.length < index) :
      Refuses steps (.insert index s) (.refused (.stepOutOfRange index steps.length))
  | remove {id : Uuid} (unknown : ∀ s ∈ steps, s.id ≠ id) : Refuses steps (.remove id) .unknown
  | source {source : Nat} (target : Nat) (beyond : steps.length ≤ source) :
      Refuses steps (.move source target) (.refused (.stepOutOfRange source steps.length))
  | target {source target : Nat} (within : source < steps.length)
      (beyond : steps.length ≤ target) :
      Refuses steps (.move source target) (.refused (.stepOutOfRange target steps.length))

/-- A call on some steps is carried out, with its answer and the steps behind it.  The one step that
it names is added, taken out or moved, and the others stay in their order. -/
inductive Edit.Changes : List Step → Edit → EditReply → List Step → Prop
  | push {steps : List Step} (s : Step) : Changes steps (.push s) (.added s.id) (steps ++ [s])
  | insert {before after : List Step} (s : Step) :
      Changes (before ++ after) (.insert before.length s) (.added s.id) (before ++ s :: after)
  | remove {before after : List Step} {s : Step} (first : ∀ t ∈ before, t.id ≠ s.id) :
      Changes (before ++ s :: after) (.remove s.id) (.removed s) (before ++ after)
  | move {before after before' after' : List Step} {s : Step}
      (others : before ++ after = before' ++ after') :
      Changes (before ++ s :: after) (.move before.length before'.length) .moved
        (before' ++ s :: after')

/-- The number of each step is its position. -/
def IsNumbered (w : Workflow) : Prop :=
  ∀ (i : Nat) (s : Step), w.steps[i]? = some s → s.order = i

/-- What a call does to a workflow.  A refused call leaves it as it is.  Any other changes its
steps, numbers them by position, and leaves all else as it is. -/
inductive Edited (w : Workflow) (e : Edit) (reply : EditReply) : Workflow → Prop
  | refused (why : e.Refuses w.steps reply) : Edited w e reply w
  | changed {w' : Workflow} {steps : List Step} (how : e.Changes w.steps reply steps)
      (contents : w'.steps.map content = steps.map content) (numbered : w'.IsNumbered)
      (others : w' = { w with steps := w'.steps }) : Edited w e reply w'

theorem isNumbered_withSteps (w : Workflow) (steps : List Step) :
    (w.withSteps steps).IsNumbered := by
  intro i s h
  rw [renumber_order steps 0 i s h, Nat.zero_add]

variable {w : Workflow} {e : Edit} {reply : EditReply}

theorem Edited.of_changes {steps : List Step} (how : e.Changes w.steps reply steps) :
    w.Edited e reply (w.withSteps steps) :=
  .changed how (content_renumber 0 steps) (isNumbered_withSteps w steps) rfl

/-! ## One call -/

section Positions

variable {α : Type}

theorem insertIdx_length_append (before after : List α) (a : α) :
    (before ++ after).insertIdx before.length a = before ++ a :: after := by
  induction before with
  | nil => rw [List.nil_append, List.length_nil, List.insertIdx_zero, List.nil_append]
  | cons b before ih =>
      rw [List.cons_append, List.length_cons, List.insertIdx_succ_cons, ih, List.cons_append]

theorem eraseIdx_length_append (before after : List α) (a : α) :
    (before ++ a :: after).eraseIdx before.length = before ++ after := by
  rw [List.eraseIdx_append_of_length_le (Nat.le_refl _), Nat.sub_self, List.eraseIdx_cons_zero]

/-- A position within a list splits it. -/
theorem exists_split {as : List α} {i : Nat} (h : i ≤ as.length) :
    ∃ before after, as = before ++ after ∧ before.length = i :=
  ⟨as.take i, as.drop i, (List.take_append_drop i as).symm, List.length_take_of_le h⟩

theorem exists_split_at {as : List α} {i : Nat} {a : α} (h : as[i]? = some a) :
    ∃ before after, as = before ++ a :: after ∧ before.length = i := by
  obtain ⟨hi, rfl⟩ := List.getElem?_eq_some_iff.mp h
  exact ⟨as.take i, as.drop (i + 1), by simp, List.length_take_of_le (Nat.le_of_lt hi)⟩

end Positions

theorem edited_insert (w : Workflow) (index : Nat) (s : Step) :
    w.Edited (.insert index s) (w.edit (.insert index s)).1 (w.edit (.insert index s)).2 := by
  rw [edit, insert?]
  split
  · next w' h =>
      split at h
      · next within =>
          cases h
          obtain ⟨before, after, hsteps, rfl⟩ := exists_split within
          apply Edited.of_changes
          rw [hsteps, insertIdx_length_append]
          exact .insert s
      · cases h
  · next p h =>
      split at h
      · cases h
      · next beyond =>
          cases h
          exact .refused (.insert s (Nat.lt_of_not_le beyond))

/-- The first step with an identifier, and the steps around it. -/
theorem exists_split_of_findIdx? {steps : List Step} {id : Uuid} {i : Nat}
    (h : (steps.findIdx? fun s => s.id == id) = some i) :
    ∃ before s after, steps = before ++ s :: after ∧ before.length = i ∧ s.id = id ∧
      ∀ t ∈ before, t.id ≠ id := by
  obtain ⟨hi, same, none⟩ := List.findIdx?_eq_some_iff_getElem.mp h
  have here := List.getElem?_eq_getElem hi
  generalize steps[i] = s at here same
  obtain ⟨before, after, rfl, rfl⟩ := exists_split_at here
  refine ⟨before, s, after, rfl, rfl, by simpa using same, fun t ht => ?_⟩
  obtain ⟨j, hj, rfl⟩ := List.getElem_of_mem ht
  have other := none j hj
  rw [List.getElem_append_left hj] at other
  simpa using other

theorem edited_remove (w : Workflow) (id : Uuid) :
    w.Edited (.remove id) (w.edit (.remove id)).1 (w.edit (.remove id)).2 := by
  rw [edit, remove?]
  cases hfind : w.steps.findIdx? fun s => s.id == id with
  | none =>
      refine .refused (.remove fun s hs => ?_)
      simpa using List.findIdx?_eq_none_iff.mp hfind s hs
  | some i =>
      obtain ⟨before, s, after, hsteps, rfl, rfl, first⟩ := exists_split_of_findIdx? hfind
      have here : w.steps[before.length]? = some s := by simp [hsteps]
      dsimp only
      rw [here]
      apply Edited.of_changes
      rw [hsteps, eraseIdx_length_append]
      exact .remove first

theorem edited_move (w : Workflow) (source target : Nat) :
    w.Edited (.move source target) (w.edit (.move source target)).1
      (w.edit (.move source target)).2 := by
  rw [edit, move?]
  by_cases within : source < w.steps.length
  · by_cases there : target < w.steps.length
    · have here := List.getElem?_eq_getElem within
      generalize w.steps[source] = s at here
      obtain ⟨before, after, hsteps, rfl⟩ := exists_split_at here
      rw [if_neg (Nat.not_le.mpr within), if_neg (Nat.not_le.mpr there), here]
      apply Edited.of_changes
      rw [hsteps, eraseIdx_length_append]
      -- the target is a position among the others
      have room : target ≤ (before ++ after).length := by
        simp only [hsteps, List.length_append, List.length_cons] at there
        rw [List.length_append]
        omega
      obtain ⟨before', after', others, rfl⟩ := exists_split room
      rw [others, insertIdx_length_append]
      exact .move others
    · rw [if_neg (Nat.not_le.mpr within), if_pos (Nat.le_of_not_lt there)]
      exact .refused (.target within (Nat.le_of_not_lt there))
  · rw [if_pos (Nat.le_of_not_lt within)]
    exact .refused (.source target (Nat.le_of_not_lt within))

/-- Every call is refused, or does what it says. -/
theorem edited_edit (w : Workflow) (e : Edit) : w.Edited e (w.edit e).1 (w.edit e).2 := by
  cases e with
  | push s => exact .of_changes (.push s)
  | insert index s => exact edited_insert w index s
  | remove id => exact edited_remove w id
  | move source target => exact edited_move w source target

/-! ## Calls in order -/

theorem Edited.isNumbered {w' : Workflow} (h : w.Edited e reply w') (numbered : w.IsNumbered) :
    w'.IsNumbered := by
  cases h with
  | refused _ => exact numbered
  | changed _ _ numbered _ => exact numbered

theorem isNumbered_edits (es : List Edit) (numbered : w.IsNumbered) : (w.edits es).IsNumbered := by
  induction es generalizing w with
  | nil => exact numbered
  | cons e rest ih => exact ih ((edited_edit w e).isNumbered numbered)

/-- A workflow that nobody has changed yet: it is new, or was read. -/
inductive Original : Workflow → Prop
  | made (name : String) (ids : IdSupply) : Original (make name ids).1
  | read {d : Document} {ids : IdSupply} {w : Workflow} (h : (decode d ids).1 = .ok w) :
      Original w

theorem Original.isNumbered (h : w.Original) : w.IsNumbered := by
  cases h with
  | made name ids => exact fun i s hs => by cases hs
  | read h => exact (isLoaded_of_decode h).orders

/-- After any calls on a workflow that is new or was read, the number of each step is its position,
and one more call does what it says. -/
theorem edits_numbered (original : w.Original) (es : List Edit) (e : Edit) :
    (w.edits es).IsNumbered ∧
      (w.edits es).Edited e ((w.edits es).edit e).1 ((w.edits es).edit e).2 :=
  ⟨isNumbered_edits es original.isNumbered, edited_edit _ e⟩

/-- A step that waits. -/
def pauseStep (id : Uuid) : Step where
  id := id
  action := .wait { durationMs := 1 }

/-- Calls that leave the second step of three in front of the first. -/
def pauseEdits : List Edit :=
  [.push (pauseStep ⟨1⟩), .push (pauseStep ⟨2⟩), .insert 0 (pauseStep ⟨3⟩), .insert 7 (pauseStep ⟨4⟩),
    .move 2 1, .remove ⟨3⟩, .remove ⟨3⟩]

theorem edits_numbered_pauses :
    Original (make "Pauses" ⟨0, 0⟩).1 ∧
      let w := (make "Pauses" ⟨0, 0⟩).1.edits pauseEdits
      w.steps.map Step.id = [⟨2⟩, ⟨1⟩] ∧ w.IsNumbered ∧
        w.Edited (.move 0 2) (.refused (.stepOutOfRange 2 2)) w := by
  have original : Original (make "Pauses" ⟨0, 0⟩).1 := .made "Pauses" ⟨0, 0⟩
  obtain ⟨numbered, edited⟩ := edits_numbered original pauseEdits (.move 0 2)
  exact ⟨original, by decide, numbered, edited⟩

end Workflow

end UiReplay
