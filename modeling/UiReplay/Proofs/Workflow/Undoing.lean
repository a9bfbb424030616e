import UiReplay.Proofs.Workflow.Edits
import Mathlib.Data.List.InsertIdx

/-!
# Undoing an edit

A step that was moved can be moved back, and a step that was added can be taken out again.  Both
lead back to the steps as they stood before, numbered by position (`Workflow.renumbered`).  That is
the workflow itself when its numbers are its positions, as they are in every workflow that is made
or read and then edited.

A step that comes to stand elsewhere is the same step under another number, so steps are compared
by their contents.  An edit takes the place of a step among the contents or makes one, and the
edit that undoes it is the inverse on lists (`insertIdx_eraseIdx`, `List.eraseIdx_insertIdx_self`).
Numbering then only looks at the contents (`Workflow.withSteps_congr`).
-/

namespace UiReplay

namespace Workflow

variable {w : Workflow}

/-! ## Numbers and contents -/

/-- A workflow with its own steps numbered by position. -/
def renumbered (w : Workflow) : Workflow := w.withSteps w.steps

theorem contents_renumbered (w : Workflow) :
    w.renumbered.steps.map content = w.steps.map content :=
  content_renumber 0 w.steps

theorem renumbered_of_isNumbered (numbered : w.IsNumbered) : w.renumbered = w := by
  have same : numberFrom 0 w.steps = w.steps := by
    apply numberFrom_of_orders
    intro i s hs
    rw [numbered i s hs, Nat.zero_add]
  rw [renumbered, withSteps, same]

/-- A number that a step gets does not depend on the number that it had. -/
theorem numberFrom_congr {n : Nat} {steps steps' : List Step}
    (same : steps.map content = steps'.map content) : numberFrom n steps = numberFrom n steps' := by
  have again : ∀ steps : List Step, numberFrom n (steps.map content) = numberFrom n steps := by
    intro steps
    apply List.ext_getElem?
    intro i
    rw [getElem?_numberFrom, getElem?_numberFrom, List.getElem?_map, Option.map_map]
    rfl
  rw [← again steps, same, again]

theorem withSteps_congr {steps steps' : List Step}
    (same : steps.map content = steps'.map content) : w.withSteps steps = w.withSteps steps' := by
  rw [withSteps, numberFrom_congr same, withSteps]

/-! ## Moving -/

/-- A step put back where it was taken out. -/
theorem insertIdx_eraseIdx {α : Type} {as : List α} {i : Nat} {a : α} (h : as[i]? = some a) :
    (as.eraseIdx i).insertIdx i a = as := by
  obtain ⟨before, after, rfl, rfl⟩ := exists_split_at h
  rw [eraseIdx_length_append, insertIdx_length_append]

theorem move?_eq {source target : Nat} {s : Step} (here : w.steps[source]? = some s)
    (there : target < w.steps.length) :
    w.move? source target = .ok (w.withSteps ((w.steps.eraseIdx source).insertIdx target s)) := by
  have within := (List.getElem?_eq_some_iff.mp here).1
  rw [move?, if_neg (Nat.not_le.mpr within), if_neg (Nat.not_le.mpr there), here]

/-- A step stands at another place, and all others stand in their order. -/
structure Moved (w : Workflow) (source target : Nat) (w' : Workflow) : Prop where
  here : ∃ s, w.steps[source]? = some s ∧ w'.steps[target]? = some { s with order := target }
  others : (w'.steps.eraseIdx target).map content = (w.steps.eraseIdx source).map content

theorem length_insertIdx_eraseIdx {α : Type} {as : List α} {i j : Nat} (hi : i < as.length)
    (hj : j < as.length) (a : α) : ((as.eraseIdx i).insertIdx j a).length = as.length := by
  have short := List.length_eraseIdx_of_lt hi
  rw [List.length_insertIdx_of_le_length (by omega), short]
  omega

/-- A step is moved, and moving it back leads to the steps as they stood. -/
theorem moves_back {source target : Nat} (within : source < w.steps.length)
    (there : target < w.steps.length) :
    ∃ w', w.move? source target = .ok w' ∧ w.Moved source target w' ∧
      w'.move? target source = .ok w.renumbered := by
  have here := List.getElem?_eq_getElem within
  generalize w.steps[source] = s at here
  refine ⟨_, move?_eq here there, ?_⟩
  generalize hw : w.withSteps ((w.steps.eraseIdx source).insertIdx target s) = w'
  have contents : w'.steps.map content =
      ((w.steps.map content).eraseIdx source).insertIdx target (content s) := by
    rw [← hw, withSteps, content_renumber, List.map_insertIdx, List.eraseIdx_map]
  have moved : w'.steps[target]? = some { s with order := target } := by
    -- the target is a position among the others, or the one behind them
    have room : target ≤ (w.steps.eraseIdx source).length := by
      rw [List.length_eraseIdx_of_lt within]
      omega
    rw [← hw, withSteps, getElem?_numberFrom, List.getElem?_insertIdx_self, if_pos room,
      Option.map_some, Nat.zero_add]
  have length : w'.steps.length = w.steps.length := by
    rw [← hw, withSteps, length_numberFrom, length_insertIdx_eraseIdx within there]
  refine ⟨⟨⟨s, here, moved⟩, ?_⟩, ?_⟩
  · rw [← List.eraseIdx_map, contents, List.eraseIdx_insertIdx_self, List.eraseIdx_map]
  · have known : (w.steps.map content)[source]? = some (content s) := by
      rw [List.getElem?_map, here, Option.map_some]
    have others : w'.withSteps w.steps = w.renumbered := by
      rw [← hw]
      rfl
    rw [move?_eq moved (length ▸ within), ← others]
    congr 1
    apply withSteps_congr
    -- the step is taken out where it was put in, and put in where it was taken out
    calc ((w'.steps.eraseIdx target).insertIdx source { s with order := target }).map content
        = ((w'.steps.map content).eraseIdx target).insertIdx source (content s) := by
          rw [List.map_insertIdx, List.eraseIdx_map]
          rfl
      _ = ((w.steps.map content).eraseIdx source).insertIdx source (content s) := by
          rw [contents, List.eraseIdx_insertIdx_self]
      _ = w.steps.map content := insertIdx_eraseIdx known

/-! ## Adding -/

theorem remove?_eq {index : Nat} {s : Step} (here : w.steps[index]? = some s)
    (first : ∀ j < index, ∀ t, w.steps[j]? = some t → t.id ≠ s.id) :
    w.remove? s.id = some (s, w.withSteps (w.steps.eraseIdx index)) := by
  have found : (w.steps.findIdx? fun t => t.id == s.id) = some index := by
    obtain ⟨within, rfl⟩ := List.getElem?_eq_some_iff.mp here
    refine List.findIdx?_eq_some_iff_getElem.mpr ⟨within, beq_self_eq_true _, fun j lt => ?_⟩
    simpa using first j lt _ (List.getElem?_eq_getElem _)
  simp only [remove?, found, here, Option.map_some]

/-- A step stands at a place, and all others stand in their order around it. -/
structure Inserted (w : Workflow) (index : Nat) (s : Step) (w' : Workflow) : Prop where
  here : w'.steps[index]? = some { s with order := index }
  others : (w'.steps.eraseIdx index).map content = w.steps.map content

/-- A step with a new identifier is added, and taking it out leads to the steps as they stood.  It
comes back with the number of the place where it stood. -/
theorem inserts_and_removes {index : Nat} {s : Step} (within : index ≤ w.steps.length)
    (unknown : ∀ t ∈ w.steps, t.id ≠ s.id) :
    ∃ w', w.insert? index s = .ok w' ∧ w.Inserted index s w' ∧
      w'.remove? s.id = some ({ s with order := index }, w.renumbered) := by
  refine ⟨_, by rw [insert?, if_pos within], ?_⟩
  generalize hw : w.withSteps (w.steps.insertIdx index s) = w'
  have inserted : w'.steps[index]? = some { s with order := index } := by
    rw [← hw, withSteps, getElem?_numberFrom, List.getElem?_insertIdx_self, if_pos within,
      Option.map_some, Nat.zero_add]
  have contents : (w'.steps.eraseIdx index).map content = w.steps.map content := by
    rw [← List.eraseIdx_map, ← hw, withSteps, content_renumber, List.map_insertIdx,
      List.eraseIdx_insertIdx_self]
  -- the steps in front are old ones, so the search for the identifier passes them
  have first : ∀ j < index, ∀ t, w'.steps[j]? = some t → t.id ≠ s.id := by
    intro j lt t ht
    rw [← hw, withSteps, getElem?_numberFrom, List.getElem?_insertIdx_of_lt lt] at ht
    obtain ⟨old, hold, rfl⟩ := Option.map_eq_some_iff.mp ht
    exact unknown old (List.mem_of_getElem? hold)
  have others : w'.withSteps w.steps = w.renumbered := by
    rw [← hw]
    rfl
  refine ⟨⟨inserted, contents⟩, ?_⟩
  rw [remove?_eq inserted first, withSteps_congr contents, others]

theorem insert?_length (w : Workflow) (s : Step) : w.insert? w.steps.length s = .ok (w.push s) := by
  rw [insert?, if_pos (Nat.le_refl _), List.insertIdx_length_self, push]

/-! ## All edits -/

/-- Moving a step and moving it back, and adding a step and taking it out, leads to the steps as
they stood, numbered by position.  In between only the one step has another place.  Adding at the
end is adding at the last position. -/
theorem edits_undone (w : Workflow) :
    (∀ source target, source < w.steps.length → target < w.steps.length →
      ∃ w', w.move? source target = .ok w' ∧ w.Moved source target w' ∧
        w'.move? target source = .ok w.renumbered) ∧
    (∀ index s, index ≤ w.steps.length → (∀ t ∈ w.steps, t.id ≠ s.id) →
      ∃ w', w.insert? index s = .ok w' ∧ w.Inserted index s w' ∧
        w'.remove? s.id = some ({ s with order := index }, w.renumbered)) ∧
    (∀ s, w.insert? w.steps.length s = .ok (w.push s)) ∧
    w.renumbered.steps.map content = w.steps.map content ∧ (w.IsNumbered → w.renumbered = w) :=
  ⟨fun _ _ within there => moves_back within there,
    fun _ _ within unknown => inserts_and_removes within unknown, insert?_length w,
    contents_renumbered w, renumbered_of_isNumbered⟩

/-- A new workflow with three steps that wait. -/
def threePauses : Workflow :=
  (make "Pauses" ⟨0, 0⟩).1.edits
    [.push (pauseStep ⟨1⟩), .push (pauseStep ⟨2⟩), .push (pauseStep ⟨3⟩)]

theorem edits_undone_threePauses :
    (∃ w', threePauses.move? 2 0 = .ok w' ∧ w'.steps.map Step.id = [⟨3⟩, ⟨1⟩, ⟨2⟩] ∧
      w'.move? 0 2 = .ok threePauses) ∧
    ∃ w', threePauses.insert? 1 (pauseStep ⟨4⟩) = .ok w' ∧
      w'.steps.map Step.id = [⟨1⟩, ⟨4⟩, ⟨2⟩, ⟨3⟩] ∧
      w'.remove? ⟨4⟩ = some ({ pauseStep ⟨4⟩ with order := 1 }, threePauses) := by
  have numbered : threePauses.IsNumbered :=
    isNumbered_edits _ (Original.made "Pauses" ⟨0, 0⟩).isNumbered
  obtain ⟨moves, inserts, -, -, same⟩ := edits_undone threePauses
  rw [same numbered] at moves inserts
  constructor
  · obtain ⟨w', moved, -, back⟩ := moves 2 0 (by decide) (by decide)
    cases moved
    exact ⟨_, rfl, by decide, back⟩
  · obtain ⟨w', inserted, -, back⟩ := inserts 1 (pauseStep ⟨4⟩) (by decide) (by decide)
    cases inserted
    exact ⟨_, rfl, by decide, back⟩

end Workflow

end UiReplay
