import UiReplay.Proofs.Workflow.Edits
import UiReplay.Workflow.Validity

/-!
# Changing a step in place

A step is looked up by its identifier and then written to where it stands (`Workflow.modify`).
Every field but the number can be written on its own.  A whole step can be written as well, and it
brings its own number with it (`Step.Write`).

So after any writes the step has the number of the last whole step among them, or the number that
it had before (`Step.order_written`).  The numbers of a workflow stay the positions exactly when
the last whole step has the number of the place that it is written to
(`Workflow.isNumbered_written_iff`).  Writing to fields alone cannot break this.  A new step has the
number zero, so it is out of place anywhere but in front, and the workflow does not pass its check
any more (`Workflow.misplaced_freshPause`).
-/

namespace UiReplay

/-! ## Writes -/

namespace Step

/-- What is written to a step: one of its fields, or another step in its place.  The number is no
field that can be written. -/
inductive Write where
  | id (u : Uuid)
  | action (a : Action)
  | selector (c : Option Chain)
  | name (n : String)
  | enabled (b : Bool)
  | whole (t : Step)

def Write.whole? : Write → Option Step
  | .whole t => some t
  | _ => none

def write (s : Step) : Write → Step
  | .id u => { s with id := u }
  | .action a => { s with action := a }
  | .selector c => { s with selector := c }
  | .name n => { s with name := n }
  | .enabled b => { s with enabled := b }
  | .whole t => t

/-- The step after writes, one after the other. -/
def written (ws : List Write) (s : Step) : Step := ws.foldl write s

/-- The last whole step among some writes. -/
def lastWhole? (ws : List Write) : Option Step := (ws.filterMap Write.whole?).getLast?

theorem order_write (s : Step) (w : Write) : (s.write w).order = (w.whole?.getD s).order := by
  cases w <;> rfl

theorem lastWhole?_cons (w : Write) (ws : List Write) :
    lastWhole? (w :: ws) = (lastWhole? ws).or w.whole? := by
  rw [lastWhole?, lastWhole?, List.filterMap_cons]
  cases w.whole? with
  | none => rw [Option.or_none]
  | some t =>
      -- a later whole step counts before this one
      rw [List.getLast?_cons]
      cases (ws.filterMap Write.whole?).getLast? <;> rfl

/-- Only a whole step brings a number with it, by induction on the writes. -/
theorem order_written (ws : List Write) (s : Step) :
    (s.written ws).order = ((lastWhole? ws).getD s).order := by
  induction ws generalizing s with
  | nil => rfl
  | cons w ws ih =>
      have step : written (w :: ws) s = written ws (s.write w) := rfl
      rw [step, ih, lastWhole?_cons]
      cases lastWhole? ws with
      | none => exact order_write s w
      | some t => rfl

end Step

/-! ## The workflow -/

namespace Workflow

variable {w : Workflow} {id : Uuid} {change : Step → Step}

theorem modifyFirst_of_unknown {steps : List Step} (unknown : ∀ s ∈ steps, s.id ≠ id) :
    modifyFirst id change steps = steps := by
  induction steps with
  | nil => rfl
  | cons s rest ih =>
      obtain ⟨other, unknown⟩ := List.forall_mem_cons.mp unknown
      rw [modifyFirst, if_neg other, ih unknown]

theorem modifyFirst_split {before after : List Step} {s : Step} (first : ∀ t ∈ before, t.id ≠ id)
    (same : s.id = id) :
    modifyFirst id change (before ++ s :: after) = before ++ change s :: after := by
  induction before with
  | nil => rw [List.nil_append, modifyFirst, if_pos same, List.nil_append]
  | cons t before ih =>
      obtain ⟨other, first⟩ := List.forall_mem_cons.mp first
      rw [List.cons_append, modifyFirst, if_neg other, ih first, List.cons_append]

/-- The position of the first step with an identifier. -/
def position? (w : Workflow) (id : Uuid) : Option Nat := w.steps.findIdx? fun s => s.id == id

theorem modify_of_unknown (h : w.position? id = none) : w.modify id change = w := by
  have unknown : ∀ s ∈ w.steps, s.id ≠ id := fun s hs => by
    simpa using List.findIdx?_eq_none_iff.mp h s hs
  rw [modify, modifyFirst_of_unknown unknown]

/-- The step that is changed is the first with the identifier, and all others stay. -/
theorem steps_modify (change : Step → Step) {i : Nat} (h : w.position? id = some i) :
    ∃ s, w.steps[i]? = some s ∧ (w.modify id change).steps = w.steps.set i (change s) := by
  obtain ⟨before, s, after, hsteps, rfl, same, first⟩ := exists_split_of_findIdx? h
  refine ⟨s, by simp [hsteps], ?_⟩
  rw [modify, hsteps, modifyFirst_split first same]
  simp

/-- The numbers stay the positions exactly when the changed step has the number of its place. -/
theorem isNumbered_modify_iff (numbered : w.IsNumbered) :
    (w.modify id change).IsNumbered ↔
      ∀ i s, w.position? id = some i → w.steps[i]? = some s → (change s).order = i := by
  cases found : w.position? id with
  | none =>
      rw [modify_of_unknown found]
      exact ⟨fun _ _ _ h => (nomatch h), fun _ => numbered⟩
  | some i =>
      obtain ⟨s, here, steps⟩ := steps_modify change found
      have inside := (List.getElem?_eq_some_iff.mp here).1
      rw [IsNumbered, steps]
      constructor
      · intro after j t hj ht
        cases hj
        cases here.symm.trans ht
        exact after i (change s) (List.getElem?_set_self inside)
      · intro own j t ht
        by_cases place : j = i
        · subst place
          rw [List.getElem?_set_self inside] at ht
          cases ht
          exact own j s rfl here
        · rw [List.getElem?_set_ne (Ne.symm place)] at ht
          exact numbered j t ht

/-- Whatever is written to a step, the numbers stay the positions exactly when the last whole step
that is written has the number of its place. -/
theorem isNumbered_written_iff (numbered : w.IsNumbered) (id : Uuid) (ws : List Step.Write) :
    (w.modify id (Step.written ws)).IsNumbered ↔
      ∀ i t, w.position? id = some i → Step.lastWhole? ws = some t → t.order = i := by
  rw [isNumbered_modify_iff numbered]
  constructor
  · intro own i t found last
    obtain ⟨s, here, -⟩ := steps_modify (Step.written ws) found
    have := own i s found here
    rwa [Step.order_written, last] at this
  · intro own i s found here
    rw [Step.order_written]
    -- without a whole step the old number stays, and that was the position
    cases last : Step.lastWhole? ws with
    | none => exact numbered i s here
    | some t => exact own i t found last

/-- A new workflow with two steps that wait. -/
def twoPauses : Workflow :=
  (make "Pauses" ⟨0, 0⟩).1.edits [.push (pauseStep ⟨1⟩), .push (pauseStep ⟨2⟩)]

theorem isNumbered_twoPauses : twoPauses.IsNumbered :=
  isNumbered_edits _ (Original.made "Pauses" ⟨0, 0⟩).isNumbered

/-- A step from elsewhere with the number of the place, between writes to fields. -/
def fittingWrites : List Step.Write :=
  [.name "Rest", .whole { pauseStep ⟨3⟩ with order := 1 }, .id ⟨4⟩, .enabled false]

theorem isNumbered_written_fitting :
    twoPauses.IsNumbered ∧
      let w := twoPauses.modify ⟨2⟩ (Step.written fittingWrites)
      w.steps.map Step.id = [⟨1⟩, ⟨4⟩] ∧ w.IsNumbered := by
  refine ⟨isNumbered_twoPauses, by decide, ?_⟩
  refine (isNumbered_written_iff isNumbered_twoPauses ⟨2⟩ fittingWrites).mpr ?_
  intro i t found last
  have place : twoPauses.position? ⟨2⟩ = some 1 := by decide
  cases place.symm.trans found
  cases last
  rfl

/-- A new step that waits. -/
def freshPause : Step := (Step.make (.wait { durationMs := 5 }) none ⟨0, 2⟩).1

/-- A new step in the place of the second has a number that is not its position. -/
theorem misplaced_freshPause :
    twoPauses.IsNumbered ∧
      let w := twoPauses.modify ⟨2⟩ (Step.written [.whole freshPause])
      ¬ w.IsNumbered ∧ w.validate = .error (.orderMismatch 1 0) := by
  refine ⟨isNumbered_twoPauses, fun numbered => ?_, rfl⟩
  have := numbered 1 freshPause rfl
  cases this

end Workflow

end UiReplay
