import UiReplay.Workflow.Basic

/-!
# Valid steps and workflows

A workflow is valid when its steps have different identifiers and each number is a
position.  The first step that breaks a rule is the one that is reported, and of
its two rules the identifier comes first.  What the steps themselves lack is not
looked at, since a bad step only fails on its own.

A step is valid when it carries what its action needs: a tap a point or a chain, and
never half a point, a swipe or scroll all four coordinates or none, and typing a
text.
-/

namespace UiReplay

/-! ## Workflows -/

namespace Workflow

/-- Checks steps from a position on.  `seen` holds the identifiers before. -/
def checkFrom : Nat → List Uuid → List Step → Except Problem Unit
  | _, _, [] => .ok ()
  | n, seen, s :: rest =>
      if seen.contains s.id then .error (.duplicateStepId s.id)
      else if s.order ≠ n then .error (.orderMismatch n s.order)
      else checkFrom (n + 1) (s.id :: seen) rest

/-- Checks a workflow. -/
def validate (w : Workflow) : Except Problem Unit := checkFrom 0 [] w.steps

/-- The steps have different identifiers and are numbered by position. -/
def IsValid (w : Workflow) : Prop :=
  (w.steps.map Step.id).Nodup ∧ ∀ (i : Nat) (s : Step), w.steps[i]? = some s → s.order = i

/-- The check from a position on, by induction on the steps that are left. -/
theorem checkFrom_eq_ok_iff {n : Nat} {seen : List Uuid} {steps : List Step} :
    checkFrom n seen steps = .ok () ↔
      ((steps.map Step.id).Nodup ∧ ∀ s ∈ steps, s.id ∉ seen) ∧
        ∀ (i : Nat) (s : Step), steps[i]? = some s → s.order = n + i := by
  induction steps generalizing n seen with
  | nil => simp [checkFrom]
  | cons t rest ih =>
      have numbered : (∀ (i : Nat) (s : Step), (t :: rest)[i]? = some s → s.order = n + i) ↔
          t.order = n ∧ ∀ (i : Nat) (s : Step), rest[i]? = some s → s.order = n + 1 + i := by
        constructor
        · intro h
          refine ⟨h 0 t rfl, fun i s hs => ?_⟩
          rw [Nat.add_assoc, Nat.add_comm 1]
          exact h (i + 1) s hs
        · rintro ⟨first, later⟩ (_ | i) s hs
          · cases hs
            exact first
          · rw [later i s hs, Nat.add_assoc, Nat.add_comm 1]
      rw [checkFrom, numbered]
      by_cases old : t.id ∈ seen
      · simp [old]
      · by_cases order : t.order = n
        · simp only [List.contains_iff_mem, old, order, ih, ne_eq, not_true_eq_false, if_false,
            List.map_cons, List.nodup_cons, List.mem_cons, List.mem_map]
          grind
        · simp [old, order]

/-- A workflow passes the check exactly when it is valid. -/
theorem validate_eq_ok_iff {w : Workflow} : w.validate = .ok () ↔ w.IsValid := by
  rw [validate, checkFrom_eq_ok_iff, IsValid]
  simp

/-- Steps with different identifiers make a valid workflow once they are numbered. -/
theorem isValid_withSteps (w : Workflow) {steps : List Step}
    (distinct : (steps.map Step.id).Nodup) : (w.withSteps steps).IsValid := by
  constructor
  · have ids : (numberFrom 0 steps).map Step.id = steps.map Step.id := by
      have contents := congrArg (List.map Step.id) (content_renumber 0 steps)
      rwa [List.map_map, List.map_map] at contents
    rw [withSteps, ids]
    exact distinct
  · intro i s hs
    rw [renumber_order steps 0 i s hs, Nat.zero_add]

end Workflow

/-! ## Steps -/

namespace Step

/-- How a step is called in messages. -/
def label (s : Step) : String :=
  if s.name = "" then "#" ++ Number.natText s.order else s.name

/-- Checks a step. -/
def validate (s : Step) : Except Problem Unit :=
  match s.action with
  | .tap d | .longTap d =>
      if d.x.isSome ≠ d.y.isSome then .error (.incompleteCoordinates s.label)
      else if d.point?.isNone ∧ s.selector.isNone then .error (.missingTarget s.label)
      else .ok ()
  | .swipe d | .scroll d =>
      if d.given ≠ 0 ∧ d.given ≠ 4 then .error (.incompleteCoordinates s.label) else .ok ()
  | .inputText d => if d.text = "" then .error (.emptyText s.label) else .ok ()
  | .wait _ => .ok ()
  | .unusable r => .error r.problem

end Step

end UiReplay
