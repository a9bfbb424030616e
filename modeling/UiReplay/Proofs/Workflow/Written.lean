import UiReplay.Proofs.Number.Widening
import UiReplay.Proofs.Workflow.Kept

/-!
# What a step is written as

Every step that was read can be written as a value (`Step.IsLoaded.exists_written`).  A step that
is carried out is written as a record of its fields, a record that describes no step with four
fields set, and a value that is no record as it was read.  A record gives the number of the step
back; any other value holds no number, and the step comes back with zero
(`Step.WrittenAs.reread`).
-/

namespace UiReplay

/-! ## Documents with a value -/

theorem isSome_optionalInteger (o : Option Int) : (optionalInteger o).value?.isSome = true := by
  cases o <;> rfl

/-- Fields that all have values make a record with a value. -/
theorem Document.isSome_record {fields : List (String × Document)}
    (h : ∀ f ∈ fields, f.2.value?.isSome = true) : (record fields).value?.isSome = true := by
  obtain ⟨fs, hfs, -⟩ := value?_record h
  rw [hfs]
  rfl

theorem isSome_levelFields (l : SelectorLevel) :
    ∀ f ∈ NestedSelector.levelFields l, f.2.value?.isSome = true := by
  intro f hf
  rcases List.mem_append.mp hf with hf | hf
  · simp only [List.mem_cons, List.not_mem_nil, or_false] at hf
    rcases hf with rfl | rfl <;> rfl
  · split at hf
    · next c _ =>
        rw [List.mem_singleton.mp hf]
        cases c with
        | finite x =>
            show ((x.convert? Number.double).map Json.double).isSome = true
            rw [Option.isSome_map]
            exact Number.Binary.isSome_convert? x
        | infinite _ => rfl
        | nan => rfl
    · cases hf

theorem NestedSelector.isSome_document (n : NestedSelector) : n.document.value?.isSome = true := by
  induction n with
  | last l => exact Document.isSome_record (isSome_levelFields l)
  | before l rest ih =>
      refine Document.isSome_record fun f hf => ?_
      rcases List.mem_append.mp hf with hf | hf
      · exact isSome_levelFields l f hf
      · rw [List.mem_singleton.mp hf]
        exact ih

namespace StepRecord

theorem isSome_optionalField {α : Type} {name : String} {write : α → Document}
    (h : ∀ a, (write a).value?.isSome = true) (o : Option α) :
    ∀ f ∈ optionalField name write o, f.2.value?.isSome = true := by
  intro f hf
  cases o with
  | none => cases hf
  | some a =>
      rw [List.mem_singleton.mp hf]
      exact h a

theorem find?_optionalField {α : Type} {name key : String} {write : α → Document}
    (h : key ≠ name) (o : Option α) :
    Fields.find? name (optionalField key write o).reverse = none := by
  cases o with
  | none => rfl
  | some a => simp [optionalField, Fields.find?, h]

theorem isSome_tap (d : TapData) : d.document.value?.isSome = true := by
  refine Document.isSome_record fun f hf => ?_
  simp only [List.mem_cons, List.not_mem_nil, or_false] at hf
  rcases hf with rfl | rfl | rfl
  · exact isSome_optionalInteger _
  · exact isSome_optionalInteger _
  · rfl

theorem isSome_swipe (d : SwipeData) : d.document.value?.isSome = true := by
  refine Document.isSome_record fun f hf => ?_
  simp only [List.mem_cons, List.not_mem_nil, or_false] at hf
  rcases hf with rfl | rfl | rfl | rfl | rfl | rfl
  · rfl
  all_goals first
    | exact isSome_optionalInteger _
    | rfl

/-- The fields of a flat record that is written. -/
theorem exists_members (r : StepRecord) :
    ∃ members, r.document = .record members ∧ (∀ f ∈ members, f.2.value?.isSome = true) ∧
      Fields.find? "id" members.reverse = r.id.map (fun u => .text u.text) ∧
      Fields.find? "name" members.reverse = some (.text r.name) ∧
      Fields.find? "enabled" members.reverse = some (.bool r.enabled) ∧
      Fields.find? "order" members.reverse = some (.integer r.order) := by
  refine ⟨_, rfl, ?_, ?_, ?_, ?_, ?_⟩
  · simp only [List.forall_mem_append]
    refine ⟨⟨⟨⟨⟨⟨⟨?_, ?_⟩, ?_⟩, ?_⟩, ?_⟩, ?_⟩, ?_⟩, ?_⟩
    · exact isSome_optionalField (fun _ => rfl) r.id
    · simp [Document.value?]
    · exact isSome_optionalField NestedSelector.isSome_document r.selector
    · simp [Document.value?]
    · exact isSome_optionalField isSome_tap r.tapData
    · exact isSome_optionalField isSome_swipe r.swipeData
    · exact isSome_optionalField (fun _ => rfl) r.inputData
    · exact isSome_optionalField (fun _ => rfl) r.waitData
  · have own : Fields.find? "id" (optionalField "id" (fun u : Uuid => .text u.text) r.id).reverse =
        r.id.map fun u => .text u.text := by
      cases r.id <;> rfl
    simp [List.reverse_append, Fields.find?_append, find?_optionalField, Fields.find?, own]
  all_goals simp [List.reverse_append, Fields.find?_append, find?_optionalField, Fields.find?]

end StepRecord

/-! ## Steps -/

/-- The value is a record. -/
def Json.isRecord : Json → Bool
  | .record _ => true
  | _ => false

namespace Step

/-- The step is written as a record, which holds its number. -/
def isNumbered (s : Step) : Bool :=
  match s.action with
  | .unusable u => u.record.isRecord
  | _ => true

/-- The step was read from a value, and then numbered. -/
def IsLoaded (s : Step) : Prop :=
  ∃ fresh v n, v.Ordered ∧ s = { ofValueWith fresh v with order := n }

/-- What a step is written as: a record that holds its values, or what it was read from. -/
inductive WrittenAs (s : Step) : Json → Prop
  | record {fields : List (String × Json)} (numbered : s.isNumbered = true)
      (marked : s.Marks fields) : WrittenAs s (.record fields)
  | raw {v : Json} {p : Problem} (plain : v.isRecord = false)
      (undescribed : ∀ fresh, ofValue? fresh v = .error p) (action : s.action = .unusable (.of v p))
      (name : s.name = "") (enabled : s.enabled = true) : WrittenAs s v

/-- A step is what another is read back as, its number apart. -/
structure Reread (s t : Step) : Prop where
  read : ∃ v, s.document.value? = some v ∧ ∃ fresh n, t = { ofValueWith fresh v with order := n }
  numbered : t.isNumbered = s.isNumbered
  id : s.isNumbered = true → t.id = s.id
  action : s.isNumbered = false → t.action = s.action
  name : t.name = s.name
  enabled : t.enabled = s.enabled

/-- The number does not matter. -/
theorem Reread.renumbered {s t : Step} (h : s.Reread t) (n : Nat) :
    s.Reread { t with order := n } where
  read := by
    obtain ⟨v, value, fresh, _, rfl⟩ := h.read
    exact ⟨v, value, fresh, n, rfl⟩
  numbered := h.numbered
  id := h.id
  action := h.action
  name := h.name
  enabled := h.enabled

/-! ## Writing -/

/-- The problem of a value does not depend on the identifier that it would get. -/
theorem undescribed_fresh {fresh : Uuid} {v : Json} {p : Problem}
    (h : ofValue? fresh v = .error p) (fresh' : Uuid) : ofValue? fresh' v = .error p := by
  unfold ofValue? at h ⊢
  split
  · next r hr =>
      rw [hr] at h
      exact ofRecord?_eq_error_iff.mpr (ofRecord?_eq_error_iff.mp h)
  · next fault hfault =>
      rw [hfault] at h
      exact h

/-- A step that is carried out is written as a record. -/
theorem exists_written_record {s : Step} (usable : ∀ u, s.action ≠ .unusable u) :
    ∃ v, s.document.value? = some v ∧ s.WrittenAs v := by
  have document : s.document = s.record.document := by
    unfold Step.document
    split
    · next u hu => exact absurd hu (usable u)
    · rfl
  have numbered : s.isNumbered = true := by
    unfold isNumbered
    split
    · next u hu => exact absurd hu (usable u)
    · rfl
  have own : s.record.id = some s.id ∧ s.record.name = s.name ∧ s.record.enabled = s.enabled ∧
      s.record.order = s.order := by
    unfold Step.record
    split <;> exact ⟨rfl, rfl, rfl, rfl⟩
  obtain ⟨oid, oname, oenabled, oorder⟩ := own
  obtain ⟨members, hmembers, readable, hid, hname, henabled, horder⟩ := s.record.exists_members
  obtain ⟨fields, value, find⟩ := Document.value?_record readable
  refine ⟨.record fields, by rw [document, hmembers, value], .record numbered ?_⟩
  constructor
  · rw [find, hid, oid]
    rfl
  · rw [find, hname, oname]
    rfl
  · rw [find, henabled, oenabled]
    rfl
  · rw [find, horder, oorder]
    rfl

/-- A step that was read is written as a value. -/
theorem IsLoaded.exists_written {s : Step} (loaded : s.IsLoaded) :
    ∃ v, s.document.value? = some v ∧ s.WrittenAs v := by
  obtain ⟨fresh, v, n, ordered, rfl⟩ := loaded
  cases h : ofValue? fresh v with
  | ok t =>
      apply exists_written_record
      intro u hu
      rw [ofValueWith, h] at hu
      exact action_ne_unusable h u hu
  | error p =>
      have kept : ofValueWith fresh v = keep fresh v p := by
        rw [ofValueWith, h]
      rw [kept]
      cases v with
      | record fields =>
          have ordered := ordered_markedFields
            (s := { keep fresh (.record fields) p with order := n }) ordered
          exact ⟨_, Json.value?_document ordered, .record rfl (marks_markedFields _ _)⟩
      | _ => exact ⟨_, Json.value?_document ordered, .raw rfl (undescribed_fresh h) rfl rfl rfl⟩

/-! ## Reading back -/

theorem isNumbered_of_record {fresh : Uuid} {fields : List (String × Json)} :
    (ofValueWith fresh (.record fields)).isNumbered = true := by
  unfold isNumbered
  split
  · next u hu =>
      obtain ⟨p, hp⟩ := ofValueWith_unusable_iff.mp ⟨u, hu⟩
      rw [ofValueWith, hp] at hu
      cases hu
      rfl
  · rfl

/-- What a step is written as is read back as the step, and a value that is no record has no
number. -/
theorem WrittenAs.reread {s : Step} {v : Json} (value : s.document.value? = some v)
    (h : s.WrittenAs v) (fresh : Uuid) :
    s.Reread (ofValueWith fresh v) ∧
      (ofValueWith fresh v).order = if s.isNumbered then s.order else 0 := by
  have read : ∃ v', s.document.value? = some v' ∧
      ∃ fresh' n, ofValueWith fresh v = { ofValueWith fresh' v' with order := n } :=
    ⟨v, value, fresh, (ofValueWith fresh v).order, rfl⟩
  cases h with
  | record numbered marked =>
      have same := marked.same fresh
      rw [numbered]
      refine ⟨⟨read, isNumbered_of_record.trans numbered.symm, fun _ => same.id, ?_, same.name,
        same.enabled⟩, same.order⟩
      intro h
      rw [numbered] at h
      cases h
  | @raw _ p plain undescribed action name enabled =>
      have kept : ofValueWith fresh v = keep fresh v p := by
        rw [ofValueWith, undescribed]
      have unnumbered : s.isNumbered = false := by
        rw [isNumbered, action]
        exact plain
      have field : ∀ name, v.field? name = none := by
        intro name
        cases v with
        | record fields => cases plain
        | _ => rfl
      rw [kept] at read ⊢
      rw [unnumbered]
      refine ⟨⟨read, ?_, ?_, fun _ => action.symm, ?_, ?_⟩, ?_⟩
      · rw [unnumbered]
        exact plain
      · intro h
        rw [unnumbered] at h
        cases h
      · simp [keep, field, name]
      · simp [keep, field, enabled]
      · simp [keep, field]

end Step

end UiReplay
