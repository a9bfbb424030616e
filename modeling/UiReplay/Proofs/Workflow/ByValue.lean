import UiReplay.Proofs.Json.ByValue
import UiReplay.Workflow.Basic

/-!
# Reading a workflow by its value

The data of actions, the device, nested selectors, flat steps and flat workflows read values.
All fields of their records set different parts, so they can be stored in any order.

A nested selector is decoded with a bound for the depth of its document.  Any bound above the
depth will do (`NestedSelector.decodeWithin_follows`), so it does not matter that the value of a
document could be nested less deeply.
-/

namespace UiReplay

open Decode (ReadsValue Commuting)

/-! ## Words and identifiers -/

theorem Uuid.readsValue_decode : ReadsValue Uuid.decode := by
  refine Decode.readsValue_of_plain ?_
  rintro d e a ⟨v, hv, rfl⟩ decoded
  cases d with
  | text s =>
      cases hv
      rfl
  | _ => cases decoded

/-! ## Data of actions -/

theorem TapData.commuting : Commuting recordFields := by
  intro f hf g hg other
  simp only [recordFields, List.mem_cons, List.not_mem_nil, or_false] at hf hg
  rcases hf with rfl | rfl | rfl <;> rcases hg with rfl | rfl | rfl
  all_goals first
    | exact absurd rfl other
    | exact Field.commutes_of_set fun _ _ _ => rfl

theorem TapData.readsValue_decode : ReadsValue TapData.decode := by
  refine Decode.readsValue_record commuting ?_
  intro f hf
  simp only [recordFields, List.mem_cons, List.not_mem_nil, or_false] at hf
  have coordinate := Decode.readsValue_nullable (Decode.readsValue_integerIn "i32" Number.fitsInt32)
  rcases hf with rfl | rfl | rfl
  · exact Field.follows_withDefault coordinate
  · exact Field.follows_withDefault coordinate
  · exact Field.follows_withDefault (Decode.readsValue_natBelow _ _)

theorem SwipeData.commuting : Commuting recordFields := by
  intro f hf g hg other
  simp only [recordFields, List.mem_cons, List.not_mem_nil, or_false] at hf hg
  rcases hf with rfl | rfl | rfl | rfl | rfl | rfl <;>
    rcases hg with rfl | rfl | rfl | rfl | rfl | rfl
  all_goals first
    | exact absurd rfl other
    | exact Field.commutes_of_set fun _ _ _ => rfl

theorem SwipeData.readsValue_decode : ReadsValue SwipeData.decode := by
  refine Decode.readsValue_record commuting ?_
  intro f hf
  simp only [recordFields, List.mem_cons, List.not_mem_nil, or_false] at hf
  have coordinate := Decode.readsValue_nullable (Decode.readsValue_integerIn "i32" Number.fitsInt32)
  rcases hf with rfl | rfl | rfl | rfl | rfl | rfl
  · exact Field.follows_withDefault (Decode.readsValue_wordOf _)
  · exact Field.follows_withDefault coordinate
  · exact Field.follows_withDefault coordinate
  · exact Field.follows_withDefault coordinate
  · exact Field.follows_withDefault coordinate
  · exact Field.follows_withDefault (Decode.readsValue_natBelow _ _)

theorem InputTextData.commuting : Commuting recordFields := by
  intro f hf g hg other
  simp only [recordFields, List.mem_cons, List.not_mem_nil, or_false] at hf hg
  rcases hf with rfl | rfl <;> rcases hg with rfl | rfl
  all_goals first
    | exact absurd rfl other
    | exact Field.commutes_of_set fun _ _ _ => rfl

theorem InputTextData.readsValue_decode : ReadsValue InputTextData.decode := by
  refine Decode.readsValue_record commuting ?_
  intro f hf
  simp only [recordFields, List.mem_cons, List.not_mem_nil, or_false] at hf
  rcases hf with rfl | rfl
  · exact Field.follows_required Decode.readsValue_text
  · exact Field.follows_withDefault Decode.readsValue_truth

theorem WaitData.commuting : Commuting recordFields := by
  intro f hf g hg other
  simp only [recordFields, List.mem_cons, List.not_mem_nil, or_false] at hf hg
  rcases hf with rfl | rfl <;> rcases hg with rfl | rfl
  all_goals first
    | exact absurd rfl other
    | exact Field.commutes_of_set fun _ _ _ => rfl

theorem WaitData.readsValue_decode : ReadsValue WaitData.decode := by
  refine Decode.readsValue_record commuting ?_
  intro f hf
  simp only [recordFields, List.mem_cons, List.not_mem_nil, or_false] at hf
  rcases hf with rfl | rfl
  · exact Field.follows_required (Decode.readsValue_natBelow _ _)
  · exact Field.follows_withDefault Decode.readsValue_truth

/-! ## Nested selectors -/

namespace NestedSelector

theorem commuting (inner : Decoder NestedSelector) : Commuting (recordFields inner) := by
  intro f hf g hg other
  simp only [recordFields, List.mem_cons, List.not_mem_nil, or_false] at hf hg
  rcases hf with rfl | rfl | rfl | rfl <;> rcases hg with rfl | rfl | rfl | rfl
  all_goals first
    | exact absurd rfl other
    | exact Field.commutes_of_set fun _ _ _ => rfl

/-- The fields of a nested record follow each other when the records inside do. -/
theorem recordFields_follows {rel : Document → Document → Prop}
    {inner inner' : Decoder NestedSelector}
    (kind : Decode.Follows rel SelectorKind.decode SelectorKind.decode)
    (text : Decode.Follows rel Decode.text Decode.text)
    (single : Decode.Follows rel Decode.single Decode.single)
    (null : ∀ ⦃d e : Document⦄, rel d e → (d = .null ↔ e = .null))
    (follows : Decode.Follows rel inner inner') :
    List.Forall₂ (Field.Follows rel) (recordFields inner) (recordFields inner') :=
  .cons (Field.follows_required kind) <|
    .cons (Field.follows_required text) <|
    .cons (Field.follows_withDefault (Decode.nullable_follows single null)) <|
    .cons (Field.follows_withDefault (Decode.nullable_follows follows null)) .nil

theorem map_follows {rel : Document → Document → Prop} {f g : Decoder NestedDraft}
    (h : Decode.Follows rel f g) :
    Decode.Follows rel (fun d => (f d).map ofDraft) (fun d => (g d).map ofDraft) := by
  intro d e n related decoded
  dsimp only at decoded ⊢
  cases hf : f d with
  | error fault =>
      rw [hf] at decoded
      cases decoded
  | ok r =>
      rw [hf] at decoded
      rw [h related hf]
      exact decoded

theorem readsValue_decodeWithin (bound : Nat) : ReadsValue (decodeWithin bound) := by
  induction bound with
  | zero =>
      intro d e n _ decoded
      cases decoded
  | succ bound ih =>
      have fields := recordFields_follows (Decode.readsValue_wordOf _) Decode.readsValue_text
        Decode.readsValue_single (fun _ _ => Document.ValuedAs.null_iff) ih
      exact map_follows (Decode.readsValue_record (commuting _) (List.forall₂_same.mp fields))

/-- Any bound above the depth of a document will do, by induction on the bound that did. -/
theorem decodeWithin_follows (bound bound' : Nat) :
    Decode.Follows (fun d e => d = e ∧ d.depth < bound') (decodeWithin bound)
      (decodeWithin bound') := by
  induction bound generalizing bound' with
  | zero =>
      intro d e n _ decoded
      cases decoded
  | succ bound ih =>
      cases bound' with
      | zero => exact fun _ _ _ related => absurd related.2 (Nat.not_lt_zero _)
      | succ bound' =>
          refine map_follows ?_
          rintro d _ r ⟨rfl, deep⟩ decoded
          have same : ∀ {α : Type} (f : Decoder α),
              Decode.Follows (fun d e => d = e ∧ d.depth < bound') f f := by
            rintro α f d _ a ⟨rfl, -⟩ decoded
            exact decoded
          have fields := recordFields_follows (same _) (same _) (same _)
            (fun d e h => by rw [h.1]) (ih bound')
          cases d with
          | record members =>
              refine Decode.record_follows fields (List.forall₂_same.mpr ?_) decoded
              intro m hm
              have := Document.depth_le_fieldDepths hm
              rw [Document.depth] at deep
              exact ⟨rfl, rfl, by omega⟩
          | list items =>
              refine Decode.inOrder_follows fields (List.forall₂_same.mpr ?_) decoded
              intro d hd
              have := Document.depth_le_depths hd
              rw [Document.depth] at deep
              exact ⟨rfl, by omega⟩
          | _ => cases decoded

/-- What decodes with some bound decodes. -/
theorem decode_of_within {bound : Nat} {d : Document} {n : NestedSelector}
    (h : decodeWithin bound d = .ok n) : decode d = .ok n :=
  decodeWithin_follows bound (d.depth + 1) ⟨rfl, Nat.lt_succ_self _⟩ h

theorem readsValue_decode : ReadsValue decode := fun _ _ _ valued decoded =>
  decode_of_within (readsValue_decodeWithin _ valued decoded)

end NestedSelector

/-! ## Steps and workflows -/

theorem DeviceInfo.commuting : Commuting recordFields := by
  intro f hf g hg other
  simp only [recordFields, List.mem_cons, List.not_mem_nil, or_false] at hf hg
  rcases hf with rfl | rfl | rfl | rfl | rfl <;> rcases hg with rfl | rfl | rfl | rfl | rfl
  all_goals first
    | exact absurd rfl other
    | exact Field.commutes_of_set fun _ _ _ => rfl

theorem DeviceInfo.readsValue_decode : ReadsValue DeviceInfo.decode := by
  refine Decode.readsValue_record commuting ?_
  intro f hf
  simp only [recordFields, List.mem_cons, List.not_mem_nil, or_false] at hf
  have text := Decode.readsValue_nullable Decode.readsValue_text
  have measure := Decode.readsValue_nullable (Decode.readsValue_natBelow "u32" Number.wordLimit32)
  rcases hf with rfl | rfl | rfl | rfl | rfl
  · exact Field.follows_withDefault text
  · exact Field.follows_withDefault text
  · exact Field.follows_withDefault text
  · exact Field.follows_withDefault measure
  · exact Field.follows_withDefault measure

theorem StepRecord.commuting : Commuting recordFields := by
  intro f hf g hg other
  simp only [recordFields, List.mem_cons, List.not_mem_nil, or_false] at hf hg
  rcases hf with rfl | rfl | rfl | rfl | rfl | rfl | rfl | rfl | rfl | rfl <;>
    rcases hg with rfl | rfl | rfl | rfl | rfl | rfl | rfl | rfl | rfl | rfl
  all_goals first
    | exact absurd rfl other
    | exact Field.commutes_of_set fun _ _ _ => rfl

theorem StepRecord.readsValue_decode : ReadsValue StepRecord.decode := by
  refine Decode.readsValue_record commuting ?_
  intro f hf
  simp only [recordFields, List.mem_cons, List.not_mem_nil, or_false] at hf
  rcases hf with rfl | rfl | rfl | rfl | rfl | rfl | rfl | rfl | rfl | rfl
  · exact Field.follows_withDefault Uuid.readsValue_decode
  · exact Field.follows_required Decode.readsValue_text
  · exact Field.follows_withDefault (Decode.readsValue_nullable NestedSelector.readsValue_decode)
  · exact Field.follows_withDefault Decode.readsValue_text
  · exact Field.follows_withDefault (Decode.readsValue_natBelow _ _)
  · exact Field.follows_withDefault Decode.readsValue_truth
  · exact Field.follows_withDefault (Decode.readsValue_nullable TapData.readsValue_decode)
  · exact Field.follows_withDefault (Decode.readsValue_nullable SwipeData.readsValue_decode)
  · exact Field.follows_withDefault (Decode.readsValue_nullable InputTextData.readsValue_decode)
  · exact Field.follows_withDefault (Decode.readsValue_nullable WaitData.readsValue_decode)

theorem Workflow.commuting : Commuting recordFields := by
  intro f hf g hg other
  simp only [recordFields, List.mem_cons, List.not_mem_nil, or_false] at hf hg
  rcases hf with rfl | rfl | rfl | rfl | rfl | rfl <;>
    rcases hg with rfl | rfl | rfl | rfl | rfl | rfl
  all_goals first
    | exact absurd rfl other
    | exact Field.commutes_of_set fun _ _ _ => rfl

theorem Workflow.readsValue_decodeDraft : ReadsValue Workflow.decodeDraft := by
  refine Decode.readsValue_record commuting ?_
  intro f hf
  simp only [recordFields, List.mem_cons, List.not_mem_nil, or_false] at hf
  rcases hf with rfl | rfl | rfl | rfl | rfl | rfl
  · exact Field.follows_withDefault Uuid.readsValue_decode
  · exact Field.follows_withDefault Decode.readsValue_text
  · exact Field.follows_withDefault (Decode.readsValue_nullable DeviceInfo.readsValue_decode)
  · exact Field.follows_withDefault (Decode.readsValue_listOf Decode.readsValue_text)
  · exact Field.follows_withDefault (Decode.readsValue_natBelow _ _)
  · exact Field.follows_withDefault (Decode.readsValue_listOf Decode.readsValue_value)

end UiReplay
