import UiReplay.Proofs.Json.AnyOrder
import UiReplay.Proofs.Number.Widening

/-!
# Reading a document by its value

A document can be read as it is written, or its value can be taken first and read in its place.
The value has the fields of every record in ascending order, each name once, and it has numbers
of 64 bits in place of those of 32.  A decoder *reads values* when this makes no difference to
the documents that it accepts (`Decode.ReadsValue`).

More generally one decoder *follows* another along a relation when it accepts what the other
accepts of a related document, and gives the same (`Decode.Follows`).  Fields, lists and records
follow each other when their parts do.  A record reads values when its fields do and can be
stored in any order (`Decode.readsValue_record`).
-/

namespace UiReplay

variable {σ α : Type}

/-! ## From one document to another -/

/-- What a decoder makes of a document, another makes of every document that is related to it. -/
def Decode.Follows (rel : Document → Document → Prop) (f g : Decoder α) : Prop :=
  ∀ ⦃d e : Document⦄ ⦃a : α⦄, rel d e → f d = .ok a → g e = .ok a

/-- What a field stores of a document, another stores of every document that is related to it. -/
structure Field.Follows (rel : Document → Document → Prop) (f g : Field σ) : Prop where
  name : f.name = g.name
  aliases : f.aliases = g.aliases
  optional : f.optional = g.optional
  store : ∀ {d e : Document} {r r' : σ}, rel d e → f.store d r = .ok r' → g.store e r = .ok r'

theorem Field.Follows.hasSpelling {rel : Document → Document → Prop} {f g : Field σ}
    (h : f.Follows rel g) (key : String) : f.hasSpelling key = g.hasSpelling key := by
  rw [Field.hasSpelling, Field.hasSpelling, h.name, h.aliases]

namespace Field

variable {rel : Document → Document → Prop} {f g : Decoder α} {set : α → σ → σ}

theorem follows_withDefault {name : String} {aliases : List String} (h : Decode.Follows rel f g) :
    (withDefault name aliases f set).Follows rel (withDefault name aliases g set) where
  name := rfl
  aliases := rfl
  optional := rfl
  store := by
    intro d e r r' related stored
    obtain ⟨a, ha, rfl⟩ := store_withDefault stored
    exact store_of_decode (h related ha) r

theorem follows_required {name : String} (h : Decode.Follows rel f g) :
    (required name f set).Follows rel (required name g set) where
  name := rfl
  aliases := rfl
  optional := rfl
  store := by
    intro d e r r' related stored
    obtain ⟨a, ha, rfl⟩ := store_eq_ok stored
    exact store_required_of_decode (h related ha) r

end Field

namespace Decode

variable {rel : Document → Document → Prop} {fields fields' : List (Field σ)}
  {members members' : List (String × Document)} {r r' : σ}

theorem find?_follows (follows : List.Forall₂ (Field.Follows rel) fields fields') (key : String) :
    Option.Rel (Field.Follows rel) (fields.find? (·.hasSpelling key))
      (fields'.find? (·.hasSpelling key)) := by
  induction follows with
  | nil => exact .none
  | @cons f g _ _ head _ ih =>
      rw [List.find?_cons, List.find?_cons, head.hasSpelling]
      cases g.hasSpelling key with
      | true => exact .some head
      | false => exact ih

theorem fieldName?_follows (follows : List.Forall₂ (Field.Follows rel) fields fields')
    (key : String) : fieldName? fields key = fieldName? fields' key := by
  have h := find?_follows follows key
  rw [fieldName?, fieldName?]
  generalize fields.find? _ = a at h ⊢
  generalize fields'.find? _ = b at h ⊢
  cases h with
  | none => rfl
  | some h => exact congrArg some h.name

/-- Members of the same names, with documents that are related. -/
abbrev RelatedMembers (rel : Document → Document → Prop) :
    List (String × Document) → List (String × Document) → Prop :=
  List.Forall₂ fun m n => m.1 = n.1 ∧ rel m.2 n.2

theorem named_follows (follows : List.Forall₂ (Field.Follows rel) fields fields')
    (related : RelatedMembers rel members members') :
    named fields members = named fields' members' := by
  induction related with
  | nil => rfl
  | cons head _ ih =>
      rw [named, named, List.filterMap_cons, List.filterMap_cons, head.1,
        fieldName?_follows follows, ← named, ← named, ih]

theorem Stores.follows (follows : List.Forall₂ (Field.Follows rel) fields fields')
    (related : RelatedMembers rel members members') (h : Stores fields members r r') :
    Stores fields' members' r r' := by
  induction related generalizing r with
  | nil =>
      cases h
      exact .done
  | @cons m n _ _ head _ ih =>
      obtain ⟨key, d⟩ := m
      obtain ⟨key', e⟩ := n
      obtain ⟨rfl, head⟩ := head
      have found := find?_follows follows key
      cases h with
      | unknown unspelled more =>
          rw [unspelled] at found
          generalize spelled : fields'.find? _ = g at found
          cases found
          exact .unknown spelled (ih more)
      | known spelled stored more =>
          rw [spelled] at found
          generalize spelled' : fields'.find? _ = g at found
          cases found with
          | some field => exact .known spelled' (field.store head stored) (ih more)

/-- What is decoded of a record is decoded of a record of related members. -/
theorem record_follows (follows : List.Forall₂ (Field.Follows rel) fields fields')
    (related : RelatedMembers rel members members') {kind : String} {start : σ}
    (h : record kind fields start (.record members) = .ok r) :
    record kind fields' start (.record members') = .ok r := by
  obtain ⟨stores, nodup, required⟩ := record_eq_ok_iff.mp h
  have same := named_follows follows related
  refine record_eq_ok_iff.mpr ⟨stores.follows follows related, same ▸ nodup, ?_⟩
  intro g hg optional
  obtain ⟨f, hf, field⟩ := exists_of_mem_right follows hg
  rw [← same, ← field.name]
  exact required f hf (field.optional.trans optional)

/-- What is decoded of a list of items in declared order is decoded of related items. -/
theorem inOrder_follows (follows : List.Forall₂ (Field.Follows rel) fields fields')
    {kind : String} {total given total' given' : Nat} {items items' : List Document}
    (related : List.Forall₂ rel items items')
    (h : inOrder kind total given fields items r = .ok r') :
    inOrder kind total' given' fields' items' r = .ok r' := by
  induction follows generalizing items items' r with
  | nil =>
      cases related with
      | nil => exact h
      | cons _ _ => cases h
  | cons field _ ih =>
      cases related with
      | nil =>
          rw [inOrder] at h ⊢
          rw [← field.optional]
          split at h
          · next optional => rw [if_pos optional]; exact ih .nil h
          · cases h
      | cons head rest =>
          rw [inOrder] at h ⊢
          split at h
          · cases h
          · next stored =>
              rw [field.store head stored]
              exact ih rest h

/-! ## Values that may be missing, and lists -/

theorem nullable_of_ne {decode : Decoder α} {d : Document} (h : d ≠ .null) :
    nullable decode d = (decode d).map some := by
  unfold nullable
  split
  · exact absurd rfl h
  · rfl

theorem nullable_follows {f g : Decoder α} (h : Follows rel f g)
    (null : ∀ ⦃d e : Document⦄, rel d e → (d = .null ↔ e = .null)) :
    Follows rel (nullable f) (nullable g) := by
  intro d e a related decoded
  by_cases hd : d = .null
  · rw [(null related).mp hd]
    rw [hd] at decoded
    exact decoded
  · rw [nullable_of_ne hd] at decoded
    rw [nullable_of_ne fun he => hd ((null related).mpr he)]
    cases hf : f d with
    | error fault =>
        rw [hf] at decoded
        cases decoded
    | ok b =>
        rw [hf] at decoded
        rw [h related hf]
        exact decoded

theorem each_follows {f g : Decoder α} (h : Follows rel f g) {items items' : List Document}
    (related : List.Forall₂ rel items items') {as : List α} (decoded : each f items = .ok as) :
    each g items' = .ok as := by
  rw [each_eq_ok_iff] at decoded ⊢
  induction related generalizing as with
  | nil =>
      cases decoded
      exact .nil
  | cons head _ ih =>
      cases decoded with
      | cons hd tail => exact .cons (h head hd) (ih tail)

end Decode

/-! ## From a document to its value -/

/-- A document and its value written down. -/
def Document.ValuedAs (d e : Document) : Prop := ∃ v, d.value? = some v ∧ e = v.document

namespace Document

theorem forall₂_values? {items : List Document} {vs : List Json} (h : values? items = some vs) :
    List.Forall₂ ValuedAs items (Json.documents vs) := by
  induction items generalizing vs with
  | nil =>
      cases h
      exact .nil
  | cons d rest ih =>
      rw [values?] at h
      split at h
      · next v vs hv hvs =>
          cases h
          exact .cons ⟨v, hv, rfl⟩ (ih hvs)
      · cases h

theorem forall₂_valueFields? {fields : List (String × Document)} {vs : List (String × Json)}
    (h : valueFields? fields = some vs) :
    Decode.RelatedMembers ValuedAs fields (Json.documentFields vs) := by
  induction fields generalizing vs with
  | nil =>
      cases h
      exact .nil
  | cons member rest ih =>
      rw [valueFields?] at h
      split at h
      · next v vs hv hvs =>
          cases h
          exact .cons ⟨rfl, v, hv, rfl⟩ (ih hvs)
      · cases h

/-- Only what is absent has no value in it. -/
theorem ValuedAs.null_iff {d e : Document} (h : d.ValuedAs e) : d = .null ↔ e = .null := by
  obtain ⟨v, hv, rfl⟩ := h
  constructor
  · rintro rfl
    cases hv
    rfl
  · intro null
    cases d with
    | null => rfl
    | unreadable => cases hv
    | single x =>
        obtain ⟨y, -, rfl⟩ := Option.map_eq_some_iff.mp hv
        cases null
    | list items =>
        obtain ⟨vs, -, rfl⟩ := Option.map_eq_some_iff.mp hv
        cases null
    | record fields =>
        obtain ⟨vs, -, rfl⟩ := Option.map_eq_some_iff.mp hv
        cases null
    | _ =>
        cases hv
        cases null

end Document

namespace Decode

/-- It makes no difference whether a document that is accepted is read as it is written, or by
its value. -/
def ReadsValue (decode : Decoder α) : Prop := Follows Document.ValuedAs decode decode

variable {decode : Decoder α}

/-- Documents that are written as their values are. -/
theorem readsValue_of_plain
    (plain : ∀ {d e : Document} {a : α}, d.ValuedAs e → decode d = .ok a → e = d) :
    ReadsValue decode := by
  intro d e a valued decoded
  rw [plain valued decoded]
  exact decoded

theorem readsValue_text : ReadsValue text := by
  refine readsValue_of_plain ?_
  rintro d e a ⟨v, hv, rfl⟩ decoded
  cases d with
  | text s =>
      cases hv
      rfl
  | _ => cases decoded

theorem readsValue_truth : ReadsValue truth := by
  refine readsValue_of_plain ?_
  rintro d e a ⟨v, hv, rfl⟩ decoded
  cases d with
  | bool b =>
      cases hv
      rfl
  | _ => cases decoded

theorem readsValue_integerIn (name : String) (inRange : Int → Bool) :
    ReadsValue (integerIn name inRange) := by
  refine readsValue_of_plain ?_
  rintro d e a ⟨v, hv, rfl⟩ decoded
  cases d with
  | integer i =>
      cases hv
      rfl
  | _ => cases decoded

theorem readsValue_natBelow (name : String) (limit : Nat) : ReadsValue (natBelow name limit) := by
  refine readsValue_of_plain ?_
  rintro d e a ⟨v, hv, rfl⟩ decoded
  obtain ⟨rfl, -⟩ := natBelow_eq_ok_iff.mp decoded
  cases hv
  rfl

/-- Widening and rounding gives a number of 32 bits back. -/
theorem readsValue_single : ReadsValue single := by
  rintro d e a ⟨v, hv, rfl⟩ decoded
  cases d with
  | single x =>
      obtain ⟨y, hy, rfl⟩ := Option.map_eq_some_iff.mp hv
      cases decoded
      exact congrArg Except.ok (Number.Binary.toExtended_convert? hy)
  | integer i =>
      cases hv
      exact decoded
  | double x =>
      cases hv
      exact decoded
  | _ => cases decoded

theorem readsValue_wordOf (meanings : List (String × α)) : ReadsValue (wordOf meanings) := by
  refine readsValue_of_plain ?_
  rintro d e a ⟨v, hv, rfl⟩ decoded
  cases d with
  | text s =>
      cases hv
      rfl
  | record members =>
      unfold wordOf at decoded
      split at decoded
      · next h => cases h
      · next name d h =>
          cases h
          cases hword : word meanings name with
          | error fault =>
              rw [hword] at decoded
              cases decoded
          | ok b =>
              rw [hword] at decoded
              cases d with
              | null =>
                  cases hv
                  rfl
              | _ => cases decoded
      · cases decoded
      · cases decoded
  | _ => cases decoded

theorem readsValue_value : ReadsValue value := by
  rintro d e a ⟨v, hv, rfl⟩ decoded
  rw [value, hv] at decoded
  cases decoded
  rw [value, Json.value?_document (Document.ordered_of_value? hv)]

theorem readsValue_nullable (h : ReadsValue decode) : ReadsValue (nullable decode) :=
  nullable_follows h fun _ _ => Document.ValuedAs.null_iff

theorem readsValue_listOf (h : ReadsValue decode) : ReadsValue (listOf decode) := by
  rintro d e a ⟨v, hv, rfl⟩ decoded
  cases d with
  | list items =>
      obtain ⟨vs, hvs, rfl⟩ := Option.map_eq_some_iff.mp hv
      exact each_follows h (Document.forall₂_values? hvs) decoded
  | _ => cases decoded

/-- A record reads values when its fields do and can be stored in any order. -/
theorem readsValue_record {kind : String} {fields : List (Field σ)} {start : σ}
    (commuting : Commuting fields) (reads : ∀ f ∈ fields, f.Follows Document.ValuedAs f) :
    ReadsValue (record kind fields start) := by
  have follows := List.forall₂_same.mpr reads
  rintro d e r ⟨v, hv, rfl⟩ decoded
  cases d with
  | record members =>
      obtain ⟨vs, hvs, rfl⟩ := Option.map_eq_some_iff.mp hv
      rw [Json.document, Json.documentFields_ofList]
      exact record_ofList commuting
        (record_follows follows (Document.forall₂_valueFields? hvs) decoded)
  | list items =>
      obtain ⟨vs, hvs, rfl⟩ := Option.map_eq_some_iff.mp hv
      exact inOrder_follows follows (Document.forall₂_values? hvs) decoded
  | _ => cases decoded

end Decode

end UiReplay
