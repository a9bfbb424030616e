import UiReplay.Number.Binary

/-!
# Values and documents

A `Json` is a value: a record is a finite map from names to values, held as a
list of fields in ascending order of their names, each name once.  A `Document`
is a text form of a value: the fields of a record stand in the order in which
they are written, and a name may come twice.

A document also has what a value cannot have.  A number of 32 bits is written
with the digits that suffice for 32 bits.  A part of a text that follows the
grammar and still has no value is `unreadable`: a number beyond the range of the
64-bit format, a lone surrogate, a nesting too deep.  Such a part only matters to
a reader that asks for it.

`Json.document` writes a value down, and `Document.value?` takes the value of a
document, the last of two fields of one name winning.

* `find?_insert_self` and `find?_insert_of_ne` say what inserting a field does to
  every name.
* `insert_ascending` says that insertion keeps the fields ascending.
-/

namespace UiReplay

open Number (Binary double single)

/-- A value. -/
inductive Json where
  /-- No value. -/
  | null
  /-- A truth value. -/
  | bool (b : Bool)
  /-- An integer. -/
  | integer (i : Int)
  /-- A number of 64 bits. -/
  | double (x : Binary Number.double)
  /-- A text. -/
  | text (s : String)
  /-- A list of values. -/
  | list (items : List Json)
  /-- A map from names to values, in ascending order of the names. -/
  | record (fields : List (String × Json))
deriving Repr

/-- A value as it is written. -/
inductive Document where
  /-- No value. -/
  | null
  /-- A truth value. -/
  | bool (b : Bool)
  /-- An integer. -/
  | integer (i : Int)
  /-- A number of 64 bits. -/
  | double (x : Binary Number.double)
  /-- A number of 32 bits. -/
  | single (x : Binary Number.single)
  /-- A text. -/
  | text (s : String)
  /-- A list. -/
  | list (items : List Document)
  /-- Fields in the order they are written. -/
  | record (fields : List (String × Document))
  /-- A part of a text without a value. -/
  | unreadable
deriving Repr

/-! ## Fields -/

namespace Fields

variable {α : Type}

/-- The first field of a name. -/
def find? (name : String) : List (String × α) → Option α
  | [] => none
  | (k, v) :: rest => if k = name then some v else find? name rest

/-- Sets a field: in place of the field of that name, else before the first
greater name. -/
def insert (name : String) (value : α) : List (String × α) → List (String × α)
  | [] => [(name, value)]
  | (k, v) :: rest =>
      if k = name then (name, value) :: rest
      else if name < k then (name, value) :: (k, v) :: rest
      else (k, v) :: insert name value rest

/-- The fields set one after the other, so that the last of one name wins. -/
def ofList (fields : List (String × α)) : List (String × α) :=
  fields.foldl (fun acc f => insert f.1 f.2 acc) []

/-- Each name is below all that follow it. -/
def Ascending (fields : List (String × α)) : Prop :=
  fields.Pairwise fun a b => a.1 < b.1

theorem find?_insert_self (name : String) (value : α) :
    ∀ fields : List (String × α), find? name (insert name value fields) = some value
  | [] => by simp [insert, find?]
  | (k, v) :: rest => by
      by_cases hk : k = name
      · simp [insert, hk, find?]
      · by_cases hlt : name < k
        · simp [insert, hk, hlt, find?]
        · simp [insert, hk, hlt, find?, find?_insert_self name value rest]

theorem find?_insert_of_ne {name other : String} (h : other ≠ name) (value : α) :
    ∀ fields : List (String × α), find? other (insert name value fields) = find? other fields
  | [] => by simp [insert, find?, Ne.symm h]
  | (k, v) :: rest => by
      by_cases hk : k = name
      · subst hk
        simp [insert, find?, Ne.symm h]
      · by_cases hlt : name < k
        · simp [insert, hk, hlt, find?, Ne.symm h]
        · by_cases ho : k = other
          · subst ho
            simp [insert, hk, hlt, find?]
          · simp [insert, hk, hlt, find?, ho, find?_insert_of_ne h value rest]

theorem lt_of_not_lt_of_ne {a b : String} (h : ¬ a < b) (hne : b ≠ a) : b < a := by
  rcases String.le_total a b with hle | hle
  · exact absurd (Std.lt_of_le_of_ne hle (Ne.symm hne)) h
  · exact Std.lt_of_le_of_ne hle hne

theorem mem_insert {name : String} {value : α} {f : String × α} :
    ∀ {fields : List (String × α)}, f ∈ insert name value fields →
      f = (name, value) ∨ f ∈ fields
  | [], h => by simpa [insert] using h
  | (k, v) :: rest, h => by
      by_cases hk : k = name
      · simp only [insert, hk, if_true, List.mem_cons] at h
        rcases h with h | h
        · exact Or.inl h
        · exact Or.inr (List.mem_cons_of_mem _ h)
      · by_cases hlt : name < k
        · simp only [insert, if_neg hk, if_pos hlt, List.mem_cons] at h
          rcases h with h | h | h
          · exact Or.inl h
          · exact Or.inr (h ▸ List.mem_cons_self ..)
          · exact Or.inr (List.mem_cons_of_mem _ h)
        · simp only [insert, if_neg hk, if_neg hlt, List.mem_cons] at h
          rcases h with h | h
          · exact Or.inr (h ▸ List.mem_cons_self ..)
          · rcases mem_insert h with h | h
            · exact Or.inl h
            · exact Or.inr (List.mem_cons_of_mem _ h)

/-- Insertion keeps the names ascending. -/
theorem insert_ascending (name : String) (value : α) :
    ∀ {fields : List (String × α)}, Ascending fields → Ascending (insert name value fields)
  | [], _ => by simp [insert, Ascending]
  | (k, v) :: rest, h => by
      have hhead : ∀ f ∈ rest, k < f.1 := (List.pairwise_cons.mp h).1
      have htail : Ascending rest := (List.pairwise_cons.mp h).2
      by_cases hk : k = name
      · subst hk
        rw [insert, if_pos rfl]
        exact List.pairwise_cons.mpr ⟨hhead, htail⟩
      · by_cases hlt : name < k
        · simp only [insert, if_neg hk, if_pos hlt]
          refine List.pairwise_cons.mpr ⟨?_, h⟩
          intro f hf
          rcases List.mem_cons.mp hf with hf | hf
          · exact hf ▸ hlt
          · exact String.lt_trans hlt (hhead f hf)
        · simp only [insert, if_neg hk, if_neg hlt]
          refine List.pairwise_cons.mpr ⟨?_, insert_ascending name value htail⟩
          intro f hf
          rcases mem_insert hf with hf | hf
          · exact hf ▸ lt_of_not_lt_of_ne hlt hk
          · exact hhead f hf

end Fields

/-! ## From values to documents and back -/

namespace Json

mutual

/-- A value written down, the fields of a record in their order. -/
def document : Json → Document
  | null => .null
  | bool b => .bool b
  | integer i => .integer i
  | double x => .double x
  | text s => .text s
  | list items => .list (documents items)
  | record fields => .record (documentFields fields)

/-- Values written down one by one. -/
def documents : List Json → List Document
  | [] => []
  | v :: rest => v.document :: documents rest

/-- Fields written down one by one. -/
def documentFields : List (String × Json) → List (String × Document)
  | [] => []
  | (k, v) :: rest => (k, v.document) :: documentFields rest

end

/-- The field of a record, `none` for any other value. -/
def field? (name : String) : Json → Option Json
  | record fields => Fields.find? name fields
  | _ => none

/-- The text that a value is. -/
def text? : Json → Option String
  | text s => some s
  | _ => none

/-- The truth value that a value is. -/
def bool? : Json → Option Bool
  | bool b => some b
  | _ => none

/-- The natural number of 64 bits that a value is. -/
def nat64? : Json → Option Nat
  | integer i => if 0 ≤ i then some i.toNat else none
  | _ => none

/-- The number that a value is, rounded to 64 bits. -/
def number? : Json → Option (Binary Number.double)
  | integer i => Binary.ofInt? Number.double i
  | double x => some x
  | _ => none

end Json

namespace Document

mutual

/-- The value of a document, `none` when a part has no value. -/
def value? : Document → Option Json
  | null => some .null
  | bool b => some (.bool b)
  | integer i => some (.integer i)
  | double x => some (.double x)
  | single x => (x.convert? Number.double).map .double
  | text s => some (.text s)
  | list items => (values? items).map .list
  | record fields => (valueFields? fields).map fun fs => .record (Fields.ofList fs)
  | unreadable => none

/-- The values of a list of documents. -/
def values? : List Document → Option (List Json)
  | [] => some []
  | d :: rest =>
      match d.value?, values? rest with
      | some v, some vs => some (v :: vs)
      | _, _ => none

/-- The values of fields, in the order they are written. -/
def valueFields? : List (String × Document) → Option (List (String × Json))
  | [] => some []
  | (k, d) :: rest =>
      match d.value?, valueFields? rest with
      | some v, some vs => some ((k, v) :: vs)
      | _, _ => none

end

end Document

/-- A number that may be absent, as it is written. -/
def optionalInteger : Option Int → Document
  | some i => .integer i
  | none => .null

/-- A text that may be absent, as it is written. -/
def optionalText : Option String → Document
  | some s => .text s
  | none => .null

/-! ## Tests -/

example : Fields.ofList [("b", 1), ("a", 2), ("b", 3)] = [("a", 2), ("b", 3)] := by decide

end UiReplay
