import UiReplay.Json.Value
import UiReplay.Number.Shortest
import UiReplay.Number.Reading
import UiReplay.Text.Quoted
import UiReplay.Text.Parts

/-!
# Decoding records

A record is decoded from a document field by field.  The fields are visited in
the order in which they stand.  The first that comes twice or does not decode
decides the fault.  Then the fields that are missing are looked at in the order
in which the record declares them.  Unknown fields are ignored.

A list stands for a record too, its items being the fields in declared order.
Fields left out at the end take their default, and it is a fault when one of them
has none, or when items are left over.

A `Field` is a name, its other spellings and a way to put a decoded value into the
record.  `Decode.record` starts from a record of defaults and puts in one value
after the other.
-/

namespace UiReplay

open Number (Binary)

/-! ## Faults -/

/-- What a document turned out to be. -/
inductive Found where
  /-- An integer. -/
  | integer (i : Int)
  /-- A number that is not an integer. -/
  | fractional (x : Binary Number.double)
  /-- A truth value. -/
  | truth (b : Bool)
  /-- A text. -/
  | text (s : String)
  /-- No value. -/
  | null
  /-- A list. -/
  | list
  /-- A record. -/
  | record
deriving DecidableEq, Repr

/-- Why a document does not decode. -/
inductive Fault where
  /-- A field without a default is not there. -/
  | missingField (name : String)
  /-- A field is there twice. -/
  | duplicateField (name : String)
  /-- A value of another kind. -/
  | wrongType (found : Found) (expected : String)
  /-- An integer beyond the range of its type. -/
  | outOfRange (i : Int) (expected : String)
  /-- A word that is none of those known. -/
  | unknownWord (word : String) (known : List String)
  /-- A list with too few or too many items. -/
  | wrongLength (length : Nat) (expected : String)
  /-- A record that should have exactly one field. -/
  | notOneField
  /-- A value that its type refuses, with the reason. -/
  | refused (reason : String)
  /-- A part of a text without a value. -/
  | unreadable
deriving DecidableEq, Repr

/-- A decoder. -/
abbrev Decoder (α : Type) := Document → Except Fault α

/-- Numbers that are not integers always show their point in messages. -/
def pointLayout : Number.Layout := ⟨-400, 400, true, false⟩

/-- The description of what was found. -/
def Found.describe : Found → String
  | .integer i => "integer \x60" ++ Number.intText i ++ "\x60"
  | .fractional x => "floating point \x60" ++ x.text pointLayout ++ "\x60"
  | .truth b => "boolean \x60" ++ (if b then "true" else "false") ++ "\x60"
  | .text s => "string " ++ Text.quoted s
  | .null => "null"
  | .list => "sequence"
  | .record => "map"

/-- A word between marks. -/
def marked (s : String) : String := "\x60" ++ s ++ "\x60"

/-- The choice that is offered when a word is unknown. -/
def knownWords : List String → String
  | [] => "there are no variants"
  | [a] => "expected " ++ marked a
  | [a, b] => "expected " ++ marked a ++ " or " ++ marked b
  | words => "expected one of " ++ Text.joinWith ", " (words.map marked)

/-- The text of a fault. -/
def Fault.message : Fault → String
  | .missingField name => "missing field " ++ marked name
  | .duplicateField name => "duplicate field " ++ marked name
  | .wrongType found expected => "invalid type: " ++ found.describe ++ ", expected " ++ expected
  | .outOfRange i expected =>
      "invalid value: " ++ (Found.integer i).describe ++ ", expected " ++ expected
  | .unknownWord word known => "unknown variant " ++ marked word ++ ", " ++ knownWords known
  | .wrongLength length expected =>
      "invalid length " ++ Number.natText length ++ ", expected " ++ expected
  | .notOneField => "invalid value: map, expected map with a single key"
  | .refused reason => reason
  | .unreadable => "malformed JSON text"

/-! ## Simple values -/

/-- What a document is, `none` when it has no value. -/
def Document.found? : Document → Option Found
  | .null => some .null
  | .bool b => some (.truth b)
  | .integer i => some (.integer i)
  | .double x => some (.fractional x)
  | .single x => (x.convert? Number.double).map .fractional
  | .text s => some (.text s)
  | .list _ => some .list
  | .record _ => some .record
  | .unreadable => none

/-- The fault of a document that is not of the expected kind. -/
def Document.mismatch (d : Document) (expected : String) : Fault :=
  match d.found? with
  | some found => .wrongType found expected
  | none => .unreadable

namespace Decode

/-- A text. -/
def text : Decoder String
  | .text s => .ok s
  | d => .error (d.mismatch "a string")

/-- A truth value. -/
def truth : Decoder Bool
  | .bool b => .ok b
  | d => .error (d.mismatch "a boolean")

/-- An integer within a range. -/
def integerIn (name : String) (inRange : Int → Bool) : Decoder Int
  | .integer i => if inRange i then .ok i else .error (.outOfRange i name)
  | d => .error (d.mismatch name)

/-- An integer of 32 bits with sign. -/
def int32 : Decoder Int := integerIn "i32" Number.fitsInt32

/-- An integer of 64 bits with sign. -/
def int64 : Decoder Int := integerIn "i64" Number.fitsInt64

/-- A natural number below a limit. -/
def natBelow (name : String) (limit : Nat) (d : Document) : Except Fault Nat :=
  (integerIn name (fun i => 0 ≤ i && i < limit) d).map Int.toNat

/-- A natural number of 32 bits. -/
def nat32 : Decoder Nat := natBelow "u32" Number.wordLimit32

/-- A natural number of 64 bits. -/
def nat64 : Decoder Nat := natBelow "u64" Number.wordLimit64

/-- A position or a count. -/
def count : Decoder Nat := natBelow "usize" Number.wordLimit64

/-- A number of 32 bits, infinite when it lies beyond the range. -/
def single : Decoder (Number.Extended Number.single)
  | .integer i =>
      match Binary.ofInt? Number.double i with
      | some x => .ok (x.toExtended Number.single)
      | none => .ok (.infinite (i < 0))
  | .double x => .ok (x.toExtended Number.single)
  | .single x => .ok (.finite x)
  | d => .error (d.mismatch "f32")

/-- Any value. -/
def value (d : Document) : Except Fault Json :=
  match d.value? with
  | some v => .ok v
  | none => .error .unreadable

/-- A value that may be `null`. -/
def nullable {α : Type} (decode : Decoder α) : Decoder (Option α)
  | .null => .ok none
  | d => (decode d).map some

/-- A value, with a default in place of `null`. -/
def orDefault {α : Type} (default : α) (decode : Decoder α) (d : Document) : Except Fault α :=
  (nullable decode d).map fun a => a.getD default

/-- Decodes one document after the other, up to the first fault. -/
def each {α : Type} (decode : Decoder α) : List Document → Except Fault (List α)
  | [] => .ok []
  | d :: rest => do
      let a ← decode d
      let as ← each decode rest
      return a :: as

/-- A list. -/
def listOf {α : Type} (decode : Decoder α) : Decoder (List α)
  | .list items => each decode items
  | d => .error (d.mismatch "a sequence")

/-- A word out of a list of words with their meanings. -/
def word {α : Type} (meanings : List (String × α)) (s : String) : Except Fault α :=
  match Fields.find? s meanings with
  | some a => .ok a
  | none => .error (.unknownWord s (meanings.map Prod.fst))

/-- A word, given as a text or as the name of a single empty field. -/
def wordOf {α : Type} (meanings : List (String × α)) : Decoder α
  | .text s => word meanings s
  | .record [(name, d)] => do
      let a ← word meanings name
      match d with
      | .null => return a
      | d => throw (d.mismatch "unit")
  | .record _ => .error .notOneField
  | d => .error (d.mismatch "string or map")

end Decode

/-! ## Records -/

/-- A field of a record of type `σ`. -/
structure Field (σ : Type) where
  /-- The name. -/
  name : String
  /-- The other spellings of the name. -/
  aliases : List String
  /-- Whether the field may be left out. -/
  optional : Bool
  /-- Decodes a document and puts the value into the record. -/
  store : Document → σ → Except Fault σ

namespace Field

variable {σ α : Type}

/-- A field that may be left out. -/
def withDefault (name : String) (aliases : List String) (decode : Decoder α) (set : α → σ → σ) :
    Field σ :=
  ⟨name, aliases, true, fun d r => (decode d).map fun a => set a r⟩

/-- A field that must be there. -/
def required (name : String) (decode : Decoder α) (set : α → σ → σ) : Field σ :=
  ⟨name, [], false, fun d r => (decode d).map fun a => set a r⟩

/-- Whether a spelling means a field. -/
def hasSpelling (f : Field σ) (key : String) : Bool := f.name == key || f.aliases.contains key

end Field

namespace Decode

variable {σ : Type}

/-- Visits the fields of a record in order.  `seen` holds the names of those
visited before. -/
def visit (fields : List (Field σ)) :
    List (String × Document) → List String → σ → Except Fault (σ × List String)
  | [], seen, r => .ok (r, seen)
  | (key, d) :: rest, seen, r =>
      match fields.find? (·.hasSpelling key) with
      | none => visit fields rest seen r
      | some f =>
          if seen.contains f.name then .error (.duplicateField f.name)
          else
            match f.store d r with
            | .error fault => .error fault
            | .ok r => visit fields rest (f.name :: seen) r

/-- The first field that must be there and was not visited. -/
def missing? (fields : List (Field σ)) (seen : List String) : Option String :=
  (fields.find? fun f => !f.optional && !seen.contains f.name).map Field.name

/-- How a record of a kind is called when it is expected. -/
def structName (kind : String) : String := "struct " ++ kind

/-- How many items a list needs that stands for a record. -/
def structItems (kind : String) (total : Nat) : String :=
  structName kind ++ " with " ++ Number.natText total ++
    (if total = 1 then " element" else " elements")

/-- Takes the items of a list as the fields in declared order.  When the items end
before a field that must be there, the length named is the number of fields before
it. -/
def inOrder (kind : String) (total given : Nat) :
    List (Field σ) → List Document → σ → Except Fault σ
  | [], [], r => .ok r
  | [], _ :: _, _ => .error (.wrongLength given "fewer elements in array")
  | f :: fields, [], r =>
      if f.optional then inOrder kind total given fields [] r
      else .error (.wrongLength (total - (fields.length + 1)) (structItems kind total))
  | f :: fields, d :: rest, r =>
      match f.store d r with
      | .error fault => .error fault
      | .ok r => inOrder kind total given fields rest r

/-- A record of a kind.  The fields that are left out keep the values of `start`. -/
def record (kind : String) (fields : List (Field σ)) (start : σ) : Decoder σ
  | .record members =>
      match visit fields members [] start with
      | .error fault => .error fault
      | .ok (r, seen) =>
          match missing? fields seen with
          | some name => .error (.missingField name)
          | none => .ok r
  | .list items => inOrder kind fields.length items.length fields items start
  | d => .error (d.mismatch (structName kind))

end Decode

/-! ## Depth -/

namespace Document

mutual

/-- How many lists and records are nested in a document. -/
def depth : Document → Nat
  | .list items => depths items + 1
  | .record fields => fieldDepths fields + 1
  | _ => 0

/-- The greatest depth among documents. -/
def depths : List Document → Nat
  | [] => 0
  | d :: rest => max d.depth (depths rest)

/-- The greatest depth among fields. -/
def fieldDepths : List (String × Document) → Nat
  | [] => 0
  | (_, d) :: rest => max d.depth (fieldDepths rest)

end

theorem depth_le_depths {d : Document} : ∀ {items : List Document}, d ∈ items →
    d.depth ≤ depths items
  | x :: rest, h => by
      rw [depths]
      rcases List.mem_cons.mp h with h | h
      · subst h
        exact Nat.le_max_left ..
      · exact Nat.le_trans (depth_le_depths h) (Nat.le_max_right ..)

theorem depth_le_fieldDepths {k : String} {d : Document} :
    ∀ {fields : List (String × Document)}, (k, d) ∈ fields → d.depth ≤ fieldDepths fields
  | (k', x) :: rest, h => by
      rw [fieldDepths]
      rcases List.mem_cons.mp h with h | h
      · cases h
        exact Nat.le_max_left ..
      · exact Nat.le_trans (depth_le_fieldDepths h) (Nat.le_max_right ..)

end Document

/-! ## Tests -/

example : (Fault.missingField "x").message = "missing field \x60x\x60" := by decide
example : (match Decode.nat32 (.integer (-1)) with | .error e => some e | .ok _ => none)
    = some (.outOfRange (-1) "u32") := by decide

end UiReplay
