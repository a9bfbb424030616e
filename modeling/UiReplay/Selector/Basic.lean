import UiReplay.Json.Decoding
import UiReplay.Text.Blank

/-!
# Selectors

A *selector* says how to find an element again: by resource id, description, text,
path or rectangle.  It holds a value that is not blank and a confidence between
zero and one, minus zero included.

A *chain* is a non-empty list of selectors, tried from first to last.  Records
hold it nested: each selector owns the one to try after it.  `Chain.ofNested?`
takes the nested form apart, outermost first, and stops at the first level that
is no selector.  `Chain.nested` puts it together again.

* `of?_eq_ok_iff` says when a kind, a value and a confidence are a selector.
* `ofNested?_nested` says that a chain survives the nested form.
-/

namespace UiReplay

open Number (Binary Extended)

/-! ## Kinds -/

/-- A way to find an element again. -/
inductive SelectorKind where
  /-- By resource id. -/
  | resourceId
  /-- By description. -/
  | contentDesc
  /-- By text. -/
  | text
  /-- By class and attributes. -/
  | xpath
  /-- By place on the screen. -/
  | bounds
deriving DecidableEq, Repr

namespace SelectorKind

/-- All kinds, the most reliable first. -/
def all : List SelectorKind := [.resourceId, .contentDesc, .text, .xpath, .bounds]

/-- The place of a kind among all, the most reliable first. -/
def priority : SelectorKind → Nat
  | .resourceId => 0
  | .contentDesc => 1
  | .text => 2
  | .xpath => 3
  | .bounds => 4

/-- The name of a kind. -/
def name : SelectorKind → String
  | .resourceId => "resource_id"
  | .contentDesc => "content_desc"
  | .text => "text"
  | .xpath => "xpath"
  | .bounds => "bounds"

/-- The kinds by their names. -/
def byName : List (String × SelectorKind) := all.map fun k => (k.name, k)

/-- A kind in a document. -/
def decode : Decoder SelectorKind := Decode.wordOf byName

end SelectorKind

/-! ## Confidence -/

/-- A number of 32 bits. -/
abbrev Single := Binary Number.single

/-- A number that may be infinite or no number. -/
abbrev ExtendedSingle := Extended Number.single

/-- The number lies between zero and one. -/
def Number.Binary.inUnit (x : Single) : Bool :=
  x.isZero || (!x.negative && x.magnitude.num ≤ x.magnitude.den)

/-- The number of 32 bits nearest to `m / 2^24`, with the top bit of `m` set. -/
def inUnitParts (m : Nat) (h : Number.single.Canonical m (-24) := by decide) : Single :=
  ⟨false, m, -24, h⟩

/-- How sure a selector of a kind is unless it says otherwise: 0.95, 0.85, 0.75,
0.7 and 0.5. -/
def SelectorKind.baseConfidence : SelectorKind → Single
  | .resourceId => inUnitParts 15938355
  | .contentDesc => inUnitParts 14260634
  | .text => inUnitParts 12582912
  | .xpath => inUnitParts 11744051
  | .bounds => inUnitParts 8388608

/-- Every such confidence lies between zero and one. -/
theorem SelectorKind.inUnit_baseConfidence (k : SelectorKind) :
    k.baseConfidence.inUnit = true := by
  cases k <;> decide

/-! ## Selectors -/

/-- Why something is no selector or no chain. -/
inductive SelectorError where
  /-- The value is blank. -/
  | emptyValue (kind : SelectorKind)
  /-- The confidence does not lie between zero and one. -/
  | confidenceOutOfRange (confidence : ExtendedSingle)
  /-- A chain of no selectors. -/
  | emptyChain
deriving DecidableEq

/-- The text of an error. -/
def SelectorError.message : SelectorError → String
  | .emptyValue kind => kind.name ++ " selector has an empty value"
  | .confidenceOutOfRange c => "selector confidence " ++ c.plainText ++ " is outside [0, 1]"
  | .emptyChain => "selector chain has no selectors"

/-- A way to find an element, with a value. -/
structure Selector where
  /-- The way. -/
  kind : SelectorKind
  /-- What is looked for. -/
  value : String
  /-- How sure it is. -/
  confidence : Single
  /-- The value says something. -/
  value_nonBlank : Text.isBlankText value = false
  /-- The confidence lies between zero and one. -/
  confidence_inUnit : confidence.inUnit = true
deriving DecidableEq

namespace Selector

/-- The selector with the given parts. -/
def of? (kind : SelectorKind) (value : String) (confidence : ExtendedSingle) :
    Except SelectorError Selector :=
  if hv : Text.isBlankText value = false then
    match confidence with
    | .finite c =>
        if hc : c.inUnit = true then .ok ⟨kind, value, c, hv, hc⟩
        else .error (.confidenceOutOfRange (.finite c))
    | c => .error (.confidenceOutOfRange c)
  else .error (.emptyValue kind)

/-- The selector with the confidence of its kind. -/
def ofKind? (kind : SelectorKind) (value : String) : Except SelectorError Selector :=
  of? kind value (.finite kind.baseConfidence)

/-- Kind, value and confidence are a selector exactly when the value says
something and the confidence is a number between zero and one. -/
theorem of?_eq_ok_iff {kind : SelectorKind} {value : String} {c : ExtendedSingle} {s : Selector} :
    of? kind value c = .ok s ↔
      s.kind = kind ∧ s.value = value ∧ c = .finite s.confidence := by
  constructor
  · intro h
    rw [of?] at h
    split at h
    · split at h
      · split at h
        · cases h
          exact ⟨rfl, rfl, rfl⟩
        · cases h
      · cases h
    · cases h
  · rintro ⟨rfl, rfl, rfl⟩
    simp [of?, s.value_nonBlank, s.confidence_inUnit]

/-- The form in which a selector is shown. -/
def display (s : Selector) : String :=
  s.kind.name ++ "=\"" ++ s.value ++ "\" (" ++ s.confidence.twoPlaces ++ ")"

end Selector

/-! ## Chains -/

/-- A non-empty list of selectors. -/
structure Chain where
  /-- The selector that is tried first. -/
  primary : Selector
  /-- The selectors that are tried after it, in order. -/
  fallbacks : List Selector
deriving DecidableEq

namespace Chain

/-- The selectors in the order in which they are tried. -/
def selectors (c : Chain) : List Selector := c.primary :: c.fallbacks

/-- The chain of the given selectors. -/
def ofList? : List Selector → Except SelectorError Chain
  | [] => .error .emptyChain
  | s :: rest => .ok ⟨s, rest⟩

/-- The chain of one selector. -/
def single (s : Selector) : Chain := ⟨s, []⟩

/-- The first selector of a kind, with its place. -/
def findKindFrom (kind : SelectorKind) : Nat → List Selector → Option (Nat × Selector)
  | _, [] => none
  | i, s :: rest => if s.kind = kind then some (i, s) else findKindFrom kind (i + 1) rest

/-- The first selector of a kind in a chain, with its place. -/
def findKind? (kind : SelectorKind) (c : Chain) : Option (Nat × Selector) :=
  findKindFrom kind 0 c.selectors

theorem findKindFrom_eq_none_iff {kind : SelectorKind} {i : Nat} {selectors : List Selector} :
    findKindFrom kind i selectors = none ↔ ∀ s ∈ selectors, s.kind ≠ kind := by
  induction selectors generalizing i with
  | nil => simp [findKindFrom]
  | cons s rest ih =>
      rw [findKindFrom, List.forall_mem_cons]
      split
      · next same => simp [same]
      · next other => rw [ih, and_iff_right other]

theorem findKindFrom_eq_some {kind : SelectorKind} {i place : Nat} {s : Selector}
    {selectors : List Selector} (h : findKindFrom kind i selectors = some (place, s)) :
    ∃ k, place = i + k ∧ selectors[k]? = some s ∧ s.kind = kind ∧
      ∀ j < k, ∀ t, selectors[j]? = some t → t.kind ≠ kind := by
  induction selectors generalizing i with
  | nil => cases h
  | cons t rest ih =>
      rw [findKindFrom] at h
      split at h
      · next same =>
          cases h
          exact ⟨0, rfl, rfl, same, fun j lt => absurd lt (Nat.not_lt_zero j)⟩
      · next other =>
          obtain ⟨k, hplace, here, same, before⟩ := ih h
          refine ⟨k + 1, by omega, here, same, ?_⟩
          intro j lt u hu
          cases j with
          | zero =>
              cases hu
              exact other
          | succ j => exact before j (by omega) u hu

theorem findKind?_eq_none_iff {kind : SelectorKind} {c : Chain} :
    c.findKind? kind = none ↔ ∀ s ∈ c.selectors, s.kind ≠ kind :=
  findKindFrom_eq_none_iff

/-- The selector that is found has the kind, and none before it does. -/
theorem findKind?_eq_some {kind : SelectorKind} {c : Chain} {i : Nat} {s : Selector}
    (h : c.findKind? kind = some (i, s)) :
    c.selectors[i]? = some s ∧ s.kind = kind ∧
      ∀ j < i, ∀ t, c.selectors[j]? = some t → t.kind ≠ kind := by
  obtain ⟨k, hk, found⟩ := findKindFrom_eq_some h
  rw [Nat.zero_add] at hk
  rw [hk]
  exact found

/-- The form in which a chain is shown. -/
def display (c : Chain) : String := Text.joinWith " -> " (c.selectors.map Selector.display)

end Chain

/-! ## The nested form -/

/-- One selector of a record, not yet checked. -/
structure SelectorLevel where
  /-- The way to find the element. -/
  kind : SelectorKind
  /-- What is looked for. -/
  value : String
  /-- How sure it is, if the record says so. -/
  confidence : Option ExtendedSingle
deriving DecidableEq

/-- A record of selectors in which each owns the one to try after it. -/
inductive NestedSelector where
  /-- The last selector. -/
  | last (level : SelectorLevel)
  /-- A selector and those after it. -/
  | before (level : SelectorLevel) (fallback : NestedSelector)
deriving DecidableEq

namespace NestedSelector

/-- The levels, outermost first. -/
def levels : NestedSelector → List SelectorLevel
  | last l => [l]
  | before l rest => l :: rest.levels

end NestedSelector

/-- The selector at a level, with the confidence of its kind if none is given. -/
def SelectorLevel.selector? (l : SelectorLevel) : Except SelectorError Selector :=
  Selector.of? l.kind l.value (l.confidence.getD (.finite l.kind.baseConfidence))

/-- The level of a selector. -/
def Selector.level (s : Selector) : SelectorLevel := ⟨s.kind, s.value, some (.finite s.confidence)⟩

namespace Chain

/-- The chain that a nested record holds. -/
def ofNested? : NestedSelector → Except SelectorError Chain
  | .last l =>
      match l.selector? with
      | .ok s => .ok ⟨s, []⟩
      | .error e => .error e
  | .before l rest =>
      match l.selector? with
      | .ok s =>
          match ofNested? rest with
          | .ok c => .ok ⟨s, c.selectors⟩
          | .error e => .error e
      | .error e => .error e

/-- Selectors put into one another. -/
def nest (s : Selector) : List Selector → NestedSelector
  | [] => .last s.level
  | t :: rest => .before s.level (nest t rest)

/-- A chain as a nested record. -/
def nested (c : Chain) : NestedSelector := nest c.primary c.fallbacks

theorem selector?_level (s : Selector) : s.level.selector? = .ok s :=
  Selector.of?_eq_ok_iff.mpr ⟨rfl, rfl, rfl⟩

theorem ofNested?_nest (s : Selector) (rest : List Selector) :
    ofNested? (nest s rest) = .ok ⟨s, rest⟩ := by
  induction rest generalizing s with
  | nil => simp [nest, ofNested?, selector?_level]
  | cons t rest ih => simp [nest, ofNested?, selector?_level, ih, selectors]

/-- A chain survives the nested form. -/
theorem ofNested?_nested (c : Chain) : ofNested? c.nested = .ok c := ofNested?_nest _ _

end Chain

/-! ## Records -/

/-- A nested record while its fields are put in. -/
structure NestedDraft where
  /-- The way to find the element. -/
  kind : SelectorKind := .resourceId
  /-- What is looked for. -/
  value : String := ""
  /-- How sure it is. -/
  confidence : Option ExtendedSingle := none
  /-- The record of the selectors after it. -/
  fallback : Option NestedSelector := none

namespace NestedSelector

/-- The fields of a nested record, with a decoder for the one inside. -/
def recordFields (inner : Decoder NestedSelector) : List (Field NestedDraft) := [
  .required "type" SelectorKind.decode fun v r => { r with kind := v },
  .required "value" Decode.text fun v r => { r with value := v },
  .withDefault "confidence" [] (Decode.nullable Decode.single) fun v r => { r with confidence := v },
  .withDefault "fallback" [] (Decode.nullable inner) fun v r => { r with fallback := v }]

/-- The nested record that a draft has become. -/
def ofDraft (r : NestedDraft) : NestedSelector :=
  match r.fallback with
  | none => .last ⟨r.kind, r.value, r.confidence⟩
  | some rest => .before ⟨r.kind, r.value, r.confidence⟩ rest

/-- A nested record whose document is nested no deeper than the first argument. -/
def decodeWithin : Nat → Decoder NestedSelector
  | 0 => fun _ => .error .unreadable
  | fuel + 1 => fun d =>
      (Decode.record "RawSelector" (recordFields (decodeWithin fuel)) {} d).map ofDraft

/-- A nested record in a document. -/
def decode (d : Document) : Except Fault NestedSelector := decodeWithin (d.depth + 1) d

/-- A confidence as it is written. -/
def confidenceDocument : ExtendedSingle → Document
  | .finite c => .single c
  | _ => .null

/-- The fields of a level. -/
def levelFields (l : SelectorLevel) : List (String × Document) :=
  [("type", .text l.kind.name), ("value", .text l.value)] ++
    (match l.confidence with
      | some c => [("confidence", confidenceDocument c)]
      | none => [])

/-- A nested record as it is written.  What is absent is left out. -/
def document : NestedSelector → Document
  | last l => .record (levelFields l)
  | before l rest => .record (levelFields l ++ [("fallback", rest.document)])

end NestedSelector

namespace Chain

/-- A chain in a document. -/
def decode (d : Document) : Except Fault Chain :=
  match NestedSelector.decode d with
  | .ok n =>
      match ofNested? n with
      | .ok c => .ok c
      | .error e => .error (.refused e.message)
  | .error fault => .error fault

/-- A chain as it is written. -/
def document (c : Chain) : Document := c.nested.document

end Chain

/-! ## Tests -/

example : SelectorKind.all.map (fun k => k.baseConfidence.twoPlaces)
    = ["0.95", "0.85", "0.75", "0.70", "0.50"] := by decide +kernel
example : (Selector.of? .text "  " (.finite SelectorKind.text.baseConfidence)).isOk = false := by
  decide +kernel

end UiReplay
