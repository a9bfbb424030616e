import UiReplay.Proofs.Number.Numeral
import UiReplay.Proofs.Selector.Candidates

/-!
# The position that a path asks for

When nothing else of an element can be written, its path asks for its position among its siblings,
which is its index counted from one.  The index comes from a record of attributes, as a number or as
a text, and it is a number of 64 bits (`Element.childIndex_lt`).

Counting from one adds one, and the sum has 64 bits unless the index is the last number of them
(`Element.positionFits_ofAttributes_iff`).  Making the selectors of an element that has a path which
asks for its position breaks down for this index and for no other, and else the number that is
written is the position (`Generator.generateAll?_countsFromOne`).  So an element with the last index
has no selectors at all (`Generator.generateAll?_lastIndex`).
-/

namespace UiReplay

namespace Number

theorem natText_injective : Function.Injective natText := by
  intro m n h
  have digits : natDigits m = natDigits n := String.ofList_injective h
  rw [← ofDigits_natDigits m, digits, ofDigits_natDigits]

/-- The last number of 64 bits. -/
def lastWord64 : Nat := wordLimit64 - 1

end Number

/-! ## Indexes of attributes -/

namespace Element

theorem position?_lt {i : Int} {n : Nat} (h : position? i = some n) : n < Number.wordLimit64 := by
  obtain ⟨⟨_, below⟩, number⟩ := Option.ite_none_right_eq_some.mp h
  cases number
  omega

theorem readPosition?_lt {s : String} {n : Nat} (h : readPosition? s = some n) :
    n < Number.wordLimit64 := by
  rw [readPosition?] at h
  split at h
  · next m hm =>
      obtain ⟨below, number⟩ := Option.ite_none_right_eq_some.mp h
      cases number
      exact below
  · cases h

/-- An index has 64 bits, whether it is a number or a text. -/
theorem attributeIndex?_lt {v : Json} {n : Nat} (h : attributeIndex? v = some n) :
    n < Number.wordLimit64 := by
  cases v with
  | integer i => exact position?_lt h
  | text s => exact readPosition?_lt h
  | null | bool _ | double _ | list _ | record _ => cases h

/-- What is found under one of several spellings is what a value stands for. -/
theorem exists_of_firstOf {α : Type} {read : Json → Option α} {fields : List (String × Json)}
    {spellings : List String} {a : α} (h : firstOf read fields spellings = some a) :
    ∃ v, read v = some a := by
  obtain ⟨v, -, hv⟩ := List.exists_of_findSome?_eq_some h
  exact ⟨v, hv⟩

theorem childIndex_lt {fields : List (String × Json)} {n : Nat}
    (h : (ofAttributes fields).childIndex = some n) : n < Number.wordLimit64 := by
  obtain ⟨v, hv⟩ := exists_of_firstOf h
  exact attributeIndex?_lt hv

end Element

/-! ## Written paths -/

namespace PathQuery

/-- Whether a condition is a position. -/
def Condition.isPosition : Condition → Bool
  | .position _ => true
  | .text _ | .contentDesc _ | .resourcePart _ => false

/-- The first two characters of a written condition, which tell its kind. -/
def Condition.start : Condition → List Char
  | .text _ => ['@', 't']
  | .contentDesc _ => ['@', 'c']
  | .resourcePart _ => ['c', 'o']
  | .position _ => ['p', 'o']

theorem take_append (before rest : String) (long : 2 ≤ before.toList.length) :
    (before ++ rest).toList.take 2 = before.toList.take 2 := by
  rw [String.toList_append, List.take_append_of_le_length long]

theorem take_between (before value after : String) (long : 2 ≤ before.toList.length) :
    (before ++ value ++ after).toList.take 2 = before.toList.take 2 := by
  rw [String.append_assoc, take_append before _ long]

theorem Condition.take_write (c : Condition) : c.write.toList.take 2 = c.start := by
  cases c with
  | text s => exact take_between "@text='" s "'" (by decide)
  | contentDesc s => exact take_between "@content-desc='" s "'" (by decide)
  | resourcePart s => exact take_between "contains(@resource-id,'" s "')" (by decide)
  | position n => exact take_append "position()=" (Number.natText n) (by decide)

theorem between_injective (before after : String) :
    Function.Injective fun s => before ++ s ++ after := by
  intro s t h
  exact (String.append_right_inj _).mp ((String.append_left_inj _).mp h)

/-- Conditions that are written alike are the same. -/
theorem Condition.write_injective : Function.Injective Condition.write := by
  intro c d h
  have start : c.start = d.start := by rw [← take_write, ← take_write, h]
  cases c <;> cases d
  case text.text => exact congrArg _ (between_injective _ _ h)
  case contentDesc.contentDesc => exact congrArg _ (between_injective _ _ h)
  case resourcePart.resourcePart => exact congrArg _ (between_injective _ _ h)
  case position.position =>
    exact congrArg _ (Number.natText_injective ((String.append_right_inj _).mp h))
  all_goals simp [Condition.start] at start

theorem write_injective (name : String) : Function.Injective (write name) := by
  intro c d h
  exact Condition.write_injective
    ((String.append_right_inj _).mp ((String.append_left_inj _).mp h))

end PathQuery

namespace Element

/-- The position of an element, its index counted from one, has 64 bits. -/
def PositionFits (e : Element) : Prop := e.childIndex.getD 0 + 1 < Number.wordLimit64

/-- Among the indexes of attributes, just the last number of 64 bits has no position. -/
theorem positionFits_ofAttributes_iff (fields : List (String × Json)) :
    (ofAttributes fields).PositionFits ↔
      (ofAttributes fields).childIndex ≠ some Number.lastWord64 := by
  rw [PositionFits]
  cases h : (ofAttributes fields).childIndex with
  | none => exact iff_of_true (by decide) (by simp)
  | some i =>
      have small := childIndex_lt h
      rw [Option.getD_some, ne_eq, Option.some.injEq, Number.lastWord64]
      omega

end Element

namespace Generator

variable {e : Element} {s : Selector}

theorem condition_of_isPosition (h : (condition e).isPosition = true) :
    condition e = .position (positionOf e) := by
  unfold condition at h ⊢
  split at h
  all_goals first | rfl | cases h

/-- Making selectors breaks down exactly when there is a path, it asks for the position, and the
position does not fit in 64 bits. -/
theorem overflows_iff : overflows e = true ↔
    e.offers .xpath = true ∧ (condition e).isPosition = true ∧ ¬ e.PositionFits := by
  have position : ∀ n, condition e = .position n → n = e.childIndex.getD 0 + 1 := by
    intro n asked
    have positional : (condition e).isPosition = true := by rw [asked]; rfl
    exact PathQuery.Condition.position.inj (asked.symm.trans (condition_of_isPosition positional))
  rw [overflows, Element.offers, Element.PositionFits, Nat.not_lt]
  cases e.className with
  | none => simp
  | some name =>
      cases asked : condition e with
      | position n => simp [PathQuery.Condition.isPosition, position n asked]
      | text s => simp [PathQuery.Condition.isPosition]
      | contentDesc s => simp [PathQuery.Condition.isPosition]
      | resourcePart s => simp [PathQuery.Condition.isPosition]

theorem generateAll?_eq_none_iff {g : Generator} :
    g.generateAll? e = none ↔ overflows e = true := by
  rw [generateAll?]
  split
  · next h => exact iff_of_true rfl h
  · next h => exact iff_of_false (by simp) h

theorem generateAll?_eq_some_iff {g : Generator} {found : List Selector} :
    g.generateAll? e = some found ↔ overflows e = false ∧ g.generateAll e = found := by
  rw [generateAll?]
  cases overflows e <;> simp

/-- A path among the selectors of an element is made by its strategy. -/
theorem byPath_of_mem_generateAll {g : Generator} (h : s ∈ g.generateAll e)
    (path : s.kind = .xpath) : byPath e = some s :=
  byKind_eq_some_iff.mpr ⟨h, path⟩

/-- A path asks for a position, with the class of an element. -/
def AsksFor (e : Element) (s : Selector) (n : Nat) : Prop :=
  ∃ name, e.className = some name ∧
    s.value = PathQuery.write (Text.tailAfter '.' name) (.position n)

/-- A path asks for the position of the element and for no other, if its condition is one. -/
theorem asksFor_iff (made : byPath e = some s) {n : Nat} :
    AsksFor e s n ↔ (condition e).isPosition = true ∧ n = e.childIndex.getD 0 + 1 := by
  obtain ⟨name, hname, -, hs⟩ := byPath_eq_some_iff.mp made
  constructor
  · rintro ⟨name', hname', value⟩
    obtain rfl := Option.some.inj (hname.symm.trans hname')
    have asked : condition e = .position n :=
      PathQuery.write_injective _ (hs.value_eq.symm.trans value)
    have positional : (condition e).isPosition = true := by rw [asked]; rfl
    have position := asked.symm.trans (condition_of_isPosition positional)
    exact ⟨positional, PathQuery.Condition.position.inj position⟩
  · rintro ⟨positional, rfl⟩
    rw [condition_of_isPosition positional] at hs
    exact ⟨name, hname, hs.value_eq⟩

/-- Making the selectors of an element that a record of attributes describes breaks down exactly
when the element has a path, the path asks for the position, and the index is the last number of 64
bits.  If it does not, a path asks for a position exactly when its condition is one, and then for
the index counted from one, or for the first position when no index is known.  This position is at
least one and has 64 bits. -/
theorem generateAll?_countsFromOne (g : Generator) (fields : List (String × Json)) :
    let e := Element.ofAttributes fields
    (g.generateAll? e = none ↔ e.offers .xpath = true ∧ (condition e).isPosition = true ∧
      e.childIndex = some Number.lastWord64) ∧
    ∀ found, g.generateAll? e = some found → ∀ s ∈ found, s.kind = .xpath → ∀ n,
      (AsksFor e s n ↔ (condition e).isPosition = true ∧ n = e.childIndex.getD 0 + 1) ∧
      (AsksFor e s n → 1 ≤ n ∧ n < Number.wordLimit64) := by
  have fits := Element.positionFits_ofAttributes_iff fields
  generalize Element.ofAttributes fields = e at fits ⊢
  refine ⟨?_, fun found made s hs path n => ?_⟩
  · rw [generateAll?_eq_none_iff, overflows_iff, fits, ne_eq, not_not]
  · obtain ⟨whole, rfl⟩ := generateAll?_eq_some_iff.mp made
    have written := byPath_of_mem_generateAll hs path
    refine ⟨asksFor_iff written, fun asked => ?_⟩
    obtain ⟨positional, rfl⟩ := (asksFor_iff written).mp asked
    have offered : e.offers .xpath = true := by
      rw [← isSome_byKind g e .xpath]
      exact Option.isSome_iff_exists.mpr ⟨s, written⟩
    have room : e.PositionFits := by
      refine not_not.mp fun full => ?_
      exact Bool.eq_false_iff.mp whole (overflows_iff.mpr ⟨offered, positional, full⟩)
    exact ⟨Nat.le_add_left .., room⟩

end Generator

/-- The attributes of an element that has no more than a class and an index. -/
def indexed (i : Int) : List (String × Json) :=
  [("className", .text "a.B"), ("childIndex", .integer i)]

namespace Generator

/-- The path of the fifth of several elements. -/
def fifthPath : Selector :=
  ⟨.xpath, "//B[position()=5]", SelectorKind.xpath.baseConfidence, by decide,
    SelectorKind.xpath.inUnit_baseConfidence⟩

theorem generateAll?_countsFromOne_fifth :
    ∃ found, generateAll? {} (.ofAttributes (indexed 4)) = some found ∧ fifthPath ∈ found ∧
      AsksFor (.ofAttributes (indexed 4)) fifthPath 5 := by
  have whole : overflows (.ofAttributes (indexed 4)) = false := by decide +kernel
  have member : fifthPath ∈ generateAll {} (.ofAttributes (indexed 4)) := by
    rw [generateAll_eq]
    decide +kernel
  have made : generateAll? {} (.ofAttributes (indexed 4)) =
      some (generateAll {} (.ofAttributes (indexed 4))) :=
    generateAll?_eq_some_iff.mpr ⟨whole, rfl⟩
  obtain ⟨-, counts⟩ := generateAll?_countsFromOne {} (indexed 4)
  refine ⟨_, made, member, ((counts _ made fifthPath member rfl 5).1).mpr ?_⟩
  exact ⟨by decide +kernel, by decide +kernel⟩

/-- An element whose path asks for the last index counted from one has no selectors. -/
theorem generateAll?_lastIndex :
    (Element.ofAttributes (indexed 18446744073709551615)).childIndex = some Number.lastWord64 ∧
      generateAll? {} (.ofAttributes (indexed 18446744073709551615)) = none := by
  decide +kernel

end Generator

end UiReplay
