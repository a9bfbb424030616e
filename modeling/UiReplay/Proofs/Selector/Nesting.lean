import UiReplay.Proofs.Json.Records
import UiReplay.Proofs.Number.Widening
import UiReplay.Selector.Basic

/-!
# Chains and nested records

A chain becomes a nested record from the back: the last selector becomes the innermost record, and
each selector before it takes the record so far inside (`NestedSelector.ofSelectors?`).  A nested
record becomes a chain from the front: each level is checked, its selector is put at the end of
those found so far, and the first level that fails decides the error (`NestedSelector.unnest`).

Both ways are those of the chains (`ofSelectors?_selectors`, `unnest_eq`).  So a chain comes back
from its record, and a record is a chain exactly when all of its levels are sound, with one
selector for each level, outermost first (`Chain.ofNested?_eq_ok_iff`).  Otherwise the outermost
level that is not sound decides the error (`Chain.ofNested?_eq_error_iff`).
-/

namespace UiReplay

open Number (Ratio)

/-! ## Confidence -/

namespace Number.Binary

/-- The rational number that a binary number is. -/
def value {f : Format} (x : Binary f) : ℚ :=
  if x.negative then -x.magnitude.value else x.magnitude.value

/-- The check of a confidence is that of its value. -/
theorem inUnit_iff {x : Single} : x.inUnit = true ↔ 0 ≤ x.value ∧ x.value ≤ 1 := by
  have pos : (0 : ℚ) < x.magnitude.den := by
    exact_mod_cast Ratio.scaled_den_pos x.mantissa x.exponent
  have nonneg : 0 ≤ x.magnitude.value := by
    unfold Ratio.value
    positivity
  have zero : x.mantissa = 0 ↔ x.magnitude.value = 0 := by
    have power : (2 : ℚ) ^ x.exponent ≠ 0 := zpow_ne_zero _ two_ne_zero
    rw [magnitude, Ratio.value_scaled, mul_eq_zero, or_iff_left power, Nat.cast_eq_zero]
  have atMost : x.magnitude.num ≤ x.magnitude.den ↔ x.magnitude.value ≤ 1 := by
    rw [Ratio.value, div_le_one pos]
    exact_mod_cast Iff.rfl
  rw [inUnit, Bool.or_eq_true, Bool.and_eq_true, isZero, beq_iff_eq, Bool.not_eq_true',
    decide_eq_true_eq, zero, atMost, value]
  cases x.negative with
  | false =>
      simp only [true_and, Bool.false_eq_true, if_false, nonneg, or_iff_right_iff_imp]
      intro h
      rw [h]
      exact zero_le_one
  | true =>
      simp only [Bool.true_eq_false, false_and, or_false, if_true]
      constructor
      · intro h
        rw [h, neg_zero]
        exact ⟨le_refl _, zero_le_one⟩
      · intro h
        exact le_antisymm (neg_nonneg.mp h.1) nonneg

end Number.Binary

/-! ## Levels -/

namespace SelectorLevel

/-- The confidence of a level, that of its kind when it gives none. -/
def certainty (l : SelectorLevel) : ExtendedSingle :=
  l.confidence.getD (.finite l.kind.baseConfidence)

/-- The confidence is a number between zero and one. -/
def IsCertain (l : SelectorLevel) : Prop :=
  ∃ x : Single, l.certainty = .finite x ∧ 0 ≤ x.value ∧ x.value ≤ 1

/-- The value says something, and the confidence is a number between zero and one. -/
structure IsSound (l : SelectorLevel) : Prop where
  value : Text.trim l.value ≠ ""
  confidence : l.IsCertain

/-- Why a level is not sound.  The value is looked at first. -/
inductive Fails (l : SelectorLevel) : SelectorError → Prop
  | value (blank : Text.trim l.value = "") : Fails l (.emptyValue l.kind)
  | confidence (filled : Text.trim l.value ≠ "") (beyond : ¬ l.IsCertain) :
      Fails l (.confidenceOutOfRange l.certainty)

/-- A selector has the kind, the value and the confidence of a level. -/
structure Gives (l : SelectorLevel) (s : Selector) : Prop where
  kind : s.kind = l.kind
  value : s.value = l.value
  confidence : l.certainty = .finite s.confidence

variable {l : SelectorLevel} {s : Selector} {e : SelectorError}

theorem trim_ne_iff : Text.trim l.value ≠ "" ↔ Text.isBlankText l.value = false := by
  rw [Ne, ← Text.isBlankText_iff_trim, Bool.not_eq_true]

theorem selector?_eq_ok_iff : l.selector? = .ok s ↔ l.Gives s := by
  rw [selector?, Selector.of?_eq_ok_iff]
  exact ⟨fun ⟨kind, value, confidence⟩ => ⟨kind, value, confidence⟩,
    fun h => ⟨h.kind, h.value, h.confidence⟩⟩

/-- A sound level is a selector. -/
theorem IsSound.exists_selector? (h : l.IsSound) : ∃ s, l.selector? = .ok s := by
  obtain ⟨x, confidence, inUnit⟩ := h.confidence
  exact ⟨⟨l.kind, l.value, x, trim_ne_iff.mp h.value, Number.Binary.inUnit_iff.mpr inUnit⟩,
    selector?_eq_ok_iff.mpr ⟨rfl, rfl, confidence⟩⟩

theorem Gives.isSound (h : l.Gives s) : l.IsSound where
  value := trim_ne_iff.mpr (h.value ▸ s.value_nonBlank)
  confidence := ⟨s.confidence, h.confidence, Number.Binary.inUnit_iff.mp s.confidence_inUnit⟩

theorem Fails.not_isSound (h : l.Fails e) : ¬ l.IsSound := by
  intro sound
  cases h with
  | value blank => exact sound.value blank
  | confidence _ uncertain => exact uncertain sound.confidence

theorem exists_selector?_iff : (∃ s, l.selector? = .ok s) ↔ l.IsSound :=
  ⟨fun ⟨_, h⟩ => (selector?_eq_ok_iff.mp h).isSound, IsSound.exists_selector?⟩

/-- The error of a level that is no selector. -/
theorem selector?_eq_error_iff : l.selector? = .error e ↔ l.Fails e := by
  constructor
  · intro h
    cases blank : Text.isBlankText l.value with
    | true =>
        rw [selector?, Selector.of?, dif_neg (by simp [blank])] at h
        cases h
        exact .value ((Text.isBlankText_iff_trim _).mp blank)
    | false =>
        have uncertain : ¬ l.IsCertain := by
          intro certain
          obtain ⟨s, hs⟩ := IsSound.exists_selector? ⟨trim_ne_iff.mpr blank, certain⟩
          cases h.symm.trans hs
        have error : e = .confidenceOutOfRange l.certainty := by
          rw [selector?, ← certainty, Selector.of?, dif_pos blank] at h
          split at h
          · next x hx =>
              split at h
              · cases h
              · rw [hx]
                exact (Except.error.inj h).symm
          · exact (Except.error.inj h).symm
        exact error ▸ .confidence (trim_ne_iff.mpr blank) uncertain
  · intro h
    cases h with
    | value blank =>
        have blank := (Text.isBlankText_iff_trim _).mpr blank
        rw [selector?, Selector.of?, dif_neg (by simp [blank])]
    | confidence filled uncertain =>
        rw [selector?, ← certainty, Selector.of?, dif_pos (trim_ne_iff.mp filled)]
        split
        · next x hx =>
            rw [dif_neg fun inUnit => uncertain ⟨x, hx, Number.Binary.inUnit_iff.mp inUnit⟩, hx]
        · rfl

end SelectorLevel

/-! ## From the front -/

namespace NestedSelector

/-- The selectors found so far, and those of the levels of a record, checked one after the other. -/
def unnestFrom (found : List Selector) : NestedSelector → Except SelectorError (List Selector)
  | .last l =>
      match l.selector? with
      | .ok s => .ok (found ++ [s])
      | .error e => .error e
  | .before l rest =>
      match l.selector? with
      | .ok s => unnestFrom (found ++ [s]) rest
      | .error e => .error e

/-- The chain of the selectors of a record. -/
def unnest (n : NestedSelector) : Except SelectorError Chain :=
  match unnestFrom [] n with
  | .ok selectors => Chain.ofList? selectors
  | .error e => .error e

/-- The selectors found so far stand before those of the chain of a record. -/
theorem unnestFrom_eq (found : List Selector) (n : NestedSelector) :
    unnestFrom found n = (Chain.ofNested? n).map fun c => found ++ c.selectors := by
  induction n generalizing found with
  | last l =>
      rw [unnestFrom, Chain.ofNested?]
      cases l.selector? <;> rfl
  | before l rest ih =>
      rw [unnestFrom, Chain.ofNested?]
      cases l.selector? with
      | error e => rfl
      | ok s =>
          dsimp only
          rw [ih]
          cases Chain.ofNested? rest with
          | error e => rfl
          | ok c => exact congrArg Except.ok (List.append_assoc found [s] c.selectors)

theorem unnest_eq (n : NestedSelector) : unnest n = Chain.ofNested? n := by
  rw [unnest, unnestFrom_eq]
  cases Chain.ofNested? n <;> rfl

/-! ## From the back -/

/-- A level with the record inside it, if there is one. -/
def around (l : SelectorLevel) : Option NestedSelector → NestedSelector
  | none => .last l
  | some inner => .before l inner

/-- Selectors put into one another from the last one on, `none` when there are none. -/
def ofSelectors? (selectors : List Selector) : Option NestedSelector :=
  selectors.reverse.foldl (fun inner s => some (around s.level inner)) none

theorem ofSelectors?_cons (s : Selector) (rest : List Selector) :
    ofSelectors? (s :: rest) = some (around s.level (ofSelectors? rest)) := by
  rw [ofSelectors?, List.reverse_cons, List.foldl_append]
  rfl

theorem ofSelectors?_nest (s : Selector) (rest : List Selector) :
    ofSelectors? (s :: rest) = some (Chain.nest s rest) := by
  induction rest generalizing s with
  | nil => rfl
  | cons t rest ih =>
      rw [ofSelectors?_cons, ih]
      rfl

end NestedSelector

/-! ## Records and chains -/

/-- The first of some levels that is not sound fails with an error. -/
def SelectorLevel.FailsFirst (levels : List SelectorLevel) (e : SelectorError) : Prop :=
  ∃ before l after, levels = before ++ l :: after ∧ (∀ m ∈ before, m.IsSound) ∧ l.Fails e

namespace Chain

open SelectorLevel (Gives FailsFirst)

theorem not_failsFirst_nil {e : SelectorError} : ¬ FailsFirst [] e := by
  rintro ⟨before, l, after, split, -⟩
  cases before <;> cases split

theorem failsFirst_cons_iff {l : SelectorLevel} {levels : List SelectorLevel} {e : SelectorError} :
    FailsFirst (l :: levels) e ↔ l.Fails e ∨ l.IsSound ∧ FailsFirst levels e := by
  constructor
  · rintro ⟨before, m, after, split, sound, fails⟩
    cases before with
    | nil =>
        cases split
        exact .inl fails
    | cons b before =>
        cases split
        exact .inr ⟨sound _ List.mem_cons_self, before, m, after, rfl,
          fun m hm => sound m (List.mem_cons_of_mem _ hm), fails⟩
  · rintro (fails | ⟨first, before, m, after, rfl, sound, fails⟩)
    · exact ⟨[], l, levels, rfl, fun m hm => absurd hm List.not_mem_nil, fails⟩
    · exact ⟨l :: before, m, after, rfl, List.forall_mem_cons.mpr ⟨first, sound⟩, fails⟩

variable {n : NestedSelector} {c : Chain} {e : SelectorError}

/-- A record is a chain of the selectors that its levels give, by induction on the record. -/
theorem exists_ofNested?_iff {selectors : List Selector} :
    (∃ c, ofNested? n = .ok c ∧ c.selectors = selectors) ↔
      List.Forall₂ Gives n.levels selectors := by
  induction n generalizing selectors with
  | last l =>
      rw [ofNested?, NestedSelector.levels, List.forall₂_cons_left_iff]
      constructor
      · rintro ⟨c, h, rfl⟩
        split at h
        · next s hs =>
            cases h
            exact ⟨s, [], SelectorLevel.selector?_eq_ok_iff.mp hs, .nil, rfl⟩
        · cases h
      · rintro ⟨s, rest, gives, none, rfl⟩
        cases none
        rw [SelectorLevel.selector?_eq_ok_iff.mpr gives]
        exact ⟨_, rfl, rfl⟩
  | before l rest ih =>
      rw [ofNested?, NestedSelector.levels, List.forall₂_cons_left_iff]
      constructor
      · rintro ⟨c, h, rfl⟩
        split at h
        · next s hs =>
            split at h
            · next inner hinner =>
                cases h
                exact ⟨s, inner.selectors, SelectorLevel.selector?_eq_ok_iff.mp hs,
                  ih.mp ⟨inner, hinner, rfl⟩, rfl⟩
            · cases h
        · cases h
      · rintro ⟨s, others, gives, more, rfl⟩
        obtain ⟨inner, hinner, rfl⟩ := ih.mpr more
        rw [SelectorLevel.selector?_eq_ok_iff.mpr gives, hinner]
        exact ⟨_, rfl, rfl⟩

theorem selectors_inj {c c' : Chain} (h : c.selectors = c'.selectors) : c = c' := by
  cases c
  cases c'
  cases h
  rfl

/-- A record is the chain that has one selector for each level, outermost first. -/
theorem ofNested?_eq_ok_iff : ofNested? n = .ok c ↔ List.Forall₂ Gives n.levels c.selectors := by
  rw [← exists_ofNested?_iff]
  constructor
  · exact fun h => ⟨c, h, rfl⟩
  · rintro ⟨c', h, same⟩
    exact selectors_inj same ▸ h

/-- A record is no chain because of its outermost level that is not sound. -/
theorem ofNested?_eq_error_iff : ofNested? n = .error e ↔ FailsFirst n.levels e := by
  induction n with
  | last l =>
      rw [ofNested?, NestedSelector.levels, failsFirst_cons_iff,
        or_iff_left fun h => not_failsFirst_nil h.2, ← SelectorLevel.selector?_eq_error_iff]
      cases l.selector? <;> simp
  | before l rest ih =>
      rw [ofNested?, NestedSelector.levels, failsFirst_cons_iff, ← ih,
        ← SelectorLevel.selector?_eq_error_iff, ← SelectorLevel.exists_selector?_iff]
      cases l.selector? with
      | error e => simp
      | ok s => cases ofNested? rest <;> simp

/-- A record is a chain exactly when all of its levels are sound. -/
theorem exists_ofNested?_iff_isSound :
    (∃ c, ofNested? n = .ok c) ↔ ∀ l ∈ n.levels, l.IsSound := by
  constructor
  · rintro ⟨c, h⟩ l hl
    obtain ⟨s, -, gives⟩ := exists_of_mem_right (ofNested?_eq_ok_iff.mp h).flip hl
    exact gives.isSound
  · intro sound
    cases h : ofNested? n with
    | ok c => exact ⟨c, rfl⟩
    | error e =>
        obtain ⟨before, l, after, split, -, fails⟩ := ofNested?_eq_error_iff.mp h
        exact absurd (sound l (by simp [split])) fails.not_isSound

/-! ## There and back -/

/-- What becomes of some selectors.  None are no chain, and there is nothing to put into one
another.  Others are a chain that starts with the first of them, and its nested record gives it
back. -/
inductive Nests : List Selector → Prop
  | empty (refused : ofList? [] = .error .emptyChain)
      (none : NestedSelector.ofSelectors? [] = none) : Nests []
  | chain {selectors : List Selector} (c : Chain) (built : ofList? selectors = .ok c)
      (same : c.selectors = selectors) (first : selectors[0]? = some c.primary)
      (nested : NestedSelector.ofSelectors? selectors = some c.nested)
      (back : ofNested? c.nested = .ok c) : Nests selectors

/-- What becomes of a nested record. -/
structure Unnests (n : NestedSelector) : Prop where
  /-- The levels are checked from the front. -/
  loop : n.unnest = ofNested? n
  accepted : (∃ c, ofNested? n = .ok c) ↔ ∀ l ∈ n.levels, l.IsSound
  /-- The chain has one selector for each level, outermost first. -/
  listed : ∀ c, ofNested? n = .ok c ↔ List.Forall₂ Gives n.levels c.selectors
  rejected : ∀ e, ofNested? n = .error e ↔ FailsFirst n.levels e

/-- Selectors nest to a record that gives them back, and any record gives the selectors of its
levels or the error of the outermost level that is not sound. -/
theorem nests_and_unnests (selectors : List Selector) (n : NestedSelector) :
    Nests selectors ∧ Unnests n := by
  constructor
  · cases selectors with
    | nil => exact .empty rfl rfl
    | cons s rest =>
        exact .chain ⟨s, rest⟩ rfl rfl rfl (NestedSelector.ofSelectors?_nest s rest)
          (ofNested?_nested _)
  · exact ⟨n.unnest_eq, exists_ofNested?_iff_isSound, fun _ => ofNested?_eq_ok_iff,
      fun _ => ofNested?_eq_error_iff⟩

example : ofNested? (.before ⟨.text, "OK", some .nan⟩ (.last ⟨.bounds, " ", none⟩)) =
    .error (.confidenceOutOfRange .nan) := by decide +kernel

end Chain

end UiReplay
