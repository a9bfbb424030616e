import UiReplay.Selector.Generator
import Mathlib.Data.List.Basic

/-!
# What the strategies make

Each strategy makes a selector of its kind from one attribute of an element, with a
confidence that depends on the kind alone, texts of more characters than the
threshold apart.  Confidence falls in the order of the kinds, so sorting the
selectors by confidence leaves them as they are (`generateAll_eq`), and the first
selector of a chain comes from the first strategy that makes one (`primary_eq`).
-/

namespace UiReplay

theorem SelectorKind.mem_all (k : SelectorKind) : k ∈ all := by
  cases k <;> decide

theorem SelectorKind.all_ordered : all.Pairwise fun j k => j.priority < k.priority := by
  decide

namespace Selector

/-- A selector with the given parts. -/
structure IsOf (s : Selector) (kind : SelectorKind) (value : String) (confidence : Single) :
    Prop where
  kind_eq : s.kind = kind
  value_eq : s.value = value
  confidence_eq : s.confidence = confidence

theorem of?_finite_eq_ok_iff {kind : SelectorKind} {value : String} {c : Single} {s : Selector} :
    of? kind value (.finite c) = .ok s ↔ s.IsOf kind value c := by
  rw [of?_eq_ok_iff]
  constructor
  · rintro ⟨hk, hv, hc⟩
    exact ⟨hk, hv, (Number.Extended.finite.inj hc).symm⟩
  · rintro ⟨hk, hv, hc⟩
    exact ⟨hk, hv, congrArg _ hc.symm⟩

end Selector

namespace Generator

variable {g : Generator} {e : Element} {s : Selector}

/-! ## One strategy -/

theorem made_eq_some_iff {r : Except SelectorError Selector} : made r = some s ↔ r = .ok s := by
  cases r <;> simp [made]

theorem made_of?_eq_some_iff {kind : SelectorKind} {value : String} {c : Single} :
    made (Selector.of? kind value (.finite c)) = some s ↔ s.IsOf kind value c :=
  made_eq_some_iff.trans Selector.of?_finite_eq_ok_iff

theorem made_of?_eq_none_iff {kind : SelectorKind} {value : String} {c : Single}
    (hc : c.inUnit = true) :
    made (Selector.of? kind value (.finite c)) = none ↔ Text.isBlankText value = true := by
  cases hb : Text.isBlankText value with
  | true => simp [Selector.of?, hb, made]
  | false => simp [Selector.of?, hb, hc, made]

theorem byResourceId_eq_some_iff :
    byResourceId e = some s ↔
      ∃ id, e.resourceId = some id ∧
        s.IsOf .resourceId id SelectorKind.resourceId.baseConfidence := by
  rw [byResourceId, Option.bind_eq_some_iff]
  exact exists_congr fun _ => and_congr_right fun _ => made_of?_eq_some_iff

theorem byResourceId_eq_none_iff :
    byResourceId e = none ↔ ∀ id, e.resourceId = some id → Text.isBlankText id = true := by
  rw [byResourceId, Option.bind_eq_none_iff]
  exact forall₂_congr fun _ _ => made_of?_eq_none_iff (by decide)

theorem byContentDesc_eq_some_iff :
    byContentDesc e = some s ↔
      ∃ desc, e.contentDesc = some desc ∧
        s.IsOf .contentDesc desc SelectorKind.contentDesc.baseConfidence := by
  rw [byContentDesc, Option.bind_eq_some_iff]
  exact exists_congr fun _ => and_congr_right fun _ => made_of?_eq_some_iff

theorem byContentDesc_eq_none_iff :
    byContentDesc e = none ↔ ∀ desc, e.contentDesc = some desc → Text.isBlankText desc = true := by
  rw [byContentDesc, Option.bind_eq_none_iff]
  exact forall₂_congr fun _ _ => made_of?_eq_none_iff (by decide)

/-- How sure a text is. -/
def textConfidence (g : Generator) (text : String) : Single :=
  if g.longTextThreshold < text.toList.length then longTextConfidence
  else SelectorKind.text.baseConfidence

theorem byText_eq_some_iff :
    g.byText e = some s ↔
      ∃ text, e.text = some text ∧ s.IsOf .text text (g.textConfidence text) := by
  rw [byText, Option.bind_eq_some_iff]
  exact exists_congr fun _ => and_congr_right fun _ => made_of?_eq_some_iff

theorem inUnit_textConfidence (g : Generator) (text : String) :
    (g.textConfidence text).inUnit = true := by
  rw [textConfidence]
  split <;> decide

theorem byText_eq_none_iff :
    g.byText e = none ↔ ∀ text, e.text = some text → Text.isBlankText text = true := by
  rw [byText, Option.bind_eq_none_iff]
  exact forall₂_congr fun text _ => made_of?_eq_none_iff (g.inUnit_textConfidence text)

theorem byPath_eq_some_iff :
    byPath e = some s ↔
      ∃ name, e.className = some name ∧ Text.tailAfter '.' name ≠ "" ∧
        s.IsOf .xpath (PathQuery.write (Text.tailAfter '.' name) (condition e))
          SelectorKind.xpath.baseConfidence := by
  simp only [byPath, Option.bind_eq_some_iff, Option.ite_none_left_eq_some]
  exact exists_congr fun _ => and_congr_right fun _ => and_congr_right fun _ =>
    made_of?_eq_some_iff

theorem byBounds_eq_some_iff :
    byBounds e = some s ↔
      ∃ r, e.bounds = some r ∧ s.IsOf .bounds r.selectorText SelectorKind.bounds.baseConfidence := by
  rw [byBounds, Option.bind_eq_some_iff]
  exact exists_congr fun _ => and_congr_right fun _ => made_of?_eq_some_iff

/-! ## All strategies -/

/-- The selector that the strategy of a kind makes. -/
def byKind (g : Generator) (e : Element) : SelectorKind → Option Selector
  | .resourceId => byResourceId e
  | .contentDesc => byContentDesc e
  | .text => g.byText e
  | .xpath => byPath e
  | .bounds => byBounds e

theorem candidates_eq (g : Generator) (e : Element) :
    g.candidates e = SelectorKind.all.filterMap (g.byKind e) := rfl

/-- How sure the selectors of a kind are. -/
def levels : SelectorKind → List Single
  | .text => [SelectorKind.text.baseConfidence, longTextConfidence]
  | k => [k.baseConfidence]

/-- The strategy of a kind makes selectors of this kind. -/
theorem kind_of_byKind {k : SelectorKind} (h : g.byKind e k = some s) :
    s.kind = k ∧ s.confidence ∈ levels k := by
  cases k with
  | resourceId =>
      obtain ⟨_, _, hs⟩ := byResourceId_eq_some_iff.mp h
      exact ⟨hs.kind_eq, by simp [levels, hs.confidence_eq]⟩
  | contentDesc =>
      obtain ⟨_, _, hs⟩ := byContentDesc_eq_some_iff.mp h
      exact ⟨hs.kind_eq, by simp [levels, hs.confidence_eq]⟩
  | text =>
      obtain ⟨_, _, hs⟩ := byText_eq_some_iff.mp h
      refine ⟨hs.kind_eq, ?_⟩
      rw [hs.confidence_eq, textConfidence]
      split <;> simp [levels]
  | xpath =>
      obtain ⟨_, _, _, hs⟩ := byPath_eq_some_iff.mp h
      exact ⟨hs.kind_eq, by simp [levels, hs.confidence_eq]⟩
  | bounds =>
      obtain ⟨_, _, hs⟩ := byBounds_eq_some_iff.mp h
      exact ⟨hs.kind_eq, by simp [levels, hs.confidence_eq]⟩

/-! ## The order of the selectors -/

/-- Confidence falls in the order of the kinds. -/
theorem levels_lt : ∀ j ∈ SelectorKind.all, ∀ k ∈ SelectorKind.all, j.priority < k.priority →
    ∀ x ∈ levels j, ∀ y ∈ levels k, x.totalLe y = false := by
  decide

theorem isBefore_of_byKind {j k : SelectorKind} {t : Selector} (hs : g.byKind e j = some s)
    (ht : g.byKind e k = some t) (h : j.priority < k.priority) : isBefore s t = true := by
  have lt : s.confidence.totalLe t.confidence = false :=
    levels_lt j (j.mem_all) k (k.mem_all) h _ (kind_of_byKind hs).2 _ (kind_of_byKind ht).2
  have ge : t.confidence.totalLe s.confidence = true := by
    rcases Number.Binary.totalLe_total s.confidence t.confidence with hle | hle
    · rw [lt] at hle
      cases hle
    · exact hle
  simp [isBefore, lt, ge]

/-- Sorting leaves the selectors in the order of their kinds. -/
theorem generateAll_eq (g : Generator) (e : Element) : g.generateAll e = g.candidates e := by
  apply List.mergeSort_of_pairwise
  rw [candidates_eq, List.pairwise_filterMap]
  exact SelectorKind.all_ordered.imp fun h _ hs _ ht => isBefore_of_byKind hs ht h

/-- The strategy of a kind makes the selector of this kind in the list. -/
theorem byKind_eq_some_iff {k : SelectorKind} :
    g.byKind e k = some s ↔ s ∈ g.generateAll e ∧ s.kind = k := by
  rw [generateAll_eq, candidates_eq, List.mem_filterMap]
  constructor
  · exact fun made => ⟨⟨k, k.mem_all, made⟩, (kind_of_byKind made).1⟩
  · rintro ⟨⟨j, -, made⟩, rfl⟩
    rw [(kind_of_byKind made).1]
    exact made

/-- Two elements have the same selectors exactly when each strategy makes the same of them. -/
theorem generateAll_eq_iff {e' : Element} :
    g.generateAll e = g.generateAll e' ↔ ∀ k, g.byKind e k = g.byKind e' k := by
  constructor
  · intro same k
    refine Option.ext fun s => ?_
    rw [byKind_eq_some_iff, byKind_eq_some_iff, same]
  · intro same
    rw [generateAll_eq, generateAll_eq, candidates_eq, candidates_eq]
    exact List.filterMap_congr fun k _ => same k

theorem generate_eq_some_iff {chain : Chain} :
    g.generate e = some chain ↔ g.candidates e = chain.selectors := by
  rw [generate, generateAll_eq]
  obtain ⟨s, rest⟩ := chain
  cases g.candidates e with
  | nil => simp [Chain.selectors]
  | cons t ts => simp [Chain.selectors]

/-- The first selector of a chain is made by the first strategy that makes one. -/
theorem primary_eq {chain : Chain} (h : g.generate e = some chain) :
    ∃ k, g.byKind e k = some chain.primary ∧
      ∀ j, j.priority < k.priority → g.byKind e j = none := by
  have first : SelectorKind.all.findSome? (g.byKind e) = some chain.primary := by
    rw [← List.head?_filterMap, ← candidates_eq, generate_eq_some_iff.mp h]
    rfl
  obtain ⟨before, k, behind, hall, hk, hbefore⟩ := List.findSome?_eq_some_iff.mp first
  refine ⟨k, hk, fun j hj => ?_⟩
  have ordered := SelectorKind.all_ordered
  have hmem := j.mem_all
  rw [hall] at ordered hmem
  rcases List.mem_append.mp hmem with hm | hm
  · exact hbefore j hm
  · have behind_le : k.priority ≤ j.priority := by
      rcases List.mem_cons.mp hm with rfl | hm
      · exact Nat.le_refl _
      · exact Nat.le_of_lt (List.rel_of_pairwise_cons (List.pairwise_append.mp ordered).2.1 hm)
    omega

end Generator

end UiReplay
