import UiReplay.Proofs.Selector.Nesting
import UiReplay.Proofs.Selector.PathText

/-!
# The list of selectors

An element has a selector of a kind exactly when the attribute for this kind says something
(`Element.offers`): an id, a description or a text that is not blank, a class with a simple name, a
rectangle.  The check of a new selector refuses nothing else, since every confidence that is given
lies between zero and one and a written path is never blank (`Generator.isSome_byKind`).

So the selectors of an element are of the kinds it offers, each kind once, in the order of all kinds
(`Generator.map_kind_generateAll`).  The value of the confidence falls strictly from each kind to the
next, a long text being still above a path (`Generator.value_lt_of_byKind`).  The chain of an element
is this list, and there is none exactly when the list is empty (`Generator.generateAll_lists`).
-/

namespace UiReplay

/-- Whether the attribute for selectors of a kind says something. -/
def Element.offers (e : Element) : SelectorKind → Bool
  | .resourceId => e.resourceId.any fun id => !Text.isBlankText id
  | .contentDesc => e.contentDesc.any fun desc => !Text.isBlankText desc
  | .text => e.text.any fun text => !Text.isBlankText text
  | .xpath => e.className.any fun name => Text.tailAfter '.' name ≠ ""
  | .bounds => e.bounds.isSome

/-! ## Confidence -/

/-- Of two positive numbers with one exponent, the greater mantissa has the greater value. -/
theorem Number.Binary.value_lt {f : Number.Format} {x y : Number.Binary f}
    (hx : x.negative = false) (hy : y.negative = false) (exponent : x.exponent = y.exponent)
    (mantissa : x.mantissa < y.mantissa) : x.value < y.value := by
  have power : (0 : ℚ) < 2 ^ y.exponent := by positivity
  simp only [value, hx, hy, Bool.false_eq_true, if_false, magnitude, Number.Ratio.value_scaled,
    exponent]
  gcongr

namespace Generator

variable {g : Generator} {e : Element} {j k : SelectorKind} {s t : Selector}

/-- All confidences that are given have one exponent, and their mantissas fall in the order of the
kinds. -/
theorem mantissas_fall : ∀ j ∈ SelectorKind.all, ∀ k ∈ SelectorKind.all, j.priority < k.priority →
    ∀ x ∈ levels j, ∀ y ∈ levels k, y.negative = false ∧ x.negative = false ∧
      y.exponent = x.exponent ∧ y.mantissa < x.mantissa := by
  decide

theorem value_lt_of_byKind (hs : g.byKind e j = some s) (ht : g.byKind e k = some t)
    (h : j.priority < k.priority) : t.confidence.value < s.confidence.value := by
  obtain ⟨hy, hx, exponent, mantissa⟩ := mantissas_fall j j.mem_all k k.mem_all h _
    (kind_of_byKind hs).2 _ (kind_of_byKind ht).2
  exact Number.Binary.value_lt hy hx exponent mantissa

/-! ## Kinds -/

theorem isBlankText_write (name : String) (c : PathQuery.Condition) :
    Text.isBlankText (PathQuery.write name c) = false := by
  simp [Text.isBlankText, PathQuery.toList_write, Text.isBlank]

theorem isBlankText_selectorText (r : Rect) : Text.isBlankText r.selectorText = false := by
  simp [Text.isBlankText, Rect.selectorText, Text.isBlank]

theorem isSome_made_of? (kind : SelectorKind) (value : String) {c : Single}
    (hc : c.inUnit = true) :
    (made (Selector.of? kind value (.finite c))).isSome = !Text.isBlankText value := by
  rw [Bool.eq_iff_iff, Option.isSome_iff_ne_none, ne_eq, made_of?_eq_none_iff hc]
  simp

theorem isSome_made_ofKind? (kind : SelectorKind) (value : String) :
    (made (Selector.ofKind? kind value)).isSome = !Text.isBlankText value :=
  isSome_made_of? kind value kind.inUnit_baseConfidence

/-- There is a selector of a kind exactly when the element offers this kind. -/
theorem isSome_byKind (g : Generator) (e : Element) (k : SelectorKind) :
    (g.byKind e k).isSome = e.offers k := by
  cases k with
  | resourceId =>
      simp [byKind, byResourceId, Element.offers, Option.isSome_bind, isSome_made_ofKind?]
  | contentDesc =>
      simp [byKind, byContentDesc, Element.offers, Option.isSome_bind, isSome_made_ofKind?]
  | text =>
      have sure (text : String) := isSome_made_of? .text text (g.inUnit_textConfidence text)
      simp only [textConfidence] at sure
      simp [byKind, byText, Element.offers, Option.isSome_bind, sure]
  | xpath =>
      have written (name : String) : (if Text.tailAfter '.' name = "" then none else
          made (Selector.ofKind? .xpath (PathQuery.write (Text.tailAfter '.' name)
            (condition e)))).isSome = decide (Text.tailAfter '.' name ≠ "") := by
        split <;> simp [isSome_made_ofKind?, isBlankText_write, *]
      simp only [byKind, byPath, Element.offers, Option.isSome_bind, written]
  | bounds =>
      simp only [byKind, byBounds, Element.offers, Option.isSome_bind, isSome_made_ofKind?,
        isBlankText_selectorText]
      cases e.bounds <;> rfl

/-- The selectors of an element are of the kinds that it offers, in the order of all kinds. -/
theorem map_kind_generateAll (g : Generator) (e : Element) :
    (g.generateAll e).map Selector.kind = SelectorKind.all.filter e.offers := by
  have guarded (k : SelectorKind) :
      (g.byKind e k).map Selector.kind = Option.guard (fun k => e.offers k) k := by
    have offered := isSome_byKind g e k
    cases made : g.byKind e k with
    | none =>
        rw [made] at offered
        simp [Option.guard, ← offered]
    | some s =>
        rw [made] at offered
        simp [Option.guard, ← offered, (kind_of_byKind made).1]
  rw [generateAll_eq, candidates_eq, List.map_filterMap, ← List.filterMap_eq_filter]
  exact List.filterMap_congr fun k _ => guarded k

/-- The confidence falls strictly along the list. -/
theorem pairwise_value_generateAll (g : Generator) (e : Element) :
    (g.generateAll e).Pairwise fun s t => t.confidence.value < s.confidence.value := by
  rw [generateAll_eq, candidates_eq, List.pairwise_filterMap]
  exact SelectorKind.all_ordered.imp fun h _ hs _ ht => value_lt_of_byKind hs ht h

theorem generate_eq_none_iff : g.generate e = none ↔ g.generateAll e = [] := by
  rw [generate]
  cases g.generateAll e <;> simp

/-- The list of the selectors of an element holds one of each kind that the element offers, in the
order of all kinds.  Their confidences lie between zero and one and fall strictly.  The list holds
just what the strategies make, and the chain of the element is the list, unless it is empty. -/
theorem generateAll_lists (g : Generator) (e : Element) :
    (g.generateAll e).map Selector.kind = SelectorKind.all.filter e.offers ∧
    ((g.generateAll e).Pairwise fun s t => t.confidence.value < s.confidence.value) ∧
    (∀ s ∈ g.generateAll e, 0 ≤ s.confidence.value ∧ s.confidence.value ≤ 1) ∧
    (g.generateAll e).Perm (g.candidates e) ∧
    (g.generate e = none ↔ g.generateAll e = []) ∧
    (∀ c, g.generate e = some c ↔ c.selectors = g.generateAll e) := by
  refine ⟨map_kind_generateAll g e, pairwise_value_generateAll g e, ?_, ?_, ?_, ?_⟩
  · exact fun s _ => Number.Binary.inUnit_iff.mp s.confidence_inUnit
  · exact List.mergeSort_perm _ _
  · exact generate_eq_none_iff
  · intro c
    rw [generate_eq_some_iff, generateAll_eq, eq_comm]

/-- A label whose text has more than three characters. -/
def helloLabel : Element := { text := some "Hello", contentDesc := some " ", className := some "a.B" }

/-- The text of the label, as a long one. -/
def helloText : Selector := ⟨.text, "Hello", longTextConfidence, by decide, by decide⟩

theorem generateAll_lists_hello :
    (generateAll ⟨3⟩ helloLabel).map Selector.kind = [.text, .xpath] ∧
      helloText ∈ generateAll ⟨3⟩ helloLabel ∧
      0 ≤ helloText.confidence.value ∧ helloText.confidence.value ≤ 1 := by
  obtain ⟨kinds, -, sure, -⟩ := generateAll_lists ⟨3⟩ helloLabel
  have offered : SelectorKind.all.filter helloLabel.offers = [.text, .xpath] := by decide +kernel
  have member : helloText ∈ generateAll ⟨3⟩ helloLabel := by
    rw [generateAll_eq]
    decide +kernel
  exact ⟨kinds.trans offered, member, sure _ member⟩

end Generator

end UiReplay
