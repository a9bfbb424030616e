import UiReplay.Proofs.Screen.RectText
import UiReplay.Proofs.Selector.PathText
import UiReplay.Proofs.Selector.Search

/-!
# A node and its own chain

The first selector of the chain that is made for a node is satisfied by the node
(`satisfies_primary`), whichever strategy it comes from.  An attribute is compared with
itself, and a rectangle is read back from its text and lies within itself.  A path comes
first only when the node has no id, no description and no text, so it asks for the class
alone.

Every forest that holds the node is searched in pre-order, so the chain finds the node
or one before it, and no fallback is used (`find_generate`).
-/

namespace UiReplay

namespace Generator

variable {g : Generator} {m : Matcher} {n : Node} {s : Selector}

/-! ## One strategy -/

theorem satisfies_of_byResourceId (h : byResourceId (.ofNode n) = some s) :
    m.satisfies n s = true := by
  obtain ⟨id, hid, hs⟩ := byResourceId_eq_some_iff.mp h
  obtain ⟨nonblank, rfl⟩ := Text.nonBlank_eq_some_iff.mp hid
  have ne : n.resourceId ≠ "" := by
    intro he
    rw [he] at nonblank
    cases nonblank
  simp [Matcher.satisfies, hs.kind_eq, hs.value_eq, resourceIdMatches, ne]

theorem satisfies_of_byContentDesc (h : byContentDesc (.ofNode n) = some s) :
    m.satisfies n s = true := by
  obtain ⟨desc, hdesc, hs⟩ := byContentDesc_eq_some_iff.mp h
  obtain ⟨-, rfl⟩ := Text.nonBlank_eq_some_iff.mp hdesc
  simp [Matcher.satisfies, hs.kind_eq, hs.value_eq]

theorem satisfies_of_byText (h : g.byText (.ofNode n) = some s) : m.satisfies n s = true := by
  obtain ⟨text, htext, hs⟩ := byText_eq_some_iff.mp h
  obtain ⟨-, rfl⟩ := Text.nonBlank_eq_some_iff.mp htext
  simp [Matcher.satisfies, hs.kind_eq, hs.value_eq]

/-- The rectangle of a node is read back, and lies within any tolerance of itself. -/
theorem satisfies_of_byBounds (tolerance : 0 ≤ m.tolerance)
    (h : byBounds (.ofNode n) = some s) : m.satisfies n s = true := by
  obtain ⟨r, hr, hs⟩ := byBounds_eq_some_iff.mp h
  have hr : n.rect? = some r := hr
  have read : Rect.parse? r.selectorText = some r :=
    Rect.parse?_selectorText (Rect.fits_of_parse? hr) (Rect.of?_of_parse? hr)
  simp only [Matcher.satisfies, hs.kind_eq, hs.value_eq, read, Matcher.isNear, hr]
  exact r.within_self tolerance

/-! ## The first selector -/

/-- An attribute of a node is absent or says something. -/
theorem nonBlank_eq_none {s : String}
    (h : ∀ t, Text.nonBlank s = some t → Text.isBlankText t = true) : Text.nonBlank s = none := by
  cases hs : Text.nonBlank s with
  | none => rfl
  | some t =>
      obtain ⟨nonblank, rfl⟩ := Text.nonBlank_eq_some_iff.mp hs
      rw [h s hs] at nonblank
      cases nonblank

/-- Without an id, a description and a text the path asks for a position alone. -/
theorem isAlone_of_bare (hid : byResourceId (.ofNode n) = none)
    (hdesc : byContentDesc (.ofNode n) = none) (htext : g.byText (.ofNode n) = none) :
    (condition (.ofNode n)).IsAlone := by
  have hid : (Element.ofNode n).resourceId = none :=
    nonBlank_eq_none (byResourceId_eq_none_iff.mp hid)
  have hdesc : (Element.ofNode n).contentDesc = none :=
    nonBlank_eq_none (byContentDesc_eq_none_iff.mp hdesc)
  have htext : (Element.ofNode n).text = none := nonBlank_eq_none (byText_eq_none_iff.mp htext)
  intro a value h
  simp [condition, hid, hdesc, htext, quotable, quotableTail, PathQuery.Condition.quoted?] at h

/-- A node satisfies the first selector of its chain. -/
theorem satisfies_primary (tolerance : 0 ≤ m.tolerance)
    (plain : PathQuery.IsPlainClass n.className) {chain : Chain}
    (made : g.generate (.ofNode n) = some chain) : m.satisfies n chain.primary = true := by
  obtain ⟨k, hk, earlier⟩ := primary_eq made
  cases k with
  | resourceId => exact satisfies_of_byResourceId hk
  | contentDesc => exact satisfies_of_byContentDesc hk
  | text => exact satisfies_of_byText hk
  | xpath =>
      exact satisfies_of_isAlone plain hk (isAlone_of_bare (earlier .resourceId (by decide))
        (earlier .contentDesc (by decide)) (earlier .text (by decide)))
  | bounds => exact satisfies_of_byBounds tolerance hk

/-- In every forest that holds a node, the chain that is made for the node finds it, or a
node before it that satisfies the first selector too, and uses no fallback. -/
theorem find_generate {tree : List Node} {k : Nat} {chain : Chain}
    (tolerance : 0 ≤ m.tolerance) (plain : PathQuery.IsPlainClass n.className)
    (hn : (Node.preorders tree)[k]? = some n) (made : g.generate (.ofNode n) = some chain) :
    ∃ found, m.find tree chain = some found ∧ found.selectorIndex = 0 ∧
      found.fallbackUsed = false ∧ found.selector = chain.primary ∧ found.position ≤ k ∧
      (Node.preorders tree)[found.position]? = some found.node ∧
      m.satisfies found.node chain.primary = true := by
  obtain ⟨found, hfound, hsel, hindex, le, hnode, hsat⟩ :=
    Matcher.find_of_satisfies_primary hn (satisfies_primary tolerance plain made)
  refine ⟨found, hfound, hindex, ?_, hsel, le, hnode, hsat⟩
  rw [Match.fallbackUsed, hindex]
  rfl

/-- An image without any text. -/
def plainImage (index : Int) : Node := { index := some index, className := "android.widget.Image" }

/-- The path of the second image. -/
def imagePath : Selector :=
  ⟨.xpath, "//Image[position()=2]", SelectorKind.xpath.baseConfidence, by decide,
    SelectorKind.xpath.inUnit_baseConfidence⟩

theorem find_generate_plainImage :
    PathQuery.IsPlainClass (plainImage 1).className ∧
      (Node.preorders [plainImage 0, plainImage 1])[1]? = some (plainImage 1) ∧
      Generator.generate {} (.ofNode (plainImage 1)) = some (.single imagePath) ∧
      ∃ found, Matcher.find {} [plainImage 0, plainImage 1] (.single imagePath) = some found ∧
        found.selectorIndex = 0 ∧ found.fallbackUsed = false ∧ found.selector = imagePath ∧
        found.position ≤ 1 ∧
        (Node.preorders [plainImage 0, plainImage 1])[found.position]? = some found.node ∧
        Matcher.satisfies {} found.node imagePath = true := by
  have plain : PathQuery.IsPlainClass (plainImage 1).className := by decide
  have listed : (Node.preorders [plainImage 0, plainImage 1])[1]? = some (plainImage 1) := rfl
  have made : Generator.generate {} (.ofNode (plainImage 1)) = some (.single imagePath) :=
    generate_eq_some_iff.mpr (by decide +kernel)
  exact ⟨plain, listed, made, find_generate (by decide) plain listed made⟩

end Generator

end UiReplay
