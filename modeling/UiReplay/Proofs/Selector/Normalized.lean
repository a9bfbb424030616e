import UiReplay.Proofs.Selector.Candidates
import UiReplay.Proofs.Selector.Position

/-!
# Attributes that count as absent

A captured element keeps no blank text and no rectangle that is refused, but an element that is
decoded from its own form is taken as it is.  `Element.normalized` leaves out of an element what
should count as absent: the blank texts, and the rectangle that is degenerate or inverted.

The selectors by id, description and text are the same for both elements.  The other two are not.  The
selector by rectangle takes every rectangle, and the path takes every class with a simple name and
quotes the first attribute that can be quoted, blank or not.  So the selectors of an element are those
of the normalized one if and only if nothing that should count as absent is used in these two ways
(`Generator.generateAll_normalized_iff`).  A blank text is quoted in the path of an element that has
a class (`Generator.generateAll_blankText`).
-/

namespace UiReplay

/-! ## Elements -/

namespace Element

/-- The element without its blank texts and without a rectangle that is refused. -/
def normalized (e : Element) : Element where
  resourceId := e.resourceId.bind Text.nonBlank
  contentDesc := e.contentDesc.bind Text.nonBlank
  text := e.text.bind Text.nonBlank
  className := e.className.bind Text.nonBlank
  bounds := e.bounds.filter Rect.isAccepted
  childIndex := e.childIndex

end Element

namespace Text

variable {v : Option String} {s : String}

theorem bind_nonBlank_of_blank (blank : isBlankText s = true) :
    (some s).bind nonBlank = none :=
  (nonBlank_eq_none_iff s).mpr blank

theorem bind_nonBlank_of_not_blank (nonblank : isBlankText s = false) :
    (some s).bind nonBlank = some s :=
  nonBlank_eq_some_iff.mpr ⟨nonblank, rfl⟩

/-- What makes nothing of an absent attribute and nothing of a blank one makes the same without the
blank ones. -/
theorem bind_nonBlank_bind {α : Type} {f : String → Option α}
    (h : ∀ s, isBlankText s = true → f s = none) (v : Option String) :
    (v.bind nonBlank).bind f = v.bind f := by
  cases v with
  | none => rfl
  | some s =>
      cases blank : isBlankText s with
      | true => simp [bind_nonBlank_of_blank blank, h s blank]
      | false => rw [bind_nonBlank_of_not_blank blank]

/-- What comes to nothing still does without the blank ones. -/
theorem eq_none_of_bind_nonBlank {α : Type} {f : Option String → Option α} (absent : f none = none)
    (h : f v = none) : f (v.bind nonBlank) = none := by
  cases v with
  | none => exact absent
  | some s =>
      cases blank : isBlankText s with
      | true => rw [bind_nonBlank_of_blank blank, absent]
      | false => rw [bind_nonBlank_of_not_blank blank, h]

end Text

namespace Generator

variable {g : Generator} {e : Element}

/-! ## The condition of a path -/

/-- The attribute that the condition of an element is taken from. -/
def conditionSource (e : Element) : Option String :=
  match condition e with
  | .text _ => e.text
  | .contentDesc _ => e.contentDesc
  | .resourcePart _ => e.resourceId
  | .position _ => none

theorem condition_of_text {t : String} (ht : quotable e.text = some t) :
    condition e = .text t := by
  simp only [condition, ht]

theorem condition_of_contentDesc {d : String} (ht : quotable e.text = none)
    (hd : quotable e.contentDesc = some d) : condition e = .contentDesc d := by
  simp only [condition, ht, hd]

theorem condition_of_resourcePart {p : String} (ht : quotable e.text = none)
    (hd : quotable e.contentDesc = none) (hp : quotableTail e.resourceId = some p) :
    condition e = .resourcePart p := by
  simp only [condition, ht, hd, hp]

theorem condition_of_none (ht : quotable e.text = none) (hd : quotable e.contentDesc = none)
    (hp : quotableTail e.resourceId = none) : condition e = .position (positionOf e) := by
  simp only [condition, ht, hd, hp]

/-- An element whose condition is taken from an attribute that is not blank has the same condition
without the blank ones. -/
theorem condition_normalized
    (nonblank : ∀ v, conditionSource e = some v → Text.isBlankText v = false) :
    condition e.normalized = condition e := by
  have kept {v : Option String} {s : String} (source : conditionSource e = v) (hv : v = some s) :
      v.bind Text.nonBlank = v := by
    rw [hv]
    exact Text.bind_nonBlank_of_not_blank (nonblank s (source.trans hv))
  cases ht : quotable e.text with
  | some t =>
      have source : conditionSource e = e.text := by
        simp only [conditionSource, condition_of_text ht]
      have ht' : quotable e.normalized.text = some t := by
        rw [← ht]
        exact congrArg quotable (kept source (quotable_eq_some_iff.mp ht).1)
      rw [condition_of_text ht, condition_of_text ht']
  | none =>
      have ht' : quotable e.normalized.text = none := Text.eq_none_of_bind_nonBlank rfl ht
      cases hd : quotable e.contentDesc with
      | some d =>
          have source : conditionSource e = e.contentDesc := by
            simp only [conditionSource, condition_of_contentDesc ht hd]
          have hd' : quotable e.normalized.contentDesc = some d := by
            rw [← hd]
            exact congrArg quotable (kept source (quotable_eq_some_iff.mp hd).1)
          rw [condition_of_contentDesc ht hd, condition_of_contentDesc ht' hd']
      | none =>
          have hd' : quotable e.normalized.contentDesc = none :=
            Text.eq_none_of_bind_nonBlank rfl hd
          cases hp : quotableTail e.resourceId with
          | some p =>
              have source : conditionSource e = e.resourceId := by
                simp only [conditionSource, condition_of_resourcePart ht hd hp]
              obtain ⟨id, hid, -, -⟩ := quotableTail_eq_some hp
              have hp' : quotableTail e.normalized.resourceId = some p := by
                rw [← hp]
                exact congrArg quotableTail (kept source hid)
              rw [condition_of_resourcePart ht hd hp, condition_of_resourcePart ht' hd' hp']
          | none =>
              have hp' : quotableTail e.normalized.resourceId = none :=
                Text.eq_none_of_bind_nonBlank rfl hp
              rw [condition_of_none ht hd hp, condition_of_none ht' hd' hp']
              rfl

/-- A condition that is quoted after normalizing is taken from an attribute that is not blank. -/
theorem not_blank_of_condition_normalized (same : condition e.normalized = condition e) {v : String}
    (source : conditionSource e = some v) : Text.isBlankText v = false := by
  have spec := condition_spec e.normalized
  rw [same] at spec
  have nonblank {a : Option String} (there : a = some v) {s : String}
      (kept : a.bind Text.nonBlank = some s) : Text.isBlankText v = false := by
    rw [there] at kept
    exact (Text.nonBlank_eq_some_iff.mp kept).1
  simp only [conditionSource] at source
  cases hc : condition e with
  | text t =>
      simp only [hc] at spec source
      exact nonblank source (quotable_eq_some_iff.mp spec).1
  | contentDesc d =>
      simp only [hc] at spec source
      exact nonblank source (quotable_eq_some_iff.mp spec).1
  | resourcePart p =>
      simp only [hc] at spec source
      obtain ⟨id, kept, -, -⟩ := quotableTail_eq_some spec
      exact nonblank source kept
  | position n =>
      simp only [hc] at source
      cases source

theorem condition_normalized_iff :
    condition e.normalized = condition e ↔
      ∀ v, conditionSource e = some v → Text.isBlankText v = false :=
  ⟨fun same _ source => not_blank_of_condition_normalized same source, condition_normalized⟩

/-! ## One strategy -/

theorem byResourceId_normalized : byResourceId e.normalized = byResourceId e :=
  Text.bind_nonBlank_bind (fun _ blank => (made_of?_eq_none_iff (by decide)).mpr blank) _

theorem byContentDesc_normalized : byContentDesc e.normalized = byContentDesc e :=
  Text.bind_nonBlank_bind (fun _ blank => (made_of?_eq_none_iff (by decide)).mpr blank) _

theorem byText_normalized : g.byText e.normalized = g.byText e :=
  Text.bind_nonBlank_bind
    (fun s blank => (made_of?_eq_none_iff (g.inUnit_textConfidence s)).mpr blank) _

theorem byBounds_normalized_iff :
    byBounds e.normalized = byBounds e ↔ ∀ r, e.bounds = some r → r.isAccepted = true := by
  cases hb : e.bounds with
  | none => simp [byBounds, Element.normalized, hb]
  | some r =>
      have there : (byBounds e).isSome = true := by
        rw [show byBounds e = byKind {} e .bounds from rfl, isSome_byKind, Element.offers, hb]
        rfl
      cases accepted : r.isAccepted with
      | true => simp [byBounds, Element.normalized, hb, Option.filter, accepted]
      | false =>
          have absent : byBounds e.normalized = none := by
            simp [byBounds, Element.normalized, hb, Option.filter, accepted]
          rw [absent]
          constructor
          · intro same
            rw [← same] at there
            cases there
          · intro all
            rw [all r rfl] at accepted
            cases accepted

/-- Paths of one class with different conditions differ. -/
theorem made_write_injective (name : String) : Function.Injective fun c =>
    made (Selector.ofKind? .xpath (PathQuery.write name c)) := by
  intro c d same
  have there : (made (Selector.ofKind? .xpath (PathQuery.write name c))).isSome = true := by
    rw [isSome_made_ofKind?, isBlankText_write]
    rfl
  obtain ⟨s, hc⟩ := Option.isSome_iff_exists.mp there
  have written := made_of?_eq_some_iff.mp hc
  have written' := made_of?_eq_some_iff.mp (same.symm.trans hc)
  exact PathQuery.write_injective name (written.value_eq.symm.trans written'.value_eq)

theorem byPath_of_tail_empty {name : String} (hn : e.className = some name)
    (empty : Text.tailAfter '.' name = "") : byPath e = none := by
  simp [byPath, hn, empty]

theorem byPath_of_tail {name : String} (hn : e.className = some name)
    (ne : Text.tailAfter '.' name ≠ "") : byPath e =
      made (Selector.ofKind? .xpath (PathQuery.write (Text.tailAfter '.' name) (condition e))) := by
  simp [byPath, hn, ne]

theorem byPath_normalized_iff :
    byPath e.normalized = byPath e ↔
      ∀ name, e.className = some name → Text.tailAfter '.' name ≠ "" →
        Text.isBlankText name = false ∧
          ∀ v, conditionSource e = some v → Text.isBlankText v = false := by
  rw [← condition_normalized_iff]
  cases hn : e.className with
  | none => simp [byPath, Element.normalized, hn]
  | some name =>
      cases blank : Text.isBlankText name with
      | true =>
          have absent : byPath e.normalized = none := by
            simp [byPath, Element.normalized, hn, Text.nonBlank, blank]
          rw [absent]
          by_cases empty : Text.tailAfter '.' name = ""
          · simp [byPath_of_tail_empty hn empty, empty]
          · have there : byPath e ≠ none := by
              rw [← Option.isSome_iff_ne_none, byPath_of_tail hn empty, isSome_made_ofKind?,
                isBlankText_write]
              rfl
            simp [there.symm, empty, blank]
      | false =>
          have kept : e.normalized.className = some name := by
            simp [Element.normalized, hn, Text.nonBlank, blank]
          by_cases empty : Text.tailAfter '.' name = ""
          · simp [byPath_of_tail_empty hn empty, byPath_of_tail_empty kept empty, empty]
          · rw [byPath_of_tail hn empty, byPath_of_tail kept empty, (made_write_injective _).eq_iff]
            simp [empty, blank]

/-! ## The list -/

/-- Nothing that should count as absent is used: the rectangle is one that is accepted, and an
element with a path has a class that is not blank and a condition that is taken from an attribute
that is not blank. -/
structure UsesNoBlank (e : Element) : Prop where
  /-- The rectangle is accepted. -/
  bounds : ∀ r, e.bounds = some r → r.isAccepted = true
  /-- The path is made of what is not blank. -/
  path : ∀ name, e.className = some name → Text.tailAfter '.' name ≠ "" →
    Text.isBlankText name = false ∧ ∀ v, conditionSource e = some v → Text.isBlankText v = false

/-- Leaving out what should count as absent changes no selector if and only if nothing of it is
used. -/
theorem generateAll_normalized_iff (g : Generator) (e : Element) :
    g.generateAll e.normalized = g.generateAll e ↔ UsesNoBlank e := by
  rw [generateAll_eq_iff]
  constructor
  · intro same
    exact ⟨byBounds_normalized_iff.mp (same .bounds), byPath_normalized_iff.mp (same .xpath)⟩
  · intro clean k
    cases k with
    | resourceId => exact byResourceId_normalized
    | contentDesc => exact byContentDesc_normalized
    | text => exact byText_normalized
    | xpath => exact byPath_normalized_iff.mpr clean.path
    | bounds => exact byBounds_normalized_iff.mpr clean.bounds

/-- An element with a class whose text is blank. -/
def blankText : Element := { text := some " ", className := some "a.B" }

/-- The path of a blank text asks for this text, and not for the position. -/
theorem generateAll_blankText :
    (Element.decode blankText.document).toOption = some blankText ∧
      (generateAll {} blankText).map Selector.value = ["//B[@text=' ']"] ∧
      (generateAll {} blankText.normalized).map Selector.value = ["//B[position()=1]"] ∧
      generateAll {} blankText.normalized ≠ generateAll {} blankText := by
  rw [generateAll_eq, generateAll_eq]
  decide +kernel

end Generator

end UiReplay
