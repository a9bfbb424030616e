import UiReplay.Proofs.Selector.Normalized
import UiReplay.Workflow.Label

/-!
# Labels before and after a recording

A recorder makes the label of a step from the element that was captured, and a replay makes it from
the chain of selectors that the step has kept.  Of the attributes that say what an element is, the
chain keeps the text, the description and the resource id as they are (`Generator.valueOf_generate`).
It does not keep the class, which only occurs in a path.  So a chain is described as its element is
without its class and without what is blank (`Namer.describeChain_generate`).

The class is looked at last.  An element that has one of the other three is described alike with
and without it, also when the description comes out empty, and an element that has none of them just
when its class has no simple name (`Namer.describeElement_withoutClass_iff`).  So the two labels of a
node that says something are the same (`Namer.labelForStep_generate`).
-/

namespace UiReplay

/-! ## Attributes -/

namespace Element

/-- A text, a description or a resource id is known. -/
def IsReadable (e : Element) : Prop :=
  e.text.isSome ∨ e.contentDesc.isSome ∨ e.resourceId.isSome

/-- The element without its class. -/
def withoutClass (e : Element) : Element := { e with className := none }

end Element

/-- The text, the description or the resource id says something. -/
def Node.IsReadable (n : Node) : Prop :=
  Text.isBlankText n.text = false ∨ Text.isBlankText n.contentDesc = false ∨
    Text.isBlankText n.resourceId = false

theorem Text.isSome_nonBlank_iff (s : String) :
    (nonBlank s).isSome ↔ isBlankText s = false := by
  rw [Option.isSome_iff_ne_none, ne_eq, nonBlank_eq_none_iff, Bool.not_eq_true]

theorem Text.bind_nonBlank_nonBlank (s : String) : (nonBlank s).bind nonBlank = nonBlank s :=
  bind_nonBlank_bind (fun t => (nonBlank_eq_none_iff t).mpr) (some s)

namespace Element

/-- What a node says is what its element knows. -/
theorem isReadable_ofNode_iff (n : Node) : (ofNode n).IsReadable ↔ n.IsReadable := by
  simp only [IsReadable, Node.IsReadable, ofNode, Text.isSome_nonBlank_iff]

/-- The element of a node holds nothing that should count as absent. -/
theorem normalized_ofNode (n : Node) : (ofNode n).normalized = ofNode n := by
  have accepted : n.rect?.filter Rect.isAccepted = n.rect? := by
    cases parsed : n.rect? with
    | none => rfl
    | some r =>
        have sound : r.isAccepted = true := by rw [Rect.isAccepted, Rect.of?_of_parse? parsed]; rfl
        exact Option.filter_some_pos sound
  simp only [normalized, ofNode, Text.bind_nonBlank_nonBlank, accepted]

end Element

/-! ## The values of a chain -/

namespace Generator

variable {g : Generator} {e : Element} {c : Chain}

/-- The value of a selector of a chain is that which the strategy of its kind has made. -/
theorem valueOf_generate_eq (h : g.generate e = some c) (k : SelectorKind) :
    Namer.valueOf k c = (g.byKind e k).map Selector.value := by
  have selectors : g.generateAll e = c.selectors :=
    (generateAll_eq g e).trans (generate_eq_some_iff.mp h)
  rw [Namer.valueOf]
  cases found : c.findKind? k with
  | none =>
      have absent := Chain.findKind?_eq_none_iff.mp found
      cases made : g.byKind e k with
      | none => rfl
      | some s =>
          obtain ⟨mem, kind⟩ := byKind_eq_some_iff.mp made
          exact absurd kind (absent s (selectors ▸ mem))
  | some found' =>
      obtain ⟨i, s⟩ := found'
      obtain ⟨here, kind, -⟩ := Chain.findKind?_eq_some found
      have mem : s ∈ g.generateAll e := selectors ▸ List.mem_of_getElem? here
      rw [byKind_eq_some_iff.mpr ⟨mem, kind⟩]
      rfl

/-- A selector keeps the value it is made of. -/
theorem map_value_made {kind : SelectorKind} {value : String} {confidence : Single}
    (sure : confidence.inUnit = true) :
    (made (Selector.of? kind value (.finite confidence))).map Selector.value =
      Text.nonBlank value := by
  cases selector : made (Selector.of? kind value (.finite confidence)) with
  | none =>
      have blank := (made_of?_eq_none_iff sure).mp selector
      exact ((Text.nonBlank_eq_none_iff value).mpr blank).symm
  | some s =>
      have parts := made_of?_eq_some_iff.mp selector
      rw [Option.map_some, ← parts.value_eq]
      exact (Text.nonBlank_eq_some_iff.mpr ⟨s.value_nonBlank, rfl⟩).symm

/-- The text, the description and the resource id are kept as they are, unless they are blank. -/
theorem valueOf_generate (h : g.generate e = some c) :
    Namer.valueOf .text c = e.normalized.text ∧
      Namer.valueOf .contentDesc c = e.normalized.contentDesc ∧
      Namer.valueOf .resourceId c = e.normalized.resourceId := by
  have kept {v : Option String} {kind : SelectorKind} {confidence : String → Single}
      (sure : ∀ s, (confidence s).inUnit = true) :
      (v.bind fun s => made (Selector.of? kind s (.finite (confidence s)))).map Selector.value =
        v.bind Text.nonBlank := by
    rw [Option.map_bind]
    exact Option.bind_congr fun s _ => map_value_made (sure s)
  refine ⟨?_, ?_, ?_⟩ <;> rw [valueOf_generate_eq h]
  · exact kept g.inUnit_textConfidence
  · exact kept fun _ => SelectorKind.inUnit_baseConfidence _
  · exact kept fun _ => SelectorKind.inUnit_baseConfidence _

end Generator

/-! ## Descriptions -/

namespace Namer

variable {g : Generator} {e : Element} {c : Chain}

/-- A chain is described as its element is without its class and without what is blank. -/
theorem describeChain_generate (namer : Namer) (h : g.generate e = some c) :
    namer.describeChain c = namer.describeElement e.normalized.withoutClass := by
  obtain ⟨text, contentDesc, resourceId⟩ := Generator.valueOf_generate h
  simp only [describeChain, describeElement, Element.withoutClass, text, contentDesc, resourceId]
  cases e.normalized.text <;> cases e.normalized.contentDesc <;>
    cases e.normalized.resourceId <;> rfl

theorem described_eq_none_iff (namer : Namer) (s : String) : namer.described s = none ↔ s = "" := by
  rw [described]
  split <;> simp [*]

/-- The class makes a difference just when nothing else is known and it has a simple name. -/
theorem describeElement_withoutClass_iff (namer : Namer) (e : Element) :
    namer.describeElement e.withoutClass = namer.describeElement e ↔
      e.IsReadable ∨ e.offers .xpath = false := by
  obtain ⟨resourceId, contentDesc, text, className, bounds, childIndex⟩ := e
  cases text with
  | some _ => exact iff_of_true rfl (.inl (.inl rfl))
  | none =>
      cases contentDesc with
      | some _ => exact iff_of_true rfl (.inl (.inr (.inl rfl)))
      | none =>
          cases resourceId with
          | some _ => exact iff_of_true rfl (.inl (.inr (.inr rfl)))
          | none =>
              -- nothing else is known, so it depends on the class
              have unreadable :
                  ¬ Element.IsReadable ⟨none, none, none, className, bounds, childIndex⟩ := by
                simp [Element.IsReadable]
              rw [or_iff_right unreadable]
              cases className with
              | none => exact iff_of_true rfl rfl
              | some name =>
                  show none = namer.described (Text.tailAfter '.' name) ↔ _
                  rw [eq_comm, described_eq_none_iff]
                  simp [Element.offers]

/-! ## Labels -/

/-- A node that says something has a chain. -/
theorem exists_generate {n : Node} (readable : n.IsReadable) (g : Generator) :
    ∃ c, g.generate (Element.ofNode n) = some c := by
  have offered : ∃ k, (Element.ofNode n).offers k = true := by
    rcases readable with text | desc | id
    · exact ⟨.text, by simp [Element.offers, Element.ofNode, Text.nonBlank, text]⟩
    · exact ⟨.contentDesc, by simp [Element.offers, Element.ofNode, Text.nonBlank, desc]⟩
    · exact ⟨.resourceId, by simp [Element.offers, Element.ofNode, Text.nonBlank, id]⟩
  obtain ⟨k, offered⟩ := offered
  rw [← Generator.isSome_byKind g] at offered
  obtain ⟨s, made⟩ := Option.isSome_iff_exists.mp offered
  have mem : s ∈ g.generateAll (Element.ofNode n) := (Generator.byKind_eq_some_iff.mp made).1
  refine Option.ne_none_iff_exists'.mp fun nothing => ?_
  rw [Generator.generate_eq_none_iff.mp nothing] at mem
  cases mem

/-- A node that says something has a chain of selectors.  Whatever is done to it, a step without a
name that has kept this chain has the label that was made from the node. -/
theorem labelForStep_generate {n : Node} (readable : n.IsReadable) (g : Generator)
    (namer : Namer) :
    ∃ c, g.generate (Element.ofNode n) = some c ∧
      ∀ s : Step, s.selector = some c → Text.isBlankText s.name = true →
        namer.labelForStep s = namer.label s.action (some (Element.ofNode n)) := by
  obtain ⟨c, generated⟩ := exists_generate readable g
  refine ⟨c, generated, fun s chain unnamed => ?_⟩
  have described : namer.describeChain c = namer.describeElement (Element.ofNode n) := calc
    namer.describeChain c
      = namer.describeElement (Element.ofNode n).normalized.withoutClass :=
        describeChain_generate namer generated
    _ = namer.describeElement (Element.ofNode n).withoutClass := by rw [Element.normalized_ofNode]
    _ = namer.describeElement (Element.ofNode n) :=
        (describeElement_withoutClass_iff namer _).mpr
          (.inl ((Element.isReadable_ofNode_iff n).mpr readable))
  rw [labelForStep, if_pos unnamed, label, chain, Option.bind_some, Option.bind_some, described]

end Namer

/-- A button whose id is described by no word. -/
def Node.wordless : Node :=
  { resourceId := "com.app:id/_-_", contentDesc := " ", className := "android.widget.Button" }

/-- Its class is not looked at, before the recording or after it. -/
theorem Namer.labelForStep_generate_wordless :
    Node.wordless.IsReadable ∧ ∃ c, ({} : Generator).generate (.ofNode .wordless) = some c ∧
      ({} : Namer).label (.tap {}) (some (.ofNode .wordless)) = "Tap" ∧
      ({} : Namer).labelForStep { id := ⟨1⟩, action := .tap {}, selector := some c, name := " " } =
        "Tap" := by
  have readable : Node.wordless.IsReadable := .inr (.inr (by decide +kernel))
  obtain ⟨c, generated, same⟩ := labelForStep_generate readable {} {}
  have label : ({} : Namer).label (.tap {}) (some (.ofNode .wordless)) = "Tap" := by decide +kernel
  have unnamed : Text.isBlankText " " = true := by decide
  exact ⟨readable, c, generated, label, (same _ rfl unnamed).trans label⟩

end UiReplay
