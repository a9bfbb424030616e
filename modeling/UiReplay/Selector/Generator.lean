import UiReplay.Selector.Basic
import UiReplay.Selector.XPath
import UiReplay.Screen.Element

/-!
# Making selectors

From a captured element every usable attribute gives a selector: the resource id,
the description, the text, a path and the rectangle.  A text with more characters
than the threshold is less sure than a short one, and still surer than a path.
The selectors are sorted by falling confidence, then by the order of their kinds.

The path holds one condition: the text, else the description, else the tail of the
resource id, else the position among the siblings.  A value with a single quote
cannot be written and is passed over.

Positions are counted from one, in numbers of 64 bits.  The last of these numbers has no
successor among them: a path that asks for the position of an element with that index
cannot be made, and making selectors breaks down (`Generator.overflows`).  Then there is
no list of selectors, not even of the others (`Generator.generateAll?`).  `generateAll` and
`generate` say what is made otherwise.

The index of a node is a signed number of 64 bits, so `overflows_ofNode` says that making the
selectors of a node does not break down.
-/

namespace UiReplay

/-- How selectors are made. -/
structure Generator where
  /-- Texts with more characters are less sure. -/
  longTextThreshold : Nat := 100
deriving DecidableEq, Repr

namespace Generator

/-- How sure a long text is: 0.72. -/
def longTextConfidence : Single := inUnitParts 12079596

/-- An attribute that can be written between single quotes. -/
def quotable (v : Option String) : Option String :=
  v.bind fun s => if s.toList.contains '\'' then none else some s

/-- The tail of a resource id that can be written, unless it is empty. -/
def quotableTail (v : Option String) : Option String :=
  (quotable v).bind fun id =>
    let tail := Text.tailAfter '/' id
    if tail = "" then none else some tail

/-- The position of an element among its siblings, counted from one. -/
def positionOf (e : Element) : Nat := e.childIndex.getD 0 + 1

/-- The condition of the path of an element. -/
def condition (e : Element) : PathQuery.Condition :=
  match quotable e.text, quotable e.contentDesc, quotableTail e.resourceId with
  | some text, _, _ => .text text
  | none, some desc, _ => .contentDesc desc
  | none, none, some tail => .resourcePart tail
  | none, none, none => .position (positionOf e)

/-- Whether the path of an element asks for a position that has no 64 bits.  An element
without a path does not. -/
def overflows (e : Element) : Bool :=
  match e.className, condition e with
  | some name, .position n => Text.tailAfter '.' name ≠ "" && Number.wordLimit64 ≤ n
  | _, _ => false

/-- The selector if there is one. -/
def made : Except SelectorError Selector → Option Selector
  | .ok s => some s
  | .error _ => none

/-- By resource id. -/
def byResourceId (e : Element) : Option Selector :=
  e.resourceId.bind fun id => made (Selector.ofKind? .resourceId id)

/-- By description. -/
def byContentDesc (e : Element) : Option Selector :=
  e.contentDesc.bind fun desc => made (Selector.ofKind? .contentDesc desc)

/-- By text. -/
def byText (g : Generator) (e : Element) : Option Selector :=
  e.text.bind fun text =>
    made (Selector.of? .text text (.finite
      (if g.longTextThreshold < text.toList.length then longTextConfidence
        else SelectorKind.text.baseConfidence)))

/-- By path. -/
def byPath (e : Element) : Option Selector :=
  e.className.bind fun name =>
    let simple := Text.tailAfter '.' name
    if simple = "" then none
    else made (Selector.ofKind? .xpath (PathQuery.write simple (condition e)))

/-- By rectangle. -/
def byBounds (e : Element) : Option Selector :=
  e.bounds.bind fun r => made (Selector.ofKind? .bounds r.selectorText)

/-- The surer selector first, then the one of the more reliable kind. -/
def isBefore (a b : Selector) : Bool :=
  if b.confidence.totalLe a.confidence then
    if a.confidence.totalLe b.confidence then a.kind.priority ≤ b.kind.priority else true
  else false

/-- The selectors of an element in the order of their kinds. -/
def candidates (g : Generator) (e : Element) : List Selector :=
  [byResourceId e, byContentDesc e, g.byText e, byPath e, byBounds e].filterMap id

/-- Every selector of an element, the surest first. -/
def generateAll (g : Generator) (e : Element) : List Selector :=
  (g.candidates e).mergeSort isBefore

/-- Every selector of an element, the surest first, `none` when making them breaks down. -/
def generateAll? (g : Generator) (e : Element) : Option (List Selector) :=
  if overflows e then none else some (g.generateAll e)

/-- The chain of every selector of an element, `none` when there is none. -/
def generate (g : Generator) (e : Element) : Option Chain :=
  match g.generateAll e with
  | [] => none
  | s :: rest => some ⟨s, rest⟩

theorem overflows_ofNode {n : Node} (signed : ∀ i, n.index = some i → Number.fitsInt64 i = true) :
    overflows (.ofNode n) = false := by
  have position : positionOf (.ofNode n) < Number.wordLimit64 := by
    cases index : n.index with
    | none => simp [positionOf, Element.ofNode, index, Number.wordLimit64]
    | some i =>
        have bounds := signed i index
        simp only [Number.fitsInt64, Bool.and_eq_true, decide_eq_true_eq] at bounds
        simp only [positionOf, Element.ofNode, index, Option.bind_some, Element.position?]
        split <;> simp [Number.wordLimit64] <;> omega
  unfold overflows condition
  split
  · next named _ asked =>
      split at asked
      all_goals cases asked
      simp [Nat.not_le_of_lt position]
  · rfl

end Generator

end UiReplay
