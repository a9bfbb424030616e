import UiReplay.Screen.Node

/-!
# Captured elements

An `Element` holds the attributes of a captured node that selectors are made from.
A blank text counts as absent, and any other is kept as it is, so that an exact
match still finds the live node.

An element is captured in two ways: from a node, or from a loose record of
attributes.  In the record each attribute has several spellings, and the first
with a usable value counts.  A number stands for its text.
-/

namespace UiReplay

/-- The attributes of a captured node. -/
structure Element where
  /-- The resource id. -/
  resourceId : Option String := none
  /-- The description for a screen reader. -/
  contentDesc : Option String := none
  /-- The text that it shows. -/
  text : Option String := none
  /-- The class, with its package. -/
  className : Option String := none
  /-- The rectangle. -/
  bounds : Option Rect := none
  /-- The position among its siblings. -/
  childIndex : Option Nat := none
deriving DecidableEq, Repr, Inhabited

namespace Element

/-! ## From a node -/

/-- A position that fits the machine. -/
def position? (i : Int) : Option Nat :=
  if 0 ≤ i ∧ i < Number.wordLimit64 then some i.toNat else none

/-- The element that a node is. -/
def ofNode (n : Node) : Element where
  resourceId := Text.nonBlank n.resourceId
  contentDesc := Text.nonBlank n.contentDesc
  text := Text.nonBlank n.text
  className := Text.nonBlank n.className
  bounds := n.rect?
  childIndex := n.index.bind position?

/-! ## From attributes -/

/-- The layout of a number that stands for a text. -/
def numberLayout : Number.Layout := ⟨-5, 15, true, true⟩

/-- The text that an attribute stands for. -/
def attributeText? : Json → Option String
  | .text s => Text.nonBlank s
  | .integer i => some (Number.intText i)
  | .double x => some (x.text numberLayout)
  | _ => none

/-- A natural number of 64 bits. -/
def readPosition? (s : String) : Option Nat :=
  match Number.readNat? (Text.trimList s.toList) with
  | some n => if n < Number.wordLimit64 then some n else none
  | none => none

/-- The position that an attribute stands for. -/
def attributeIndex? : Json → Option Nat
  | .integer i => position? i
  | .text s => readPosition? s
  | _ => none

/-- The first usable value under one of several spellings. -/
def firstOf {α : Type} (read : Json → Option α) (fields : List (String × Json))
    (spellings : List String) : Option α :=
  (spellings.filterMap fun name => Fields.find? name fields).findSome? read

/-- The spellings of the resource id. -/
def resourceSpellings : List String := ["resourceId", "resource-id", "resource_id", "id"]

/-- The spellings of the description. -/
def descriptionSpellings : List String :=
  ["contentDescription", "content-desc", "content_desc", "contentDesc", "description"]

/-- The spellings of the text. -/
def textSpellings : List String := ["text"]

/-- The spellings of the class. -/
def classSpellings : List String := ["className", "class", "class_name"]

/-- The spellings of the rectangle. -/
def boundsSpellings : List String := ["bounds", "boundsInScreen"]

/-- The spellings of the position. -/
def indexSpellings : List String := ["index", "childIndex", "child_index"]

/-- The element that a record of attributes describes. -/
def ofAttributes (fields : List (String × Json)) : Element where
  resourceId := firstOf attributeText? fields resourceSpellings
  contentDesc := firstOf attributeText? fields descriptionSpellings
  text := firstOf attributeText? fields textSpellings
  className := firstOf attributeText? fields classSpellings
  bounds := firstOf (fun v => (Rect.textOf? v).bind Rect.parse?) fields boundsSpellings
  childIndex := firstOf attributeIndex? fields indexSpellings

/-- The element that a value describes.  Only a record describes one. -/
def ofValue : Json → Element
  | .record fields => ofAttributes fields
  | _ => {}

/-- Nothing but the position is known. -/
def isEmpty (e : Element) : Bool :=
  e.resourceId.isNone && e.contentDesc.isNone && e.text.isNone && e.className.isNone &&
    e.bounds.isNone

/-! ## Records -/

/-- The fields of an element. -/
def recordFields : List (Field Element) := [
  .withDefault "resource_id" [] (Decode.nullable Decode.text) fun v e => { e with resourceId := v },
  .withDefault "content_desc" [] (Decode.nullable Decode.text)
    fun v e => { e with contentDesc := v },
  .withDefault "text" [] (Decode.nullable Decode.text) fun v e => { e with text := v },
  .withDefault "class_name" [] (Decode.nullable Decode.text) fun v e => { e with className := v },
  .withDefault "bounds" [] (Decode.nullable Rect.decode) fun v e => { e with bounds := v },
  .withDefault "child_index" [] (Decode.nullable Decode.count)
    fun v e => { e with childIndex := v }]

/-- An element written in its own form, taken as it is. -/
def decode : Decoder Element := Decode.record "ElementSnapshot" recordFields {}

/-- An element in its own form. -/
def document (e : Element) : Document :=
  .record [("resource_id", optionalText e.resourceId), ("content_desc", optionalText e.contentDesc),
    ("text", optionalText e.text), ("class_name", optionalText e.className),
    ("bounds", e.bounds.elim .null Rect.document),
    ("child_index", optionalInteger (e.childIndex.map Int.ofNat))]

/-! ## Tests -/

/-- An element that is known in part. -/
def sample : Element := { text := some "a", bounds := some ⟨1, 2, 3, 4⟩, childIndex := some 5 }

example : (decode sample.document).toOption = some sample := by decide +kernel
example : (ofAttributes [("id", .text "x"), ("index", .text " +2 "), ("resourceId", .text " ")])
    = { resourceId := some "x", childIndex := some 2 } := by decide +kernel

end Element

end UiReplay
