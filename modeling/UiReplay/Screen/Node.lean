import UiReplay.Screen.Rect

/-!
# The accessibility tree

The device describes its screen as a forest of nodes.  A node has a text, a class,
a resource id, a content description, a rectangle given as text, and children.

`Node.preorder` lists a forest recursively: each node, then what is below it, the
children from left to right.  `Node.flatten` lists it with a stack, taking a node
off the top and putting its children on.  The stack shrinks in the number of nodes
that it still has to list, so the listing ends.

The rectangle of the screen is the least one that holds the rectangles of all
roots that have one.
-/

namespace UiReplay

/-- A node of the accessibility tree. -/
structure Node where
  /-- The number by which the device addresses the node. -/
  index : Option Int := none
  /-- The text that it shows. -/
  text : String := ""
  /-- The class, with its package. -/
  className : String := ""
  /-- The resource id. -/
  resourceId : String := ""
  /-- The description for a screen reader. -/
  contentDesc : String := ""
  /-- The rectangle, as the device writes it. -/
  bounds : String := Rect.noneText
  /-- Whether it reacts to a click. -/
  clickable : Bool := false
  /-- The nodes below it. -/
  children : List Node := []
deriving Repr, Inhabited

namespace Node

/-! ## Attributes -/

/-- The rectangle, if the node has a usable one. -/
def rect? (n : Node) : Option Rect := Rect.parse? n.bounds

/-- The class without its package. -/
def simpleClass (n : Node) : String := Text.tailAfter '.' n.className

/-! ## Traversals -/

mutual

/-- How many nodes a tree has. -/
def size : Node → Nat
  | ⟨_, _, _, _, _, _, _, children⟩ => sizes children + 1

/-- How many nodes a forest has. -/
def sizes : List Node → Nat
  | [] => 0
  | n :: rest => n.size + sizes rest

end

mutual

/-- A tree in pre-order. -/
def preorder : Node → List Node
  | ⟨index, text, className, resourceId, contentDesc, bounds, clickable, children⟩ =>
      ⟨index, text, className, resourceId, contentDesc, bounds, clickable, children⟩ ::
        preorders children

/-- A forest in pre-order. -/
def preorders : List Node → List Node
  | [] => []
  | n :: rest => n.preorder ++ preorders rest

end

theorem size_eq (n : Node) : n.size = sizes n.children + 1 := by
  cases n
  rw [size]

theorem preorder_eq (n : Node) : n.preorder = n :: preorders n.children := by
  cases n
  rw [preorder]

theorem sizes_append : ∀ a b : List Node, sizes (a ++ b) = sizes a + sizes b
  | [], b => by simp [sizes]
  | n :: a, b => by simp [sizes, sizes_append a b, Nat.add_assoc]

/-- Lists a forest with a stack: the top is listed and its children take its
place. -/
def flatten : List Node → List Node
  | [] => []
  | n :: stack => n :: flatten (n.children ++ stack)
termination_by stack => sizes stack
decreasing_by
  rw [sizes_append, sizes, size_eq]
  omega

/-! ## The screen -/

/-- The least rectangle that holds the rectangles of all roots that have one. -/
def screen? (tree : List Node) : Option Rect :=
  match tree.filterMap rect? with
  | [] => none
  | r :: rest => some (rest.foldl Rect.union r)

/-! ## Records -/

/-- The text of the rectangle of a node.  Whatever is neither a text nor a record
of edges means that there is none. -/
def boundsText (d : Document) : Except Fault String :=
  (Decode.value d).map fun v => (Rect.textOf? v).getD Rect.noneText

/-- The fields of a node, with a decoder for its children. -/
def recordFields (child : Decoder Node) : List (Field Node) := [
  .withDefault "index" [] (Decode.nullable Decode.int64) fun v n => { n with index := v },
  .withDefault "text" [] (Decode.orDefault "" Decode.text) fun v n => { n with text := v },
  .withDefault "className" ["class_name", "class"] (Decode.orDefault "" Decode.text)
    fun v n => { n with className := v },
  .withDefault "resourceId" ["resource_id", "resource-id"] (Decode.orDefault "" Decode.text)
    fun v n => { n with resourceId := v },
  .withDefault "contentDescription" ["content_desc", "content-desc", "contentDesc"]
    (Decode.orDefault "" Decode.text) fun v n => { n with contentDesc := v },
  .withDefault "bounds" [] boundsText fun v n => { n with bounds := v },
  .withDefault "clickable" ["isClickable"] (Decode.orDefault false Decode.truth)
    fun v n => { n with clickable := v },
  .withDefault "children" [] (Decode.orDefault [] (Decode.listOf child))
    fun v n => { n with children := v }]

/-- A node whose document is nested no deeper than the first argument. -/
def decodeWithin : Nat → Decoder Node
  | 0 => fun _ => .error .unreadable
  | fuel + 1 => Decode.record "AccessibilityNode" (recordFields (decodeWithin fuel)) {}

/-- A node in a document. -/
def decode (d : Document) : Except Fault Node := decodeWithin (d.depth + 1) d

mutual

/-- A node as a record. -/
def document : Node → Document
  | ⟨index, text, className, resourceId, contentDesc, bounds, clickable, children⟩ =>
      .record [
        ("index", match index with | some i => .integer i | none => .null),
        ("text", .text text), ("className", .text className), ("resourceId", .text resourceId),
        ("contentDescription", .text contentDesc), ("bounds", .text bounds),
        ("clickable", .bool clickable), ("children", .list (documents children))]

/-- Nodes as records. -/
def documents : List Node → List Document
  | [] => []
  | n :: rest => n.document :: documents rest

end

/-! ## Tests -/

/-- A node that only has a text. -/
def leaf (text : String) (children : List Node) : Node := { text := text, children := children }

example : (preorders [leaf "a" [leaf "b" [leaf "c" []], leaf "d" []], leaf "e" []]).map Node.text
    = ["a", "b", "c", "d", "e"] := by decide
example : screen? [{ bounds := "0,0,1080,200" }, { bounds := "0,200,1080,2400" }]
    = some ⟨0, 0, 1080, 2400⟩ := by decide +kernel

end Node

end UiReplay
