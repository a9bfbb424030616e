import UiReplay.CommandLine.Job
import UiReplay.Selector.Generator

/-!
# Looking at the device

Four commands change no file.  One asks whether the device answers, one shows its tree,
one presses a button of the system, and one shows the selectors of an element that is
described in a file.

The tree is shown with one line for each node, in pre-order, indented by two blanks for
each node above it (`Node.outline`).  A line holds the class without its package, the
rectangle as the device writes it, and the first selector.

The element of a file may have an index for which making selectors breaks down, and then
the command does.  The nodes of a device have none (`Generator.overflows_ofNode`).

`length_outlines` says that no node is left out.
-/

namespace UiReplay

/-! ## Outlines -/

namespace Node

/-- The line of a node. -/
def outlineLine (g : Generator) (depth : Nat) (n : Node) : String :=
  let primary := match g.generate (Element.ofNode n) with
    | some chain => chain.primary.display
    | none => "-"
  String.ofList (List.replicate (2 * depth) ' ') ++ n.simpleClass ++ " [" ++ n.bounds ++ "] " ++
    primary

mutual

/-- The lines of a tree below so many nodes. -/
def outline (g : Generator) (depth : Nat) : Node → List String
  | ⟨index, text, className, resourceId, contentDesc, bounds, clickable, children⟩ =>
      outlineLine g depth
          ⟨index, text, className, resourceId, contentDesc, bounds, clickable, children⟩ ::
        outlines g (depth + 1) children

/-- The lines of a forest below so many nodes. -/
def outlines (g : Generator) (depth : Nat) : List Node → List String
  | [] => []
  | n :: rest => outline g depth n ++ outlines g depth rest

end

mutual

theorem length_outline (g : Generator) : ∀ (depth : Nat) (n : Node),
    (outline g depth n).length = n.size
  | depth, ⟨_, _, _, _, _, _, _, children⟩ => by
      rw [outline, size, List.length_cons, length_outlines g (depth + 1) children]

theorem length_outlines (g : Generator) : ∀ (depth : Nat) (nodes : List Node),
    (outlines g depth nodes).length = sizes nodes
  | _, [] => by rw [outlines, sizes, List.length_nil]
  | depth, n :: rest => by
      rw [outlines, sizes, List.length_append, length_outline g depth n,
        length_outlines g depth rest]

end

end Node

/-! ## Commands -/

namespace Job

/-- Asks whether the device answers. -/
def ping : Job Unit := do
  let address ← address
  let outcome ← ask .ping
  orFail (.unanswered address) (outcome.reached Question.ping.endpoint)
  print ("ok: " ++ address)

/-- Asks for the state of the device. -/
def state : Job DeviceState := do
  let outcome ← ask .state
  orFail .noState outcome.state

/-- Shows the tree of the device. -/
def dump : Job Unit := do
  let state ← state
  printAll (Node.outlines {} 0 state.tree)

/-- Presses a button of the system. -/
def press (button : SystemButton) : Job Unit := do
  let action := DeviceAction.press button
  let outcome ← ask (.perform action)
  orFail (.notPressed button) (outcome.reached action.endpoint)
  print ("ok: " ++ button.name)

/-- The lines of selectors, numbered from a number on. -/
def selectorLines : Nat → List Selector → List String
  | _, [] => []
  | n, s :: rest => (Number.natText n ++ ". " ++ s.display) :: selectorLines (n + 1) rest

/-- Shows the selectors of an element in a file. -/
def selectors (path : String) : Job Unit := do
  let text ← orFail (.unreadable path) ((← get).files.read? path)
  match Json.parse? text with
  | none => throw (.notJson path)
  | some v =>
      match ({} : Generator).generateAll? (Element.ofValue v) with
      | none => throw .overflow
      | some [] => throw (.noSelector path)
      | some found => printAll (selectorLines 1 found)

end Job

/-! ## Tests -/

example : Node.outlines {} 0 [Node.leaf "a" [Node.leaf "" []]]
    = [" [0,0,0,0] text=\"a\" (0.75)", "   [0,0,0,0] -"] := by decide +kernel

end UiReplay
