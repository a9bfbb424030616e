import UiReplay.Selector.Basic
import UiReplay.Selector.XPath

/-!
# Finding nodes

A node satisfies a selector when its attribute equals the value.  A resource id is
compared by its tail after the last slash when one of the two is bare, a path
query is evaluated, and a rectangle matches within a tolerance.

A chain is tried selector by selector.  For each selector the forest is searched in
pre-order, and the first node that satisfies it is the answer.  A selector with a
path or a rectangle is read once before the search, and one that cannot be read
matches nothing.
-/

namespace UiReplay

/-! ## Resource ids -/

/-- What a wanted resource id asks of the id of a node.  A qualified id matches its
own tail and every id with that tail, and a bare name matches the tail of a
qualified id. -/
def resourceIdMatches (nodeId wanted : String) : Bool :=
  if nodeId = "" then false
  else if nodeId = wanted then true
  else if wanted.toList.contains '/' then
    let tail := Text.tailAfter '/' wanted
    if tail = "" then false
    else nodeId == tail || Text.endsWith nodeId ("/" ++ tail)
  else nodeId.toList.contains '/' && Text.tailAfter '/' nodeId == wanted

/-! ## The matcher -/

/-- A matcher: the tolerance in pixels for rectangles. -/
structure Matcher where
  /-- The greatest difference of an edge. -/
  tolerance : Int := 10
deriving DecidableEq, Repr

/-- A node found for a selector of a chain. -/
structure Match where
  /-- The place of the node in pre-order. -/
  position : Nat
  /-- The node. -/
  node : Node
  /-- The selector that it satisfies. -/
  selector : Selector
  /-- The place of the selector in its chain. -/
  selectorIndex : Nat

/-- Whether the node was found by another selector than the first. -/
def Match.fallbackUsed (m : Match) : Bool := 0 < m.selectorIndex

namespace Matcher

/-- Whether a node lies within the tolerance of a rectangle. -/
def isNear (m : Matcher) (target : Rect) (n : Node) : Bool :=
  match n.rect? with
  | some r => r.within target m.tolerance
  | none => false

/-- Whether a node satisfies a selector. -/
def satisfies (m : Matcher) (n : Node) (s : Selector) : Bool :=
  match s.kind with
  | .resourceId => resourceIdMatches n.resourceId s.value
  | .contentDesc => n.contentDesc == s.value
  | .text => n.text == s.value
  | .xpath =>
      match PathQuery.parse? s.value with
      | some q => q.matchesNode n
      | none => false
  | .bounds =>
      match Rect.parse? s.value with
      | some target => m.isNear target n
      | none => false

/-- The first node of a list with a property, with its place. -/
def firstFrom (p : Node → Bool) : Nat → List Node → Option (Nat × Node)
  | _, [] => none
  | i, n :: rest => if p n then some (i, n) else firstFrom p (i + 1) rest

/-- The first node of a list that satisfies a selector, with its place.  The value
of the selector is read once. -/
def firstMatch (m : Matcher) (nodes : List Node) (s : Selector) : Option (Nat × Node) :=
  match s.kind with
  | .xpath => (PathQuery.parse? s.value).bind fun q => firstFrom q.matchesNode 0 nodes
  | .bounds => (Rect.parse? s.value).bind fun target => firstFrom (m.isNear target) 0 nodes
  | _ => firstFrom (fun n => m.satisfies n s) 0 nodes

/-- The first node of a forest in pre-order that satisfies a selector. -/
def findNode (m : Matcher) (tree : List Node) (s : Selector) : Option (Nat × Node) :=
  m.firstMatch (Node.flatten tree) s

/-- Tries selectors in order on a list of nodes. -/
def findFrom (m : Matcher) (nodes : List Node) : Nat → List Selector → Option Match
  | _, [] => none
  | i, s :: rest =>
      match m.firstMatch nodes s with
      | some (position, node) => some ⟨position, node, s, i⟩
      | none => findFrom m nodes (i + 1) rest

/-- The first node that satisfies a selector of a chain, the selectors tried in
order. -/
def find (m : Matcher) (tree : List Node) (c : Chain) : Option Match :=
  m.findFrom (Node.flatten tree) 0 c.selectors

end Matcher

/-! ## Tests -/

example : resourceIdMatches "com.app:id/ok" "ok" = true ∧ resourceIdMatches "ok" "a/ok" = true
    ∧ resourceIdMatches "a/ok" "b/ok" = true ∧ resourceIdMatches "ok" "ok/" = false := by
  decide +kernel

end UiReplay
