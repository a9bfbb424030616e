import UiReplay.Screen.Node
import UiReplay.Text.Blank

/-!
# Path queries

A *path query* is a class and up to three conditions: the text of a node, its
description, and a part of its resource id.

A query is written as `//Class[condition]`, with at most one condition, or with a
position, which is no condition on the node.  It is read more freely.  The class
stands at the start, after any blanks and two slashes, and runs to the next
bracket, blank or slash.  Each condition is looked for anywhere in the text, and
the first place where it can be read counts.  Values stand between single or
double quotes.

The class of a node matches when it ends in the class of the query, and `*`
matches every class.
-/

namespace UiReplay

open Text (isBlank)

/-- A class and conditions on a node. -/
structure PathQuery where
  /-- How the class ends. -/
  className : String
  /-- The text. -/
  text : Option String := none
  /-- The description. -/
  contentDesc : Option String := none
  /-- A part of the resource id. -/
  resourcePart : Option String := none
deriving DecidableEq, Repr

namespace PathQuery

/-! ## Reading -/

/-- Whether a character may stand in a class. -/
def isClassChar (c : Char) : Bool := !(c == '[' || c == '/' || isBlank c)

/-- The class at the start of a query. -/
def readClass? (cs : List Char) : Option String :=
  match cs.dropWhile isBlank with
  | '/' :: '/' :: rest =>
      let name := rest.takeWhile isClassChar
      if name = [] then none else some (String.ofList name)
  | _ => none

/-- A value between quotes, and what follows. -/
def takeQuoted? : List Char → Option (List Char × List Char)
  | q :: rest =>
      if q = '\'' || q = '"' then
        match rest.dropWhile (· != q) with
        | _ :: after => some (rest.takeWhile (· != q), after)
        | [] => none
      else none
  | [] => none

/-- What follows a word, if the list starts with it. -/
def after? (word cs : List Char) : Option (List Char) :=
  if word.isPrefixOf cs then some (cs.drop word.length) else none

/-- An attribute, an equals sign and a quoted value. -/
def equality? (name cs : List Char) : Option (List Char) := do
  let rest ← after? name cs
  let rest ← after? ['='] (rest.dropWhile isBlank)
  let (value, _) ← takeQuoted? (rest.dropWhile isBlank)
  return value

/-- A condition that the resource id contains a quoted value. -/
def containment? (cs : List Char) : Option (List Char) := do
  let rest ← after? "contains(".toList cs
  let rest ← after? "@resource-id".toList (rest.dropWhile isBlank)
  let rest ← after? [','] (rest.dropWhile isBlank)
  let (value, rest) ← takeQuoted? (rest.dropWhile isBlank)
  let _ ← after? [')'] (rest.dropWhile isBlank)
  return value

/-- What is read at the first place where something can be read. -/
def firstPlace (read : List Char → Option (List Char)) : List Char → Option (List Char)
  | [] => read []
  | c :: cs =>
      match read (c :: cs) with
      | some found => some found
      | none => firstPlace read cs

/-- The first value that is read somewhere in a list. -/
def search (read : List Char → Option (List Char)) (cs : List Char) : Option String :=
  (firstPlace read cs).map String.ofList

/-- The query that a list of characters writes. -/
def parseChars? (cs : List Char) : Option PathQuery :=
  (readClass? cs).map fun name => {
    className := name
    text := search (equality? "@text".toList) cs
    contentDesc := search (equality? "@content-desc".toList) cs
    resourcePart := search containment? cs }

/-- The query that a text writes. -/
def parse? (s : String) : Option PathQuery := parseChars? s.toList

/-! ## Writing -/

/-- What stands between the brackets of a written query. -/
inductive Condition where
  /-- The text of the node. -/
  | text (s : String)
  /-- The description of the node. -/
  | contentDesc (s : String)
  /-- A part of the resource id. -/
  | resourcePart (s : String)
  /-- A position among siblings, counted from one. -/
  | position (n : Nat)
deriving DecidableEq, Repr

/-- A condition as it is written. -/
def Condition.write : Condition → String
  | .text s => "@text='" ++ s ++ "'"
  | .contentDesc s => "@content-desc='" ++ s ++ "'"
  | .resourcePart s => "contains(@resource-id,'" ++ s ++ "')"
  | .position n => "position()=" ++ Number.natText n

/-- A class and a condition as they are written. -/
def write (className : String) (c : Condition) : String :=
  "//" ++ className ++ "[" ++ c.write ++ "]"

/-- The query that a class and a condition mean. -/
def ofCondition (className : String) : Condition → PathQuery
  | .text s => { className := className, text := some s }
  | .contentDesc s => { className := className, contentDesc := some s }
  | .resourcePart s => { className := className, resourcePart := some s }
  | .position _ => { className := className }

/-! ## Matching -/

/-- Whether a condition that may be absent holds. -/
def holds (test : String → Bool) : Option String → Bool
  | none => true
  | some s => test s

/-- Whether a node satisfies a query. -/
def matchesNode (q : PathQuery) (n : Node) : Bool :=
  (q.className == "*" || Text.endsWith n.className q.className) &&
    holds (fun t => n.text == t) q.text &&
    holds (fun d => n.contentDesc == d) q.contentDesc &&
    holds (fun p => Text.containsText n.resourceId p) q.resourcePart

/-! ## Tests -/

example : parse? (write "Button" (.text "OK")) = some (ofCondition "Button" (.text "OK")) := by
  decide +kernel
example : parse? " //a.B [ @content-desc = \"x'y\" and contains( @resource-id , 'z' ) ]"
    = some { className := "a.B", contentDesc := some "x'y", resourcePart := some "z" } := by
  decide +kernel
example : parse? "/Button" = none ∧ parse? "//[@text='a']" = none := by decide +kernel

end PathQuery

end UiReplay
