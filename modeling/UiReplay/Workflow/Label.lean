import UiReplay.Workflow.Basic
import UiReplay.Screen.Element

/-!
# Labels

A label says in a few words what a step does, for instance `Tap "Login"`.  The
target is described by its most readable attribute: the text, else the description,
else the resource id with its marks turned into spaces, else the class.  Blanks at
the ends of a description are dropped, and an empty description is none.

A description is cut to the greatest length, and so is a text that is typed.
-/

namespace UiReplay

/-- How labels are made. -/
structure Namer where
  /-- Longer descriptions are cut. -/
  maxLength : Nat := 30
deriving DecidableEq, Repr

namespace Namer

/-- The tail of a resource id in words. -/
def words (id : String) : String :=
  String.ofList (Text.trimList
    ((Text.afterLast '/' id.toList).map fun c => if c == '_' || c == '-' then ' ' else c))

/-- A description, unless it is empty, cut to length. -/
def described (n : Namer) (s : String) : Option String :=
  if s = "" then none else some (Text.truncate n.maxLength s)

/-- The description of an element. -/
def describeElement (n : Namer) (e : Element) : Option String :=
  match e.text, e.contentDesc, e.resourceId, e.className with
  | some s, _, _, _ => n.described (Text.trim s)
  | none, some s, _, _ => n.described (Text.trim s)
  | none, none, some id, _ => n.described (words id)
  | none, none, none, some name => n.described (Text.tailAfter '.' name)
  | none, none, none, none => none

/-- The value of the first selector of a kind. -/
def valueOf (kind : SelectorKind) (c : Chain) : Option String :=
  (c.findKind? kind).map fun found => found.2.value

/-- The description of what a chain looks for. -/
def describeChain (n : Namer) (c : Chain) : Option String :=
  match valueOf .text c, valueOf .contentDesc c, valueOf .resourceId c with
  | some s, _, _ => n.described (Text.trim s)
  | none, some s, _ => n.described (Text.trim s)
  | none, none, some id => n.described (words id)
  | none, none, none => none

/-- A text between quotes. -/
def inQuotes (s : String) : String := "\"" ++ s ++ "\""

/-- A verb with what it acts on. -/
def onTarget (verb : String) : Option String → String
  | some t => verb ++ " " ++ inQuotes t
  | none => verb

/-- A press on a target, or at a point when there is none. -/
def press (verb : String) (target : Option String) (point : Option Point) : String :=
  match target, point with
  | none, some p => verb ++ " at (" ++ Number.intText p.x ++ ", " ++ Number.intText p.y ++ ")"
  | target, _ => onTarget verb target

/-- The label of an action on a described target. -/
def compose (n : Namer) (a : Action) (target : Option String) : String :=
  match a with
  | .tap d => press "Tap" target d.point?
  | .longTap d => press "Long tap" target d.point?
  | .swipe d => "Swipe " ++ d.direction.name
  | .scroll d =>
      let verb := "Scroll " ++ d.direction.name
      match target with
      | some t => verb ++ " in " ++ inQuotes t
      | none => verb
  | .inputText d =>
      let verb := "Type " ++ inQuotes (Text.truncate n.maxLength d.text)
      match target with
      | some t => verb ++ " into " ++ inQuotes t
      | none => verb
  | .wait d =>
      match target, d.waitForElement with
      | some t, true => "Wait for " ++ inQuotes t
      | _, _ => "Wait " ++ Number.natText d.durationMs ++ " ms"
  | .unusable r =>
      if r.action = "" then "Invalid step"
      else "Invalid " ++ Text.truncate n.maxLength r.action ++ " step"

/-- The label of an action on a captured element. -/
def label (n : Namer) (a : Action) (e : Option Element) : String :=
  n.compose a (e.bind n.describeElement)

/-- The label of a step: its name if it has one, else one made from its chain. -/
def labelForStep (n : Namer) (s : Step) : String :=
  if Text.isBlankText s.name then n.compose s.action (s.selector.bind n.describeChain) else s.name

end Namer

/-! ## Tests -/

example : Namer.words "com.app:id/btn_login-now_" = "btn login now" := by decide
example : Text.truncate 3 "abcd" = "ab…" ∧ Text.truncate 0 "abcd" = "…" := by decide

end UiReplay
