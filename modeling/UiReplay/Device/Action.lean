import UiReplay.Workflow.Action

/-!
# Device actions

What the device can be asked to do.  A press and a swipe go to a point of the screen.
A click, a long click and a scroll go to a node by its index.  A text goes to a node,
or to whatever has the focus.  A system button goes to no place at all.

Each action has an endpoint of its own, and its data go there as a record
(`DeviceAction.endpoint`, `DeviceAction.body`).
-/

namespace UiReplay

/-! ## Scrolling -/

/-- The two ways to scroll a list. -/
inductive ScrollWay where
  /-- Towards the end. -/
  | forward
  /-- Towards the start. -/
  | backward
deriving DecidableEq, Repr

namespace ScrollWay

/-- The name of a way. -/
def name : ScrollWay → String
  | .forward => "forward"
  | .backward => "backward"

/-- The way that shows what lies in a direction: down and right are towards the
end. -/
def towards : Direction → ScrollWay
  | .down | .right => .forward
  | .up | .left => .backward

end ScrollWay

/-! ## System buttons -/

/-- A button of the system. -/
inductive SystemButton where
  /-- One screen back. -/
  | back
  /-- The home screen. -/
  | home
  /-- The list of recent apps. -/
  | recents
  /-- The notifications. -/
  | notifications
deriving DecidableEq, Repr

namespace SystemButton

/-- The name of a button. -/
def name : SystemButton → String
  | .back => "back"
  | .home => "home"
  | .recents => "recents"
  | .notifications => "notifications"

/-- All buttons. -/
def all : List SystemButton := [.back, .home, .recents, .notifications]

/-- How a name is compared: without the blanks around it, in lower case. -/
def normalName (s : String) : String := Text.asciiLower (Text.trim s)

/-- The button with a name, in either case. -/
def ofName? (s : String) : Option SystemButton := all.find? fun b => b.name == normalName s

/-- What is said of a name that no button has. -/
def unknownMessage (s : String) : String :=
  "unknown global action '" ++ normalName s ++ "' (expected back, home, recents or notifications)"

end SystemButton

/-! ## Actions -/

/-- What the device is asked to do. -/
inductive DeviceAction where
  /-- A short press at a point. -/
  | tap (point : Point)
  /-- A click on a node. -/
  | click (index : Int)
  /-- A long click on a node. -/
  | longClick (index : Int)
  /-- A press of some duration at a point. -/
  | longPress (point : Point) (durationMs : Nat)
  /-- A movement of the finger. -/
  | swipe (path : Path) (durationMs : Nat)
  /-- A scroll of a node. -/
  | scroll (index : Int) (way : ScrollWay)
  /-- A text for a node, or for what has the focus. -/
  | setText (index : Option Int) (text : String)
  /-- A button of the system. -/
  | press (button : SystemButton)
deriving DecidableEq, Repr

namespace DeviceAction

/-- Where an action is sent. -/
def endpoint : DeviceAction → String
  | .tap _ => "/action/tap"
  | .click _ => "/action/click"
  | .longClick _ => "/action/longclick"
  | .longPress _ _ => "/action/longpress"
  | .swipe _ _ => "/action/swipe"
  | .scroll _ _ => "/action/scroll"
  | .setText _ _ => "/action/setText"
  | .press _ => "/action/global"

/-- What is sent, the fields by ascending names. -/
def body : DeviceAction → Json
  | .tap p => .record [("x", .integer p.x), ("y", .integer p.y)]
  | .click index | .longClick index => .record [("index", .integer index)]
  | .longPress p ms =>
      .record [("duration", .integer ms), ("x", .integer p.x), ("y", .integer p.y)]
  | .swipe p ms =>
      .record [("duration", .integer ms), ("endX", .integer p.finish.x),
        ("endY", .integer p.finish.y), ("startX", .integer p.start.x),
        ("startY", .integer p.start.y)]
  | .scroll index way => .record [("direction", .text way.name), ("index", .integer index)]
  | .setText (some index) text => .record [("index", .integer index), ("text", .text text)]
  | .setText none text => .record [("text", .text text)]
  | .press button => .record [("action", .text button.name)]

/-- Whether an action types a text. -/
def isSetText : DeviceAction → Bool
  | .setText _ _ => true
  | _ => false

end DeviceAction

/-! ## Tests -/

example : SystemButton.ofName? " HOME\n" = some .home := by decide +kernel
example : SystemButton.ofName? "volume" = none := by decide +kernel
example : (ScrollWay.towards .up).name = "backward" := by decide

end UiReplay
