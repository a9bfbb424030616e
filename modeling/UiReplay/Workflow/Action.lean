import UiReplay.Selector.Basic
import UiReplay.Uuid
import UiReplay.Screen.Rect

/-!
# Actions

A step does one of six things: a tap, a long tap, a swipe, a scroll, the typing of
a text, or a wait.  Each carries the data of its kind.  A record that describes no
step is kept as an `unusable` action together with the reason, so that saving the
workflow writes it back.

The direction of a swipe is that of the finger.  The direction of a scroll is the
one towards which the content moves.
-/

namespace UiReplay

/-! ## Kinds -/

/-- The kind of an action. -/
inductive ActionKind where
  /-- A short press. -/
  | tap
  /-- A long press. -/
  | longTap
  /-- A movement of the finger. -/
  | swipe
  /-- The typing of a text. -/
  | inputText
  /-- A pause, or the wait for an element. -/
  | wait
  /-- A movement of the content. -/
  | scroll
  /-- A record that describes no step. -/
  | unusable
deriving DecidableEq, Repr

namespace ActionKind

/-- The name of a kind. -/
def name : ActionKind → String
  | .tap => "tap"
  | .longTap => "long_tap"
  | .swipe => "swipe"
  | .inputText => "input_text"
  | .wait => "wait"
  | .scroll => "scroll"
  | .unusable => "invalid"

/-- The six kinds that a record can name. -/
def replayable : List ActionKind := [.tap, .longTap, .swipe, .inputText, .wait, .scroll]

/-- The kind that a record names. -/
def ofName? (s : String) : Option ActionKind := replayable.find? fun k => k.name == s

theorem ofName?_name {k : ActionKind} (h : k ≠ .unusable) : ofName? k.name = some k := by
  cases k <;> first | decide | exact absurd rfl h

end ActionKind

/-- The data that a record can carry. -/
inductive Payload where
  /-- The data of a tap. -/
  | tap
  /-- The data of a swipe or scroll. -/
  | swipe
  /-- The text to type. -/
  | input
  /-- The data of a wait. -/
  | wait
deriving DecidableEq, Repr

/-- The name of the field that holds the data. -/
def Payload.fieldName : Payload → String
  | .tap => "tap_data"
  | .swipe => "swipe_data"
  | .input => "input_data"
  | .wait => "wait_data"

/-- The data that belongs to a kind, none to a record that describes no step. -/
def ActionKind.payload? : ActionKind → Option Payload
  | .tap | .longTap => some .tap
  | .swipe | .scroll => some .swipe
  | .inputText => some .input
  | .wait => some .wait
  | .unusable => none

/-! ## Problems -/

/-- What is wrong with a step or with a workflow. -/
inductive Problem where
  /-- A selector or chain is refused. -/
  | selector (e : SelectorError)
  /-- The action is none of the six. -/
  | unknownAction (name : String)
  /-- The record does not decode. -/
  | malformed (fault : Fault)
  /-- The data of the kind is not there. -/
  | missingPayload (kind : ActionKind)
  /-- The data of another kind is there. -/
  | payloadMismatch (kind : ActionKind) (found : Payload)
  /-- Neither a selector nor a point says where. -/
  | missingTarget (label : String)
  /-- Only some of the coordinates are there. -/
  | incompleteCoordinates (label : String)
  /-- There is no text to type. -/
  | emptyText (label : String)
  /-- Two steps have one identifier. -/
  | duplicateStepId (id : Uuid)
  /-- The number of a step is not its position. -/
  | orderMismatch (position order : Nat)
  /-- There is no such position. -/
  | stepOutOfRange (index length : Nat)
deriving DecidableEq

/-- The text of a problem. -/
def Problem.message : Problem → String
  | .selector e => e.message
  | .unknownAction name => "unknown action kind '" ++ name ++ "'"
  | .malformed fault => "malformed step: " ++ fault.message
  | .missingPayload kind => kind.name ++ " step is missing its payload"
  | .payloadMismatch kind found =>
      kind.name ++ " step carries a " ++ found.fieldName ++ " payload"
  | .missingTarget label => "step '" ++ label ++ "' needs a selector or explicit coordinates"
  | .incompleteCoordinates label => "step '" ++ label ++ "' has only some of its coordinates"
  | .emptyText label => "input step '" ++ label ++ "' has no text"
  | .duplicateStepId id => "duplicate step id " ++ id.text
  | .orderMismatch position order =>
      "step at position " ++ Number.natText position ++ " has order " ++ Number.natText order
  | .stepOutOfRange index length =>
      "step position " ++ Number.natText index ++ " is out of range (workflow has " ++
        Number.natText length ++ " steps)"

/-! ## Data -/

/-- Where to press, and for how long. -/
structure TapData where
  /-- The distance from the left. -/
  x : Option Int := none
  /-- The distance from the top. -/
  y : Option Int := none
  /-- The time of a long press, zero for the usual one. -/
  durationMs : Nat := 0
deriving DecidableEq, Repr

namespace TapData

/-- A press at a point. -/
def atPoint (x y : Int) : TapData := { x := some x, y := some y }

/-- The point, when both coordinates are known. -/
def point? (d : TapData) : Option Point := do
  let x ← d.x
  let y ← d.y
  return ⟨x, y⟩

/-- The fields of a record. -/
def recordFields : List (Field TapData) := [
  .withDefault "x" [] (Decode.nullable Decode.int32) fun v d => { d with x := v },
  .withDefault "y" [] (Decode.nullable Decode.int32) fun v d => { d with y := v },
  .withDefault "duration_ms" [] Decode.nat64 fun v d => { d with durationMs := v }]

/-- The data of a tap in a document. -/
def decode : Decoder TapData := Decode.record "TapData" recordFields {}

/-- The data of a tap as it is written. -/
def document (d : TapData) : Document :=
  .record [("x", optionalInteger d.x), ("y", optionalInteger d.y),
    ("duration_ms", .integer d.durationMs)]

end TapData

/-- A direction on the screen. -/
inductive Direction where
  /-- Towards the top. -/
  | up
  /-- Towards the bottom. -/
  | down
  /-- Towards the left. -/
  | left
  /-- Towards the right. -/
  | right
deriving DecidableEq, Repr

namespace Direction

/-- The name of a direction. -/
def name : Direction → String
  | .up => "up"
  | .down => "down"
  | .left => "left"
  | .right => "right"

/-- The directions by their names. -/
def byName : List (String × Direction) :=
  [("up", .up), ("down", .down), ("left", .left), ("right", .right)]

/-- The other way. -/
def opposite : Direction → Direction
  | .up => .down
  | .down => .up
  | .left => .right
  | .right => .left

theorem opposite_opposite (d : Direction) : d.opposite.opposite = d := by
  cases d <;> rfl

/-- A direction in a document. -/
def decode : Decoder Direction := Decode.wordOf byName

end Direction

/-- The way of a swipe or scroll. -/
structure SwipeData where
  /-- The direction. -/
  direction : Direction := .down
  /-- Where it starts, from the left. -/
  startX : Option Int := none
  /-- Where it starts, from the top. -/
  startY : Option Int := none
  /-- Where it ends, from the left. -/
  endX : Option Int := none
  /-- Where it ends, from the top. -/
  endY : Option Int := none
  /-- How long it takes, zero for the usual time. -/
  durationMs : Nat := 300
deriving DecidableEq, Repr

/-- A straight way of a finger. -/
structure Path where
  /-- Where it starts. -/
  start : Point
  /-- Where it ends. -/
  finish : Point
deriving DecidableEq, Repr

namespace SwipeData

/-- A swipe in a direction. -/
def towards (direction : Direction) : SwipeData := { direction := direction }

/-- The way, when all four coordinates are known. -/
def path? (d : SwipeData) : Option Path := do
  let startX ← d.startX
  let startY ← d.startY
  let endX ← d.endX
  let endY ← d.endY
  return ⟨⟨startX, startY⟩, ⟨endX, endY⟩⟩

/-- How many of the coordinates are known. -/
def given (d : SwipeData) : Nat :=
  ([d.startX, d.startY, d.endX, d.endY].filter Option.isSome).length

/-- The fields of a record. -/
def recordFields : List (Field SwipeData) := [
  .withDefault "direction" [] Direction.decode fun v d => { d with direction := v },
  .withDefault "start_x" [] (Decode.nullable Decode.int32) fun v d => { d with startX := v },
  .withDefault "start_y" [] (Decode.nullable Decode.int32) fun v d => { d with startY := v },
  .withDefault "end_x" [] (Decode.nullable Decode.int32) fun v d => { d with endX := v },
  .withDefault "end_y" [] (Decode.nullable Decode.int32) fun v d => { d with endY := v },
  .withDefault "duration_ms" [] Decode.nat64 fun v d => { d with durationMs := v }]

/-- The data of a swipe in a document. -/
def decode : Decoder SwipeData := Decode.record "SwipeData" recordFields {}

/-- The data of a swipe as it is written. -/
def document (d : SwipeData) : Document :=
  .record [("direction", .text d.direction.name), ("start_x", optionalInteger d.startX),
    ("start_y", optionalInteger d.startY), ("end_x", optionalInteger d.endX),
    ("end_y", optionalInteger d.endY), ("duration_ms", .integer d.durationMs)]

end SwipeData

/-- What to type. -/
structure InputTextData where
  /-- The text. -/
  text : String
  /-- Whether the field is emptied before. -/
  clearFirst : Bool := true
deriving DecidableEq, Repr

namespace InputTextData

/-- The fields of a record. -/
def recordFields : List (Field InputTextData) := [
  .required "text" Decode.text fun v d => { d with text := v },
  .withDefault "clear_first" [] Decode.truth fun v d => { d with clearFirst := v }]

/-- The text to type in a document. -/
def decode : Decoder InputTextData := Decode.record "InputTextData" recordFields { text := "" }

/-- The text to type as it is written. -/
def document (d : InputTextData) : Document :=
  .record [("text", .text d.text), ("clear_first", .bool d.clearFirst)]

end InputTextData

/-- How long to wait, and for what. -/
structure WaitData where
  /-- The time. -/
  durationMs : Nat
  /-- Whether the wait ends when the element of the step is there. -/
  waitForElement : Bool := false
deriving DecidableEq, Repr

namespace WaitData

/-- A wait of some time. -/
def forMs (ms : Nat) : WaitData := { durationMs := ms }

/-- The fields of a record. -/
def recordFields : List (Field WaitData) := [
  .required "duration_ms" Decode.nat64 fun v d => { d with durationMs := v },
  .withDefault "wait_for_element" [] Decode.truth fun v d => { d with waitForElement := v }]

/-- The data of a wait in a document. -/
def decode : Decoder WaitData := Decode.record "WaitData" recordFields { durationMs := 0 }

/-- The data of a wait as it is written. -/
def document (d : WaitData) : Document :=
  .record [("duration_ms", .integer d.durationMs), ("wait_for_element", .bool d.waitForElement)]

end WaitData

/-! ## Actions -/

/-- A record that describes no step. -/
structure UnusableRecord where
  /-- The action that it names, empty when it names none. -/
  action : String
  /-- What is wrong with it. -/
  problem : Problem
  /-- The record as it was read. -/
  record : Json

/-- The record with what is wrong with it. -/
def UnusableRecord.of (record : Json) (problem : Problem) : UnusableRecord where
  action := ((record.field? "action").bind Json.text?).getD ""
  problem := problem
  record := record

/-- What a step does. -/
inductive Action where
  /-- A short press. -/
  | tap (data : TapData)
  /-- A long press. -/
  | longTap (data : TapData)
  /-- A movement of the finger. -/
  | swipe (data : SwipeData)
  /-- A movement of the content. -/
  | scroll (data : SwipeData)
  /-- The typing of a text. -/
  | inputText (data : InputTextData)
  /-- A pause, or the wait for an element. -/
  | wait (data : WaitData)
  /-- Nothing, since its record describes no step. -/
  | unusable (record : UnusableRecord)

/-- The kind of an action. -/
def Action.kind : Action → ActionKind
  | .tap _ => .tap
  | .longTap _ => .longTap
  | .swipe _ => .swipe
  | .scroll _ => .scroll
  | .inputText _ => .inputText
  | .wait _ => .wait
  | .unusable _ => .unusable

end UiReplay
