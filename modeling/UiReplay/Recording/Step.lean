import UiReplay.Device.Reply
import UiReplay.Selector.Generator
import UiReplay.Workflow.Gesture
import UiReplay.Workflow.Label

/-!
# Steps from recorded events

A recorded event becomes a step when its action has one of the known names, in
either case, and when an event that types has a text.

The element of the event gives the selectors.  The point of a press is kept only
when there are none, so that a replay finds the element again and does not press
where it used to be.  The way of a finger is kept when all four coordinates are
there.  Its direction is the recorded one, else that of the way.

The selectors are made first, whatever the action is.  So the recorder breaks down over
an event when making them breaks down (`RecordedEvent.overflows`).  What its step is, is
said for the other events.
-/

namespace UiReplay

/-- How steps are made from events. -/
structure Recorder where
  /-- How selectors are made. -/
  generator : Generator := {}
  /-- How steps are named. -/
  namer : Namer := {}
deriving DecidableEq, Repr

/-! ## What an event says -/

namespace RecordedEvent

/-- The kinds by the names of recorded actions. -/
def kinds : List (String × ActionKind) := [
  ("tap", .tap), ("click", .tap),
  ("long_tap", .longTap), ("long_click", .longTap), ("longclick", .longTap),
  ("long_press", .longTap), ("longpress", .longTap),
  ("swipe", .swipe), ("scroll", .scroll),
  ("input_text", .inputText), ("text", .inputText), ("type", .inputText),
  ("set_text", .inputText),
  ("wait", .wait)]

/-- The kind of the recorded action. -/
def kind? (e : RecordedEvent) : Option ActionKind := Fields.find? (Text.asciiLower e.action) kinds

/-- The way of the finger, when it is complete. -/
def path? (e : RecordedEvent) : Option Path := do
  let startX ← e.startX
  let startY ← e.startY
  let endX ← e.endX
  let endY ← e.endY
  return ⟨⟨startX, startY⟩, ⟨endX, endY⟩⟩

/-- The press that was recorded. -/
def tapData (e : RecordedEvent) (located : Bool) : TapData where
  x := if located then none else e.x
  y := if located then none else e.y
  durationMs := e.durationMs.getD 0

/-- The movement that was recorded. -/
def swipeData (e : RecordedEvent) : SwipeData where
  direction := (e.direction <|> e.path?.map Path.direction).getD .down
  startX := e.path?.map fun p => p.start.x
  startY := e.path?.map fun p => p.start.y
  endX := e.path?.map fun p => p.finish.x
  endY := e.path?.map fun p => p.finish.y
  durationMs := e.durationMs.getD 300

/-- The text that was typed, unless it is empty. -/
def typed? (e : RecordedEvent) : Option String := e.text.bind fun s => if s = "" then none else some s

/-- Whether making the selectors of the element breaks down. -/
def overflows (e : RecordedEvent) : Bool := Generator.overflows (.ofValue e.element)

/-- The action of an event.  `located` says that selectors tell where. -/
def action? (e : RecordedEvent) (located : Bool) : Option Action :=
  match e.kind? with
  | some .tap => some (.tap (e.tapData located))
  | some .longTap => some (.longTap (e.tapData located))
  | some .swipe => some (.swipe e.swipeData)
  | some .scroll => some (.scroll e.swipeData)
  | some .inputText => e.typed?.map fun s => .inputText { text := s }
  | some .wait => some (.wait (.forMs (e.durationMs.getD 1000)))
  | some .unusable | none => none

end RecordedEvent

/-! ## The step -/

namespace Recorder

/-- What the step of an event does, how it finds its element, and its name, if the recorder does not
break down over the event. -/
def describe? (r : Recorder) (e : RecordedEvent) : Option (Action × Option Chain × String) :=
  let element := Element.ofValue e.element
  let chain := r.generator.generate element
  (e.action? chain.isSome).map fun action =>
    (action, chain, r.namer.label action (if element.isEmpty then none else some element))

/-- The step of an event, with an identifier. -/
def stepWith? (r : Recorder) (e : RecordedEvent) (id : Uuid) : Option Step :=
  (r.describe? e).map fun (action, chain, name) =>
    { id := id, action := action, selector := chain, name := name }

/-- The step of an event over which the recorder does not break down. -/
def step? (r : Recorder) (e : RecordedEvent) : IdSupply.With (Option Step) := do
  let id ← IdSupply.fresh
  return r.stepWith? e id

end Recorder

end UiReplay
