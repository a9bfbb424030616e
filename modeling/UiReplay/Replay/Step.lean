import UiReplay.Replay.Engine
import UiReplay.Replay.Fallback
import UiReplay.Workflow.Gesture

/-!
# Carrying out a step

A press with a point goes there.  Otherwise the tree is fetched once and searched with
one selector after the other.  A node is pressed in the middle of its rectangle, or
by its index when it has none, and a node with neither counts as not found.  When no
selector leads to a node, the press goes to the middle of the recorded rectangle, if
the chain has one.

Typing presses the field first and then sets its text.  A text is put after the one
that is there when the step keeps it.

A swipe without a recorded way goes across the middle of the screen.  A scroll without
one scrolls the node by its index.  When that fails it swipes, the finger going against
the direction of the content.

A wait for an element looks at the tree again and again, and for the last time when the
time is over.
-/

namespace UiReplay

/-! ## Presses -/

/-- The rectangle that was recorded in a chain: the place of its selector, the
selector, and the middle. -/
def Chain.recordedPoint? (c : Chain) : Option (Nat × Selector × Point) :=
  match c.findKind? .bounds with
  | none => none
  | some (i, s) => (Rect.parse? s.value).map fun r => (i, s, r.center)

/-- How a node gets the focus. -/
def Node.focus? (n : Node) : Option DeviceAction :=
  match n.rect? with
  | some r => some (.tap r.center)
  | none => n.index.map .click

/-- The text that a field gets. -/
def InputTextData.textFor (d : InputTextData) (n : Node) : String :=
  if d.clearFirst || n.text = "" then d.text else n.text ++ d.text

namespace Engine

variable {σ α : Type} (g : Engine σ)

/-- A short or long press at a point. -/
def pressAt (long : Bool) (d : TapData) (p : Point) : DeviceAction :=
  if long then .longPress p (if 0 < d.durationMs then d.durationMs else g.config.longPressMs)
  else .tap p

/-- A short or long press of a node. -/
def pressOn? (long : Bool) (d : TapData) (n : Node) : Option (DeviceAction × PressTarget) :=
  match n.rect? with
  | some r => some (g.pressAt long d r.center, .point r.center)
  | none => n.index.map fun i => (if long then .longClick i else .click i, .node i)

/-- Uses the first selector of a chain that leads to a node.  When none does, uses
the middle of the recorded rectangle. -/
def locate (c : Chain) (attempt : Selector → Attempt σ (Option α)) (deed : α → Deed)
    (note : Point → Note) (atPoint : Point → Attempt σ Deed) : Attempt σ StepOutcome :=
  ExceptT.mk do
    match ← (c.firstHit attempt).run with
    | .ok hit => return .ok (hit.outcome (deed hit.value))
    | .error (.notFound missing) =>
        match c.recordedPoint? with
        | none => return .error (.notFound missing)
        | some (i, s, p) => ExceptT.run do
            (Run.note (note p)).sure
            let deed ← atPoint p
            return { deed := deed, selector := some (s, i), fallbackUsed := true }
    | .error e => return .error e

/-- Presses the node that a selector leads to. -/
def pressFound (long : Bool) (d : TapData) (tree : List Node) (s : Selector) :
    Attempt σ (Option PressTarget) :=
  match (g.matcher.findNode tree s).bind fun found => g.pressOn? long d found.2 with
  | none => return none
  | some (action, target) => do
      g.perform action
      return some target

/-- Carries out a tap or a long tap. -/
def tap (chain : Option Chain) (long : Bool) (d : TapData) : Attempt σ StepOutcome :=
  match d.point?, chain with
  | some p, _ => do
      g.perform (g.pressAt long d p)
      return { deed := .pressed long (.point p) }
  | none, none => throw .noSelector
  | none, some c => do
      let tree ← g.fetchTree
      locate c (g.pressFound long d tree) (.pressed long) (.pressingRecorded c) fun p => do
        g.perform (g.pressAt long d p)
        return .pressed long (.recorded p)

/-! ## Typing -/

/-- Types into the node that a selector leads to. -/
def typeFound (d : InputTextData) (tree : List Node) (s : Selector) : Attempt σ (Option Unit) :=
  match g.matcher.findNode tree s with
  | none => return none
  | some (_, n) =>
      match n.focus? with
      | none => return none
      | some focus => do
          g.perform focus
          g.perform (.setText n.index (d.textFor n))
          return some ()

/-- Types a text. -/
def inputText (chain : Option Chain) (d : InputTextData) : Attempt σ StepOutcome :=
  match chain with
  | none => do
      g.perform (.setText none d.text)
      return { deed := .typedIntoFocus }
  | some c => do
      let tree ← g.fetchTree
      locate c (g.typeFound d tree) (fun _ => .typedIntoField) (.focusingRecorded c) fun p => do
        g.perform (.tap p)
        g.perform (.setText none d.text)
        return .typedAtRecorded

/-! ## Movements -/

/-- A swipe along a way. -/
def swipeAlong (d : SwipeData) (p : Path) : DeviceAction :=
  .swipe p (if 0 < d.durationMs then d.durationMs else g.config.swipeMs)

/-- Swipes across the screen in a direction and gives back the way. -/
def swipeAcross (d : SwipeData) (direction : Direction) : Attempt σ Path := do
  let screen ← Run.knownScreen.sure
  let path := Path.across screen direction
  g.perform (g.swipeAlong d path)
  return path

/-- Carries out a swipe. -/
def swipe (d : SwipeData) : Attempt σ StepOutcome :=
  match d.path? with
  | some path => do
      g.perform (g.swipeAlong d path)
      return { deed := .swiped d.direction path }
  | none => do
      let path ← g.swipeAcross d d.direction
      return { deed := .swiped d.direction path }

/-- Scrolls the node that a selector leads to. -/
def scrollFound (way : ScrollWay) (tree : List Node) (s : Selector) : Attempt σ (Option Int) :=
  match (g.matcher.findNode tree s).bind fun found => found.2.index with
  | none => return none
  | some index => do
      g.perform (.scroll index way)
      return some index

/-- Scrolls by a swipe, the finger going the other way. -/
def scrollBySwipe (d : SwipeData) (fallbackUsed : Bool) : Attempt σ StepOutcome := do
  let _ ← g.swipeAcross d d.direction.opposite
  return { deed := .scrolledBySwipe d.direction, fallbackUsed := fallbackUsed }

/-- Scrolls the node that a chain leads to, else swipes. -/
def scrollChain (c : Chain) (d : SwipeData) : Attempt σ StepOutcome := ExceptT.mk do
  let way := ScrollWay.towards d.direction
  let search : Attempt σ (Hit Int) := do
    let tree ← g.fetchTree
    c.firstHit (g.scrollFound way tree)
  match ← search.run with
  | .ok hit => return .ok (hit.outcome (.scrolledNode way hit.value))
  | .error .cancelled => return .error .cancelled
  | .error e => ExceptT.run do
      (Run.note (.swipingInstead e)).sure
      g.scrollBySwipe d true

/-- Carries out a scroll. -/
def scroll (chain : Option Chain) (d : SwipeData) : Attempt σ StepOutcome :=
  match d.path?, chain with
  | some path, _ => do
      g.perform (g.swipeAlong d path)
      return { deed := .scrolled d.direction }
  | none, some c => g.scrollChain c d
  | none, none => g.scrollBySwipe d false

/-! ## Waits -/

/-- How often a wait looks at most.  Where it sleeps between two looks, the time is over
before that.  Where it does not, the looks may be used up while there is time left, and
then it ends with a timeout, although it would have gone on. -/
def looks (ms : Nat) : Nat := if g.config.waitPoll = 0 then ms + g.idleLooks else ms + 1

/-- Looks for an element until a time, so many times at most. -/
def lookUntil (c : Chain) (ms deadline : Nat) : Nat → Attempt σ StepOutcome
  | 0 => throw (.timeout c ms)
  | left + 1 => do
      let tree ← g.fetchTree
      match g.matcher.find tree c with
      | some found =>
          return {
            deed := .appeared found.selector
            selector := some (found.selector, found.selectorIndex)
            fallbackUsed := found.fallbackUsed }
      | none => do
          let now ← Run.time.sure
          if deadline ≤ now then throw (.timeout c ms)
          else
            g.sleep (min g.config.waitPoll (deadline - now))
            lookUntil c ms deadline left

/-- Carries out a wait. -/
def wait (chain : Option Chain) (d : WaitData) : Attempt σ StepOutcome :=
  match d.waitForElement, chain with
  | true, some c => do
      let now ← Run.time.sure
      g.lookUntil c d.durationMs (now + d.durationMs) (g.looks d.durationMs)
  | _, _ => do
      g.sleep d.durationMs
      return { deed := .waited d.durationMs }

/-! ## Steps -/

/-- Carries out a step that is valid. -/
def carryOut (s : Step) : Attempt σ StepOutcome :=
  match s.action with
  | .wait d => g.wait s.selector d
  | .tap d => g.tap s.selector false d
  | .longTap d => g.tap s.selector true d
  | .swipe d => g.swipe d
  | .scroll d => g.scroll s.selector d
  | .inputText d => g.inputText s.selector d
  | .unusable r => throw (.invalid r.problem)

/-- Checks a step and carries it out. -/
def execute (s : Step) : Attempt σ StepOutcome :=
  match s.validate with
  | .error problem => throw (.invalid problem)
  | .ok _ => g.carryOut s

end Engine

end UiReplay
