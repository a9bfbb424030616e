import UiReplay.Workflow.Action

/-!
# Gestures

A finger goes straight from one point to another.  The direction of its way is that
of the longer axis, and of the vertical one when both are equally long
(`Path.direction`).

To swipe in a direction without a recorded way, the finger goes through the middle
of the screen, from one quarter of it to the opposite one (`Path.across`).
-/

namespace UiReplay.Path

/-- The way back. -/
def reverse (p : Path) : Path := ⟨p.finish, p.start⟩

theorem reverse_reverse (p : Path) : p.reverse.reverse = p := rfl

/-- The direction of the longer axis. -/
def direction (p : Path) : Direction :=
  let dx := p.finish.x - p.start.x
  let dy := p.finish.y - p.start.y
  if dy.natAbs < dx.natAbs then
    if dx < 0 then .left else .right
  else
    if dy < 0 then .up else .down

/-- The point some quarters of a span away from its start, or the start itself when
there is no such coordinate. -/
def quarter (start span quarters : Int) : Int :=
  let point := start + Int.tdiv (span * quarters) 4
  if Number.fitsInt32 point then point else start

/-- The way of a finger in a direction across the middle half of a screen. -/
def across (screen : Rect) (d : Direction) : Path :=
  let center := screen.center
  let top := quarter screen.top screen.height 1
  let bottom := quarter screen.top screen.height 3
  let left := quarter screen.left screen.width 1
  let right := quarter screen.left screen.width 3
  match d with
  | .up => ⟨⟨center.x, bottom⟩, ⟨center.x, top⟩⟩
  | .down => ⟨⟨center.x, top⟩, ⟨center.x, bottom⟩⟩
  | .left => ⟨⟨right, center.y⟩, ⟨left, center.y⟩⟩
  | .right => ⟨⟨left, center.y⟩, ⟨right, center.y⟩⟩

/-- The opposite gesture is the way back. -/
theorem across_opposite (screen : Rect) (d : Direction) :
    across screen d.opposite = (across screen d).reverse := by
  cases d <;> rfl

/-! ## Tests -/

example : across ⟨0, 0, 1080, 2400⟩ .up = ⟨⟨540, 1800⟩, ⟨540, 600⟩⟩ := by decide
example : (across ⟨2000000000, 0, 2100000000, 4000⟩ .right).direction = .right := by decide
example : direction ⟨⟨0, 0⟩, ⟨-10, -10⟩⟩ = .up := by decide

end UiReplay.Path
