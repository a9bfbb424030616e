import UiReplay.Proofs.Screen.Extent
import UiReplay.Recording.Step

/-!
# Reading gestures back

A replay makes the way of a finger from a direction, and a recorder tells the direction from the way
of a finger.  The way across a screen goes along one axis only, between the points at one and at
three quarters.  So the direction is read back exactly when these two points differ, and they do on
an axis of at least two pixels (`Path.quarter_lt_quarter_iff`).  A finger that stays where it is
counts as going down, so this direction is read back from every screen
(`Path.direction_across_iff`).

On a screen of at least two pixels along both axes every direction is read back, wherever the screen
lies, and the way in the opposite direction is the way back (`Path.readsBack_across`).
-/

namespace UiReplay

open Number (fitsInt32)

namespace Path

/-! ## Ways along one axis -/

variable {p : Path}

theorem direction_of_upright (upright : p.finish.x = p.start.x) :
    p.direction = if p.finish.y < p.start.y then .up else .down := by
  have shorter : ¬ (p.finish.y - p.start.y).natAbs < (p.finish.x - p.start.x).natAbs := by omega
  simp only [direction, shorter, if_false, sub_neg]

theorem direction_eq_up_iff (upright : p.finish.x = p.start.x) :
    p.direction = .up ↔ p.finish.y < p.start.y := by
  rw [direction_of_upright upright]
  split
  · next moved => exact iff_of_true rfl moved
  · next still => exact iff_of_false (by decide) still

theorem direction_eq_down_iff (upright : p.finish.x = p.start.x) :
    p.direction = .down ↔ p.start.y ≤ p.finish.y := by
  rw [direction_of_upright upright, ← Int.not_lt]
  split
  · next moved => exact iff_of_false (by decide) (not_not_intro moved)
  · next still => exact iff_of_true rfl still

/-- A finger that stays where it is does not count as going sideways. -/
theorem direction_of_level (level : p.finish.y = p.start.y) :
    p.direction = if p.finish.x < p.start.x then .left
      else if p.start.x < p.finish.x then .right else .down := by
  have moves : (p.finish.y - p.start.y).natAbs < (p.finish.x - p.start.x).natAbs ↔
      p.finish.x ≠ p.start.x := by omega
  have still : ¬ p.finish.y - p.start.y < 0 := by omega
  simp only [direction, moves, still, sub_neg, if_false]
  rcases lt_trichotomy p.finish.x p.start.x with left | stays | right
  · rw [if_pos left.ne, if_pos left, if_pos left]
  · simp [stays]
  · rw [if_pos right.ne', if_neg right.not_gt, if_neg right.not_gt, if_pos right]

theorem direction_eq_left_iff (level : p.finish.y = p.start.y) :
    p.direction = .left ↔ p.finish.x < p.start.x := by
  rw [direction_of_level level]
  split_ifs with left right
  · exact iff_of_true rfl left
  · exact iff_of_false (by decide) left
  · exact iff_of_false (by decide) left

theorem direction_eq_right_iff (level : p.finish.y = p.start.y) :
    p.direction = .right ↔ p.start.x < p.finish.x := by
  rw [direction_of_level level]
  split_ifs with left right
  · exact iff_of_false (by decide) (Int.lt_asymm left)
  · exact iff_of_true rfl right
  · exact iff_of_false (by decide) right

/-! ## The points at the quarters -/

section Quarters

variable {first last : Int} (hfirst : fitsInt32 first = true) (hlast : fitsInt32 last = true)
  (forward : first ≤ last)

include hfirst hlast forward

/-- The points at the quarters have 32 bits, so they are where they should be. -/
theorem quarters_eq :
    quarter first (last - first) 1 = first + (last - first) * 1 / 4 ∧
      quarter first (last - first) 3 = first + (last - first) * 3 / 4 := by
  have eq (k : Int) (hk : k ∈ [1, 3]) (positive : 0 ≤ (last - first) * k) :
      quarter first (last - first) k = first + (last - first) * k / 4 := by
    rw [quarter, if_pos (quarter_fits hfirst hlast forward hk),
      Int.tdiv_eq_ediv_of_nonneg positive]
  exact ⟨eq 1 (by simp) (by omega), eq 3 (by simp) (by omega)⟩

theorem quarter_le_quarter :
    quarter first (last - first) 1 ≤ quarter first (last - first) 3 := by
  obtain ⟨one, three⟩ := quarters_eq hfirst hlast forward
  omega

/-- The two points differ exactly when the edges are at least two pixels apart. -/
theorem quarter_lt_quarter_iff :
    quarter first (last - first) 1 < quarter first (last - first) 3 ↔ 2 ≤ last - first := by
  obtain ⟨one, three⟩ := quarters_eq hfirst hlast forward
  omega

end Quarters

end Path

/-! ## Directions -/

/-- A finger that goes in a direction across a screen moves, or goes down. -/
def Direction.HasRoom (screen : Rect) : Direction → Prop
  | .up => 2 ≤ screen.height
  | .down => True
  | .left | .right => 2 ≤ screen.width

namespace Path

variable {screen : Rect}

/-- The direction of a way across a screen is read back exactly when the screen has room for it. -/
theorem direction_across_iff (proper : screen.IsProper) (d : Direction) :
    (across screen d).direction = d ↔ d.HasRoom screen := by
  obtain ⟨⟨horizontal, vertical⟩, hleft, htop, hright, hbottom⟩ := proper
  have x := quarter_lt_quarter_iff hleft hright horizontal
  have y := quarter_lt_quarter_iff htop hbottom vertical
  have y_le := quarter_le_quarter htop hbottom vertical
  cases d with
  | up => exact (direction_eq_up_iff rfl).trans y
  | down => exact iff_of_true ((direction_eq_down_iff rfl).mpr y_le) trivial
  | left => exact (direction_eq_left_iff rfl).trans x
  | right => exact (direction_eq_right_iff rfl).trans x

/-- On a screen of at least two pixels along both axes, the direction of the way across it is read
back, and so it is from an event that knows this way and no direction.  The way in the opposite
direction is the way back. -/
theorem readsBack_across (proper : screen.IsProper) (wide : 2 ≤ screen.width)
    (high : 2 ≤ screen.height) (d : Direction) :
    (across screen d).direction = d ∧
      (∀ e : RecordedEvent, e.path? = some (across screen d) → e.direction = none →
        e.swipeData.direction = d) ∧
      across screen d.opposite = (across screen d).reverse := by
  have room : d.HasRoom screen := by
    cases d with
    | up => exact high
    | down => trivial
    | left => exact wide
    | right => exact wide
  have readBack := (direction_across_iff proper d).mpr room
  refine ⟨readBack, fun e way unsaid => ?_, across_opposite screen d⟩
  simp only [RecordedEvent.swipeData, way, unsaid]
  exact readBack

/-- A screen of two pixels by three at the lower end of 32 bits. -/
def tinyScreen : Rect := ⟨-1, -2147483648, 1, -2147483645⟩

theorem readsBack_across_tiny :
    (tinyScreen.IsProper ∧ 2 ≤ tinyScreen.width ∧ 2 ≤ tinyScreen.height) ∧
      across tinyScreen .left = ⟨⟨0, -2147483646⟩, ⟨-1, -2147483646⟩⟩ ∧
      (across tinyScreen .left).direction = .left ∧
      across tinyScreen .right = (across tinyScreen .left).reverse := by
  have proper : tinyScreen.IsProper := ⟨by decide, by decide, by decide, by decide, by decide⟩
  have wide : 2 ≤ tinyScreen.width := by decide
  have high : 2 ≤ tinyScreen.height := by decide
  obtain ⟨readBack, -, back⟩ := readsBack_across proper wide high .left
  exact ⟨⟨proper, wide, high⟩, by decide, readBack, back⟩

end Path

end UiReplay
