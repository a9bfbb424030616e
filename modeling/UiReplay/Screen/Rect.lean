import UiReplay.Json.Decoding
import UiReplay.Text.Blank

/-!
# Rectangles on the screen

A rectangle is given by its four edges in pixels.  `Rect.of?` refuses the
rectangle whose edges are all zero and those whose right or bottom edge lies
before the left or top one.

A rectangle is read from four forms: `L,T,R,B`, `[L,T,R,B]`, `bounds=[L,T,R,B]`
and `[L,T][R,B]`, with blanks around the whole and around each number.  A number
that is not an integer is rounded, a half going away from zero.  What is read is
always a rectangle that `Rect.of?` accepts (`of?_of_parse?`).
-/

namespace UiReplay

open Number (Binary)

/-- A rectangle on the screen. -/
structure Rect where
  /-- The left edge. -/
  left : Int
  /-- The top edge. -/
  top : Int
  /-- The right edge. -/
  right : Int
  /-- The bottom edge. -/
  bottom : Int
deriving DecidableEq, Repr

/-- A point on the screen. -/
structure Point where
  /-- The distance from the left. -/
  x : Int
  /-- The distance from the top. -/
  y : Int
deriving DecidableEq, Repr

namespace Rect

/-! ## Accepted rectangles -/

/-- All four edges are zero. -/
def isDegenerate (r : Rect) : Bool :=
  r.left == 0 && r.top == 0 && r.right == 0 && r.bottom == 0

/-- No edge lies before its opposite. -/
def IsUpright (r : Rect) : Prop := r.left ≤ r.right ∧ r.top ≤ r.bottom

instance (r : Rect) : Decidable r.IsUpright := inferInstanceAs (Decidable (_ ∧ _))

/-- The rectangle with the given edges, unless it is degenerate or inverted. -/
def of? (left top right bottom : Int) : Option Rect :=
  let r : Rect := ⟨left, top, right, bottom⟩
  if r.isDegenerate || right < left || bottom < top then none else some r

/-- Whether a rectangle is one that `of?` accepts. -/
def isAccepted (r : Rect) : Bool := (of? r.left r.top r.right r.bottom).isSome

theorem of?_eq_some_iff {l t r b : Int} {rect : Rect} :
    of? l t r b = some rect ↔
      rect = ⟨l, t, r, b⟩ ∧ rect.isDegenerate = false ∧ rect.IsUpright := by
  simp only [of?, IsUpright]
  split
  · next h =>
      simp only [Bool.or_eq_true, decide_eq_true_eq] at h
      constructor
      · intro h'
        cases h'
      · rintro ⟨rfl, hd, hu⟩
        rcases h with (h | h) | h
        · rw [hd] at h
          cases h
        · exact absurd hu.1 (Int.not_le.mpr h)
        · exact absurd hu.2 (Int.not_le.mpr h)
  · next h =>
      simp only [Bool.or_eq_true, decide_eq_true_eq, not_or, Int.not_lt, Bool.not_eq_true] at h
      constructor
      · intro h'
        cases h'
        exact ⟨rfl, h.1.1, h.1.2, h.2⟩
      · rintro ⟨rfl, -, -⟩
        rfl

/-! ## Measures -/

/-- The width. -/
def width (r : Rect) : Int := r.right - r.left

/-- The height. -/
def height (r : Rect) : Int := r.bottom - r.top

/-- The middle between two edges, rounded toward zero. -/
def middle (a b : Int) : Int := Int.tdiv (a + b) 2

/-- The centre. -/
def center (r : Rect) : Point := ⟨middle r.left r.right, middle r.top r.bottom⟩

/-- Every edge lies within the tolerance of the other rectangle's.  Nothing lies
within a negative tolerance. -/
def within (r other : Rect) (tolerance : Int) : Bool :=
  0 ≤ tolerance && (r.left - other.left).natAbs ≤ tolerance.toNat &&
    (r.top - other.top).natAbs ≤ tolerance.toNat &&
    (r.right - other.right).natAbs ≤ tolerance.toNat &&
    (r.bottom - other.bottom).natAbs ≤ tolerance.toNat

/-- The least rectangle that holds both. -/
def union (a b : Rect) : Rect :=
  ⟨min a.left b.left, min a.top b.top, max a.right b.right, max a.bottom b.bottom⟩

/-! ## Text -/

/-- The four edges with commas between. -/
def text (r : Rect) : String :=
  Text.joinWith "," [Number.intText r.left, Number.intText r.top, Number.intText r.right,
    Number.intText r.bottom]

/-- The form that a selector holds. -/
def selectorText (r : Rect) : String := "bounds=[" ++ r.text ++ "]"

/-- The text of a node that has no rectangle. -/
def noneText : String := "0,0,0,0"

/-- Joins the two halves of `[L,T][R,B]`. -/
def joinHalves : List Char → List Char
  | ']' :: '[' :: rest => ',' :: joinHalves rest
  | c :: rest => c :: joinHalves rest
  | [] => []

/-- Whether a character is a square bracket. -/
def isBracket (c : Char) : Bool := c == '[' || c == ']'

/-- A number that is not an integer, rounded to 32 bits. -/
def roundedCoordinate? (cs : List Char) : Option Int :=
  match Number.readExtended? Number.double cs with
  | some (.finite x) => if x.magnitude.isBelow 2147483647 then some x.roundAway else none
  | _ => none

/-- A coordinate. -/
def coordinate? (cs : List Char) : Option Int :=
  match Number.readInt? cs with
  | some i => if Number.fitsInt32 i then some i else roundedCoordinate? cs
  | none => roundedCoordinate? cs

/-- One part of the text of a rectangle. -/
def part? (cs : List Char) : Option Int :=
  coordinate? (Text.trimList (Text.trimBy isBracket (Text.trimList cs)))

/-- The rectangle that a list of characters writes. -/
def parseChars? (cs : List Char) : Option Rect :=
  let body := Text.dropStart "bounds=".toList (Text.trimList cs)
  match (Text.splitOn ',' (joinHalves body)).mapM part? with
  | some [l, t, r, b] => of? l t r b
  | _ => none

/-- The rectangle that a text writes. -/
def parse? (s : String) : Option Rect := parseChars? s.toList

/-- What is read is a rectangle that `of?` accepts. -/
theorem of?_of_parse? {s : String} {rect : Rect} (h : parse? s = some rect) :
    of? rect.left rect.top rect.right rect.bottom = some rect := by
  simp only [parse?, parseChars?] at h
  split at h
  · have hr := (of?_eq_some_iff.mp h).1
    subst hr
    exact h
  · cases h

/-! ## Edges in records -/

/-- An integer cut to the range of 64 bits. -/
def clamp64 (i : Int) : Int :=
  if i < -9223372036854775808 then -9223372036854775808
  else if 9223372036854775807 < i then 9223372036854775807
  else i

/-- An edge of a rectangle that is given as a record. -/
def edge? (fields : List (String × Json)) (name : String) : Option Int :=
  ((Fields.find? name fields).bind Json.number?).map fun x => clamp64 x.roundAway

/-- The text of a rectangle given as a text or as a record of its edges. -/
def textOf? : Json → Option String
  | .text s => some s
  | .record fields => do
      let l ← edge? fields "left"
      let t ← edge? fields "top"
      let r ← edge? fields "right"
      let b ← edge? fields "bottom"
      return text ⟨l, t, r, b⟩
  | _ => none

/-- The edges in a record. -/
def recordFields : List (Field Rect) := [
  .required "left" Decode.int32 fun v r => { r with left := v },
  .required "top" Decode.int32 fun v r => { r with top := v },
  .required "right" Decode.int32 fun v r => { r with right := v },
  .required "bottom" Decode.int32 fun v r => { r with bottom := v }]

/-- A rectangle given by its edges as they are. -/
def decode : Decoder Rect := Decode.record "Bounds" recordFields ⟨0, 0, 0, 0⟩

/-- A rectangle as a record of its edges. -/
def document (r : Rect) : Document :=
  .record [("left", .integer r.left), ("top", .integer r.top), ("right", .integer r.right),
    ("bottom", .integer r.bottom)]

/-! ## Tests -/

example : parse? " bounds=[ 1 ,2,+3,4.5] " = some ⟨1, 2, 3, 5⟩ := by decide +kernel
example : parse? "[10,20][30,40]" = some ⟨10, 20, 30, 40⟩ := by decide +kernel
example : parse? "0,0,0,0" = none ∧ parse? "3,4,1,2" = none ∧ parse? "1,2,3" = none := by
  decide +kernel
example : (Rect.mk (-2147483648) 0 2147483647 10).center = ⟨0, 5⟩ := by decide

end Rect

end UiReplay
