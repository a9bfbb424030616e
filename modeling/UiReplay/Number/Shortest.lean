import UiReplay.Number.Binary

/-!
# Decimal text of binary numbers

The *shortest text* of a number has the fewest digits among the decimals that
round to it, and of those it is the nearest.  A decimal rounds to `m · 2^e` when
it lies between the two half-way points to the neighbours, the points themselves
included when `m` is even.  The half-way point below a power of two is nearer,
since the grid is finer there.

The search walks the grids `10^j` from coarse to fine.  On each it looks at the
two neighbours of the number, and the first grid with a hit wins.  If any point
of a grid lies in the interval, so does one of these two, so no shorter decimal
is missed.

A `Layout` says how digits become text: which exponents are written in
positional form, whether an integer keeps `.0`, and how an exponent is signed.
-/

namespace UiReplay.Number

/-! ## Digits -/

/-- The decimal digits of a natural number. -/
def natDigits (n : Nat) : List Char := Nat.toDigits 10 n

/-- The decimal text of a natural number. -/
def natText (n : Nat) : String := String.ofList (natDigits n)

/-- The decimal text of an integer. -/
def intText (i : Int) : String := if i < 0 then "-" ++ natText i.natAbs else natText i.natAbs

/-- A natural number times a power of ten. -/
structure Decimal where
  /-- The digits, read as a number. -/
  digits : Nat
  /-- The exponent of ten. -/
  exponent : Int
deriving DecidableEq, Repr

/-- The interval of the reals that round to a number, as numerators over one
denominator. -/
structure Cell where
  /-- The number itself. -/
  value : Nat
  /-- The lower end. -/
  low : Nat
  /-- The upper end. -/
  high : Nat
  /-- The common denominator. -/
  den : Nat
  /-- Whether the two ends belong to the interval. -/
  closed : Bool

/-- The interval of the reals that round to `m · 2^e`. -/
def Binary.cell {f : Format} (x : Binary f) : Cell :=
  let m := x.mantissa
  let finerBelow := m == Nat.pow 2 (f.precision - 1) && f.minExp < x.exponent
  let scale := fun n => Ratio.scaled n (x.exponent - 2)
  { value := (scale (4 * m)).num
    low := (scale (if finerBelow then 4 * m - 1 else 4 * m - 2)).num
    high := (scale (4 * m + 2)).num
    den := (scale (4 * m)).den
    closed := m % 2 == 0 }

/-- The neighbour of the number on the grid `10^j` that lies in the interval, the
nearer one when both do. -/
def Cell.hit? (c : Cell) (j : Int) : Option Nat :=
  let up := if 0 ≤ j then 1 else Nat.pow 10 (-j).toNat
  let step := c.den * (if 0 ≤ j then Nat.pow 10 j.toNat else 1)
  let q := c.value * up / step
  let lowOk := if c.closed then decide (c.low * up ≤ q * step) else decide (c.low * up < q * step)
  let highOk := if c.closed then decide ((q + 1) * step ≤ c.high * up)
    else decide ((q + 1) * step < c.high * up)
  match lowOk, highOk with
  | true, true =>
      let twice := 2 * (c.value * up)
      let middle := (2 * q + 1) * step
      if twice < middle then some q
      else if middle < twice then some (q + 1)
      else some (q + q % 2)
  | true, false => some q
  | false, true => some (q + 1)
  | false, false => none

/-- The first hit on the grids `10^j`, `10^(j-1)`, and so on. -/
def Cell.firstHit (c : Cell) : Nat → Int → Decimal
  | 0, j => ⟨c.value / c.den, max j 0⟩
  | fuel + 1, j =>
      match c.hit? j with
      | some q => ⟨q, j⟩
      | none => c.firstHit fuel (j - 1)

/-- The shortest decimal that reads back as the number. -/
def Binary.shortest {f : Format} (x : Binary f) : Decimal :=
  if x.isZero then ⟨0, 0⟩
  else
    let top : Int := Int.fdiv (((Nat.log2 x.mantissa : Int) + x.exponent + 2) * 30103) 100000 + 1
    x.cell.firstHit 40 top

/-! ## Layouts -/

/-- How digits and exponent become text. -/
structure Layout where
  /-- The least exponent written in positional form. -/
  lowest : Int
  /-- The greatest exponent written in positional form. -/
  highest : Int
  /-- Whether an integer ends in `.0`. -/
  keepPoint : Bool
  /-- Whether an exponent that is not negative is written with a plus sign. -/
  plusSign : Bool

/-- Positional form: the digits with the point put in its place. -/
def positional (keepPoint : Bool) (d : Decimal) : List Char :=
  let ds := natDigits d.digits
  if 0 ≤ d.exponent then
    ds ++ List.replicate d.exponent.toNat '0' ++ (if keepPoint then ['.', '0'] else [])
  else
    let places := (-d.exponent).toNat
    if places < ds.length then
      ds.take (ds.length - places) ++ '.' :: ds.drop (ds.length - places)
    else ['0', '.'] ++ List.replicate (places - ds.length) '0' ++ ds

/-- Exponent form: one digit before the point. -/
def scientific (plusSign : Bool) (d : Decimal) : List Char :=
  let ds := natDigits d.digits
  let e := d.exponent + (ds.length : Int) - 1
  let point := if ds.length ≤ 1 then ds else ds.take 1 ++ '.' :: ds.drop 1
  let sign := if e < 0 then ['-'] else if plusSign then ['+'] else []
  point ++ 'e' :: sign ++ natDigits e.natAbs

/-- The text of a decimal in a layout. -/
def Layout.text (l : Layout) (negative : Bool) (d : Decimal) : String :=
  let e := d.exponent + ((natDigits d.digits).length : Int) - 1
  let body :=
    if d.digits = 0 ∨ (l.lowest ≤ e ∧ e ≤ l.highest) then positional l.keepPoint d
    else scientific l.plusSign d
  String.ofList (if negative then '-' :: body else body)

/-- The shortest text of a number in a layout. -/
def Binary.text {f : Format} (l : Layout) (x : Binary f) : String := l.text x.negative x.shortest

/-- Plain text never has an exponent, and an integer has no point. -/
def plainLayout : Layout := ⟨-400, 400, false, false⟩

/-- The plain text of a number that may be infinite or no number. -/
def Extended.plainText {f : Format} : Extended f → String
  | .finite x => x.text plainLayout
  | .infinite negative => if negative then "-inf" else "inf"
  | .nan => "NaN"

/-- The number with exactly two decimals, a tie going to the even one. -/
def Binary.twoPlaces {f : Format} (x : Binary f) : String :=
  let a := x.magnitude
  let n := roundDiv (a.num * 100) a.den
  let cents := natDigits (n % 100)
  let body := natDigits (n / 100) ++ '.' :: (if cents.length < 2 then '0' :: cents else cents)
  String.ofList (if x.negative then '-' :: body else body)

/-! ## Tests -/

/-- The shortest text of the 64-bit number nearest to a decimal. -/
def shortestOf (l : Layout) (n : Nat) (e : Int) : Option String :=
  (Binary.ofRatio? double false (Ratio.decimal n e)).map (Binary.text l)

example : shortestOf plainLayout 1 (-1) = some "0.1" := by decide +kernel
example : (Binary.ofRatio? double false (Ratio.decimal 5 (-324))).map Binary.shortest
    = some ⟨5, -324⟩ := by decide +kernel
example : shortestOf ⟨-5, 15, true, true⟩ 1 16 = some "1e+16" := by decide +kernel
example : shortestOf ⟨-5, 15, true, true⟩ 9007199254740993 0 = some "9007199254740992.0" := by
  decide +kernel
example : (Binary.ofRatio? single false ⟨95, 100⟩).map Binary.twoPlaces = some "0.95" := by
  decide +kernel

end UiReplay.Number
