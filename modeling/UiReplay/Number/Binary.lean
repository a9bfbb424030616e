/-!
# Binary numbers

A *binary number* of a format is `±m · 2^e` with a mantissa of bounded width and
an exponent of bounded range.  It is held in canonical form: the exponent is the
least one of the format, or the top bit of the mantissa is set.  Every finite
number of the IEEE formats has exactly one such form, the two zeros included,
and nothing here uses machine arithmetic.

A quotient of natural numbers is rounded to the nearest binary number, a tie
going to the even mantissa.  `Binary.ofRatio?` answers `none` when the result
would lie beyond the largest number of the format.

`roundDiv_mul` says rounding changes nothing on an exact quotient.
-/

namespace UiReplay.Number

/-! ## Formats -/

/-- A binary format: how wide the mantissa is and which exponents there are. -/
structure Format where
  /-- Bits of the mantissa. -/
  precision : Nat
  /-- The least exponent. -/
  minExp : Int
  /-- The greatest exponent. -/
  maxExp : Int
deriving DecidableEq, Repr

/-- Numbers of 64 bits: 53 bits of mantissa. -/
def double : Format := ⟨53, -1074, 971⟩

/-- Numbers of 32 bits: 24 bits of mantissa. -/
def single : Format := ⟨24, -149, 104⟩

/-- A mantissa and an exponent in canonical form. -/
def Format.Canonical (f : Format) (m : Nat) (e : Int) : Prop :=
  m < Nat.pow 2 f.precision ∧ f.minExp ≤ e ∧ e ≤ f.maxExp ∧
    (e = f.minExp ∨ Nat.pow 2 (f.precision - 1) ≤ m)

instance (f : Format) (m : Nat) (e : Int) : Decidable (f.Canonical m e) :=
  inferInstanceAs (Decidable (_ ∧ _ ∧ _ ∧ _))

/-- A finite number of a format. -/
structure Binary (f : Format) where
  /-- Whether the sign is minus. -/
  negative : Bool
  /-- The mantissa. -/
  mantissa : Nat
  /-- The exponent of two. -/
  exponent : Int
  /-- The form is the canonical one. -/
  canonical : f.Canonical mantissa exponent
deriving DecidableEq

instance (f : Format) : Repr (Binary f) where
  reprPrec x _ := repr (x.negative, x.mantissa, x.exponent)

/-! ## Quotients -/

/-- A quotient of natural numbers. -/
structure Ratio where
  /-- The numerator. -/
  num : Nat
  /-- The denominator. -/
  den : Nat
deriving DecidableEq, Repr

/-- `n · 2^e` as a quotient. -/
def Ratio.scaled (n : Nat) (e : Int) : Ratio :=
  if 0 ≤ e then ⟨n * Nat.pow 2 e.toNat, 1⟩ else ⟨n, Nat.pow 2 (-e).toNat⟩

/-- `n · 10^e` as a quotient. -/
def Ratio.decimal (n : Nat) (e : Int) : Ratio :=
  if 0 ≤ e then ⟨n * Nat.pow 10 e.toNat, 1⟩ else ⟨n, Nat.pow 10 (-e).toNat⟩

/-- The product of two quotients. -/
def Ratio.mul (a b : Ratio) : Ratio := ⟨a.num * b.num, a.den * b.den⟩

/-- The quotient of two quotients. -/
def Ratio.div (a b : Ratio) : Ratio := ⟨a.num * b.den, a.den * b.num⟩

/-- Whether a quotient is below a natural number. -/
def Ratio.isBelow (a : Ratio) (n : Nat) : Bool := a.num < n * a.den

/-- A quotient rounded to the nearest natural number, a tie going to the even
one. -/
def roundDiv (num den : Nat) : Nat :=
  let q := num / den
  let r := num % den
  if 2 * r < den then q
  else if den < 2 * r then q + 1
  else q + q % 2

/-- A quotient rounded to the nearest natural number, a tie going up. -/
def roundDivUp (num den : Nat) : Nat := (2 * num + den) / (2 * den)

theorem roundDiv_mul (n : Nat) {den : Nat} (h : 0 < den) : roundDiv (n * den) den = n := by
  simp [roundDiv, Nat.mul_div_cancel _ h, h]

/-! ## Rounding into a format -/

/-- The exponent of the greatest power of two that a positive quotient reaches. -/
def Ratio.floorLog2 (a : Ratio) : Int :=
  let k : Int := (Nat.log2 a.num : Int) - (Nat.log2 a.den : Int)
  if 0 ≤ k then
    if a.den * Nat.pow 2 k.toNat ≤ a.num then k else k - 1
  else
    if a.den ≤ a.num * Nat.pow 2 (-k).toNat then k else k - 1

/-- The quotient divided by `2^e`, rounded to the nearest natural number. -/
def Ratio.roundAt (a : Ratio) (e : Int) : Nat :=
  if 0 ≤ e then roundDiv a.num (a.den * Nat.pow 2 e.toNat)
  else roundDiv (a.num * Nat.pow 2 (-e).toNat) a.den

/-- The mantissa and the exponent that a quotient rounds to when exponents have
no upper limit. -/
def Format.roundedParts (f : Format) (a : Ratio) : Nat × Int :=
  if a.num = 0 then (0, f.minExp)
  else
    let e := max f.minExp (a.floorLog2 - f.precision + 1)
    let m := a.roundAt e
    if m = Nat.pow 2 f.precision then (Nat.pow 2 (f.precision - 1), e + 1) else (m, e)

namespace Binary

variable {f : Format}

/-- The number nearest to `±num/den`, or `none` beyond the largest number. -/
def ofRatio? (f : Format) (negative : Bool) (a : Ratio) : Option (Binary f) :=
  let parts := f.roundedParts a
  if h : f.Canonical parts.1 parts.2 then some ⟨negative, parts.1, parts.2, h⟩ else none

/-- The magnitude as a quotient. -/
def magnitude (x : Binary f) : Ratio := Ratio.scaled x.mantissa x.exponent

/-- Whether the number is one of the two zeros. -/
def isZero (x : Binary f) : Bool := x.mantissa == 0

/-- The product of two numbers, rounded once. -/
def mul? (x y : Binary f) : Option (Binary f) :=
  ofRatio? f (x.negative != y.negative) (x.magnitude.mul y.magnitude)

/-- The quotient of two numbers, rounded once. -/
def div? (x y : Binary f) : Option (Binary f) :=
  ofRatio? f (x.negative != y.negative) (x.magnitude.div y.magnitude)

/-- The number in another format, rounded there. -/
def convert? (g : Format) (x : Binary f) : Option (Binary g) :=
  ofRatio? g x.negative x.magnitude

/-- The number nearest to an integer. -/
def ofInt? (f : Format) (i : Int) : Option (Binary f) :=
  ofRatio? f (i < 0) ⟨i.natAbs, 1⟩

/-- The nearest integer, a tie going away from zero. -/
def roundAway (x : Binary f) : Int :=
  let a := x.magnitude
  let n : Int := roundDivUp a.num a.den
  if x.negative then -n else n

/-- Whether the magnitude of the first is at most that of the second. -/
def magnitudeLe (x y : Binary f) : Bool :=
  x.exponent < y.exponent || (x.exponent == y.exponent && x.mantissa ≤ y.mantissa)

/-- The total order of numbers, with minus zero below zero. -/
def totalLe (x y : Binary f) : Bool :=
  match x.negative, y.negative with
  | true, false => true
  | false, true => false
  | false, false => magnitudeLe x y
  | true, true => magnitudeLe y x

theorem totalLe_total (x y : Binary f) : totalLe x y = true ∨ totalLe y x = true := by
  simp only [totalLe, magnitudeLe]
  cases x.negative <;> cases y.negative <;> simp <;> omega

end Binary

/-! ## Numbers with infinities -/

/-- A number of a format, an infinity, or no number at all. -/
inductive Extended (f : Format) where
  /-- A finite number. -/
  | finite (x : Binary f)
  /-- An infinity with its sign. -/
  | infinite (negative : Bool)
  /-- Not a number. -/
  | nan
deriving DecidableEq

/-- The number nearest to `±num/den`, an infinity beyond the largest number. -/
def Extended.ofRatio (f : Format) (negative : Bool) (a : Ratio) : Extended f :=
  match Binary.ofRatio? f negative a with
  | some x => .finite x
  | none => .infinite negative

/-- A finite number in another format. -/
def Binary.toExtended {f : Format} (g : Format) (x : Binary f) : Extended g :=
  .ofRatio g x.negative x.magnitude

/-! ## Tests -/

example : roundDiv 5 2 = 2 ∧ roundDiv 7 2 = 4 ∧ roundDivUp 5 2 = 3 := by decide
example : (Binary.ofRatio? single false ⟨95, 100⟩).map (fun x => (x.mantissa, x.exponent))
    = some (15938355, -24) := by decide +kernel
example : (Binary.ofRatio? double false ⟨1, 3⟩).map (fun x => (x.mantissa, x.exponent))
    = some (6004799503160661, -54) := by decide +kernel
example : Binary.ofRatio? single false ⟨2 ^ 128, 1⟩ = none := by decide +kernel

end UiReplay.Number
