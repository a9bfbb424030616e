import UiReplay.Number.Binary

/-!
# Reading numbers from text

An integer is an optional sign and at least one digit, and it must lie in the
range asked for.  A natural number takes no minus sign.

A decimal is an optional sign and digits with at most one point and an optional
exponent, with a digit before or after the point.  It is rounded once, to the
nearest number of the format.  Far exponents are decided without computing the
power: beyond four hundred places a number is infinite or zero.

The words `inf`, `infinity` and `nan` are read in any case.
-/

namespace UiReplay.Number

/-! ## Digits and integers -/

/-- The value of a digit. -/
def digitValue (c : Char) : Nat := c.toNat - '0'.toNat

/-- The number that a list of digits writes, continuing from `acc`. -/
def ofDigitsFrom (acc : Nat) (cs : List Char) : Nat :=
  cs.foldl (fun n c => 10 * n + digitValue c) acc

/-- The number that a list of digits writes. -/
def ofDigits (cs : List Char) : Nat := ofDigitsFrom 0 cs

/-- At least one digit, and nothing else. -/
def readDigits? (cs : List Char) : Option Nat :=
  if cs ≠ [] ∧ cs.all Char.isDigit then some (ofDigits cs) else none

/-- An integer: an optional sign and digits. -/
def readInt? : List Char → Option Int
  | '-' :: cs => (readDigits? cs).map fun n => -(n : Int)
  | '+' :: cs => (readDigits? cs).map Int.ofNat
  | cs => (readDigits? cs).map Int.ofNat

/-- A natural number: an optional plus sign and digits. -/
def readNat? : List Char → Option Nat
  | '+' :: cs => readDigits? cs
  | cs => readDigits? cs

/-- Whether an integer has 32 bits with sign. -/
def fitsInt32 (i : Int) : Bool := -2147483648 ≤ i && i ≤ 2147483647

/-- Whether an integer has 64 bits with sign. -/
def fitsInt64 (i : Int) : Bool := -9223372036854775808 ≤ i && i ≤ 9223372036854775807

/-- One more than the greatest number of 32 bits. -/
def wordLimit32 : Nat := 4294967296

/-- One more than the greatest number of 64 bits. -/
def wordLimit64 : Nat := 18446744073709551616

/-! ## Decimals -/

/-- A decimal as read: digits and exponent of ten. -/
structure DecimalText where
  /-- The digits on both sides of the point, read as one number. -/
  digits : Nat
  /-- How many digits were written. -/
  width : Nat
  /-- The exponent of ten. -/
  exponent : Int

/-- An exponent: an optional sign and digits. -/
def readExponent? : List Char → Option Int := readInt?

/-- Digits with at most one point and an optional exponent, without a sign. -/
def readUnsigned? (cs : List Char) : Option DecimalText :=
  let whole := cs.takeWhile Char.isDigit
  let afterWhole := cs.dropWhile Char.isDigit
  let (frac, rest) := match afterWhole with
    | '.' :: r => (r.takeWhile Char.isDigit, r.dropWhile Char.isDigit)
    | r => ([], r)
  if whole = [] ∧ frac = [] then none
  else
    let ds := whole ++ frac
    let made := fun (e : Int) => some ⟨ofDigits ds, ds.length, e - frac.length⟩
    match rest with
    | [] => made 0
    | c :: r => if c = 'e' || c = 'E' then (readExponent? r).bind made else none

/-- The number of a format nearest to a decimal. -/
def DecimalText.round (f : Format) (negative : Bool) (d : DecimalText) : Extended f :=
  if d.digits = 0 then .ofRatio f negative ⟨0, 1⟩
  else if 400 < d.exponent then .infinite negative
  else if d.exponent + d.width < -400 then .ofRatio f negative ⟨0, 1⟩
  else .ofRatio f negative (Ratio.decimal d.digits d.exponent)

/-- A decimal, an infinity or `nan`, without a sign. -/
def readMagnitude? (f : Format) (negative : Bool) (cs : List Char) : Option (Extended f) :=
  let word := cs.map Char.toLower
  if word = "inf".toList ∨ word = "infinity".toList then some (.infinite negative)
  else if word = "nan".toList then some .nan
  else (readUnsigned? cs).map (DecimalText.round f negative)

/-- A number of a format from text. -/
def readExtended? (f : Format) : List Char → Option (Extended f)
  | '-' :: cs => readMagnitude? f true cs
  | '+' :: cs => readMagnitude? f false cs
  | cs => readMagnitude? f false cs

/-! ## Tests -/

example : readInt? "-12".toList = some (-12) ∧ readInt? "+5".toList = some 5
    ∧ readInt? "-".toList = none ∧ readInt? "1_0".toList = none := by decide
example : readNat? "-0".toList = none ∧ readNat? "+0".toList = some 0 := by decide
example : (readUnsigned? ".5e3".toList).map (fun d => (d.digits, d.exponent)) = some (5, 2) := by
  decide
example : (readUnsigned? ".".toList).isNone ∧ (readUnsigned? "1e".toList).isNone := by decide

end UiReplay.Number
