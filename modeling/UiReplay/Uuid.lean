import UiReplay.Json.Decoding

/-!
# Identifiers

An identifier is a number of 128 bits.  It is written as thirty two hexadecimal
digits in lower case, in groups of 8, 4, 4, 4 and 12 with hyphens between.  It is
read from that form, from the bare digits, from the grouped form in braces, and
from the grouped form after `urn:uuid:`, the digits in either case.

New identifiers come from a supply.  A supply has a seed and a count.  Each
identifier has the version bits of a random one, the seed in its upper part and
the last 62 bits of the count in its lower part.
-/

namespace UiReplay

/-- An identifier of 128 bits. -/
structure Uuid where
  /-- The bits. -/
  bits : BitVec 128
deriving DecidableEq, Repr

namespace Uuid

/-! ## Text -/

/-- The groups of digits, from left to right. -/
def groups (ds : List Char) : List (List Char) :=
  [ds.take 8, (ds.drop 8).take 4, (ds.drop 12).take 4, (ds.drop 16).take 4, ds.drop 20]

/-- The thirty two digits. -/
def digits (u : Uuid) : List Char := Text.hexPadded 32 u.bits.toNat

/-- The grouped form. -/
def text (u : Uuid) : String := String.ofList (['-'].intercalate (groups u.digits))

/-- The value of a hexadecimal digit in either case. -/
def digitValue? (c : Char) : Option Nat :=
  let c := c.toLower
  if c.isDigit then some (c.toNat - '0'.toNat)
  else if 'a' ≤ c ∧ c ≤ 'f' then some (c.toNat - 'a'.toNat + 10)
  else none

/-- The number that hexadecimal digits write. -/
def readDigits? (cs : List Char) : Option Nat :=
  cs.foldl (fun n c => n.bind fun n => (digitValue? c).map (16 * n + ·)) (some 0)

/-- The bare form. -/
def readBare? (cs : List Char) : Option Uuid :=
  if cs.length = 32 then (readDigits? cs).map fun n => ⟨BitVec.ofNat 128 n⟩ else none

/-- The grouped form. -/
def readGrouped? (cs : List Char) : Option Uuid :=
  if cs.length = 36 ∧ [8, 13, 18, 23].all (fun i => cs[i]? == some '-') then
    readBare? (cs.take 8 ++ (cs.drop 9).take 4 ++ (cs.drop 14).take 4 ++ (cs.drop 19).take 4 ++
      cs.drop 24)
  else none

/-- What stands before the grouped form in a resource name. -/
def urnStart : List Char := "urn:uuid:".toList

/-- An identifier in any of its forms. -/
def read? (s : String) : Option Uuid :=
  let cs := s.toList
  if cs.length = 32 then readBare? cs
  else if cs.length = 36 then readGrouped? cs
  else if cs.length = 38 ∧ cs.head? = some '\x7b' ∧ cs.getLast? = some '\x7d' then
    readGrouped? ((cs.drop 1).take 36)
  else if cs.length = 45 ∧ urnStart.isPrefixOf cs then readGrouped? (cs.drop 9)
  else none

/-- An identifier in a document. -/
def decode : Decoder Uuid
  | .text s =>
      match read? s with
      | some u => .ok u
      | none => .error (.refused "UUID parsing failed")
  | d => .error (d.mismatch "a formatted UUID string")

end Uuid

/-! ## Supplies -/

/-- A source of new identifiers. -/
structure IdSupply where
  /-- The upper part of every identifier. -/
  seed : Nat
  /-- How many identifiers were given. -/
  given : Nat
deriving DecidableEq, Repr

namespace IdSupply

/-- The identifier that a supply gives next. -/
def next (s : IdSupply) : Uuid :=
  ⟨BitVec.ofNat 48 (s.seed >>> 12) ++ 4#4 ++ BitVec.ofNat 12 s.seed ++ 2#2 ++ BitVec.ofNat 62 s.given⟩

/-- A computation that may take identifiers from a supply. -/
abbrev With (α : Type) := StateM IdSupply α

/-- Takes an identifier. -/
def fresh : With Uuid := fun s => (s.next, { s with given := s.given + 1 })

end IdSupply

/-! ## Tests -/

example : (Uuid.read? "urn:uuid:00000014-0000-4000-8000-000000026AAC").map Uuid.text
    = some "00000014-0000-4000-8000-000000026aac" := by decide +kernel
example : Uuid.read? "00000014-0000-4000-8000-00000002" = none := by decide +kernel

end UiReplay
