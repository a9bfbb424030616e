import UiReplay.Json.Value
import UiReplay.Number.Shortest
import UiReplay.Number.Reading

/-!
# Reading JSON text

A text is cut into tokens, and the tokens are put together to a document.  The
grammar is strict: blanks are the space, the tab and the two line controls, no
comma stands at the end of a list, and nothing follows the document.

Three things follow the grammar and have no value.  They become
`Document.unreadable` where they stand, and with them a record that has such a
name.

* A text with half of a surrogate pair.
* A number beyond the range of the 64-bit format.
* A list or record at the hundred and twenty eighth level or deeper.

A number without point and exponent is an integer if it fits 64 bits, with or
without a sign.  Minus zero is not an integer.  Every other number is read as
follows.  The digits are gathered into a significand of 64 bits until the next
one does not fit.  The rest only counts for the magnitude.  The significand is
rounded to a number, and that is multiplied or divided by a power of ten, which
is itself rounded.  So a number with many digits can be one unit away from the
nearest one.
-/

namespace UiReplay.Json

open Number (Binary)

/-! ## Numbers -/

/-- A number as it is written. -/
structure Literal where
  /-- Whether a minus sign stands in front. -/
  negative : Bool
  /-- The digits before the point. -/
  whole : List Char
  /-- The digits after the point, if there is one. -/
  fraction : Option (List Char)
  /-- The sign of the exponent and its digits, if there is one. -/
  exponent : Option (Bool × List Char)

/-- Gathers digits into a significand while it stays within 64 bits. -/
def gather : Nat → List Char → Nat × List Char
  | sig, [] => (sig, [])
  | sig, c :: cs =>
      let next := 10 * sig + Number.digitValue c
      if next < Number.wordLimit64 then gather next cs else (sig, c :: cs)

/-- The rounded power of ten, for exponents up to 308. -/
def powerOfTen? (e : Nat) : Option (Binary Number.double) :=
  Binary.ofRatio? Number.double false (Number.Ratio.decimal 1 e)

/-- A number times a power of ten, the power taken in pieces of at most `10^308`. -/
def scale? : Nat → Binary Number.double → Int → Option (Binary Number.double)
  | 0, x, _ => some x
  | fuel + 1, x, e =>
      if e.natAbs ≤ 308 then
        (powerOfTen? e.natAbs).bind fun p => if 0 ≤ e then x.mul? p else x.div? p
      else if x.isZero then some x
      else if 0 ≤ e then none
      else ((powerOfTen? 308).bind x.div?).bind fun y => scale? fuel y (e + 308)

/-- A significand and an exponent of ten as a number. -/
def ofParts (negative : Bool) (sig : Nat) (e : Int) : Document :=
  match (Binary.ofInt? Number.double sig).bind fun x => scale? 4 x e with
  | some x => .double { x with negative := negative }
  | none => .unreadable

/-- The greatest exponent whose digits are computed with. -/
def exponentLimit : Nat := 2147483647

/-- The value of a number. -/
def Literal.document (l : Literal) : Document :=
  let (sig, unread) := gather 0 l.whole
  match l.fraction, l.exponent with
  | none, none =>
      if unread = [] ∧ (if l.negative then 0 < sig ∧ sig ≤ 9223372036854775808 else True) then
        .integer (if l.negative then -(sig : Int) else sig)
      else ofParts l.negative sig unread.length
  | fraction, exponent =>
      let ds := fraction.getD []
      let (sig', dropped) := gather sig ds
      let e : Int := (unread.length : Int) - ((ds.length - dropped.length : Nat) : Int)
      match exponent with
      | none => ofParts l.negative sig' e
      | some (minus, places) =>
          let n := Number.ofDigits places
          if exponentLimit < n then
            if sig' = 0 ∨ minus then ofParts l.negative 0 0 else .unreadable
          else ofParts l.negative sig' (if minus then e - n else e + n)

/-- Digits at the start of a list, at least one. -/
def takeDigits? (cs : List Char) : Option (List Char × List Char) :=
  let ds := cs.takeWhile Char.isDigit
  if ds = [] then none else some (ds, cs.dropWhile Char.isDigit)

/-- The digits before the point: a zero stands alone. -/
def takeWhole? : List Char → Option (List Char × List Char)
  | '0' :: cs =>
      match cs with
      | c :: _ => if c.isDigit then none else some (['0'], cs)
      | [] => some (['0'], cs)
  | cs => takeDigits? cs

/-- The exponent, after its letter. -/
def takeExponent? : List Char → Option ((Bool × List Char) × List Char)
  | '-' :: cs => (takeDigits? cs).map fun (ds, rest) => ((true, ds), rest)
  | '+' :: cs => (takeDigits? cs).map fun (ds, rest) => ((false, ds), rest)
  | cs => (takeDigits? cs).map fun (ds, rest) => ((false, ds), rest)

/-- A number at the start of a list. -/
def takeNumber? (cs : List Char) : Option (Literal × List Char) := do
  let (negative, cs) := match cs with
    | '-' :: rest => (true, rest)
    | rest => (false, rest)
  let (whole, cs) ← takeWhole? cs
  let (fraction, cs) ← match cs with
    | '.' :: rest => (takeDigits? rest).map fun (ds, rest) => (some ds, rest)
    | rest => some (none, rest)
  let (exponent, cs) ← match cs with
    | 'e' :: rest => (takeExponent? rest).map fun (e, rest) => (some e, rest)
    | 'E' :: rest => (takeExponent? rest).map fun (e, rest) => (some e, rest)
    | rest => some (none, rest)
  return (⟨negative, whole, fraction, exponent⟩, cs)

/-! ## Texts -/

/-- A piece of a text: a character, or a code unit written in hexadecimal. -/
inductive Piece where
  /-- A character as it stands. -/
  | char (c : Char)
  /-- A code unit of 16 bits. -/
  | unit (n : Nat)

/-- The value of a hexadecimal digit. -/
def hexValue? (c : Char) : Option Nat :=
  if c.isDigit then some (c.toNat - '0'.toNat)
  else if 'a' ≤ c ∧ c ≤ 'f' then some (c.toNat - 'a'.toNat + 10)
  else if 'A' ≤ c ∧ c ≤ 'F' then some (c.toNat - 'A'.toNat + 10)
  else none

/-- Four hexadecimal digits as a number. -/
def hexUnit? (a b c d : Char) : Option Nat := do
  let a ← hexValue? a
  let b ← hexValue? b
  let c ← hexValue? c
  let d ← hexValue? d
  return ((a * 16 + b) * 16 + c) * 16 + d

/-- The character that a backslash and a letter stand for. -/
def simpleEscape? : Char → Option Char
  | '"' => some '"'
  | '\\' => some '\\'
  | '/' => some '/'
  | 'b' => some '\x08'
  | 'f' => some '\x0c'
  | 'n' => some '\n'
  | 'r' => some '\r'
  | 't' => some '\t'
  | _ => none

/-- The pieces of a text up to its closing quote, and what follows. -/
def takePieces? : List Char → Option (List Piece × List Char)
  | [] => none
  | '"' :: rest => some ([], rest)
  | '\\' :: 'u' :: a :: b :: c :: d :: rest =>
      match hexUnit? a b c d, takePieces? rest with
      | some n, some (ps, rest) => some (.unit n :: ps, rest)
      | _, _ => none
  | '\\' :: c :: rest =>
      match simpleEscape? c, takePieces? rest with
      | some e, some (ps, rest) => some (.char e :: ps, rest)
      | _, _ => none
  | c :: rest =>
      if c = '\\' || c.toNat < 0x20 then none
      else (takePieces? rest).map fun (ps, rest) => (.char c :: ps, rest)

/-- Whether a code unit is the first half of a surrogate pair. -/
def isHighSurrogate (n : Nat) : Bool := 0xD800 ≤ n && n ≤ 0xDBFF

/-- Whether a code unit is the second half of a surrogate pair. -/
def isLowSurrogate (n : Nat) : Bool := 0xDC00 ≤ n && n ≤ 0xDFFF

/-- The characters of the pieces, `none` when half of a pair stands alone. -/
def joinPieces? : List Piece → Option (List Char)
  | [] => some []
  | .char c :: ps => (joinPieces? ps).map (c :: ·)
  | .unit hi :: .unit lo :: ps =>
      if isHighSurrogate hi then
        if isLowSurrogate lo then
          (joinPieces? ps).map (Char.ofNat (0x10000 + (hi - 0xD800) * 0x400 + (lo - 0xDC00)) :: ·)
        else none
      else if isLowSurrogate hi then none
      else (joinPieces? (.unit lo :: ps)).map (Char.ofNat hi :: ·)
  | .unit n :: ps =>
      if isHighSurrogate n || isLowSurrogate n then none
      else (joinPieces? ps).map (Char.ofNat n :: ·)

/-! ## Tokens -/

/-- A token of a JSON text. -/
inductive Token where
  /-- The start of a record. -/
  | openRecord
  /-- The end of a record. -/
  | closeRecord
  /-- The start of a list. -/
  | openList
  /-- The end of a list. -/
  | closeList
  /-- What stands between a name and its value. -/
  | colon
  /-- What stands between two parts. -/
  | comma
  /-- A text, `none` when it has no value. -/
  | text (s : Option String)
  /-- A number, a truth value or `null`. -/
  | leaf (d : Document)

/-- Whether a character may stand between tokens. -/
def isGap (c : Char) : Bool := c == ' ' || c == '\n' || c == '\t' || c == '\r'

/-- The token at the start of a list that does not start with a gap. -/
def takeToken? : List Char → Option (Token × List Char)
  | '\x7b' :: rest => some (.openRecord, rest)
  | '\x7d' :: rest => some (.closeRecord, rest)
  | '[' :: rest => some (.openList, rest)
  | ']' :: rest => some (.closeList, rest)
  | ':' :: rest => some (.colon, rest)
  | ',' :: rest => some (.comma, rest)
  | 'n' :: 'u' :: 'l' :: 'l' :: rest => some (.leaf .null, rest)
  | 't' :: 'r' :: 'u' :: 'e' :: rest => some (.leaf (.bool true), rest)
  | 'f' :: 'a' :: 'l' :: 's' :: 'e' :: rest => some (.leaf (.bool false), rest)
  | '"' :: rest =>
      (takePieces? rest).map fun (ps, rest) => (.text ((joinPieces? ps).map String.ofList), rest)
  | cs => (takeNumber? cs).map fun (l, rest) => (.leaf l.document, rest)

/-- The tokens of a text.  Each takes at least one character, so the length of the
text bounds their number. -/
def tokens? : Nat → List Char → Option (List Token)
  | 0, cs => if cs.dropWhile isGap = [] then some [] else none
  | fuel + 1, cs =>
      match cs.dropWhile isGap with
      | [] => some []
      | c :: rest =>
          match takeToken? (c :: rest) with
          | some (t, rest) => (tokens? fuel rest).map (t :: ·)
          | none => none

/-! ## Documents -/

/-- The greatest level of a list or record that has a value. -/
def levelLimit : Nat := 127

/-- A list or record at a level, unreadable beyond the limit. -/
def atLevel (level : Nat) (d : Document) : Document :=
  if level ≤ levelLimit then d else .unreadable

/-- Fields as a record, unreadable when a name has no value. -/
def ofFields (fields : List (Option String × Document)) : Document :=
  match fields.mapM fun f => f.1.map (·, f.2) with
  | some fs => .record fs
  | none => .unreadable

mutual

/-- The document at the start of the tokens, standing inside `level` lists and
records.  The number of tokens bounds the recursion. -/
def takeDocument? : Nat → Nat → List Token → Option (Document × List Token)
  | 0, _, _ => none
  | fuel + 1, level, ts =>
      match ts with
      | .leaf d :: rest => some (d, rest)
      | .text s :: rest => some ((s.map Document.text).getD .unreadable, rest)
      | .openList :: .closeList :: rest => some (atLevel (level + 1) (.list []), rest)
      | .openList :: rest =>
          (takeItems? fuel (level + 1) rest).map fun (ds, rest) =>
            (atLevel (level + 1) (.list ds), rest)
      | .openRecord :: .closeRecord :: rest => some (atLevel (level + 1) (.record []), rest)
      | .openRecord :: rest =>
          (takeFields? fuel (level + 1) rest).map fun (fs, rest) =>
            (atLevel (level + 1) (ofFields fs), rest)
      | _ => none

/-- The items of a list up to its end. -/
def takeItems? : Nat → Nat → List Token → Option (List Document × List Token)
  | 0, _, _ => none
  | fuel + 1, level, ts =>
      match takeDocument? fuel level ts with
      | some (d, .closeList :: rest) => some ([d], rest)
      | some (d, .comma :: rest) => (takeItems? fuel level rest).map fun (ds, rest) => (d :: ds, rest)
      | _ => none

/-- The fields of a record up to its end. -/
def takeFields? : Nat → Nat → List Token →
    Option (List (Option String × Document) × List Token)
  | 0, _, _ => none
  | fuel + 1, level, ts =>
      match ts with
      | .text name :: .colon :: rest =>
          match takeDocument? fuel level rest with
          | some (d, .closeRecord :: rest) => some ([(name, d)], rest)
          | some (d, .comma :: rest) =>
              (takeFields? fuel level rest).map fun (fs, rest) => ((name, d) :: fs, rest)
          | _ => none
      | _ => none

end

/-- The document that a text writes, `none` when it does not follow the grammar. -/
def read? (s : String) : Option Document :=
  let cs := s.toList
  match tokens? cs.length cs with
  | some ts =>
      match takeDocument? (2 * ts.length + 1) 0 ts with
      | some (d, []) => some d
      | _ => none
  | none => none

/-- The value that a text writes. -/
def parse? (s : String) : Option Json := (read? s).bind Document.value?

end UiReplay.Json
