/-!
# Places in a YAML text

A `Cursor` is what is left of a text together with the place where it starts: how
many characters, lines and columns come before.  Blanks are the space and the tab.
Line breaks are the two ASCII controls, alone or as a pair, and U+0085, U+2028 and
U+2029.  The first four count as a line feed in what is read, the other two stay.

Only some characters may stand in a text at all (`isAllowed`).
-/

namespace UiReplay.Yaml

/-- A space or a tab. -/
def isBlank (c : Char) : Bool := c == ' ' || c == '\t'

/-- A character that ends a line. -/
def isBreak (c : Char) : Bool :=
  c == '\r' || c == '\n' || c == '\u0085' || c == '\u2028' || c == '\u2029'

/-- A letter, a digit, a hyphen or an underscore of ASCII. -/
def isWordChar (c : Char) : Bool := c.isAlphanum || c == '_' || c == '-'

/-- A character that may stand in a text. -/
def isAllowed (c : Char) : Bool :=
  let n := c.toNat
  n == 9 || n == 10 || n == 13 || (0x20 ≤ n && n ≤ 0x7E) || n == 0x85 ||
    (0xA0 ≤ n && n ≤ 0xFFFD && n != 0xFEFF) || 0x10000 ≤ n

/-- A place in a text. -/
structure Cursor where
  /-- What follows. -/
  rest : List Char
  /-- How many characters come before. -/
  index : Nat := 0
  /-- How many lines come before. -/
  line : Nat := 0
  /-- How many characters of the line come before. -/
  column : Nat := 0

namespace Cursor

/-- Whether the text ends here. -/
def isEnd (c : Cursor) : Bool := c.rest.isEmpty

/-- Whether the character some places ahead has a property. -/
def hasAt (c : Cursor) (n : Nat) (p : Char → Bool) : Bool :=
  match c.rest[n]? with
  | some x => p x
  | none => false

/-- Whether a character stands here. -/
def has (c : Cursor) (x : Char) : Bool := c.hasAt 0 (· == x)

/-- A blank, a break or the end some places ahead. -/
def gapAt (c : Cursor) (n : Nat) : Bool :=
  match c.rest[n]? with
  | some x => isBlank x || isBreak x
  | none => true

/-- A break or the end here. -/
def lineEnds (c : Cursor) : Bool := c.isEnd || c.hasAt 0 isBreak

/-- The place some characters ahead on the same line. -/
def skip (c : Cursor) (n : Nat) : Cursor :=
  { c with rest := c.rest.drop n, index := c.index + n, column := c.column + n }

/-- The place after the line break that stands here, with what the break reads as. -/
def takeBreak (c : Cursor) : List Char × Cursor :=
  let next := fun (n : Nat) =>
    ({ rest := c.rest.drop n, index := c.index + n, line := c.line + 1, column := 0 } : Cursor)
  match c.rest with
  | '\r' :: '\n' :: _ => (['\n'], next 2)
  | x :: _ =>
      if x == '\u2028' || x == '\u2029' then ([x], next 1)
      else if isBreak x then (['\n'], next 1)
      else ([], c)
  | [] => ([], c)

/-- The place after the line break that stands here. -/
def skipBreak (c : Cursor) : Cursor := c.takeBreak.2

/-- The place after all characters with a property. -/
def skipWhile (c : Cursor) (p : Char → Bool) : Cursor := c.skip (c.rest.takeWhile p).length

/-- The characters with a property that stand here. -/
def takeWhile (c : Cursor) (p : Char → Bool) : List Char := c.rest.takeWhile p

/-- The place at the end of the line, if nothing but blanks and a comment comes
before it. -/
def restOfLine? (c : Cursor) : Option Cursor :=
  let c := c.skipWhile isBlank
  let c := if c.has '#' then c.skipWhile (fun x => !isBreak x) else c
  if c.lineEnds then some c else none

/-- Whether a line starts here with three marks that bound a document. -/
def atMark (c : Cursor) (x : Char) : Bool :=
  c.column == 0 && c.rest.take 3 == [x, x, x] && c.gapAt 3

/-- Whether a document starts or ends here. -/
def atDocumentMark (c : Cursor) : Bool := c.atMark '-' || c.atMark '.'

end Cursor

end UiReplay.Yaml
