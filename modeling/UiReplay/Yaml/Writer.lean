import UiReplay.Json.Value
import UiReplay.Yaml.Value
import UiReplay.Text.Quoted

/-!
# Writing YAML

A document is written in block style.  The items of a list stand at the indentation of
its key, each after a hyphen, and an empty list or map is `[]` or `{}`.

A text is written plainly when it reads back as itself.  It stands between single quotes
when its looks are those of something else or when a mark in it would be misread, and
between double quotes when it has a character that is not printable.  A text with a line
feed is written as a block of lines, unless it ends in a space, has a space before a
break, or has a character that is not printable.

A key of more than 128 octets, or with a line break, is marked as a key and stands on a
line of its own.

Writing gives the characters and whether they end a line.
-/

namespace UiReplay.Yaml

/-! ## What a text allows -/

/-- A character that is written as it is. -/
def isPrintable (c : Char) : Bool :=
  let n := c.toNat
  n == 10 || (0x20 ≤ n && n ≤ 0x7E) || (0xA0 ≤ n && n ≤ 0xFFFD && n != 0xFEFF) || 0x10000 ≤ n

/-- A blank, a break or the end. -/
def isGap : Option Char → Bool
  | some c => isBlank c || isBreak c
  | none => true

/-- A mark that a plain text cannot start with. -/
def isOpeningMark (c : Char) : Bool := "#,[]\x7b\x7d&*!|>'\"%@\x60".toList.contains c

/-- Whether the first character is a mark that would be misread. -/
def startMisread (c : Char) (next : Option Char) : Bool :=
  isOpeningMark c || ((c == '?' || c == ':' || c == '-') && isGap next)

/-- Whether a later character is a mark that would be misread. -/
def restMisread : Option Char → List Char → Bool
  | _, [] => false
  | before, c :: rest =>
      (c == ':' && isGap rest.head?) || (c == '#' && isGap before) || restMisread (some c) rest

/-- Whether a mark in a text would be misread in block style. -/
def isMisread (cs : List Char) : Bool :=
  match cs with
  | [] => false
  | c :: rest =>
      cs.take 3 == "---".toList || cs.take 3 == "...".toList || startMisread c rest.head? ||
        restMisread (some c) rest

/-- Whether somewhere a character of the first kind comes right before one of the
second. -/
def hasPair (p q : Char → Bool) : List Char → Bool
  | a :: b :: rest => (p a && q b) || hasPair p q (b :: rest)
  | _ => false

/-- Whether the first or the last character has a property. -/
def hasEnd (p : Char → Bool) (cs : List Char) : Bool := cs.head?.any p || cs.getLast?.any p

/-- A space. -/
def isSpace (c : Char) : Bool := c == ' '

/-- Whether a text has a character or a gap that only double quotes keep. -/
def needsDouble (cs : List Char) : Bool := cs.any (fun c => !isPrintable c) || hasPair isSpace isBreak cs

/-- Whether a text may be written plainly. -/
def allowsPlain (cs : List Char) : Bool :=
  !needsDouble cs && !cs.any isBreak && !hasEnd isSpace cs && !isMisread cs

/-- Whether a text may stand between single quotes. -/
def allowsSingle (cs : List Char) : Bool := !needsDouble cs && !hasPair isBreak isSpace cs

/-- Whether a text may be written as a block. -/
def allowsBlock (cs : List Char) : Bool :=
  cs != [] && !needsDouble cs && !(cs.getLast?.any isSpace)

/-! ## Texts -/

/-- How a text is written. -/
inductive Style where
  /-- As it is. -/
  | plain
  /-- Between single quotes. -/
  | single
  /-- Between double quotes. -/
  | double
  /-- As a block of lines. -/
  | block
deriving DecidableEq, Repr

/-- How a text is written, as a key or not. -/
def styleOf (s : String) (asKey : Bool) : Style :=
  let cs := s.toList
  let quotes := if allowsSingle cs then Style.single else .double
  if cs.contains '\n' then
    if asKey || !allowsBlock cs then .double else .block
  else if asKey && cs.any isBreak then .double
  else if readsAsText s && !isPaddedDigits cs && allowsPlain cs then .plain
  else quotes

/-- The letter that stands for a character between double quotes. -/
def escapeLetter? (c : Char) : Option Char :=
  match c.toNat with
  | 0x00 => some '0'
  | 0x07 => some 'a'
  | 0x08 => some 'b'
  | 0x09 => some 't'
  | 0x0A => some 'n'
  | 0x0B => some 'v'
  | 0x0C => some 'f'
  | 0x0D => some 'r'
  | 0x1B => some 'e'
  | 0x22 => some '"'
  | 0x5C => some '\\'
  | 0x85 => some 'N'
  | 0xA0 => some '_'
  | 0x2028 => some 'L'
  | 0x2029 => some 'P'
  | _ => none

/-- Upper-case hexadecimal digits, padded to a width. -/
def upperHex (width n : Nat) : List Char := (Text.hexPadded width n).map Char.toUpper

/-- One character between double quotes. -/
def doubleChar (c : Char) : List Char :=
  if isPrintable c && !isBreak c && c != '"' && c != '\\' then [c]
  else
    match escapeLetter? c with
    | some e => ['\\', e]
    | none =>
        let n := c.toNat
        if n ≤ 0xFF then '\\' :: 'x' :: upperHex 2 n
        else if n ≤ 0xFFFF then '\\' :: 'u' :: upperHex 4 n
        else '\\' :: 'U' :: upperHex 8 n

/-- Spaces. -/
def spaces (n : Nat) : List Char := List.replicate n ' '

/-- A text between single quotes.  A line that follows a break is indented. -/
def singleChars (indent : Nat) : Bool → List Char → List Char
  | broken, [] => if broken then spaces indent else []
  | broken, c :: rest =>
      if isBreak c then c :: singleChars indent true rest
      else if isSpace c then c :: singleChars indent broken rest
      else
        (if broken then spaces indent else []) ++ (if c == '\'' then ['\'', '\''] else [c]) ++
          singleChars indent false rest

/-- The lines of a block, indented. -/
def blockChars (indent : Nat) : Bool → List Char → List Char
  | _, [] => []
  | broken, c :: rest =>
      if isBreak c then c :: blockChars indent true rest
      else (if broken then spaces indent else []) ++ c :: blockChars indent false rest

/-- What the header of a block says about its ends. -/
def blockHints (cs : List Char) : List Char :=
  let start := if cs.head?.any fun c => isSpace c || isBreak c then ['2'] else []
  let finish :=
    match cs.reverse with
    | [] => ['-']
    | [c] => if isBreak c then ['+'] else ['-']
    | c :: d :: _ => if !isBreak c then ['-'] else if isBreak d then ['+'] else []
  start ++ finish

/-- Written characters, whether they end a line, and whether they leave the end of a
block open. -/
structure Written where
  /-- The characters. -/
  chars : List Char
  /-- Whether a line was ended. -/
  endsLine : Bool := false
  /-- Whether the last scalar is a block that keeps its empty lines. -/
  isOpen : Bool := false

/-- A text in a style. -/
def writeStyled (indent : Nat) (s : String) : Style → Written
  | .plain => { chars := s.toList }
  | .single => { chars := '\'' :: singleChars indent false s.toList ++ ['\''] }
  | .double => { chars := '"' :: s.toList.flatMap doubleChar ++ ['"'] }
  | .block =>
      let cs := s.toList
      { chars := '|' :: blockHints cs ++ '\n' :: blockChars indent true cs
        endsLine := cs.getLast?.any isBreak
        isOpen := (blockHints cs).contains '+' }

/-- A text that is no key. -/
def writeText (indent : Nat) (s : String) : Written := writeStyled indent s (styleOf s false)

/-! ## Scalars -/

/-- The layout of numbers of 64 bits. -/
def doubleLayout : Number.Layout := ⟨-5, 15, true, false⟩

/-- The layout of numbers of 32 bits. -/
def singleLayout : Number.Layout := ⟨-6, 12, true, false⟩

/-- A scalar. -/
def writeScalar (indent : Nat) : Document → Written
  | .bool b => { chars := (if b then "true" else "false").toList }
  | .integer i => { chars := (Number.intText i).toList }
  | .double x => { chars := (x.text doubleLayout).toList }
  | .single x => { chars := (x.text singleLayout).toList }
  | .text s => writeText indent s
  | _ => { chars := "null".toList }

/-! ## Lists and maps -/

/-- Goes to the start of the next line at an indentation, if the line was not ended. -/
def Written.nextLine (w : Written) (indent : Nat) : List Char :=
  w.chars ++ (if w.endsLine then [] else ['\n']) ++ spaces indent

/-- Lines after one another at an indentation. -/
def stack (indent : Nat) : List Written → Written
  | [] => { chars := [] }
  | [w] => w
  | w :: rest =>
      let after := stack indent rest
      { after with chars := w.nextLine indent ++ after.chars }

/-- Characters in front. -/
def Written.after (before : List Char) (w : Written) : Written :=
  { w with chars := before ++ w.chars }

/-- Whether a key may stand on the line of its value. -/
def isSimpleKey (s : String) : Bool := s.utf8ByteSize ≤ 128 && !s.toList.any isBreak

mutual

/-- A document after the mark of a list item, or after the mark of a value that stands
on a line of its own, in a block at an indentation. -/
def writeItem (indent : Nat) : Document → Written
  | .list items =>
      if items.isEmpty then { chars := " []".toList }
      else (stack (indent + 2) (writeItems (indent + 2) items)).after [' ']
  | .record fields =>
      if fields.isEmpty then { chars := " \x7b\x7d".toList }
      else (stack (indent + 2) (writeFields (indent + 2) fields)).after [' ']
  | d => (writeScalar (indent + 2) d).after [' ']

/-- A document after its key, in a map at an indentation. -/
def writeValue (indent : Nat) : Document → Written
  | .list items =>
      if items.isEmpty then { chars := " []".toList }
      else (stack indent (writeItems indent items)).after ('\n' :: spaces indent)
  | .record fields =>
      if fields.isEmpty then { chars := " \x7b\x7d".toList }
      else (stack (indent + 2) (writeFields (indent + 2) fields)).after ('\n' :: spaces (indent + 2))
  | d => (writeScalar (indent + 2) d).after [' ']

/-- The items of a list at an indentation. -/
def writeItems (indent : Nat) : List Document → List Written
  | [] => []
  | d :: rest => (writeItem indent d).after ['-'] :: writeItems indent rest

/-- The fields of a map at an indentation. -/
def writeFields (indent : Nat) : List (String × Document) → List Written
  | [] => []
  | (k, d) :: rest =>
      (if isSimpleKey k then
        (writeValue indent d).after ((writeStyled (indent + 2) k (styleOf k true)).chars ++ [':'])
      else
        let key := (writeText (indent + 2) k).after ['?', ' ']
        (writeItem indent d).after (key.nextLine indent ++ [':'])) :: writeFields indent rest

end

/-- The whole text of a document.  A block that keeps its empty lines at the end is
closed by a mark. -/
def write (d : Document) : String :=
  let body : Written := match d with
    | .list items => if items.isEmpty then { chars := "[]".toList } else stack 0 (writeItems 0 items)
    | .record fields =>
        if fields.isEmpty then { chars := "\x7b\x7d".toList } else stack 0 (writeFields 0 fields)
    | d => writeScalar 0 d
  String.ofList (body.nextLine 0 ++ (if body.isOpen then "...\n".toList else []))

end UiReplay.Yaml
