import UiReplay.Yaml.Scalar
import UiReplay.Text.Parts

/-!
# YAML tokens

A text is cut into tokens.  Besides the marks that stand in the text there are
tokens for what indentation means: the start of a list or map in block style, and
the end of either.

A map in block style is only known by the colon after its first key.  So each place
where a key may start is remembered, one for each level of flow style, together with
the number of tokens before it.  When a colon follows on the same line and within
1024 characters, the key token is put in before that place, and if the key is
indented deeper than the block around it, so is the start of a map.

A key that starts at the indentation of its block must be followed by a colon.
-/

namespace UiReplay.Yaml

/-- A token. -/
inductive Token where
  /-- The version of the format. -/
  | version (major minor : Nat)
  /-- A short form for the start of tags. -/
  | tagHandle (handle start : String)
  /-- The mark before a document. -/
  | documentStart
  /-- The mark after a document. -/
  | documentEnd
  /-- The start of a list in block style. -/
  | blockList
  /-- The start of a map in block style. -/
  | blockMap
  /-- The end of a list or map in block style. -/
  | blockEnd
  /-- The start of a list in flow style. -/
  | flowList
  /-- The end of a list in flow style. -/
  | flowListEnd
  /-- The start of a map in flow style. -/
  | flowMap
  /-- The end of a map in flow style. -/
  | flowMapEnd
  /-- The mark before an item in block style. -/
  | blockItem
  /-- The mark between items in flow style. -/
  | flowItem
  /-- What follows is a key. -/
  | key
  /-- What follows is a value. -/
  | value
  /-- A node that was named before. -/
  | alias (name : String)
  /-- A name for the node that follows. -/
  | anchor (name : String)
  /-- The tag of the node that follows. -/
  | tag (handle suffix : String)
  /-- A scalar, and whether it is written plainly. -/
  | scalar (text : String) (plain : Bool)
deriving DecidableEq, Repr

/-- A place where a key may have started. -/
structure KeyPlace where
  /-- How many tokens come before. -/
  position : Nat
  /-- How many characters come before. -/
  index : Nat
  /-- Its line. -/
  line : Nat
  /-- Its column. -/
  column : Nat
  /-- Whether a colon has to follow. -/
  required : Bool

/-- The state of cutting a text. -/
structure Scan where
  /-- What is left of the text. -/
  cursor : Cursor
  /-- The tokens so far. -/
  tokens : Array Token := #[]
  /-- The indentation of the block, minus one outside all blocks. -/
  indent : Int := -1
  /-- The indentations of the blocks around it, innermost first. -/
  outer : List Int := []
  /-- The places where a key may have started: that of this level of flow style, then
  those of the levels around it. -/
  keys : List (Option KeyPlace) := [none]
  /-- How many lists and maps in flow style are open. -/
  flowLevel : Nat := 0
  /-- Whether a key may start here. -/
  keyAllowed : Bool := true

namespace Scan

/-! ## Blanks, indentation and keys -/

/-- Whether a list or map in flow style is open. -/
def inFlow (s : Scan) : Bool := 0 < s.flowLevel

/-- Adds a token. -/
def push (s : Scan) (t : Token) : Scan := { s with tokens := s.tokens.push t }

/-- The state with the cursor moved. -/
def moveTo (s : Scan) (c : Cursor) : Scan := { s with cursor := c }

/-- Goes to the next token, over blanks, comments and line breaks.  A tab only counts
as a blank where no key may start. -/
def toNext : Nat → Scan → Scan
  | 0, s => s
  | fuel + 1, s =>
      let tabs := s.inFlow || !s.keyAllowed
      let c := s.cursor.skipWhile fun x => x == ' ' || (tabs && x == '\t')
      let c := if c.has '#' then c.skipWhile (fun x => !isBreak x) else c
      if c.hasAt 0 isBreak then
        toNext fuel { s with cursor := c.skipBreak, keyAllowed := s.keyAllowed || !s.inFlow }
      else s.moveTo c

/-- The innermost place where a key may have started. -/
def keyPlace? (s : Scan) : Option KeyPlace := s.keys.head?.join

/-- Sets the innermost place where a key may have started. -/
def setKey (s : Scan) (k : Option KeyPlace) : Scan := { s with keys := k :: s.keys.drop 1 }

/-- Forgets the innermost place, unless a colon had to follow. -/
def dropKey? (s : Scan) : Option Scan :=
  match s.keyPlace? with
  | some k => if k.required then none else some (s.setKey none)
  | none => some (s.setKey none)

/-- Whether a place is too far back for a key. -/
def isStale (s : Scan) (k : KeyPlace) : Bool :=
  k.line < s.cursor.line || k.index + 1024 < s.cursor.index

/-- Forgets all places that are too far back, unless a colon had to follow one. -/
def dropStale? (s : Scan) : Option Scan :=
  let stale := fun (k : Option KeyPlace) => match k with
    | some k => s.isStale k
    | none => false
  let needed := fun (k : Option KeyPlace) => match k with
    | some k => s.isStale k && k.required
    | none => false
  if s.keys.any needed then none
  else some { s with keys := s.keys.map fun k => if stale k then none else k }

/-- Remembers this place if a key may start here. -/
def saveKey? (s : Scan) : Option Scan :=
  if s.keyAllowed then
    (s.dropKey?).map fun s => s.setKey (some {
      position := s.tokens.size
      index := s.cursor.index
      line := s.cursor.line
      column := s.cursor.column
      required := !s.inFlow && s.indent == s.cursor.column })
  else some s

/-- Closes the blocks that are indented deeper than a column. -/
def unroll (column : Int) : Nat → Scan → Scan
  | 0, s => s
  | fuel + 1, s =>
      if column < s.indent then
        unroll column fuel { s.push .blockEnd with
          indent := s.outer.head?.getD (-1)
          outer := s.outer.drop 1 }
      else s

/-- Closes the blocks that are indented deeper than a column, outside flow style. -/
def unrollTo (s : Scan) (column : Int) : Scan :=
  if s.inFlow then s else unroll column (s.outer.length + 1) s

/-- Opens a block at a column that is deeper than the one around it, its token put in
at a position. -/
def rollTo (s : Scan) (column : Nat) (position : Nat) (t : Token) : Scan :=
  if !s.inFlow && s.indent < column then
    { s with
      tokens := s.tokens.insertIdxIfInBounds position t
      outer := s.indent :: s.outer
      indent := column }
  else s

/-! ## Single tokens -/

/-- A mark of one character. -/
def mark (s : Scan) (t : Token) : Scan := (s.moveTo (s.cursor.skip 1)).push t

/-- A mark between documents. -/
def documentMark? (s : Scan) (t : Token) : Option Scan := do
  let s ← (s.unrollTo (-1)).dropKey?
  return { (s.moveTo (s.cursor.skip 3)).push t with keyAllowed := false }

/-- The start of a list or map in flow style. -/
def flowStart? (s : Scan) (t : Token) : Option Scan := do
  let s ← s.saveKey?
  return { s.mark t with
    keys := none :: s.keys
    flowLevel := s.flowLevel + 1
    keyAllowed := true }

/-- The end of a list or map in flow style. -/
def flowEnd? (s : Scan) (t : Token) : Option Scan := do
  let s ← s.dropKey?
  let s := if s.inFlow then { s with flowLevel := s.flowLevel - 1, keys := s.keys.drop 1 } else s
  return { s.mark t with keyAllowed := false }

/-- The mark between items in flow style. -/
def flowItem? (s : Scan) : Option Scan := do
  let s ← s.dropKey?
  return { s.mark .flowItem with keyAllowed := true }

/-- The mark before an item in block style. -/
def blockItem? (s : Scan) : Option Scan := do
  if !s.inFlow && !s.keyAllowed then none
  else
    let s ← (s.rollTo s.cursor.column s.tokens.size .blockList).dropKey?
    return { s.mark .blockItem with keyAllowed := true }

/-- The mark before a key. -/
def key? (s : Scan) : Option Scan := do
  if !s.inFlow && !s.keyAllowed then none
  else
    let s ← (s.rollTo s.cursor.column s.tokens.size .blockMap).dropKey?
    return { s.mark .key with keyAllowed := !s.inFlow }

/-- The mark before a value. -/
def value? (s : Scan) : Option Scan :=
  match s.keyPlace? with
  | some k =>
      let s := { s with tokens := s.tokens.insertIdxIfInBounds k.position .key }
      let s := (s.rollTo k.column k.position .blockMap).setKey none
      some { s.mark .value with keyAllowed := false }
  | none =>
      if !s.inFlow && !s.keyAllowed then none
      else
        let s := s.rollTo s.cursor.column s.tokens.size .blockMap
        some { s.mark .value with keyAllowed := !s.inFlow }

/-- The name of an anchor or alias. -/
def named? (s : Scan) (made : String → Token) : Option Scan := do
  let s ← s.saveKey?
  let c := s.cursor.skip 1
  let name := c.takeWhile isWordChar
  let c := c.skip name.length
  let ends := c.gapAt 0 || c.hasAt 0 fun x =>
    x == '?' || x == ':' || x == ',' || x == ']' || x == '\x7d' || x == '%' || x == '@' || x == '\x60'
  if name = [] || !ends then none
  else return { (s.moveTo c).push (made (String.ofList name)) with keyAllowed := false }

/-! ## Tags -/

/-- A character of a tag.  Three of them only stand where the end is marked. -/
def isTagChar (marked : Bool) (c : Char) : Bool :=
  isWordChar c || ";/?:@&=+$.%!~*'()".toList.contains c || (marked && ",[]".toList.contains c)

/-- Octets written with percent signs turned into characters. -/
def unescape? (cs : List Char) : Option String :=
  let rec octets : List Char → Option (List UInt8)
    | [] => some []
    | '%' :: a :: b :: rest =>
        match Json.hexValue? a, Json.hexValue? b, octets rest with
        | some a, some b, some rest => some (UInt8.ofNat (16 * a + b) :: rest)
        | _, _, _ => none
    | c :: rest =>
        if c == '%' then none
        else (octets rest).map fun bs => (String.singleton c).toUTF8.toList ++ bs
  (octets cs).bind fun bs => String.fromUTF8? (ByteArray.mk bs.toArray)

/-- The start of a tag up to its second exclamation mark, or the first mark alone with
the word after it. -/
def takeHandle? (c : Cursor) : Option (String × Cursor) :=
  if c.has '!' then
    let word := (c.skip 1).takeWhile isWordChar
    let after := c.skip (word.length + 1)
    if after.has '!' then some (String.ofList ('!' :: word ++ ['!']), after.skip 1)
    else some (String.ofList ('!' :: word), after)
  else none

/-- The characters of a tag. -/
def takeTagText (marked : Bool) (c : Cursor) : Option (List Char × Cursor) :=
  let text := c.takeWhile (isTagChar marked)
  (unescape? text).map fun s => (s.toList, c.skip text.length)

/-- A tag between angle brackets. -/
def takeMarkedTag? (c : Cursor) : Option (String × String × Cursor) := do
  let (text, c) ← takeTagText true (c.skip 2)
  if text = [] || !c.has '>' then none
  else return ("", String.ofList text, c.skip 1)

/-- A tag in short form. -/
def takeShortTag? (c : Cursor) : Option (String × String × Cursor) := do
  let (handle, after) ← takeHandle? c
  let (text, c) ← takeTagText false after
  if 2 ≤ handle.length && Text.endsWith handle "!" then
    if text = [] then none else return (handle, String.ofList text, c)
  else
    let suffix := handle.toList.drop 1 ++ text
    if suffix = [] then return ("", "!", c) else return ("!", String.ofList suffix, c)

/-- A tag. -/
def tag? (s : Scan) : Option Scan := do
  let s ← s.saveKey?
  let (handle, suffix, c) ←
    if s.cursor.hasAt 1 (· == '<') then takeMarkedTag? s.cursor else takeShortTag? s.cursor
  if c.gapAt 0 || (s.inFlow && c.has ',') then
    return { (s.moveTo c).push (.tag handle suffix) with keyAllowed := false }
  else none

/-! ## Directives -/

/-- A number of at most nine digits. -/
def takeNumber? (c : Cursor) : Option (Nat × Cursor) :=
  let ds := c.takeWhile Char.isDigit
  if ds = [] || 9 < ds.length then none else some (Number.ofDigits ds, c.skip ds.length)

/-- The version of the format. -/
def takeVersion? (c : Cursor) : Option (Token × Cursor) := do
  let (major, c) ← takeNumber? (c.skipWhile isBlank)
  if !c.has '.' then none
  else
    let (minor, c) ← takeNumber? (c.skip 1)
    return (.version major minor, c)

/-- A short form for the start of tags. -/
def takeTagDirective? (c : Cursor) : Option (Token × Cursor) := do
  let (handle, c) ← takeHandle? (c.skipWhile isBlank)
  if !(handle == "!" || (2 ≤ handle.length && Text.endsWith handle "!")) || !c.hasAt 0 isBlank then
    none
  else
    let (start, c) ← takeTagText true (c.skipWhile isBlank)
    if start = [] || !c.gapAt 0 then none
    else return (.tagHandle handle (String.ofList start), c)

/-- A directive. -/
def directive? (s : Scan) : Option Scan := do
  let s ← (s.unrollTo (-1)).dropKey?
  let c := s.cursor.skip 1
  let name := c.takeWhile isWordChar
  let c := c.skip name.length
  if name = [] || !c.gapAt 0 then none
  else
    let (t, c) ←
      if name = "YAML".toList then takeVersion? c
      else if name = "TAG".toList then takeTagDirective? c
      else none
    let c ← c.restOfLine?
    return { (s.moveTo c.skipBreak).push t with keyAllowed := false }

/-! ## Scalars -/

/-- A scalar in block style. -/
def block? (s : Scan) (literal : Bool) : Option Scan := do
  let s ← s.dropKey?
  let (text, c) ← takeBlock literal s.indent (s.cursor.skip 1)
  return { (s.moveTo c).push (.scalar (String.ofList text) false) with keyAllowed := true }

/-- A scalar between quotes. -/
def quoted? (s : Scan) (single : Bool) : Option Scan := do
  let s ← s.saveKey?
  let c := s.cursor.skip 1
  let (text, c) ← takeQuoted single (c.rest.length + 1) [] c
  return { (s.moveTo c).push (.scalar (String.ofList text) false) with keyAllowed := false }

/-- A scalar without quotes. -/
def plain? (s : Scan) : Option Scan := do
  let s ← s.saveKey?
  let c := s.cursor
  let (text, broken, c) ← takePlain s.inFlow (s.indent + 1).toNat (c.rest.length + 1) [] {} c
  return { (s.moveTo c).push (.scalar (String.ofList text) true) with keyAllowed := broken }

/-- A mark that a plain scalar cannot start with. -/
def isIndicator (c : Char) : Bool := "-?:,[]\x7b\x7d#&*!|>'\"%@\x60".toList.contains c

/-- Whether a plain scalar may start here. -/
def startsPlain (s : Scan) : Bool :=
  let c := s.cursor
  (!c.gapAt 0 && !c.hasAt 0 isIndicator) ||
    (c.has '-' && !c.hasAt 1 isBlank) ||
    (!s.inFlow && (c.has '?' || c.has ':') && !c.gapAt 1)

/-- Reads the token that starts with a character. -/
def tokenAt? (s : Scan) (x : Char) : Option Scan :=
  let c := s.cursor
  let markEnds := s.inFlow || c.gapAt 1
  if c.column == 0 && x == '%' then s.directive?
  else if c.atMark '-' then s.documentMark? .documentStart
  else if c.atMark '.' then s.documentMark? .documentEnd
  else if x == '[' then s.flowStart? .flowList
  else if x == '\x7b' then s.flowStart? .flowMap
  else if x == ']' then s.flowEnd? .flowListEnd
  else if x == '\x7d' then s.flowEnd? .flowMapEnd
  else if x == ',' then s.flowItem?
  else if x == '-' && c.gapAt 1 then s.blockItem?
  else if x == '?' && markEnds then s.key?
  else if x == ':' && markEnds then s.value?
  else if x == '*' then s.named? .alias
  else if x == '&' then s.named? .anchor
  else if x == '!' then s.tag?
  else if x == '|' && !s.inFlow then s.block? true
  else if x == '>' && !s.inFlow then s.block? false
  else if x == '\'' then s.quoted? true
  else if x == '"' then s.quoted? false
  else if s.startsPlain then s.plain?
  else none

/-- Reads tokens up to the end of the text. -/
def run? : Nat → Scan → Option (List Token)
  | 0, _ => none
  | fuel + 1, s =>
      match (toNext (s.cursor.rest.length + 1) s).dropStale? with
      | none => none
      | some s =>
          let s := s.unrollTo s.cursor.column
          match s.cursor.rest with
          | [] => ((s.unrollTo (-1)).dropKey?).map fun s => s.tokens.toList
          | x :: _ =>
              match s.tokenAt? x with
              | none => none
              | some s => run? fuel s

end Scan

/-- The tokens of a text, `none` when it does not follow the grammar. -/
def tokens? (text : String) : Option (List Token) :=
  let cs := text.toList
  let cs := if cs.head? = some '\ufeff' then cs.drop 1 else cs
  if cs.all isAllowed then Scan.run? (cs.length + 1) { cursor := { rest := cs } } else none

end UiReplay.Yaml
