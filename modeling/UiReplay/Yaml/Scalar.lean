import UiReplay.Yaml.Cursor
import UiReplay.Json.Reader

/-!
# Reading YAML scalars

A scalar is written plainly, between single or double quotes, or as a block of
lines.  The lines of a plain or quoted scalar are folded: a single line break
becomes a space, and of several the first is dropped.  A block keeps its breaks, or
folds them between lines that do not start with a blank.

A plain scalar ends at a comment, at a colon before a blank, at the marks of the
enclosing list or map in flow style, at a document mark, and at a line that is
indented less than the block around it.

Each function takes a number that bounds its steps, the length of the text being
enough.
-/

namespace UiReplay.Yaml

/-! ## Folding -/

/-- The blanks and breaks between two parts of a scalar. -/
structure Gap where
  /-- Blanks before the first break. -/
  blanks : List Char := []
  /-- The first break. -/
  firstBreak : List Char := []
  /-- The breaks after the first. -/
  moreBreaks : List Char := []
  /-- Whether there was a break. -/
  broken : Bool := false

/-- What a gap reads as. -/
def Gap.text (g : Gap) : List Char :=
  if g.broken then
    if g.firstBreak.head? = some '\n' then
      if g.moreBreaks = [] then [' '] else g.moreBreaks
    else g.firstBreak ++ g.moreBreaks
  else g.blanks

/-- The gap that stands here.  A tab in the indentation of a plain scalar is an
error. -/
def takeGap (tabAllowed : Nat → Bool) : Nat → Gap → Cursor → Option (Gap × Cursor)
  | 0, g, c => some (g, c)
  | fuel + 1, g, c =>
      match c.rest with
      | [] => some (g, c)
      | x :: _ =>
          if isBlank x then
            if g.broken && x == '\t' && !tabAllowed c.column then none
            else
              let g := if g.broken then g else { g with blanks := g.blanks ++ [x] }
              takeGap tabAllowed fuel g (c.skip 1)
          else if isBreak x then
            let (read, c) := c.takeBreak
            let g := if g.broken then { g with moreBreaks := g.moreBreaks ++ read }
              else { g with blanks := [], firstBreak := read, broken := true }
            takeGap tabAllowed fuel g c
          else some (g, c)

/-! ## Plain scalars -/

/-- A mark that ends a plain scalar in flow style. -/
def isFlowMark (c : Char) : Bool :=
  c == ',' || c == '[' || c == ']' || c == '\x7b' || c == '\x7d'

/-- The part of a plain scalar up to the next blank, break or end. -/
def takePlainPart (inFlow : Bool) : Nat → Cursor → Option (List Char × Cursor)
  | 0, c => some ([], c)
  | fuel + 1, c =>
      match c.rest with
      | [] => some ([], c)
      | x :: _ =>
          if isBlank x || isBreak x then some ([], c)
          else if inFlow && x == ':' && c.hasAt 1 (fun y => isFlowMark y || y == '?') then none
          else if (x == ':' && c.gapAt 1) || (inFlow && isFlowMark x) then some ([], c)
          else (takePlainPart inFlow fuel (c.skip 1)).map fun (xs, c) => (x :: xs, c)

/-- A plain scalar in a block of some indentation.  The flag says whether the last
gap had a break. -/
def takePlain (inFlow : Bool) (indent : Nat) : Nat → List Char → Gap → Cursor →
    Option (List Char × Bool × Cursor)
  | 0, out, g, c => some (out, g.broken, c)
  | fuel + 1, out, g, c =>
      if c.atDocumentMark || c.has '#' then some (out, g.broken, c)
      else
        match takePlainPart inFlow c.rest.length c with
        | none => none
        | some (part, c) =>
            let (out, g) : List Char × Gap :=
              if part = [] then (out, g) else (out ++ g.text ++ part, {})
            if !c.isEnd && c.gapAt 0 then
              match takeGap (fun column => indent ≤ column) c.rest.length g c with
              | none => none
              | some (g, c) =>
                  if !inFlow && c.column < indent then some (out, g.broken, c)
                  else takePlain inFlow indent fuel out g c
            else some (out, g.broken, c)

/-! ## Quoted scalars -/

/-- The character that a backslash and a letter stand for between double quotes. -/
def doubleEscape? : Char → Option Char
  | '0' => some '\x00'
  | 'a' => some '\x07'
  | 'b' => some '\x08'
  | 't' => some '\t'
  | '\t' => some '\t'
  | 'n' => some '\n'
  | 'v' => some '\x0b'
  | 'f' => some '\x0c'
  | 'r' => some '\r'
  | 'e' => some '\x1b'
  | ' ' => some ' '
  | '"' => some '"'
  | '/' => some '/'
  | '\\' => some '\\'
  | 'N' => some '\u0085'
  | '_' => some '\u00a0'
  | 'L' => some '\u2028'
  | 'P' => some '\u2029'
  | _ => none

/-- How many hexadecimal digits follow a letter. -/
def escapeWidth? : Char → Option Nat
  | 'x' => some 2
  | 'u' => some 4
  | 'U' => some 8
  | _ => none

/-- The number that hexadecimal digits write. -/
def readHex? (cs : List Char) : Option Nat :=
  cs.foldl (fun n c => n.bind fun n => (Json.hexValue? c).map (16 * n + ·)) (some 0)

/-- The character with a code, unless it is a surrogate or too great. -/
def charOfCode? (n : Nat) : Option Char :=
  if h : n.isValidChar then some (Char.ofNatAux n h) else none

/-- The character that is written here with a backslash, and the place after it. -/
def takeEscape? (c : Cursor) : Option (Char × Cursor) :=
  match c.rest[1]? with
  | none => none
  | some x =>
      match doubleEscape? x with
      | some y => some (y, c.skip 2)
      | none =>
          match escapeWidth? x with
          | none => none
          | some width =>
              let ds := (c.rest.drop 2).take width
              if ds.length < width then none
              else ((readHex? ds).bind charOfCode?).map fun y => (y, c.skip (2 + width))

/-- The part of a quoted scalar up to the next blank, break, quote or escaped
break.  The flag says whether it ended in an escaped break. -/
def takeQuotedPart (single : Bool) : Nat → Cursor → Option (List Char × Bool × Cursor)
  | 0, c => some ([], false, c)
  | fuel + 1, c =>
      let go := fun (x : Char) (c : Cursor) =>
        (takeQuotedPart single fuel c).map fun (xs, broken, c) => (x :: xs, broken, c)
      match c.rest with
      | [] => some ([], false, c)
      | x :: _ =>
          if isBlank x || isBreak x then some ([], false, c)
          else if single then
            if x == '\'' then
              if c.hasAt 1 (· == '\'') then go '\'' (c.skip 2) else some ([], false, c)
            else go x (c.skip 1)
          else if x == '"' then some ([], false, c)
          else if x == '\\' then
            if c.hasAt 1 isBreak then some ([], true, (c.skip 1).skipBreak)
            else
              match takeEscape? c with
              | some (y, c) => go y c
              | none => none
          else go x (c.skip 1)

/-- A quoted scalar from after its first quote to after its last. -/
def takeQuoted (single : Bool) : Nat → List Char → Cursor → Option (List Char × Cursor)
  | 0, _, _ => none
  | fuel + 1, out, c =>
      if c.atDocumentMark || c.isEnd then none
      else
        match takeQuotedPart single c.rest.length c with
        | none => none
        | some (part, escaped, c) =>
            let out := out ++ part
            if !escaped && c.has (if single then '\'' else '"') then some (out, c.skip 1)
            else
              match takeGap (fun _ => true) c.rest.length { broken := escaped } c with
              | none => none
              | some (g, c) => takeQuoted single fuel (out ++ g.text) c

/-! ## Blocks -/

/-- What happens to the breaks at the end of a block. -/
inductive Chomp where
  /-- The last break is kept. -/
  | clip
  /-- No break is kept. -/
  | strip
  /-- All breaks are kept. -/
  | keep
deriving DecidableEq

/-- How the end of a block is marked in its header. -/
def chompMark? : Char → Option Chomp
  | '+' => some .keep
  | '-' => some .strip
  | _ => none

/-- The indentation in the header of a block. -/
def indentMark? (c : Char) : Option Nat :=
  if '1' ≤ c ∧ c ≤ '9' then some (c.toNat - '0'.toNat) else none

/-- The header of a block: how it ends and its indentation, in either order. -/
def takeHeader (c : Cursor) : Chomp × Option Nat × Cursor :=
  match c.rest with
  | x :: rest =>
      match chompMark? x, indentMark? x with
      | some chomp, _ =>
          match rest with
          | y :: _ =>
              match indentMark? y with
              | some n => (chomp, some n, c.skip 2)
              | none => (chomp, none, c.skip 1)
          | [] => (chomp, none, c.skip 1)
      | none, some n =>
          match rest with
          | y :: _ =>
              match chompMark? y with
              | some chomp => (chomp, some n, c.skip 2)
              | none => (.clip, some n, c.skip 1)
          | [] => (.clip, some n, c.skip 1)
      | none, none => (.clip, none, c)
  | [] => (.clip, none, c)

/-- The indentation and the empty lines that stand here.  `indent` is zero while the
indentation is not known, and `deepest` is the greatest one seen. -/
def takeIndent (indent : Nat) : Nat → Nat → List Char → Cursor →
    Option (Nat × List Char × Cursor)
  | 0, deepest, breaks, c => some (deepest, breaks, c)
  | fuel + 1, deepest, breaks, c =>
      let inside := fun (column : Nat) => indent == 0 || column < indent
      let spaces := (c.takeWhile (· == ' ')).length
      let c := c.skip (if indent == 0 then spaces else min spaces (indent - c.column))
      let deepest := max deepest c.column
      if inside c.column && c.has '\t' then none
      else if c.hasAt 0 isBreak then
        let (read, c) := c.takeBreak
        takeIndent indent fuel deepest (breaks ++ read) c
      else some (deepest, breaks, c)

/-- The indentation of a block, as given or as found. -/
def settledIndent (parent : Int) (indent deepest : Nat) : Nat :=
  if indent = 0 then max (max deepest (parent + 1).toNat) 1 else indent

/-- The state between two lines of a block. -/
structure BlockLines where
  /-- What was read before. -/
  out : List Char := []
  /-- The break that ended the last line. -/
  lineBreak : List Char := []
  /-- The breaks of the empty lines after it. -/
  emptyLines : List Char := []
  /-- Whether the last line started with a blank. -/
  startedBlank : Bool := false

/-- The break before the next line, folded when neither line starts with a blank. -/
def BlockLines.joint (literal : Bool) (b : BlockLines) (startsBlank : Bool) : List Char :=
  if !literal && b.lineBreak.head? = some '\n' && !b.startedBlank && !startsBlank then
    if b.emptyLines = [] then [' '] else b.emptyLines
  else b.lineBreak ++ b.emptyLines

/-- The lines of a block at an indentation. -/
def takeBlockLines (literal : Bool) (indent : Nat) : Nat → BlockLines → Cursor →
    Option (BlockLines × Cursor)
  | 0, b, c => some (b, c)
  | fuel + 1, b, c =>
      if c.column == indent && !c.isEnd then
        let startsBlank := c.hasAt 0 isBlank
        let text := c.takeWhile fun x => !isBreak x
        let (read, after) := (c.skip text.length).takeBreak
        match takeIndent indent after.rest.length 0 [] after with
        | none => none
        | some (_, breaks, c) =>
            takeBlockLines literal indent fuel {
              out := b.out ++ b.joint literal startsBlank ++ text
              lineBreak := read
              emptyLines := breaks
              startedBlank := startsBlank } c
      else some (b, c)

/-- A block from after its mark.  `parent` is the indentation around it, minus one
at the top. -/
def takeBlock (literal : Bool) (parent : Int) (c : Cursor) : Option (List Char × Cursor) := do
  let (chomp, given, c) := takeHeader c
  let c ← c.restOfLine?
  let c := c.skipBreak
  let indent := match given with
    | some n => if 0 ≤ parent then parent.toNat + n else n
    | none => 0
  let (deepest, breaks, c) ← takeIndent indent c.rest.length 0 [] c
  let indent := settledIndent parent indent deepest
  let (b, c) ← takeBlockLines literal indent (c.rest.length + 1) { emptyLines := breaks } c
  let tail := match chomp with
    | .strip => []
    | .clip => b.lineBreak
    | .keep => b.lineBreak ++ b.emptyLines
  return (b.out ++ tail, c)

end UiReplay.Yaml
