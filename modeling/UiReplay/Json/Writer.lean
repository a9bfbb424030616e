import UiReplay.Json.Value
import UiReplay.Number.Shortest
import UiReplay.Text.Quoted

/-!
# Writing JSON text

A document is written compactly, without any blank, or indented by two spaces a
level.  An empty list or record has no line of its own.  Fields keep their order.

In a text the quote, the backslash and the controls are escaped, and every other
character stands as it is.  A number has the shortest digits that read back,
in positional form from `1e-5` to below `1e16`, an integer keeping `.0`.
-/

namespace UiReplay.Json

/-- The layout of numbers in JSON text. -/
def numberLayout : Number.Layout := ⟨-5, 15, true, true⟩

/-- One character of a text. -/
def escapedChar (c : Char) : List Char :=
  if c = '"' then ['\\', '"']
  else if c = '\\' then ['\\', '\\']
  else if c = '\n' then ['\\', 'n']
  else if c = '\r' then ['\\', 'r']
  else if c = '\t' then ['\\', 't']
  else if c = '\x08' then ['\\', 'b']
  else if c = '\x0c' then ['\\', 'f']
  else if c.toNat < 0x20 then ['\\', 'u'] ++ Text.hexPadded 4 c.toNat
  else [c]

/-- A text between its quotes. -/
def quotedText (s : String) : List Char := '"' :: s.toList.flatMap escapedChar ++ ['"']

/-- A list or record on one line. -/
def enclosed (left right : Char) (parts : List (List Char)) : List Char :=
  left :: [','].intercalate parts ++ [right]

mutual

/-- A document without any blank. -/
def compactChars : Document → List Char
  | .null => "null".toList
  | .bool b => (if b then "true" else "false").toList
  | .integer i => (Number.intText i).toList
  | .double x => (x.text numberLayout).toList
  | .single x => (x.text numberLayout).toList
  | .text s => quotedText s
  | .list items => enclosed '[' ']' (compactItems items)
  | .record fields => enclosed '\x7b' '\x7d' (compactFields fields)
  | .unreadable => "null".toList

/-- The items of a list. -/
def compactItems : List Document → List (List Char)
  | [] => []
  | d :: rest => compactChars d :: compactItems rest

/-- The fields of a record. -/
def compactFields : List (String × Document) → List (List Char)
  | [] => []
  | (k, d) :: rest => (quotedText k ++ ':' :: compactChars d) :: compactFields rest

end

/-- A line break and the indent of a level. -/
def newLine (level : Nat) : List Char := '\n' :: List.replicate (2 * level) ' '

/-- A list or record with each part on a line of its own. -/
def stacked (left right : Char) (level : Nat) (parts : List (List Char)) : List Char :=
  if parts = [] then [left, right]
  else
    left :: newLine (level + 1) ++ (',' :: newLine (level + 1)).intercalate parts ++
      newLine level ++ [right]

mutual

/-- A document at a level of indentation. -/
def prettyChars (level : Nat) : Document → List Char
  | .list items => stacked '[' ']' level (prettyItems (level + 1) items)
  | .record fields => stacked '\x7b' '\x7d' level (prettyFields (level + 1) fields)
  | d => compactChars d

/-- The items of a list at a level. -/
def prettyItems (level : Nat) : List Document → List (List Char)
  | [] => []
  | d :: rest => prettyChars level d :: prettyItems level rest

/-- The fields of a record at a level. -/
def prettyFields (level : Nat) : List (String × Document) → List (List Char)
  | [] => []
  | (k, d) :: rest =>
      (quotedText k ++ [':', ' '] ++ prettyChars level d) :: prettyFields level rest

end

/-- A document on one line. -/
def compact (d : Document) : String := String.ofList (compactChars d)

/-- A document with one part a line. -/
def pretty (d : Document) : String := String.ofList (prettyChars 0 d)

end UiReplay.Json
