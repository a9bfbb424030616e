import UiReplay.Yaml.Node

/-!
# Values of YAML nodes

A plain scalar without a tag is read by its looks.  It is nothing when it is empty, `~`
or one of three spellings of `null`.  It is a truth value in three spellings each of
`true` and `false`.  It is an integer when it has a sign and digits, in base ten or
after `0x`, `0o` or `0b`.  It is a number when it is a decimal or one of the spellings
of infinity.  Otherwise it is a text.  Digits after a leading zero are a text.

Four tags ask for one of these readings, and any other tag of the format, like a
quote, makes the scalar a text.  A tag of another origin has no value.

An integer that fits 128 bits and not 64 has no value.  An infinity is nothing, since
no number stands for it.  The key of a map is a scalar, taken as its text.
-/

namespace UiReplay.Yaml

open Number (Binary)

/-! ## Scalars -/

/-- Whether a scalar spells that there is nothing. -/
def isNullWord (s : String) : Bool := ["null", "Null", "NULL", "~"].contains s

/-- The truth value that a scalar spells. -/
def truthWord? (s : String) : Option Bool :=
  if ["true", "True", "TRUE"].contains s then some true
  else if ["false", "False", "FALSE"].contains s then some false
  else none

/-- Digits after a leading zero. -/
def isPaddedDigits (cs : List Char) : Bool :=
  let ds := match cs with
    | '-' :: rest => rest
    | '+' :: rest => rest
    | rest => rest
  1 < ds.length && ds.head? == some '0' && ds.all Char.isDigit

/-- The number that digits of a base write. -/
def inBase? (base : Nat) (cs : List Char) : Option Nat :=
  if cs = [] then none
  else cs.foldl (fun n c => n.bind fun n =>
    (Json.hexValue? c).bind fun d => if d < base then some (base * n + d) else none) (some 0)

/-- The number after the sign of its base. -/
def basedNat? : List Char → Option Nat
  | '0' :: 'x' :: ds => inBase? 16 ds
  | '0' :: 'o' :: ds => inBase? 8 ds
  | '0' :: 'b' :: ds => inBase? 2 ds
  | _ => none

/-- A list without a plus sign at its start. -/
def dropPlus : List Char → List Char
  | '+' :: rest => rest
  | rest => rest

/-- A natural number below a limit. -/
def natWord? (limit : Nat) (cs : List Char) : Option Nat :=
  let body := dropPlus cs
  let fits := fun (n : Option Nat) => n.bind fun n => if n < limit then some n else none
  match fits (basedNat? body) with
  | some n => some n
  | none => if isPaddedDigits cs then none else fits (inBase? 10 body)

/-- An integer with a minus sign, its magnitude at most a limit. -/
def negativeWord? (limit : Nat) (cs : List Char) : Option Int :=
  let fits := fun (n : Option Nat) =>
    n.bind fun n => if n ≤ limit then some (-(n : Int)) else none
  match cs with
  | '-' :: body =>
      match fits (basedNat? body) with
      | some i => some i
      | none => if isPaddedDigits cs then none else fits (inBase? 10 body)
  | _ => none

/-- What a scalar is that looks like a number of the format. -/
inductive NumberWord where
  /-- An integer of 64 bits. -/
  | integer (i : Int)
  /-- An integer that only fits 128 bits. -/
  | wide
  /-- A number. -/
  | double (x : Binary Number.double)
  /-- An infinity, or no number. -/
  | notFinite

/-- The integer that a scalar spells. -/
def integerWord? (cs : List Char) : Option NumberWord :=
  match natWord? Number.wordLimit64 cs, negativeWord? 9223372036854775808 cs with
  | some n, _ => some (.integer n)
  | none, some i => some (.integer i)
  | none, none =>
      match natWord? (Nat.pow 2 128) cs, negativeWord? (Nat.pow 2 127) cs with
      | none, none => none
      | _, _ => some .wide

/-- The number with a point or exponent that a scalar spells. -/
def fractionWord? (s : String) : Option NumberWord :=
  if [".inf", ".Inf", ".INF", "+.inf", "+.Inf", "+.INF", "-.inf", "-.Inf", "-.INF", ".nan", ".NaN",
      ".NAN"].contains s then some .notFinite
  else
    let cs := s.toList
    let body := dropPlus cs
    if body.length < cs.length && (body.head? == some '+' || body.head? == some '-') then none
    else
      match Number.readExtended? Number.double body with
      | some (.finite x) => some (.double x)
      | _ => none

/-- The number that a scalar spells. -/
def numberWord? (s : String) : Option NumberWord :=
  match integerWord? s.toList with
  | some n => some n
  | none => if isPaddedDigits s.toList then none else fractionWord? s

/-- A number as a value. -/
def NumberWord.value? : NumberWord → Option Json
  | .integer i => some (.integer i)
  | .wide => none
  | .double x => some (.double x)
  | .notFinite => some .null

/-- The value that a plain scalar without a tag spells. -/
def plainValue? (s : String) : Option Json :=
  if s = "" || isNullWord s then some .null
  else
    match truthWord? s with
    | some b => some (.bool b)
    | none =>
        match numberWord? s with
        | some n => n.value?
        | none => some (.text s)

/-- Whether a plain scalar is read as a text. -/
def readsAsText (s : String) : Bool :=
  !(s == "" || isNullWord s) && (truthWord? s).isNone && (numberWord? s).isNone

/-- The value of a scalar. -/
def scalarValue? (s : String) (plain : Bool) (tag : Option String) : Option Json :=
  match tag with
  | none => if plain then plainValue? s else some (.text s)
  | some tag =>
      if tag.startsWith "!" then none
      else if tag = Build.coreTag ++ "bool" then (truthWord? s).map .bool
      else if tag = Build.coreTag ++ "int" then (integerWord? s.toList).bind NumberWord.value?
      else if tag = Build.coreTag ++ "float" then (fractionWord? s).bind NumberWord.value?
      else if tag = Build.coreTag ++ "null" then if isNullWord s then some .null else none
      else some (.text s)

/-! ## Nodes -/

/-- How deep lists and maps may be nested. -/
def depthLimit : Nat := 128

namespace Node

/-- The text of a scalar, however it is written. -/
def text? : Node → Option String
  | scalar s _ _ => some s
  | _ => none

/-- Whether a list or map has a tag of another origin. -/
def hasForeignTag (tag : Option String) : Bool :=
  match tag with
  | some t => t.startsWith "!"
  | none => false

mutual

/-- The value of a node that may still be nested so deep. -/
def valueWithin? : Nat → Node → Option Json
  | _, .scalar s plain tag => scalarValue? s plain tag
  | 0, _ => none
  | depth + 1, .list items tag =>
      if hasForeignTag tag then none else (valuesWithin? depth items).map .list
  | depth + 1, .map entries tag =>
      if hasForeignTag tag then none
      else (entriesWithin? depth entries).map fun fs => .record (Fields.ofList fs)
  | _, .endless => none

/-- The values of nodes. -/
def valuesWithin? : Nat → List Node → Option (List Json)
  | _, [] => some []
  | depth, n :: rest =>
      match valueWithin? depth n, valuesWithin? depth rest with
      | some v, some vs => some (v :: vs)
      | _, _ => none

/-- The keys and values of a map. -/
def entriesWithin? : Nat → List (Node × Node) → Option (List (String × Json))
  | _, [] => some []
  | depth, (k, n) :: rest =>
      match k.text?, valueWithin? depth n, entriesWithin? depth rest with
      | some k, some v, some fs => some ((k, v) :: fs)
      | _, _, _ => none

end

/-- The items of a list.  An empty plain scalar is an empty list. -/
def items? : Node → Option (List Node)
  | .list items _ => some items
  | .scalar s plain _ => if s = "" && plain then some [] else none
  | _ => none

/-- The entries of a map.  An empty plain scalar is an empty map. -/
def entries? : Node → Option (List (Node × Node))
  | .map entries _ => some entries
  | .scalar s plain _ => if s = "" && plain then some [] else none
  | _ => none

/-- A node that may be nothing. -/
def optional? : Node → Option (Option Node)
  | .scalar s plain tag =>
      if !plain then some (some (.scalar s plain tag))
      else
        match tag with
        | some tag =>
            if tag = Build.coreTag ++ "null" then if isNullWord s then some none else none
            else some (some (.scalar s plain (some tag)))
        | none => some (if s = "" || isNullWord s then none else some (.scalar s plain none))
  | .endless => none
  | n => some (some n)

/-- A natural number below a limit. -/
def nat? (limit : Nat) : Node → Option Nat
  | .scalar s plain _ =>
      if plain then (natWord? Number.wordLimit64 s.toList).bind fun n =>
        if n < limit then some n else none
      else none
  | _ => none

end Node

end UiReplay.Yaml
