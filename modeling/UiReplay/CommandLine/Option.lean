import UiReplay.Text.Parts

/-!
# Options and operands

A command line is a list of words.  A word that starts with two hyphens names an
option, and may bring its value after an equals sign.  A word that starts with one
hyphen is made of option letters, of which the last may bring its value.  A lone
hyphen is no option.  After a word of just two hyphens no word is an option.

A grammar says which options there are, whether a word without hyphens is taken as an
operand, and which commands a word may name (`Grammar`).  Reading goes from word to
word and ends at a command (`Grammar.read`).

A value is looked at late.  The text of an option or an operand is kept until the next
one comes, or until the words end (`Reading.settle`).  So an unknown word is reported
before a bad value that stands in front of it.  A value after an equals sign is looked
at once.  An option may be given only once, and that is reported before its value is
looked at.
-/

namespace UiReplay

/-! ## Why reading stops -/

/-- Why the words of a command line are not carried out. -/
inductive Usage where
  /-- The help is asked for. -/
  | help
  /-- The version is asked for. -/
  | version
  /-- There are no words. -/
  | nothing
  /-- There is no command. -/
  | noCommand
  /-- A word names no command. -/
  | unknownCommand
  /-- A word is neither an option nor an operand. -/
  | unknownWord
  /-- An option or an operand that has to be given is missing. -/
  | missing
  /-- A value is missing or empty. -/
  | missingValue
  /-- A value is of the wrong form. -/
  | badValue
  /-- An option is given twice. -/
  | repeated
  /-- A value is given to an option that takes none. -/
  | surplusValue
deriving DecidableEq, Repr

/-- Whether only a text is asked for, which is no mistake. -/
def Usage.isQuestion : Usage → Bool
  | .help | .version => true
  | _ => false

/-- The code with which the program then exits. -/
def Usage.exitCode (why : Usage) : Nat := if why.isQuestion then 0 else 2

/-! ## Words -/

/-- The form of a word. -/
inductive WordForm where
  /-- Two hyphens. -/
  | divider
  /-- The name of an option, with a value after an equals sign. -/
  | long (name : String) (value : Option String)
  /-- Option letters. -/
  | short (letters : List Char)
  /-- Anything else. -/
  | plain
deriving DecidableEq, Repr

/-- The part of a list after its first equals sign. -/
def valueAfterEquals (cs : List Char) : Option String :=
  match cs.dropWhile (· ≠ '=') with
  | _ :: value => some (String.ofList value)
  | [] => none

/-- The form of a word. -/
def WordForm.ofWord (word : String) : WordForm :=
  match word.toList with
  | ['-', '-'] => .divider
  | '-' :: '-' :: rest =>
      .long (String.ofList (rest.takeWhile (· ≠ '='))) (valueAfterEquals rest)
  | '-' :: c :: rest => .short (c :: rest)
  | _ => .plain

/-- The value that follows an option letter in its own word. -/
def attachedValue : List Char → Option String
  | [] => none
  | '=' :: value => some (String.ofList value)
  | value => some (String.ofList value)

/-! ## Grammars -/

/-- How a text changes a value. -/
abbrev TakesText (α : Type) := String → α → Except Usage α

/-- What an option does. -/
inductive OptionEffect (α : Type) where
  /-- It ends the reading. -/
  | stop (why : Usage)
  /-- It takes no value. -/
  | switch (set : α → α)
  /-- It takes a value. -/
  | value (set : TakesText α)

/-- An option. -/
structure OptionRule (α : Type) where
  /-- Its name, without the hyphens. -/
  name : String
  /-- Its letter. -/
  letter : Option Char := none
  /-- What it does. -/
  effect : OptionEffect α

/-- What a command line may hold. -/
structure Grammar (α : Type) where
  /-- The options. -/
  options : List (OptionRule α)
  /-- What the operand does, none when there is no operand. -/
  operand : Option (TakesText α) := none
  /-- The commands. -/
  commands : List String := []

/-! ## Readings -/

/-- An option or an operand that was not looked at. -/
structure Pending (α : Type) where
  /-- The name of the option, empty for an operand. -/
  name : String
  /-- Its text, none when it is still to come. -/
  text : Option String
  /-- What the text does. -/
  set : TakesText α

/-- What was read so far. -/
structure Reading (α : Type) where
  /-- The value. -/
  value : α
  /-- The names of the options that were looked at. -/
  given : List String := []
  /-- What was not looked at. -/
  pending : Option (Pending α) := none
  /-- Whether there was an operand. -/
  hasOperand : Bool := false

namespace Reading

variable {α : Type}

/-- Whether the next word is a value. -/
def awaits (r : Reading α) : Bool :=
  match r.pending with
  | some p => p.text.isNone
  | none => false

/-- Looks at what is pending. -/
def settle (r : Reading α) : Except Usage (Reading α) :=
  match r.pending with
  | none => .ok r
  | some p =>
      match p.text with
      | none => .error .missingValue
      | some text =>
          if r.given.contains p.name then .error .repeated
          else do
            let value ← p.set text r.value
            return { r with value := value, given := p.name :: r.given, pending := none }

/-- Keeps an option or an operand for later, after what is pending. -/
def keep (r : Reading α) (p : Pending α) : Except Usage (Reading α) := do
  return { ← r.settle with pending := some p }

/-- Looks at an option at once, after what is pending. -/
def take (r : Reading α) (p : Pending α) : Except Usage (Reading α) := do (← r.keep p).settle

/-- Gives the text that is awaited. -/
def supply (r : Reading α) (text : String) : Reading α :=
  { r with pending := r.pending.map fun p => { p with text := some text } }

/-- Reads an option, with the value in its own word. -/
def option (r : Reading α) (o : OptionRule α) (attached : Option String) :
    Except Usage (Reading α) :=
  match o.effect, attached with
  | .value set, some text => r.take ⟨o.name, some text, set⟩
  | .value set, none => r.keep ⟨o.name, none, set⟩
  | .switch set, none => r.take ⟨o.name, some "", fun _ a => .ok (set a)⟩
  | .stop why, none => do
      let _ ← r.settle
      throw why
  | _, some _ => throw .surplusValue

end Reading

/-! ## Reading -/

/-- Where reading ended. -/
structure Reached (α : Type) where
  /-- What was read. -/
  reading : Reading α
  /-- The command and the words after it. -/
  command : Option (String × List String) := none

namespace Grammar

variable {α : Type} (g : Grammar α)

/-- Reads the name of an option. -/
def long (r : Reading α) (name : String) (value : Option String) : Except Usage (Reading α) :=
  match g.options.find? fun o => o.name == name with
  | some o => r.option o value
  | none => throw .unknownWord

/-- Reads option letters. -/
def short (r : Reading α) : List Char → Except Usage (Reading α)
  | [] => .ok r
  | c :: rest =>
      match g.options.find? fun o => o.letter == some c with
      | none => throw .unknownWord
      | some o =>
          match o.effect with
          | .value _ => r.option o (attachedValue rest)
          | _ => do short (← r.option o none) rest

/-- What a word is that is neither an option nor an operand. -/
def surplus (isDivided : Bool) (word : String) : Usage :=
  if g.commands.isEmpty || isDivided && g.commands.contains word then .unknownWord
  else .unknownCommand

/-- Reads an operand. -/
def operandWord (isDivided : Bool) (r : Reading α) (word : String) : Except Usage (Reading α) :=
  match g.operand, r.hasOperand with
  | some set, false => do return { ← r.keep ⟨"", some word, set⟩ with hasOperand := true }
  | _, _ => throw (g.surplus isDivided word)

/-- Reads a word before the divider. -/
def word (r : Reading α) (word : String) : WordForm → Except Usage (Reading α)
  | .long name value => g.long r name value
  | .short letters => g.short r letters
  | _ => if r.awaits then .ok (r.supply word) else g.operandWord false r word

/-- Reads words, up to a command.  The first argument says whether the divider was
read. -/
def read : Bool → Reading α → List String → Except Usage (Reached α)
  | _, r, [] => .ok ⟨r, none⟩
  | true, r, w :: rest => do read true (← g.operandWord true r w) rest
  | false, r, w :: rest =>
      if !r.awaits && g.commands.contains w then .ok ⟨r, some (w, rest)⟩
      else
        match WordForm.ofWord w with
        | .divider => read true r rest
        | form => do read false (← g.word r w form) rest

end Grammar

/-! ## Tests -/

example : ["--", "--a=b=c", "--a", "-xy", "-", "x"].map WordForm.ofWord
    = [.divider, .long "a" (some "b=c"), .long "a" none, .short ['x', 'y'], .plain, .plain] := by
  decide +kernel

end UiReplay
