/-!
# Blank characters

A character is *blank* when it has the Unicode property `White_Space`.  Twenty
five code points have it.  U+200B, U+FEFF, U+180E and U+001F do not.  A text is
trimmed of the blank characters at its two ends, and a text is blank when
nothing is left of it.

`isBlankText_iff_trim` says the two readings of "blank" agree: every character
is blank exactly when trimming leaves nothing.
-/

namespace UiReplay.Text

/-! ## The property -/

/-- The property `White_Space`. -/
def isBlank (c : Char) : Bool :=
  let n := c.toNat
  (9 ≤ n && n ≤ 13) || n == 0x20 || n == 0x85 || n == 0xA0 || n == 0x1680 ||
    (0x2000 ≤ n && n ≤ 0x200A) || n == 0x2028 || n == 0x2029 || n == 0x202F ||
    n == 0x205F || n == 0x3000

/-! ## Trimming -/

/-- Drops the characters with a property from the end of a list. -/
def dropEnd (p : Char → Bool) (cs : List Char) : List Char :=
  (cs.reverse.dropWhile p).reverse

/-- Drops the characters with a property from both ends of a list. -/
def trimBy (p : Char → Bool) (cs : List Char) : List Char :=
  dropEnd p (cs.dropWhile p)

/-- A list without the blank characters at its ends. -/
def trimList (cs : List Char) : List Char := trimBy isBlank cs

/-- A text without the blank characters at its ends. -/
def trim (s : String) : String := String.ofList (trimList s.toList)

/-- Whether a text holds nothing but blank characters. -/
def isBlankText (s : String) : Bool := s.toList.all isBlank

/-- A text that says something: it has a character that is not blank. -/
def nonBlank (s : String) : Option String :=
  if isBlankText s then none else some s

theorem dropWhile_eq_nil_iff (p : Char → Bool) :
    ∀ cs : List Char, cs.dropWhile p = [] ↔ cs.all p = true
  | [] => by simp
  | c :: cs => by
      cases h : p c
      · simp [h]
      · simp [h, dropWhile_eq_nil_iff p cs]

theorem dropEnd_eq_nil_iff (p : Char → Bool) (cs : List Char) :
    dropEnd p cs = [] ↔ cs.all p = true := by
  rw [dropEnd, List.reverse_eq_nil_iff, dropWhile_eq_nil_iff, List.all_reverse]

theorem all_dropWhile (p : Char → Bool) :
    ∀ cs : List Char, (cs.dropWhile p).all p = cs.all p
  | [] => rfl
  | c :: cs => by
      cases h : p c
      · simp [h]
      · simp [h, all_dropWhile p cs]

/-- Trimming leaves nothing exactly when there is nothing but blank characters. -/
theorem trimList_eq_nil_iff (cs : List Char) : trimList cs = [] ↔ cs.all isBlank = true := by
  rw [trimList, trimBy, dropEnd_eq_nil_iff, all_dropWhile]

theorem isBlankText_iff_trim (s : String) : isBlankText s = true ↔ trim s = "" := by
  rw [isBlankText, ← trimList_eq_nil_iff, trim]
  constructor
  · intro h
    rw [h]
  · intro h
    have := congrArg String.toList h
    simpa using this

theorem nonBlank_eq_none_iff (s : String) : nonBlank s = none ↔ isBlankText s = true := by
  simp [nonBlank]

theorem nonBlank_eq_some_iff {s t : String} :
    nonBlank s = some t ↔ isBlankText s = false ∧ s = t := by
  cases h : isBlankText s <;> simp [nonBlank, h]

/-! ## Tests -/

example : [' ', '\t', '\n', '\x0b', '\x0c', '\r', '\u0085', '\u00a0', '\u3000'].all isBlank = true := by
  decide
example : ['\u200b', '\ufeff', '\u180e', '\x1f', 'a'].any isBlank = false := by decide
example : trimList [' ', 'a', ' ', 'b', '\u3000'] = ['a', ' ', 'b'] := by decide

end UiReplay.Text
