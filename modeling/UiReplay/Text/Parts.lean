/-!
# Parts of a text

Splitting a text at a separator, the tail after the last separator, searching
for a part and cutting to a length.  Everything works on lists of characters,
and a text is a list of code points.

* `afterLast` is the tail after the last separator, the whole list without one.
* `beforeLast?` is what stands before it, if there is one.
* `splitOn` has one more part than there are separators.
* `occursIn` asks whether a list is a contiguous part of another.

`occursIn_iff` ties the search to its meaning: some prefix and some suffix
complete the needle to the whole.
-/

namespace UiReplay.Text

/-! ## Around the last separator -/

/-- The tail after the last `sep`, or the whole list when there is none. -/
def afterLast (sep : Char) : List Char → List Char
  | [] => []
  | c :: cs =>
      if cs.contains sep then afterLast sep cs
      else if c = sep then cs
      else c :: cs

/-- What stands before the last `sep`, or `none` without one. -/
def beforeLast? (sep : Char) : List Char → Option (List Char)
  | [] => none
  | c :: cs =>
      match beforeLast? sep cs with
      | some before => some (c :: before)
      | none => if c = sep then some [] else none

theorem afterLast_of_not_mem {sep : Char} {cs : List Char} (h : sep ∉ cs) :
    afterLast sep cs = cs := by
  cases cs with
  | nil => rfl
  | cons c cs =>
      have hc : c ≠ sep := fun he => h (he ▸ List.mem_cons_self ..)
      have hcs : sep ∉ cs := fun hm => h (List.mem_cons_of_mem _ hm)
      simp [afterLast, hc, hcs]

theorem not_mem_afterLast (sep : Char) : ∀ cs : List Char, sep ∉ afterLast sep cs
  | [] => by simp [afterLast]
  | c :: cs => by
      by_cases hm : sep ∈ cs
      · simp [afterLast, hm, not_mem_afterLast sep cs]
      · by_cases hc : c = sep
        · simp [afterLast, hm, hc]
        · simp [afterLast, hm, hc, Ne.symm hc]

theorem afterLast_suffix (sep : Char) : ∀ cs : List Char, afterLast sep cs <:+ cs
  | [] => List.suffix_refl []
  | c :: cs => by
      rw [afterLast]
      split
      · exact (afterLast_suffix sep cs).trans (List.suffix_cons c cs)
      · split
        · exact List.suffix_cons c cs
        · exact List.suffix_refl (c :: cs)

theorem afterLast_append_sep (sep : Char) (tail : List Char) (h : sep ∉ tail) :
    ∀ cs : List Char, afterLast sep (cs ++ sep :: tail) = tail
  | [] => by simp [afterLast, h]
  | c :: cs => by simp [afterLast, afterLast_append_sep sep tail h cs]

/-! ## Splitting -/

/-- The parts between the separators, in order. -/
def splitOn (sep : Char) : List Char → List (List Char)
  | [] => [[]]
  | c :: cs =>
      if c = sep then [] :: splitOn sep cs
      else
        match splitOn sep cs with
        | part :: parts => (c :: part) :: parts
        | [] => [[c]]

theorem splitOn_of_not_mem {sep : Char} {cs : List Char} (h : sep ∉ cs) :
    splitOn sep cs = [cs] := by
  induction cs with
  | nil => rfl
  | cons c cs ih =>
      have hc : c ≠ sep := fun he => h (he ▸ List.mem_cons_self ..)
      have hcs : sep ∉ cs := fun hm => h (List.mem_cons_of_mem _ hm)
      simp [splitOn, hc, ih hcs]

theorem splitOn_append_sep {sep : Char} {part : List Char} (h : sep ∉ part) (rest : List Char) :
    splitOn sep (part ++ sep :: rest) = part :: splitOn sep rest := by
  induction part with
  | nil => simp [splitOn]
  | cons c cs ih =>
      have hc : c ≠ sep := fun he => h (he ▸ List.mem_cons_self ..)
      have hcs : sep ∉ cs := fun hm => h (List.mem_cons_of_mem _ hm)
      simp [splitOn, hc, ih hcs]

/-! ## Searching -/

/-- Whether `needle` is a contiguous part of a list. -/
def occursIn (needle : List Char) : List Char → Bool
  | [] => needle.isEmpty
  | c :: cs => needle.isPrefixOf (c :: cs) || occursIn needle cs

/-- A part is found exactly when something before it and something after it make
up the whole. -/
theorem occursIn_iff (needle : List Char) :
    ∀ cs : List Char, occursIn needle cs = true ↔ ∃ a b, cs = a ++ needle ++ b
  | [] => by
      simp only [occursIn, List.isEmpty_iff]
      constructor
      · intro h
        exact ⟨[], [], by simp [h]⟩
      · rintro ⟨a, b, h⟩
        have := congrArg List.length h
        simp at this
        exact List.length_eq_zero_iff.mp (by omega)
  | c :: cs => by
      rw [occursIn, Bool.or_eq_true, occursIn_iff needle cs, List.isPrefixOf_iff_prefix]
      constructor
      · rintro (⟨b, hb⟩ | ⟨a, b, h⟩)
        · exact ⟨[], b, by simp [hb]⟩
        · exact ⟨c :: a, b, by simp [h]⟩
      · rintro ⟨a, b, h⟩
        cases a with
        | nil => exact Or.inl ⟨b, by simpa using h.symm⟩
        | cons d a =>
            simp only [List.cons_append, List.cons.injEq] at h
            exact Or.inr ⟨a, b, by simpa using h.2⟩

/-- A list without a given start, or the list itself when it starts otherwise. -/
def dropStart (start cs : List Char) : List Char :=
  if start.isPrefixOf cs then cs.drop start.length else cs

/-! ## Texts -/

/-- The tail of a text after the last `sep`, the whole text without one. -/
def tailAfter (sep : Char) (s : String) : String := String.ofList (afterLast sep s.toList)

/-- Whether one text ends in another. -/
def endsWith (s tail : String) : Bool := tail.toList.isSuffixOf s.toList

/-- Whether one text occurs in another. -/
def containsText (s part : String) : Bool := occursIn part.toList s.toList

/-- The lower-case form of the ASCII letters of a text. -/
def asciiLower (s : String) : String := String.ofList (s.toList.map Char.toLower)

/-- A text cut to `max` characters, the last of them an ellipsis when something
was cut.  A limit below one counts as one. -/
def truncate (max : Nat) (s : String) : String :=
  let limit := if max = 0 then 1 else max
  if s.toList.length ≤ limit then s
  else String.ofList (s.toList.take (limit - 1) ++ ['…'])

/-- The texts of a list with a separator between them. -/
def joinWith (sep : String) : List String → String
  | [] => ""
  | [s] => s
  | s :: rest => s ++ sep ++ joinWith sep rest

/-! ## Tests -/

example : afterLast '/' "a/b/c".toList = ['c'] := by decide
example : afterLast '/' "a/".toList = [] := by decide
example : beforeLast? '/' "a/b/c".toList = some "a/b".toList := by decide
example : splitOn ',' "a,,b".toList = [['a'], [], ['b']] := by decide
example : occursIn "bc".toList "abcd".toList = true := by decide

end UiReplay.Text
