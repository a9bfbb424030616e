import UiReplay.Screen.Rect
import UiReplay.Proofs.Number.Numeral
import UiReplay.Proofs.Text.Trimming

/-!
# The text of a rectangle

A rectangle is written in four forms (`Rect.Spelling`), which differ in what stands before the
numbers, between the second and the third, and behind them.  Blanks may stand around the whole and
around each number (`Text.Margin`).

Reading takes off the blanks and the name, joins two halves, splits at the commas, and takes blanks,
brackets and blanks off each part.  A number has none of the characters that are taken off.  So
trimming stops at the first and the last number, whatever stands around them, and each part is read as
its number (`part?_intText`).  Hence every form is read as the rectangle with these edges if there is
one (`parse?_write`), and an accepted rectangle whose edges have 32 bits is read back from the text of
a selector and from the plain one.

What is read from any text is an accepted rectangle (`of?_of_parse?`), and its edges have 32 bits,
the rounded ones included (`fits_of_parse?`).
-/

namespace UiReplay

namespace Rect

open Number (fitsInt32 isNumeralChar)
open Text (isBlank Solid Margin)

/-! ## Forms -/

/-- The forms in which a rectangle is written. -/
inductive Spelling where
  /-- `L,T,R,B` -/
  | bare
  /-- `[L,T,R,B]` -/
  | bracketed
  /-- `bounds=[L,T,R,B]` -/
  | named
  /-- `[L,T][R,B]` -/
  | halves

namespace Spelling

/-- What stands before the numbers. -/
def opening : Spelling → String
  | bare => ""
  | bracketed | halves => "["
  | named => "bounds=["

/-- What stands between the second number and the third. -/
def joint : Spelling → String
  | bare | bracketed | named => ","
  | halves => "]["

/-- What stands behind the numbers. -/
def closing : Spelling → String
  | bare => ""
  | bracketed | named | halves => "]"

/-- Four numbers written in a form. -/
def write (f : Spelling) (l t r b : String) : String :=
  f.opening ++ l ++ "," ++ t ++ f.joint ++ r ++ "," ++ b ++ f.closing

example : [bare, bracketed, named, halves].map (fun f => f.write "1" "2" "3" "4") =
    ["1,2,3,4", "[1,2,3,4]", "bounds=[1,2,3,4]", "[1,2][3,4]"] := by decide

end Spelling

/-! ## Parts -/

theorem toNat_of_isNumeralChar {c : Char} (h : isNumeralChar c = true) :
    45 ≤ c.toNat ∧ c.toNat ≤ 57 ∧ c.toNat ≠ 44 := by
  rcases Bool.or_eq_true_iff.mp h with h | h
  · have digit : 48 ≤ c.toNat ∧ c.toNat ≤ 57 := by
      simpa [Char.isDigit, UInt32.le_iff_toNat_le] using h
    omega
  · cases eq_of_beq h
    decide

theorem not_isBlank_of_isNumeralChar {c : Char} (h : isNumeralChar c = true) :
    isBlank c = false := by
  obtain ⟨h1, h2, -⟩ := toNat_of_isNumeralChar h
  simp only [isBlank, Bool.or_eq_false_iff, Bool.and_eq_false_iff, decide_eq_false_iff_not,
    beq_eq_false_iff_ne]
  omega

theorem not_isBracket_of_isNumeralChar {c : Char} (h : isNumeralChar c = true) :
    isBracket c = false := by
  rw [isBracket, Bool.or_eq_false_iff, beq_eq_false_iff_ne, beq_eq_false_iff_ne]
  constructor <;> rintro rfl <;> cases h

theorem not_isBracket_of_isBlank {c : Char} (h : isBlank c = true) : isBracket c = false := by
  rw [isBracket, Bool.or_eq_false_iff, beq_eq_false_iff_ne, beq_eq_false_iff_ne]
  constructor <;> rintro rfl <;> cases h

theorem intText_ne_nil (i : Int) : (Number.intText i).toList ≠ [] := by
  rw [Number.toList_intText]
  split <;> simp [Number.natDigits_ne_nil]

theorem solid_intText {p : Char → Bool} (free : ∀ c, isNumeralChar c = true → p c = false)
    (i : Int) : Solid p (Number.intText i).toList :=
  ⟨intText_ne_nil i, fun c hc => free c (Number.isNumeralChar_of_mem_intText hc)⟩

/-- What may stand before the number of a part: blanks, brackets and blanks. -/
def IsShell (cs : List Char) : Prop :=
  ((cs.dropWhile isBlank).dropWhile isBracket).dropWhile isBlank = []

theorem isShell_of_blank {cs : List Char} (h : ∀ c ∈ cs, isBlank c = true) : IsShell cs := by
  have nothing : cs.dropWhile isBlank = [] := List.dropWhile_eq_nil_iff.mpr h
  simp [IsShell, nothing]

/-- A bracket before blanks. -/
theorem isShell_bracket {c : Char} (hc : isBracket c = true) {cs : List Char}
    (h : ∀ c ∈ cs, isBlank c = true) : IsShell (c :: cs) := by
  have solid : isBlank c = false := by
    by_contra blank
    rw [Bool.not_eq_false] at blank
    rw [not_isBracket_of_isBlank blank] at hc
    cases hc
  have stays : cs.dropWhile isBracket = cs := by
    cases cs with
    | nil => rfl
    | cons d cs => simp [not_isBracket_of_isBlank (h d List.mem_cons_self)]
  have nothing : cs.dropWhile isBlank = [] := List.dropWhile_eq_nil_iff.mpr h
  simp [IsShell, solid, hc, stays, nothing]

/-- A number of 32 bits is read from what stands around it. -/
theorem part?_intText {i : Int} (fits : fitsInt32 i = true) {before after : List Char}
    (hb : IsShell before) (ha : IsShell after.reverse) :
    part? (before ++ (Number.intText i).toList ++ after) = some i := by
  have blank := solid_intText (fun _ => not_isBlank_of_isNumeralChar) i
  have bracket := solid_intText (fun _ => not_isBracket_of_isNumeralChar) i
  have behind : Text.dropEnd isBlank (Text.dropEnd isBracket (Text.dropEnd isBlank after)) = [] := by
    simpa [Text.dropEnd, IsShell] using ha
  have trimmed : Text.trimList (Text.trimBy isBracket
      (Text.trimList (before ++ (Number.intText i).toList ++ after))) =
      (Number.intText i).toList := by
    rw [Text.trimList, Text.trimList, Text.trimBy_solid blank, Text.trimBy_solid bracket,
      Text.trimBy_solid blank, behind, hb, List.nil_append, List.append_nil]
  rw [part?, trimmed, coordinate?, Number.readInt?_intText]
  exact if_pos fits

/-! ## A written rectangle -/

/-- A rectangle whose edges have 32 bits. -/
def Fits (r : Rect) : Prop :=
  fitsInt32 r.left = true ∧ fitsInt32 r.top = true ∧ fitsInt32 r.right = true ∧
    fitsInt32 r.bottom = true

/-- Before the first closing bracket no halves are joined. -/
theorem joinHalves_append {cs : List Char} (h : ']' ∉ cs) (rest : List Char) :
    joinHalves (cs ++ rest) = cs ++ joinHalves rest := by
  induction cs with
  | nil => rfl
  | cons c cs ih =>
      have hc : c ≠ ']' := fun he => h (he ▸ List.mem_cons_self ..)
      rw [List.cons_append, joinHalves.eq_2 _ _ fun _ he _ => hc he,
        ih fun hm => h (List.mem_cons_of_mem c hm), List.cons_append]

theorem joinHalves_joint (f : Spelling) (rest : List Char) :
    joinHalves (f.joint.toList ++ rest) = ',' :: joinHalves rest := by
  cases f with
  | bare | bracketed | named =>
      have comma : ']' ∉ [','] := by simp
      exact joinHalves_append comma rest
  | halves => rfl

theorem joinHalves_closing (f : Spelling) : joinHalves f.closing.toList = f.closing.toList := by
  cases f <;> rfl

variable {l b : Int} {outer ml mb : Margin}

/-- The characters of a written rectangle, apart where trimming stops. -/
theorem toList_around_write (f : Spelling) (first t r last : String) :
    (outer.around (f.write (ml.around first) t r (mb.around last))).toList =
      (outer.before.toList ++ (f.opening.toList ++ ml.before.toList)) ++
        (first.toList ++ (ml.after.toList ++ ',' :: t.toList ++ f.joint.toList ++ r.toList ++
          ',' :: mb.before.toList) ++ last.toList) ++
        ((mb.after.toList ++ f.closing.toList) ++ outer.after.toList) := by
  simp [Spelling.write]

/-- Trimming takes off the blanks around the whole, and those before the first and behind the last
number when nothing else stands there. -/
theorem trimList_around_write (f : Spelling) (l b : Int) (t r : String) :
    Text.trimList (outer.around (f.write (ml.around (Number.intText l)) t r
        (mb.around (Number.intText b)))).toList =
      (f.opening.toList ++ ml.before.toList).dropWhile isBlank ++
        ((Number.intText l).toList ++ (ml.after.toList ++ ',' :: t.toList ++ f.joint.toList ++
          r.toList ++ ',' :: mb.before.toList) ++ (Number.intText b).toList) ++
        Text.dropEnd isBlank (mb.after.toList ++ f.closing.toList) := by
  have blank := solid_intText fun _ => not_isBlank_of_isNumeralChar
  rw [toList_around_write, Text.trimList, Text.trimBy_between (blank l) (blank b),
    List.dropWhile_append_of_pos outer.isBlank_before,
    Text.dropEnd_append_of_all (List.all_eq_true.mpr outer.isBlank_after)]

/-- A text that starts with a number does not start with the name. -/
theorem dropStart_intText (i : Int) (rest : List Char) :
    Text.dropStart "bounds=".toList ((Number.intText i).toList ++ rest) =
      (Number.intText i).toList ++ rest := by
  cases hi : (Number.intText i).toList with
  | nil => exact absurd hi (intText_ne_nil i)
  | cons c cs =>
      have numeral : isNumeralChar c = true :=
        Number.isNumeralChar_of_mem_intText (hi ▸ List.mem_cons_self)
      have differ : c ≠ 'b' := by
        rintro rfl
        cases numeral
      simp [Text.dropStart, List.isPrefixOf, differ.symm]

/-- What is left of the opening of a form and the blanks behind it. -/
def front (m : Margin) : Spelling → List Char
  | .bare => []
  | .bracketed | .named | .halves => '[' :: m.before.toList

/-- What is left of the blanks before the closing of a form. -/
def rear (m : Margin) : Spelling → List Char
  | .bare => []
  | .bracketed | .named | .halves => m.after.toList

theorem isShell_front (m : Margin) (f : Spelling) : IsShell (front m f) := by
  cases f with
  | bare => rfl
  | bracketed | named | halves => exact isShell_bracket rfl m.isBlank_before

theorem dropStart_trimList_write (f : Spelling) (l b : Int) (t r : String) :
    Text.dropStart "bounds=".toList (Text.trimList (outer.around
        (f.write (ml.around (Number.intText l)) t r (mb.around (Number.intText b)))).toList) =
      front ml f ++ ((Number.intText l).toList ++ (ml.after.toList ++ ',' :: t.toList ++
        f.joint.toList ++ r.toList ++ ',' :: mb.before.toList) ++ (Number.intText b).toList) ++
        (rear mb f ++ f.closing.toList) := by
  have no_before : ml.before.toList.dropWhile isBlank = [] :=
    List.dropWhile_eq_nil_iff.mpr ml.isBlank_before
  have no_after : Text.dropEnd isBlank mb.after.toList = [] :=
    (Text.dropEnd_eq_nil_iff isBlank _).mpr mb.after_blank
  have stays : Text.dropEnd isBlank (mb.after.toList ++ [']']) = mb.after.toList ++ [']'] := by
    simp [Text.dropEnd, isBlank]
  rw [trimList_around_write]
  cases f with
  | bare =>
      simp only [Spelling.opening, Spelling.closing, front, rear, no_before, no_after,
        String.toList_empty, List.nil_append, List.append_nil, List.append_assoc]
      exact dropStart_intText l _
  | bracketed | halves =>
      simp [Spelling.opening, Spelling.closing, front, rear, stays, Text.dropStart, isBlank]
  | named =>
      have name : (Spelling.named.opening.toList ++ ml.before.toList).dropWhile isBlank =
          "bounds=".toList ++ '[' :: ml.before.toList := by
        simp [Spelling.opening, isBlank]
      rw [name, List.append_assoc, List.append_assoc, Text.dropStart_append]
      simp [Spelling.closing, front, rear, stays]

/-- The characters of a part, closing brackets apart. -/
def IsInside (c : Char) : Prop := c = '[' ∨ isBlank c = true ∨ isNumeralChar c = true

theorem IsInside.ne {c : Char} (h : IsInside c) : c ≠ ',' ∧ c ≠ ']' := by
  constructor <;> rintro rfl <;> rcases h with h | h | h <;> cases h

theorem isInside_of_mem_intText {i : Int} {c : Char} (h : c ∈ (Number.intText i).toList) :
    IsInside c :=
  .inr (.inr (Number.isNumeralChar_of_mem_intText h))

theorem isInside_of_mem_front {m : Margin} {f : Spelling} {c : Char} (h : c ∈ front m f) :
    IsInside c := by
  cases f with
  | bare => cases h
  | bracketed | named | halves =>
      rcases List.mem_cons.mp h with rfl | h
      · exact .inl rfl
      · exact .inr (.inl (m.isBlank_before c h))

theorem isBlank_of_mem_rear {m : Margin} {f : Spelling} {c : Char} (h : c ∈ rear m f) :
    isBlank c = true := by
  cases f with
  | bare => cases h
  | bracketed | named | halves => exact m.isBlank_after c h

/-- A number with what stands around it. -/
theorem isInside_of_mem_part {i : Int} {before after : List Char}
    (hb : ∀ c ∈ before, IsInside c) (ha : ∀ c ∈ after, isBlank c = true) :
    ∀ c ∈ before ++ (Number.intText i).toList ++ after, IsInside c := by
  intro c hc
  rcases List.mem_append.mp hc with hc | hc
  · rcases List.mem_append.mp hc with hc | hc
    · exact hb c hc
    · exact isInside_of_mem_intText hc
  · exact .inr (.inl (ha c hc))

/-- The parts of a written rectangle stand between its commas, when its halves are joined. -/
theorem splitOn_joinHalves (f : Spelling) {first second third last : List Char}
    (hfirst : ∀ c ∈ first, IsInside c) (hsecond : ∀ c ∈ second, IsInside c)
    (hthird : ∀ c ∈ third, IsInside c) (hlast : ∀ c ∈ last, IsInside c) :
    Text.splitOn ',' (joinHalves ((first ++ ',' :: second) ++
        (f.joint.toList ++ ((third ++ ',' :: last) ++ f.closing.toList)))) =
      [first, second, third, last ++ f.closing.toList] := by
  have comma {cs : List Char} (h : ∀ c ∈ cs, IsInside c) : ',' ∉ cs :=
    fun hm => (h _ hm).ne.1 rfl
  have bracket {cs ds : List Char} (hc : ∀ c ∈ cs, IsInside c) (hd : ∀ c ∈ ds, IsInside c) :
      ']' ∉ cs ++ ',' :: ds := by
    intro hm
    rcases List.mem_append.mp hm with hm | hm
    · exact (hc _ hm).ne.2 rfl
    · rcases List.mem_cons.mp hm with hm | hm
      · cases hm
      · exact (hd _ hm).ne.2 rfl
  have ends : ',' ∉ last ++ f.closing.toList := by
    have closing : ',' ∉ f.closing.toList := by cases f <;> simp [Spelling.closing]
    simp [comma hlast, closing]
  rw [joinHalves_append (bracket hfirst hsecond), joinHalves_joint,
    joinHalves_append (bracket hthird hlast), joinHalves_closing, List.append_assoc,
    List.cons_append, Text.splitOn_append_sep (comma hfirst),
    Text.splitOn_append_sep (comma hsecond), List.append_assoc, List.cons_append,
    Text.splitOn_append_sep (comma hthird), Text.splitOn_of_not_mem ends]

variable {t r : Int} {mt mr : Margin}

/-- A written rectangle comes apart into its four numbers with what stands around them. -/
theorem splitOn_write (f : Spelling) :
    Text.splitOn ',' (joinHalves (Text.dropStart "bounds=".toList (Text.trimList
        (outer.around (f.write (ml.around (Number.intText l)) (mt.around (Number.intText t))
          (mr.around (Number.intText r)) (mb.around (Number.intText b)))).toList))) =
      [front ml f ++ (Number.intText l).toList ++ ml.after.toList,
        mt.before.toList ++ (Number.intText t).toList ++ mt.after.toList,
        mr.before.toList ++ (Number.intText r).toList ++ mr.after.toList,
        mb.before.toList ++ (Number.intText b).toList ++ (rear mb f ++ f.closing.toList)] := by
  have before (m : Margin) : ∀ c ∈ m.before.toList, IsInside c :=
    fun c hc => .inr (.inl (m.isBlank_before c hc))
  have parts := splitOn_joinHalves f
    (isInside_of_mem_part (i := l) (fun _ => isInside_of_mem_front (m := ml) (f := f))
      ml.isBlank_after)
    (isInside_of_mem_part (i := t) (before mt) mt.isBlank_after)
    (isInside_of_mem_part (i := r) (before mr) mr.isBlank_after)
    (isInside_of_mem_part (i := b) (before mb) fun _ => isBlank_of_mem_rear (m := mb) (f := f))
  rw [dropStart_trimList_write]
  simpa only [Margin.toList_around, List.append_assoc, List.cons_append] using parts

theorem isShell_reverse {cs : List Char} (h : ∀ c ∈ cs, isBlank c = true) : IsShell cs.reverse :=
  isShell_of_blank fun c hc => h c (List.mem_reverse.mp hc)

theorem isShell_reverse_rear (m : Margin) (f : Spelling) :
    IsShell (rear m f ++ f.closing.toList).reverse := by
  cases f with
  | bare => rfl
  | bracketed | named | halves =>
      rw [Spelling.closing, List.reverse_append]
      exact isShell_bracket rfl fun c hc => m.isBlank_after c (List.mem_reverse.mp hc)

/-- Four numbers of 32 bits that are written in any form, with blanks around them, are read as the
rectangle with these edges, if there is one. -/
theorem parse?_write (fits : Fits ⟨l, t, r, b⟩) (f : Spelling) (outer ml mt mr mb : Margin) :
    parse? (outer.around (f.write (ml.around (Number.intText l)) (mt.around (Number.intText t))
      (mr.around (Number.intText r)) (mb.around (Number.intText b)))) = of? l t r b := by
  obtain ⟨hl, ht, hr, hb⟩ := fits
  have left := part?_intText hl (isShell_front ml f) (isShell_reverse ml.isBlank_after)
  have top := part?_intText ht (isShell_of_blank mt.isBlank_before)
    (isShell_reverse mt.isBlank_after)
  have right := part?_intText hr (isShell_of_blank mr.isBlank_before)
    (isShell_reverse mr.isBlank_after)
  have bottom := part?_intText hb (isShell_of_blank mb.isBlank_before) (isShell_reverse_rear mb f)
  simp only [parse?, parseChars?, splitOn_write, List.mapM_cons, List.mapM_nil, left, top, right,
    bottom]
  rfl

/-- Without blanks around the numbers. -/
theorem parse?_write_text {rect : Rect} (fits : rect.Fits)
    (accepted : of? rect.left rect.top rect.right rect.bottom = some rect) (f : Spelling) :
    parse? (f.write (Number.intText rect.left) (Number.intText rect.top)
      (Number.intText rect.right) (Number.intText rect.bottom)) = some rect := by
  have read := parse?_write fits f .none .none .none .none .none
  simp only [Margin.around_none] at read
  rw [read, accepted]

theorem text_eq (r : Rect) :
    r.text = Spelling.bare.write (Number.intText r.left) (Number.intText r.top)
      (Number.intText r.right) (Number.intText r.bottom) := by
  simp [text, Text.joinWith, Spelling.write, Spelling.opening, Spelling.joint, Spelling.closing,
    String.append_assoc]

theorem selectorText_eq (r : Rect) :
    r.selectorText = Spelling.named.write (Number.intText r.left) (Number.intText r.top)
      (Number.intText r.right) (Number.intText r.bottom) := by
  rw [selectorText, text_eq]
  simp [Spelling.write, Spelling.opening, Spelling.joint, Spelling.closing, String.append_assoc]

/-- The rectangle that is written for a selector is read back. -/
theorem parse?_selectorText {r : Rect} (fits : r.Fits)
    (accepted : of? r.left r.top r.right r.bottom = some r) : parse? r.selectorText = some r := by
  rw [selectorText_eq]
  exact parse?_write_text fits accepted .named

theorem parse?_text {r : Rect} (fits : r.Fits)
    (accepted : of? r.left r.top r.right r.bottom = some r) : parse? r.text = some r := by
  rw [text_eq]
  exact parse?_write_text fits accepted .bare

/-! ## Rectangles that are read -/

theorem fitsInt32_iff {i : Int} : fitsInt32 i = true ↔ -2147483648 ≤ i ∧ i ≤ 2147483647 := by
  simp [fitsInt32]

theorem fits_of_coordinate? {cs : List Char} {i : Int} (h : coordinate? cs = some i) :
    fitsInt32 i = true := by
  have rounded : roundedCoordinate? cs = some i → fitsInt32 i = true := by
    intro h
    rw [roundedCoordinate?] at h
    split at h
    · next x _ =>
        obtain ⟨below, he⟩ := Option.ite_none_right_eq_some.mp h
        have := Number.Binary.natAbs_roundAway_le below
        rw [Option.some.inj he] at this
        rw [fitsInt32_iff]
        omega
    · cases h
  rw [coordinate?] at h
  split at h
  · split at h
    · next fits =>
        cases h
        exact fits
    · exact rounded h
  · exact rounded h

/-- What a list is read as was read from one of its elements. -/
theorem exists_part?_of_mem {parts : List (List Char)} {is : List Int}
    (h : parts.mapM part? = some is) : ∀ i ∈ is, ∃ cs, part? cs = some i := by
  induction parts generalizing is with
  | nil =>
      cases h
      simp
  | cons cs parts ih =>
      rw [List.mapM_cons] at h
      obtain ⟨i, hi, h⟩ := Option.bind_eq_some_iff.mp h
      obtain ⟨is, his, h⟩ := Option.bind_eq_some_iff.mp h
      cases h
      intro j hj
      rcases List.mem_cons.mp hj with rfl | hj
      · exact ⟨cs, hi⟩
      · exact ih his j hj

/-- The edges of a rectangle that is read have 32 bits. -/
theorem fits_of_parse? {s : String} {r : Rect} (h : parse? s = some r) : r.Fits := by
  simp only [parse?, parseChars?] at h
  split at h
  · next left top right bottom hm =>
      have edge : ∀ i ∈ [left, top, right, bottom], fitsInt32 i = true := by
        intro i hi
        obtain ⟨cs, hcs⟩ := exists_part?_of_mem hm i hi
        exact fits_of_coordinate? hcs
      rw [(of?_eq_some_iff.mp h).1]
      exact ⟨edge left (by simp), edge top (by simp), edge right (by simp),
        edge bottom (by simp)⟩
  · cases h

/-- The four forms, with blanks around the whole and around each number, are read as the rectangle
with these edges, if there is one.  An accepted rectangle is read back from both of its texts, and
what is read from any text is an accepted rectangle.  The edges have 32 bits. -/
theorem parse?_spelled :
    (∀ l t r b : Int, Fits ⟨l, t, r, b⟩ → ∀ (f : Spelling) (outer ml mt mr mb : Margin),
      parse? (outer.around (f.write (ml.around (Number.intText l)) (mt.around (Number.intText t))
        (mr.around (Number.intText r)) (mb.around (Number.intText b)))) = of? l t r b) ∧
    (∀ rect : Rect, rect.Fits → of? rect.left rect.top rect.right rect.bottom = some rect →
      parse? rect.selectorText = some rect ∧ parse? rect.text = some rect) ∧
    (∀ s rect, parse? s = some rect →
      rect.Fits ∧ of? rect.left rect.top rect.right rect.bottom = some rect ∧
        rect.isDegenerate = false ∧ rect.IsUpright) := by
  refine ⟨fun _ _ _ _ fits => parse?_write fits, ?_, ?_⟩
  · intro rect fits accepted
    exact ⟨parse?_selectorText fits accepted, parse?_text fits accepted⟩
  · intro s rect read
    have accepted := of?_of_parse? read
    exact ⟨fits_of_parse? read, accepted, (of?_eq_some_iff.mp accepted).2⟩

/-- A rectangle that reaches across all edges of 32 bits. -/
def widest : Rect := ⟨-2147483648, 0, 2147483647, 10⟩

theorem parse?_spelled_widest :
    widest.Fits ∧ of? widest.left widest.top widest.right widest.bottom = some widest ∧
      parse? "\t[ -2147483648,0 ][ 2147483647,10 ] " = some widest ∧
      parse? "bounds=[-2147483648,0,2147483647,10]" = some widest ∧
      parse? "-2147483648,0,2147483647,10" = some widest ∧ widest.IsUpright := by
  obtain ⟨spelled, written, sound⟩ := parse?_spelled
  have fits : widest.Fits := ⟨rfl, rfl, rfl, rfl⟩
  have accepted : of? widest.left widest.top widest.right widest.bottom = some widest := by decide
  have read := spelled _ _ _ _ fits .halves ⟨"\t", " ", by decide, by decide⟩
    ⟨" ", "", by decide, by decide⟩ ⟨"", " ", by decide, by decide⟩
    ⟨" ", "", by decide, by decide⟩ ⟨"", " ", by decide, by decide⟩
  obtain ⟨selector, plain⟩ := written widest fits accepted
  exact ⟨fits, accepted, read.trans accepted, selector, plain, (sound _ _ plain).2.2.2⟩

/-! ## Near rectangles -/

theorem within_self (r : Rect) {tolerance : Int} (h : 0 ≤ tolerance) :
    r.within r tolerance = true := by
  simp [within, h]

end Rect

end UiReplay
