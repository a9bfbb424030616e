import UiReplay.Text.Blank
import UiReplay.Text.Parts
import Mathlib.Data.List.TakeWhile

/-!
# Trimming around what stays

A part of a list is *solid* for a property when it is not empty and none of its characters has the
property (`Text.Solid`).  Trimming stops there, so it comes apart into dropping from what stands
before the first solid part and from what stands behind the last one (`Text.trimBy_solid`,
`Text.trimBy_between`).

A margin is what trimming takes off: blanks before and behind a text (`Text.Margin`).
-/

namespace UiReplay.Text

/-! ## Solid parts -/

/-- A list that is not empty and holds nothing to take off. -/
structure Solid (p : Char → Bool) (cs : List Char) : Prop where
  /-- There is a character. -/
  ne_nil : cs ≠ []
  /-- No character has the property. -/
  free : ∀ c ∈ cs, p c = false

variable {p : Char → Bool} {before cs after : List Char}

theorem Solid.reverse (h : Solid p cs) : Solid p cs.reverse where
  ne_nil := by simpa using h.ne_nil
  free c hc := h.free c (List.mem_reverse.mp hc)

theorem dropWhile_solid (h : Solid p cs) :
    (before ++ (cs ++ after)).dropWhile p = before.dropWhile p ++ (cs ++ after) := by
  induction before with
  | nil =>
      cases cs with
      | nil => exact absurd rfl h.ne_nil
      | cons c cs => simp [h.free c]
  | cons c before ih => by_cases hc : p c = true <;> simp [hc, ih]

theorem dropEnd_solid (h : Solid p cs) :
    dropEnd p (before ++ cs ++ after) = before ++ cs ++ dropEnd p after := by
  have reversed : (before ++ cs ++ after).reverse =
      after.reverse ++ (cs.reverse ++ before.reverse) := by simp
  rw [dropEnd, reversed, dropWhile_solid h.reverse]
  simp [dropEnd]

/-- Trimming stops at a solid part. -/
theorem trimBy_solid (h : Solid p cs) :
    trimBy p (before ++ cs ++ after) = before.dropWhile p ++ cs ++ dropEnd p after := by
  rw [trimBy, List.append_assoc, dropWhile_solid h, ← List.append_assoc, dropEnd_solid h]

/-- Trimming stops at the first and the last of two solid parts. -/
theorem trimBy_between {first mid last : List Char} (hf : Solid p first) (hl : Solid p last) :
    trimBy p (before ++ (first ++ mid ++ last) ++ after) =
      before.dropWhile p ++ (first ++ mid ++ last) ++ dropEnd p after := by
  rw [trimBy, List.append_assoc, List.append_assoc, List.append_assoc, dropWhile_solid hf]
  simp only [← List.append_assoc]
  rw [dropEnd_solid hl]

theorem dropEnd_append_of_all (h : after.all p = true) : dropEnd p (cs ++ after) = dropEnd p cs := by
  have behind : ∀ c ∈ after.reverse, p c = true :=
    fun c hc => List.all_eq_true.mp h c (List.mem_reverse.mp hc)
  rw [dropEnd, List.reverse_append, List.dropWhile_append_of_pos behind, dropEnd]

theorem dropStart_append (start cs : List Char) : dropStart start (start ++ cs) = cs := by
  rw [dropStart, if_pos (List.isPrefixOf_iff_prefix.mpr (List.prefix_append start cs)),
    List.drop_left]

/-! ## Margins -/

/-- Blanks on both sides of a text. -/
structure Margin where
  /-- The blanks before the text. -/
  before : String
  /-- The blanks behind the text. -/
  after : String
  /-- They are blank. -/
  before_blank : isBlankText before = true
  /-- They are blank. -/
  after_blank : isBlankText after = true

/-- A text between blanks. -/
def Margin.around (m : Margin) (s : String) : String := m.before ++ s ++ m.after

/-- No blanks. -/
def Margin.none : Margin := ⟨"", "", rfl, rfl⟩

@[simp] theorem Margin.around_none (s : String) : Margin.none.around s = s := by
  simp [around, none]

@[simp] theorem Margin.toList_around (m : Margin) (s : String) :
    (m.around s).toList = m.before.toList ++ s.toList ++ m.after.toList := by
  simp [around]

theorem Margin.isBlank_before (m : Margin) : ∀ c ∈ m.before.toList, isBlank c = true :=
  List.all_eq_true.mp m.before_blank

theorem Margin.isBlank_after (m : Margin) : ∀ c ∈ m.after.toList, isBlank c = true :=
  List.all_eq_true.mp m.after_blank

end UiReplay.Text
