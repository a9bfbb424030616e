import UiReplay.Number.Shortest
import UiReplay.Number.Reading
import Mathlib.Tactic.Ring

/-!
# Numerals

A number that is written is read back as itself (`readInt?_intText`), and what is
written is digits with at most a minus sign before them.  So a written number can
stand between blanks, commas, brackets or quotes and is found again.

A number that is not an integer is rounded to the nearest one.  Below a bound the
rounded number does not pass the bound (`Binary.natAbs_roundAway_le`).
-/

namespace UiReplay.Number

/-! ## Natural numbers -/

theorem natDigits_ne_nil (n : Nat) : natDigits n ≠ [] := Nat.toDigits_ne_nil

theorem isDigit_of_mem_natDigits {n : Nat} {c : Char} (h : c ∈ natDigits n) : c.isDigit = true :=
  Nat.isDigit_of_mem_toDigits (by decide) (by decide) h

theorem ofDigits_natDigits (n : Nat) : ofDigits (natDigits n) = n :=
  Nat.ofDigitChars_ten_toDigits

theorem readDigits?_natDigits (n : Nat) : readDigits? (natDigits n) = some n := by
  have digits : (natDigits n).all Char.isDigit = true :=
    List.all_eq_true.mpr fun _ h => isDigit_of_mem_natDigits h
  rw [readDigits?, if_pos ⟨natDigits_ne_nil n, digits⟩, ofDigits_natDigits]

theorem natDigits_ne_cons {n : Nat} {c : Char} (h : c.isDigit = false) (cs : List Char) :
    natDigits n ≠ c :: cs := by
  intro he
  rw [isDigit_of_mem_natDigits (n := n) (he ▸ List.mem_cons_self ..)] at h
  cases h

/-- Digits are read without a sign. -/
theorem readInt?_natDigits (n : Nat) : readInt? (natDigits n) = some (n : Int) := by
  rw [readInt?.eq_3 _ (natDigits_ne_cons rfl) (natDigits_ne_cons rfl), readDigits?_natDigits]
  rfl

/-! ## Integers -/

/-- The characters of a written integer. -/
def isNumeralChar (c : Char) : Bool := c.isDigit || c == '-'

theorem toList_intText (i : Int) :
    (intText i).toList = if i < 0 then '-' :: natDigits i.natAbs else natDigits i.natAbs := by
  rw [intText]
  split <;> simp [natText]

theorem isNumeralChar_of_mem_intText {i : Int} {c : Char} (h : c ∈ (intText i).toList) :
    isNumeralChar c = true := by
  rw [toList_intText] at h
  split at h
  · rcases List.mem_cons.mp h with rfl | h
    · rfl
    · rw [isNumeralChar, isDigit_of_mem_natDigits h, Bool.true_or]
  · rw [isNumeralChar, isDigit_of_mem_natDigits h, Bool.true_or]

/-- An integer that is written is read back. -/
theorem readInt?_intText (i : Int) : readInt? (intText i).toList = some i := by
  rw [toList_intText]
  split
  · next h =>
      rw [readInt?, readDigits?_natDigits]
      show some (-(i.natAbs : Int)) = some i
      congr 1
      omega
  · next h =>
      rw [readInt?_natDigits]
      congr 1
      omega

/-! ## Rounding -/

theorem roundDivUp_le {num den bound : Nat} (h : num < bound * den) :
    roundDivUp num den ≤ bound := by
  rw [roundDivUp]
  apply Nat.le_of_lt_succ
  apply Nat.div_lt_of_lt_mul
  calc 2 * num + den < 2 * (bound * den) + 2 * den := by omega
    _ = 2 * den * (bound + 1) := by ring

/-- A number below a bound does not pass it when it is rounded. -/
theorem Binary.natAbs_roundAway_le {f : Format} {x : Binary f} {bound : Nat}
    (h : x.magnitude.isBelow bound = true) : x.roundAway.natAbs ≤ bound := by
  have hr := roundDivUp_le (of_decide_eq_true h)
  simp only [roundAway]
  split <;> omega

end UiReplay.Number
