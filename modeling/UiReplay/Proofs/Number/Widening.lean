import Mathlib.Algebra.Order.Field.Power
import Mathlib.Data.Rat.Cast.Order
import Mathlib.Tactic.FieldSimp
import Mathlib.Tactic.Positivity
import Mathlib.Tactic.Ring
import UiReplay.Number.Binary

/-!
# Widening

Rounding changes nothing on the numbers of a format: a quotient that is `m · 2^e`, with `m`
and `e` in canonical form, rounds to just that (`ofRatio?_eq`).  The canonical form is unique,
because the top bit of `m` says where the quotient lies between two powers of two
(`Ratio.floorLog2_eq`).

Every number of 32 bits has a canonical form of 64 bits.  So widening it never fails
(`Binary.isSome_convert?`), and rounding what it is widened to gives it back
(`Binary.toExtended_convert?`).
-/

namespace UiReplay.Number

/-! ## Quotients as rational numbers -/

namespace Ratio

/-- The rational number that a quotient is. -/
def value (a : Ratio) : ℚ := a.num / a.den

theorem scaled_den_pos (m : Nat) (e : Int) : 0 < (scaled m e).den := by
  unfold scaled
  split
  · exact Nat.one_pos
  · exact Nat.two_pow_pos _

/-- A power of two is a natural number on one of the two sides of zero. -/
theorem zpow_toNat {e : Int} (h : 0 ≤ e) : (2 : ℚ) ^ e = ((2 ^ e.toNat : Nat) : ℚ) := by
  rw [Nat.cast_pow, Nat.cast_ofNat, ← zpow_natCast, Int.toNat_of_nonneg h]

theorem zpow_toNat_neg {e : Int} (h : e < 0) : (2 : ℚ) ^ e = (((2 ^ (-e).toNat : Nat) : ℚ))⁻¹ := by
  rw [← zpow_toNat (by omega), zpow_neg, inv_inv]

theorem value_scaled (m : Nat) (e : Int) : (scaled m e).value = m * 2 ^ e := by
  unfold scaled value
  split
  · next h =>
      rw [zpow_toNat h]
      simp
  · next h =>
      rw [zpow_toNat_neg (by omega), div_eq_mul_inv]
      rfl

variable {a : Ratio}

theorem zpow_le_value_iff (hd : 0 < a.den) (k : Int) :
    (2 : ℚ) ^ k ≤ a.value ↔
      if 0 ≤ k then a.den * Nat.pow 2 k.toNat ≤ a.num
      else a.den ≤ a.num * Nat.pow 2 (-k).toNat := by
  have hd' : (0 : ℚ) < a.den := by exact_mod_cast hd
  unfold value
  rw [le_div_iff₀ hd']
  split
  · next h =>
      rw [zpow_toNat h, mul_comm]
      exact_mod_cast Iff.rfl
  · next h =>
      have hp : (0 : ℚ) < ((2 ^ (-k).toNat : Nat) : ℚ) := by exact_mod_cast Nat.two_pow_pos _
      rw [zpow_toNat_neg (by omega), inv_mul_le_iff₀ hp, mul_comm]
      exact_mod_cast Iff.rfl

/-- A natural number lies between two powers of two. -/
theorem zpow_log2_le {n : Nat} (h : 0 < n) : (2 : ℚ) ^ (Nat.log2 n : Int) ≤ n := by
  rw [zpow_natCast]
  exact_mod_cast Nat.log2_self_le (Nat.ne_of_gt h)

theorem lt_zpow_log2 (n : Nat) : (n : ℚ) < 2 ^ ((Nat.log2 n : Int) + 1) := by
  have h : n < 2 ^ (Nat.log2 n + 1) := Nat.lt_log2_self
  have hcast : (2 : ℚ) ^ ((Nat.log2 n : Int) + 1) = ((2 ^ (Nat.log2 n + 1) : Nat) : ℚ) := by
    rw [zpow_toNat (by omega)]
    rfl
  rw [hcast]
  exact_mod_cast h

/-- The logarithms of the two parts leave two neighbours. -/
theorem value_bounds (hn : 0 < a.num) (hd : 0 < a.den) :
    (2 : ℚ) ^ ((Nat.log2 a.num : Int) - Nat.log2 a.den - 1) ≤ a.value ∧
      a.value < 2 ^ ((Nat.log2 a.num : Int) - Nat.log2 a.den + 1) := by
  have two : (2 : ℚ) ≠ 0 := by norm_num
  have hd' : (0 : ℚ) < a.den := by exact_mod_cast hd
  have hn' : (0 : ℚ) ≤ a.num := by positivity
  unfold value
  constructor
  · rw [le_div_iff₀ hd']
    calc (2 : ℚ) ^ ((Nat.log2 a.num : Int) - Nat.log2 a.den - 1) * a.den
        ≤ 2 ^ ((Nat.log2 a.num : Int) - Nat.log2 a.den - 1) * 2 ^ ((Nat.log2 a.den : Int) + 1) := by
          gcongr
          exact (lt_zpow_log2 _).le
      _ = 2 ^ (Nat.log2 a.num : Int) := by
          rw [← zpow_add₀ two]
          congr 1
          omega
      _ ≤ a.num := zpow_log2_le hn
  · rw [div_lt_iff₀ hd']
    calc (a.num : ℚ) < 2 ^ ((Nat.log2 a.num : Int) + 1) := lt_zpow_log2 _
      _ = 2 ^ ((Nat.log2 a.num : Int) - Nat.log2 a.den + 1) * 2 ^ (Nat.log2 a.den : Int) := by
          rw [← zpow_add₀ two]
          congr 1
          omega
      _ ≤ 2 ^ ((Nat.log2 a.num : Int) - Nat.log2 a.den + 1) * a.den := by
          gcongr
          exact zpow_log2_le hd

/-- The comparison decides between the two. -/
theorem floorLog2_spec (hn : 0 < a.num) (hd : 0 < a.den) :
    (2 : ℚ) ^ a.floorLog2 ≤ a.value ∧ a.value < 2 ^ (a.floorLog2 + 1) := by
  obtain ⟨lower, upper⟩ := value_bounds hn hd
  have decides := zpow_le_value_iff hd ((Nat.log2 a.num : Int) - Nat.log2 a.den)
  have parts : a.floorLog2 = if (2 : ℚ) ^ ((Nat.log2 a.num : Int) - Nat.log2 a.den) ≤ a.value
      then (Nat.log2 a.num : Int) - Nat.log2 a.den
      else (Nat.log2 a.num : Int) - Nat.log2 a.den - 1 := by
    simp only [floorLog2, decides]
    split <;> rfl
  rw [parts]
  split
  · next h => exact ⟨h, upper⟩
  · next h =>
      rw [Int.sub_add_cancel]
      exact ⟨lower, lt_of_not_ge h⟩

theorem floorLog2_eq {k : Int} (hd : 0 < a.den) (lower : (2 : ℚ) ^ k ≤ a.value)
    (upper : a.value < 2 ^ (k + 1)) : a.floorLog2 = k := by
  have hn : 0 < a.num := by
    rcases Nat.eq_zero_or_pos a.num with h | h
    · have zero : a.value = 0 := by rw [value, h]; simp
      have pos : (0 : ℚ) < 2 ^ k := by positivity
      rw [zero] at lower
      exact absurd lower (not_le.mpr pos)
    · exact h
  obtain ⟨lower', upper'⟩ := floorLog2_spec hn hd
  have h₁ : a.floorLog2 < k + 1 :=
    (zpow_lt_zpow_iff_right₀ (by norm_num : (1 : ℚ) < 2)).mp (lower'.trans_lt upper)
  have h₂ : k < a.floorLog2 + 1 :=
    (zpow_lt_zpow_iff_right₀ (by norm_num : (1 : ℚ) < 2)).mp (lower.trans_lt upper')
  omega

theorem roundAt_eq {m : Nat} {e : Int} (hd : 0 < a.den) (h : a.value = m * 2 ^ e) :
    a.roundAt e = m := by
  have hd' : (a.den : ℚ) ≠ 0 := by exact_mod_cast Nat.ne_of_gt hd
  rw [value, div_eq_iff hd'] at h
  unfold roundAt
  split
  · next he =>
      have exact : a.num = m * (a.den * Nat.pow 2 e.toNat) := by
        rw [zpow_toNat he] at h
        have : (a.num : ℚ) = ((m * (a.den * 2 ^ e.toNat) : Nat) : ℚ) := by
          rw [h]
          push_cast
          ring
        exact_mod_cast this
      rw [exact]
      exact roundDiv_mul _ (Nat.mul_pos hd (Nat.two_pow_pos _))
  · next he =>
      have exact : a.num * Nat.pow 2 (-e).toNat = m * a.den := by
        have hp : ((2 ^ (-e).toNat : Nat) : ℚ) ≠ 0 := by exact_mod_cast (Nat.two_pow_pos _).ne'
        rw [zpow_toNat_neg (by omega)] at h
        have : ((a.num * 2 ^ (-e).toNat : Nat) : ℚ) = ((m * a.den : Nat) : ℚ) := by
          rw [Nat.cast_mul, Nat.cast_mul, h]
          field_simp
        exact_mod_cast this
      rw [exact, roundDiv_mul _ hd]

end Ratio

/-! ## Numbers of a format -/

variable {f : Format} {a : Ratio} {m : Nat} {e : Int}

/-- The exponent of a canonical form is the one that rounding chooses. -/
theorem exponent_eq (precision : 0 < f.precision) (canonical : f.Canonical m e) (hm : 0 < m) :
    max f.minExp ((Nat.log2 m : Int) + e - f.precision + 1) = e := by
  obtain ⟨below, least, -, form⟩ := canonical
  have hlog : Nat.log2 m < f.precision := (Nat.log2_lt (Nat.ne_of_gt hm)).mpr below
  rcases form with rfl | top
  · omega
  · have : f.precision - 1 ≤ Nat.log2 m := (Nat.le_log2 (Nat.ne_of_gt hm)).mpr top
    omega

/-- A quotient that is a number of the format rounds to it. -/
theorem roundedParts_eq (precision : 0 < f.precision) (canonical : f.Canonical m e)
    (hd : 0 < a.den) (h : a.value = m * 2 ^ e) : f.roundedParts a = (m, e) := by
  have two : (2 : ℚ) ≠ 0 := by norm_num
  have hd' : (a.den : ℚ) ≠ 0 := by exact_mod_cast Nat.ne_of_gt hd
  rcases Nat.eq_zero_or_pos m with rfl | hm
  · have least : e = f.minExp :=
      canonical.2.2.2.resolve_right (Nat.not_le.mpr (Nat.two_pow_pos _))
    have zero : a.num = 0 := by
      simpa [Ratio.value, hd'] using h
    rw [Format.roundedParts, if_pos zero, least]
  · have lower : (2 : ℚ) ^ ((Nat.log2 m : Int) + e) ≤ a.value := by
      rw [h, zpow_add₀ two]
      gcongr
      exact Ratio.zpow_log2_le hm
    have upper : a.value < 2 ^ ((Nat.log2 m : Int) + e + 1) := by
      rw [h, add_right_comm, zpow_add₀ two]
      gcongr
      exact Ratio.lt_zpow_log2 m
    have nonzero : a.num ≠ 0 := by
      intro zero
      have : (0 : ℚ) < 2 ^ ((Nat.log2 m : Int) + e) := by positivity
      rw [Ratio.value, zero, Nat.cast_zero, zero_div] at lower
      exact absurd lower (not_le.mpr this)
    have notTop : m ≠ Nat.pow 2 f.precision := Nat.ne_of_lt canonical.1
    simp only [Format.roundedParts, if_neg nonzero, Ratio.floorLog2_eq hd lower upper,
      exponent_eq precision canonical hm, Ratio.roundAt_eq hd h, if_neg notTop]

theorem ofRatio?_eq (precision : 0 < f.precision) (canonical : f.Canonical m e)
    (hd : 0 < a.den) (h : a.value = m * 2 ^ e) (negative : Bool) :
    Binary.ofRatio? f negative a = some ⟨negative, m, e, canonical⟩ := by
  have parts := roundedParts_eq precision canonical hd h
  simp only [Binary.ofRatio?, parts, canonical, dif_pos]

/-! ## From 32 bits to 64 -/

/-- A number of 32 bits has a canonical form of 64 bits. -/
theorem exists_canonical_double {m : Nat} {e : Int} (canonical : single.Canonical m e) :
    ∃ m' e', double.Canonical m' e' ∧ (m' : ℚ) * 2 ^ e' = m * 2 ^ e := by
  obtain ⟨below, least, greatest, -⟩ := canonical
  rcases Nat.eq_zero_or_pos m with rfl | hm
  · exact ⟨0, -1074, by decide, by simp⟩
  · -- the top bit of the mantissa goes to the top
    have hlog : Nat.log2 m < 24 := (Nat.log2_lt (Nat.ne_of_gt hm)).mpr below
    obtain ⟨k, hk⟩ : ∃ k, Nat.log2 m + k = 52 := ⟨52 - Nat.log2 m, by omega⟩
    have top : Nat.pow 2 52 ≤ m * 2 ^ k := by
      calc 2 ^ 52 = 2 ^ Nat.log2 m * 2 ^ k := by rw [← Nat.pow_add, hk]
        _ ≤ m * 2 ^ k := Nat.mul_le_mul_right _ (Nat.log2_self_le (Nat.ne_of_gt hm))
    have under : m * 2 ^ k < Nat.pow 2 53 := by
      calc m * 2 ^ k < 2 ^ (Nat.log2 m + 1) * 2 ^ k :=
            Nat.mul_lt_mul_of_pos_right Nat.lt_log2_self (Nat.two_pow_pos k)
        _ = 2 ^ 53 := by rw [← Nat.pow_add, Nat.add_right_comm, hk]
    have least' : (-149 : Int) ≤ e := least
    have greatest' : e ≤ 104 := greatest
    refine ⟨m * 2 ^ k, e - k, ⟨under, ?_, ?_, .inr top⟩, ?_⟩
    · show (-1074 : Int) ≤ e - k
      omega
    · show e - k ≤ 971
      omega
    · rw [zpow_sub₀ (by norm_num), zpow_natCast]
      push_cast
      field_simp

/-- A number of 32 bits is widened to one of the same sign and magnitude. -/
theorem Binary.exists_convert? (x : Binary single) :
    ∃ y, x.convert? double = some y ∧ y.negative = x.negative ∧
      y.magnitude.value = x.magnitude.value := by
  obtain ⟨m', e', canonical, h⟩ := exists_canonical_double x.canonical
  have value : x.magnitude.value = (m' : ℚ) * 2 ^ e' := (Ratio.value_scaled _ _).trans h.symm
  have den : 0 < x.magnitude.den := Ratio.scaled_den_pos _ _
  exact ⟨⟨x.negative, m', e', canonical⟩, ofRatio?_eq (by decide) canonical den value _, rfl,
    (Ratio.value_scaled _ _).trans value.symm⟩

/-- Widening a number of 32 bits never fails. -/
theorem Binary.isSome_convert? (x : Binary single) : (x.convert? double).isSome = true := by
  obtain ⟨y, hy, -⟩ := x.exists_convert?
  rw [hy]
  rfl

/-- What a number of 32 bits is widened to rounds to it. -/
theorem Binary.toExtended_convert? {x : Binary single} {y : Binary double}
    (h : x.convert? double = some y) : y.toExtended single = .finite x := by
  obtain ⟨y', hy, negative, magnitude⟩ := x.exists_convert?
  cases hy.symm.trans h
  have den : 0 < y.magnitude.den := Ratio.scaled_den_pos _ _
  have value : y.magnitude.value = (x.mantissa : ℚ) * 2 ^ x.exponent :=
    magnitude.trans (Ratio.value_scaled _ _)
  rw [toExtended, Extended.ofRatio, ofRatio?_eq (by decide) x.canonical den value, negative]

end UiReplay.Number
