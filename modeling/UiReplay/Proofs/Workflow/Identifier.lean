import UiReplay.Uuid

/-!
# Identifiers that are written

An identifier that is written is read back as itself (`Uuid.read?_text`).  Leading zeros and
hyphens are all that the written form adds to the hexadecimal digits.
-/

namespace UiReplay.Uuid

/-! ## Digits -/

/-- The digits are read from left to right. -/
theorem readDigits?_append (a : List Char) (c : Char) :
    readDigits? (a ++ [c]) = (readDigits? a).bind fun n => (digitValue? c).map (16 * n + ·) := by
  simp [readDigits?, List.foldl_append]

theorem digitValue?_digitChar {d : Nat} (h : d < 16) : digitValue? d.digitChar = some d := by
  have all : ∀ d < 16, digitValue? (Nat.digitChar d) = some d := by decide +kernel
  exact all d h

/-- Reading the digits of a number, by induction on the number without its last digit. -/
theorem readDigits?_hexDigits (n : Nat) : readDigits? (Text.hexDigits n) = some n := by
  induction n using Nat.strongRecOn with
  | ind n ih =>
      unfold Text.hexDigits at ih ⊢
      rcases Nat.lt_or_ge n 16 with h | h
      · rw [Nat.toDigits_of_lt_base h]
        simpa using (readDigits?_append [] n.digitChar).trans
          (by rw [digitValue?_digitChar h]; simp [readDigits?])
      · rw [Nat.toDigits_of_base_le (by decide) h, readDigits?_append,
          ih (n / 16) (Nat.div_lt_self (by omega) (by decide)),
          digitValue?_digitChar (Nat.mod_lt n (by decide))]
        simp only [Option.bind_some, Option.map_some, Nat.div_add_mod]

/-- Leading zeros do not count. -/
theorem readDigits?_hexPadded (width n : Nat) : readDigits? (Text.hexPadded width n) = some n := by
  have zeros : ∀ k, readDigits? (List.replicate k '0') = some 0 := by
    intro k
    induction k with
    | zero => rfl
    | succ k ih =>
        rw [List.replicate_succ', readDigits?_append, ih]
        rfl
  rw [Text.hexPadded, readDigits?, List.foldl_append]
  show List.foldl _ (readDigits? (List.replicate _ '0')) _ = _
  rw [zeros]
  exact readDigits?_hexDigits n

theorem length_digits (u : Uuid) : u.digits.length = 32 := by
  have h : (Text.hexDigits u.bits.toNat).length ≤ 32 :=
    (Nat.length_toDigits_le_iff (by decide) (by decide)).mpr u.bits.isLt
  rw [digits, Text.hexPadded, List.length_append, List.length_replicate]
  omega

theorem readBare?_digits (u : Uuid) : readBare? u.digits = some u := by
  rw [readBare?, if_pos u.length_digits, digits, readDigits?_hexPadded]
  simp

/-! ## The grouped form -/

/-- Five groups of characters with hyphens between them. -/
structure Grouped (cs ds : List Char) : Prop where
  length : cs.length = 36
  hyphens : [8, 13, 18, 23].all (fun i => cs[i]? == some '-') = true
  joined : cs.take 8 ++ (cs.drop 9).take 4 ++ (cs.drop 14).take 4 ++ (cs.drop 19).take 4 ++
    cs.drop 24 = ds

theorem grouped_of_lengths {a b c d e : List Char} (ha : a.length = 8) (hb : b.length = 4)
    (hc : c.length = 4) (hd : d.length = 4) (he : e.length = 12) :
    Grouped (a ++ '-' :: (b ++ '-' :: (c ++ '-' :: (d ++ '-' :: e)))) (a ++ b ++ c ++ d ++ e) where
  length := by simp [ha, hb, hc, hd, he]
  hyphens := by simp [List.getElem?_append, List.getElem?_cons, ha, hb, hc, hd]
  joined := by
    simp (disch := omega) [List.drop_append, List.drop_of_length_le, ha, hb, hc, hd]

theorem grouped_text (u : Uuid) : Grouped u.text.toList u.digits := by
  have length := u.length_digits
  have text : u.text.toList = u.digits.take 8 ++ '-' :: ((u.digits.drop 8).take 4 ++ '-' ::
      ((u.digits.drop 12).take 4 ++ '-' :: ((u.digits.drop 16).take 4 ++ '-' ::
        u.digits.drop 20))) := by
    simp [Uuid.text, groups, List.intercalate]
  have parts : u.digits.take 8 ++ (u.digits.drop 8).take 4 ++ (u.digits.drop 12).take 4 ++
      (u.digits.drop 16).take 4 ++ u.digits.drop 20 = u.digits := by
    have next : ∀ k, (u.digits.drop k).take 4 ++ u.digits.drop (k + 4) = u.digits.drop k := by
      intro k
      rw [← List.drop_drop, List.take_append_drop]
    simp only [List.append_assoc, next 16, next 12, next 8, List.take_append_drop]
  have grouped : Grouped (u.digits.take 8 ++ _) (u.digits.take 8 ++ _ ++ _ ++ _ ++ _) :=
    grouped_of_lengths (b := (u.digits.drop 8).take 4) (c := (u.digits.drop 12).take 4)
      (d := (u.digits.drop 16).take 4) (e := u.digits.drop 20) (by simp [length]) (by simp [length])
      (by simp [length]) (by simp [length]) (by simp [length])
  rwa [← text, parts] at grouped

/-- An identifier that is written is read back. -/
theorem read?_text (u : Uuid) : read? u.text = some u := by
  have grouped := u.grouped_text
  have length : u.text.toList.length ≠ 32 := by
    rw [grouped.length]
    decide
  rw [read?, if_neg length, if_pos grouped.length, readGrouped?,
    if_pos ⟨grouped.length, grouped.hyphens⟩, grouped.joined, readBare?_digits]

end UiReplay.Uuid
