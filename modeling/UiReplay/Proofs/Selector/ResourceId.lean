import UiReplay.Selector.Matcher

/-!
# Resource ids that name the same element

A resource id is qualified, as `com.app:id/ok`, or bare, as `ok`.  Its *tail* is what stands after
its last slash, the whole id without one.  The tail is stated here on its own (`HasTail`): it holds
no slash, and the id is the tail, or ends in a slash and the tail.

Two ids name the same element when they are equal or have the same tail and the tail is not empty
(`NameAlike`).  The matcher compares the id of a node with a wanted id in four ways, by whether the
two are equal and whether the wanted id has a slash, and all four come to this one relation
(`resourceIdMatches_iff`).  It is an equivalence (`nameAlike_equivalence`), so among ids that are not
blank it does not matter which of two is recorded, and a bare name stands for every qualified id with
this tail.
-/

namespace UiReplay

/-! ## Tails -/

namespace Text

/-- A list ends in a separator and a tail without one exactly when the tail stands after its last
separator. -/
theorem cons_suffix_iff {sep : Char} {tail : List Char} (free : sep ∉ tail) (cs : List Char) :
    sep :: tail <:+ cs ↔ sep ∈ cs ∧ afterLast sep cs = tail := by
  constructor
  · rintro ⟨before, rfl⟩
    exact ⟨by simp, afterLast_append_sep sep tail free before⟩
  · rintro ⟨mem, rfl⟩
    clear free
    induction cs with
    | nil => cases mem
    | cons c cs ih =>
        by_cases later : sep ∈ cs
        · have same : afterLast sep (c :: cs) = afterLast sep cs := by simp [afterLast, later]
          rw [same]
          exact (ih later).trans (List.suffix_cons c cs)
        · have here : c = sep := by simpa [later, eq_comm] using mem
          subst here
          simp [afterLast, later]

end Text

/-- The tail of a resource id: it has no slash, and the id is the tail or ends in a slash and the
tail. -/
structure HasTail (id tail : String) : Prop where
  /-- There is no slash in the tail. -/
  free : '/' ∉ tail.toList
  /-- The id ends in the tail. -/
  ends : id = tail ∨ ∃ before, id = before ++ "/" ++ tail

theorem slash_suffix_iff {id tail : String} :
    '/' :: tail.toList <:+ id.toList ↔ ∃ before, id = before ++ "/" ++ tail := by
  constructor
  · rintro ⟨before, he⟩
    exact ⟨String.ofList before, String.toList_inj.mp (by simp [← he])⟩
  · rintro ⟨before, rfl⟩
    exact ⟨before.toList, by simp⟩

/-- Every resource id has one tail, the one that is computed. -/
theorem hasTail_iff {id tail : String} : HasTail id tail ↔ Text.tailAfter '/' id = tail := by
  have written : Text.tailAfter '/' id = tail ↔ Text.afterLast '/' id.toList = tail.toList := by
    rw [Text.tailAfter, ← String.toList_inj, String.toList_ofList]
  rw [written]
  constructor
  · rintro ⟨free, rfl | ends⟩
    · exact Text.afterLast_of_not_mem free
    · exact ((Text.cons_suffix_iff free _).mp (slash_suffix_iff.mpr ends)).2
  · intro after
    have free : '/' ∉ tail.toList := after ▸ Text.not_mem_afterLast '/' id.toList
    refine ⟨free, ?_⟩
    by_cases mem : '/' ∈ id.toList
    · exact .inr (slash_suffix_iff.mp ((Text.cons_suffix_iff free _).mpr ⟨mem, after⟩))
    · rw [Text.afterLast_of_not_mem mem] at after
      exact .inl (String.toList_inj.mp after)

theorem HasTail.unique {id tail tail' : String} (h : HasTail id tail) (h' : HasTail id tail') :
    tail = tail' :=
  (hasTail_iff.mp h).symm.trans (hasTail_iff.mp h')

/-- A bare name is its own tail. -/
theorem hasTail_bare {id tail : String} (bare : '/' ∉ id.toList) : HasTail id tail ↔ tail = id := by
  have own : HasTail id id := ⟨bare, .inl rfl⟩
  constructor
  · exact fun h => h.unique own
  · rintro rfl
    exact own

/-! ## Names of one element -/

/-- Two ids are equal, or have the same tail and the tail is not empty. -/
def NameAlike (a b : String) : Prop :=
  a = b ∨ ∃ tail, tail ≠ "" ∧ HasTail a tail ∧ HasTail b tail

theorem NameAlike.symm {a b : String} : NameAlike a b → NameAlike b a
  | .inl same => .inl same.symm
  | .inr ⟨tail, ne, ha, hb⟩ => .inr ⟨tail, ne, hb, ha⟩

theorem NameAlike.trans {a b c : String} : NameAlike a b → NameAlike b c → NameAlike a c
  | .inl same, h => same ▸ h
  | h, .inl same => same ▸ h
  | .inr ⟨tail, ne, ha, hb⟩, .inr ⟨_, _, hb', hc⟩ => .inr ⟨tail, ne, ha, hb'.unique hb ▸ hc⟩

theorem nameAlike_equivalence : Equivalence NameAlike :=
  ⟨fun _ => .inl rfl, NameAlike.symm, NameAlike.trans⟩

/-! ## The comparison of the matcher -/

variable {nodeId wanted : String}

/-- A wanted id that is qualified asks for its tail. -/
theorem resourceIdMatches_qualified (ne : nodeId ≠ "") (differ : nodeId ≠ wanted)
    (qualified : '/' ∈ wanted.toList) :
    resourceIdMatches nodeId wanted = true ↔
      ∃ tail, tail ≠ "" ∧ HasTail nodeId tail ∧ HasTail wanted tail := by
  have wanted_tail : HasTail wanted (Text.tailAfter '/' wanted) := hasTail_iff.mpr rfl
  have ends_iff (tail : String) : Text.endsWith nodeId ("/" ++ tail) = true ↔
      ∃ before, nodeId = before ++ "/" ++ tail := by
    simp [Text.endsWith, ← slash_suffix_iff]
  simp only [resourceIdMatches, if_neg ne, if_neg differ, List.contains_iff_mem, if_pos qualified]
  split
  · next empty =>
      constructor
      · intro h
        cases h
      · rintro ⟨tail, tail_ne, -, h⟩
        exact absurd (h.unique wanted_tail |>.trans empty) tail_ne
  · next tail_ne =>
      rw [Bool.or_eq_true, beq_iff_eq, ends_iff]
      constructor
      · exact fun ends => ⟨_, tail_ne, ⟨wanted_tail.free, ends⟩, wanted_tail⟩
      · rintro ⟨tail, -, hn, hw⟩
        rw [wanted_tail.unique hw]
        exact hn.ends

/-- A wanted id that is bare asks for itself. -/
theorem resourceIdMatches_bare (ne : nodeId ≠ "") (differ : nodeId ≠ wanted)
    (wanted_ne : wanted ≠ "") (bare : '/' ∉ wanted.toList) :
    resourceIdMatches nodeId wanted = true ↔
      ∃ tail, tail ≠ "" ∧ HasTail nodeId tail ∧ HasTail wanted tail := by
  have slash (tail_eq : Text.tailAfter '/' nodeId = wanted) : '/' ∈ nodeId.toList := by
    refine Decidable.byContradiction fun free => ?_
    exact differ ((hasTail_bare free).mp (hasTail_iff.mpr tail_eq)).symm
  simp only [resourceIdMatches, if_neg ne, if_neg differ, List.contains_iff_mem, if_neg bare,
    Bool.and_eq_true, beq_iff_eq, hasTail_bare bare]
  constructor
  · rintro ⟨-, tail_eq⟩
    exact ⟨wanted, wanted_ne, hasTail_iff.mpr tail_eq, rfl⟩
  · rintro ⟨tail, -, hn, rfl⟩
    have tail_eq := hasTail_iff.mp hn
    exact ⟨slash tail_eq, tail_eq⟩

/-- The id of a node matches a wanted id exactly when it is there and the two name the same
element. -/
theorem resourceIdMatches_iff (wanted_ne : wanted ≠ "") :
    resourceIdMatches nodeId wanted = true ↔ nodeId ≠ "" ∧ NameAlike nodeId wanted := by
  by_cases ne : nodeId = ""
  · simp [resourceIdMatches, ne]
  by_cases differ : nodeId = wanted
  · subst differ
    simp [resourceIdMatches, ne, NameAlike]
  rw [NameAlike, or_iff_right differ, and_iff_right ne]
  by_cases qualified : '/' ∈ wanted.toList
  · exact resourceIdMatches_qualified ne differ qualified
  · exact resourceIdMatches_bare ne differ wanted_ne qualified

theorem HasTail.ne_empty {id tail : String} (h : HasTail id tail) (ne : tail ≠ "") : id ≠ "" := by
  rintro rfl
  exact ne (((hasTail_bare (by simp)).mp h))

/-- Wanted ids with the same tail match the same ids. -/
theorem resourceIdMatches_congr {a b tail : String} (ne : tail ≠ "") (ha : HasTail a tail)
    (hb : HasTail b tail) : resourceIdMatches nodeId a = resourceIdMatches nodeId b := by
  have alike : NameAlike a b := .inr ⟨tail, ne, ha, hb⟩
  rw [Bool.eq_iff_iff, resourceIdMatches_iff (ha.ne_empty ne), resourceIdMatches_iff (hb.ne_empty ne)]
  exact and_congr_right fun _ => ⟨fun h => h.trans alike, fun h => h.trans alike.symm⟩

theorem ne_empty_of_nonBlank {s : String} (nonblank : Text.isBlankText s = false) : s ≠ "" := by
  rintro rfl
  cases nonblank

/-- The id of a node matches a wanted id that is not blank exactly when it is there and is equal to
it or has the same tail, the tail not being empty.  So among ids that are not blank matching is
symmetric and transitive, and two wanted ids with the same tail, a bare name and a qualified id in
particular, match the same ids. -/
theorem resourceIdMatches_nameAlike :
    (∀ nodeId wanted, Text.isBlankText wanted = false →
      (resourceIdMatches nodeId wanted = true ↔ nodeId ≠ "" ∧ NameAlike nodeId wanted)) ∧
    (∀ a b, Text.isBlankText a = false → Text.isBlankText b = false →
      resourceIdMatches a b = true → resourceIdMatches b a = true) ∧
    (∀ a b c, Text.isBlankText a = false → Text.isBlankText b = false →
      Text.isBlankText c = false → resourceIdMatches a b = true → resourceIdMatches b c = true →
        resourceIdMatches a c = true) ∧
    (∀ a b tail, tail ≠ "" → HasTail a tail → HasTail b tail → ∀ nodeId,
      resourceIdMatches nodeId a = resourceIdMatches nodeId b) := by
  have matches_iff {a b : String} (hb : Text.isBlankText b = false) :
      resourceIdMatches a b = true ↔ a ≠ "" ∧ NameAlike a b :=
    resourceIdMatches_iff (ne_empty_of_nonBlank hb)
  refine ⟨fun _ _ hw => matches_iff hw, ?_, ?_, fun a b tail ne ha hb _ =>
    resourceIdMatches_congr ne ha hb⟩
  · intro a b ha hb hab
    have alike := ((matches_iff hb).mp hab).2
    exact (matches_iff ha).mpr ⟨ne_empty_of_nonBlank hb, alike.symm⟩
  · intro a b c _ hb hc hab hbc
    obtain ⟨ne, alike⟩ := (matches_iff hb).mp hab
    exact (matches_iff hc).mpr ⟨ne, alike.trans ((matches_iff hc).mp hbc).2⟩

theorem resourceIdMatches_nameAlike_submit :
    (resourceIdMatches "com.other:id/submit" "com.app:id/submit" = true ↔
      "com.other:id/submit" ≠ "" ∧ NameAlike "com.other:id/submit" "com.app:id/submit") ∧
    resourceIdMatches "com.app:id/submit" "com.other:id/submit" = true ∧
    resourceIdMatches "submit" "com.other:id/submit" = true ∧
    HasTail "submit" "submit" ∧ HasTail "com.app:id/submit" "submit" ∧
    ∀ nodeId, resourceIdMatches nodeId "submit" = resourceIdMatches nodeId "com.app:id/submit" := by
  obtain ⟨spec, symmetric, transitive, congruent⟩ := resourceIdMatches_nameAlike
  have other : Text.isBlankText "com.other:id/submit" = false := by decide
  have app : Text.isBlankText "com.app:id/submit" = false := by decide
  have bare : Text.isBlankText "submit" = false := by decide
  have first : resourceIdMatches "com.other:id/submit" "com.app:id/submit" = true := by
    decide +kernel
  have second : resourceIdMatches "submit" "com.app:id/submit" = true := by decide +kernel
  have back := symmetric _ _ other app first
  have bare_tail : HasTail "submit" "submit" := hasTail_iff.mpr (by decide)
  have app_tail : HasTail "com.app:id/submit" "submit" := hasTail_iff.mpr (by decide +kernel)
  exact ⟨spec _ _ app, back, transitive _ _ _ bare app other second back, bare_tail, app_tail,
    congruent _ _ _ (by decide) bare_tail app_tail⟩

end UiReplay
