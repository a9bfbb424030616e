import UiReplay.Proofs.Workflow.ByValue
import UiReplay.Proofs.Workflow.Edits
import UiReplay.Workflow.Validity

/-!
# Loading a workflow

A record whose other members decode is a workflow, whatever values its list of steps holds
(`Workflow.decode_holds`).  Each value is read as one step.  The steps are sorted by the numbers
that they come with, those of one number in their order, which determines the list
(`Workflow.stablySorted_iff`), and then numbered by position.

The number of a step is that of its value, and zero when it has none that can be used
(`Step.givesOrder_ofValueWith`).

Since the numbers are positions, only identifiers can make the workflow invalid, and the first
step that repeats the identifier of an earlier one is the one that is reported
(`Workflow.IsNumbered.validate_eq_error_iff`).
-/

namespace UiReplay

/-! ## Numbers of steps -/

namespace Step

/-- The number that reading a value gives its step.  That of a record is its number, also when the
record describes no step, and that of a list that describes a step is the fifth item. -/
inductive GivesOrder : Json → Nat → Prop
  | field (fields : List (String × Json)) :
      GivesOrder (.record fields) (((Fields.find? "order" fields).bind Json.nat64?).getD 0)
  | item {items : List Json} {fresh : Uuid} {s : Step}
      (describes : ofValue? fresh (.list items) = .ok s) :
      GivesOrder (.list items) ((items[4]?.bind Json.nat64?).getD 0)
  | none {v : Json} {fresh : Uuid} {p : Problem} (noRecord : ∀ fields, v ≠ .record fields)
      (undescribed : ofValue? fresh v = .error p) : GivesOrder v 0

/-- The field that sets the number of a flat record. -/
def orderField : Field StepRecord :=
  .withDefault "order" [] Decode.count fun v r => { r with order := v }

/-- No other field changes the number. -/
theorem keeps_order (n : Nat) :
    ∀ g ∈ StepRecord.recordFields, g.name ≠ "order" → g.Keeps fun r => r.order = n :=
  keeps_of (.inr fun _ _ h => h) (.inr fun _ _ h => h) (.inl rfl) (.inr fun _ _ h => h)
    fun _ _ _ _ horder _ h => horder.trans h

/-- The number that is stored is the number of the value. -/
theorem order_of_store {v : Json} {r r' : StepRecord}
    (h : orderField.store v.document r = .ok r') : r'.order = v.nat64?.getD 0 := by
  obtain ⟨n, hn, rfl⟩ := Field.store_withDefault h
  have written := (Decode.natBelow_eq_ok_iff.mp hn).1
  cases v with
  | integer i =>
      cases written
      rfl
  | _ => cases written

theorem order_of_decode_record {fields : List (String × Json)} {r : StepRecord}
    (h : StepRecord.decode (Json.record fields).document = .ok r) :
    r.order = ((Fields.find? "order" fields).bind Json.nat64?).getD 0 := by
  cases found : Fields.find? "order" fields with
  | some v => exact of_decode h found rfl order_of_store (keeps_order _)
  | none =>
      have unnamed := Fields.ne_of_find?_eq_none found
      obtain ⟨stores, -, -⟩ := Decode.record_eq_ok_iff.mp h
      refine stores.keeps (P := fun r => r.order = 0) ?_ rfl
      intro m hm f spelled
      refine keeps_order 0 f (List.mem_of_find?_eq_some spelled) fun horder => ?_
      -- the number has one spelling, and no member has it
      have spelling := List.find?_some spelled
      rcases aside_marks.spelled f (List.mem_of_find?_eq_some spelled) _ spelling with hkey | other
      · rw [Json.documentFields_eq_map] at hm
        obtain ⟨⟨key, v⟩, hmem, rfl⟩ := List.mem_map.mp hm
        exact unnamed _ hmem (hkey.trans horder)
      · exact other.1 (horder ▸ by decide)

theorem order_of_decode_list {items : List Json} {r : StepRecord}
    (h : StepRecord.decode (Json.list items).document = .ok r) :
    r.order = (items[4]?.bind Json.nat64?).getD 0 := by
  -- four fields come before the number, and five after it
  obtain ⟨before, after, split, length, others⟩ : ∃ before after : List (Field StepRecord),
      StepRecord.recordFields = before ++ orderField :: after ∧ before.length = 4 ∧
        ∀ g ∈ before ++ after, g.name ≠ "order" :=
    ⟨StepRecord.recordFields.take 4, StepRecord.recordFields.drop 5, rfl, rfl, by
      simp [StepRecord.recordFields, Field.withDefault, Field.required]⟩
  have keeps : ∀ n, ∀ g ∈ before ++ after, g.Keeps fun r => r.order = n := by
    intro n g hg
    refine keeps_order n g ?_ (others g hg)
    rw [split]
    exact (List.perm_middle.mem_iff).mpr (List.mem_cons_of_mem _ hg)
  rw [StepRecord.decode, Json.document, Json.documents_eq_map, split] at h
  cases item : items[4]? with
  | some v =>
      refine Decode.inOrder_puts (P := fun r => r.order = (v.nat64?).getD 0) ?_ order_of_store
        (fun g hg => keeps _ g (List.mem_append_right _ hg)) h
      rw [length, List.getElem?_map, item]
      rfl
  | none =>
      refine Decode.inOrder_keeps_of_length_le (P := fun r => r.order = 0) ?_
        (fun g hg => keeps _ g (List.mem_append_left _ hg)) h rfl
      rw [length, List.length_map]
      exact List.getElem?_eq_none_iff.mp item

/-- A step that a value describes has the number of its flat record. -/
theorem order_of_ofValue? {fresh : Uuid} {v : Json} {s : Step} (h : ofValue? fresh v = .ok s) :
    ∃ r, StepRecord.decode v.document = .ok r ∧ s.order = r.order := by
  unfold ofValue? at h
  split at h
  · next r hr => exact ⟨r, hr, (ofRecord?_eq_ok h).2.2.2.2⟩
  · cases h

/-- The number of the step that a value is read as. -/
theorem givesOrder_ofValueWith (fresh : Uuid) (v : Json) :
    GivesOrder v (ofValueWith fresh v).order := by
  cases h : ofValue? fresh v with
  | ok s =>
      obtain ⟨r, hr, order⟩ := order_of_ofValue? h
      rw [ofValueWith, h]
      dsimp only
      cases v with
      | record fields => exact order ▸ order_of_decode_record hr ▸ .field fields
      | list items => exact order ▸ order_of_decode_list hr ▸ .item h
      | _ => cases hr
  | error p =>
      rw [ofValueWith, h]
      cases v with
      | record fields => exact .field fields
      | _ => exact .none (fun _ same => by cases same) h

end Step

namespace Workflow

/-! ## Sorting -/

/-- A list sorted by the numbers of its steps, those of one number in their order. -/
structure StablySorted (steps sorted : List Step) : Prop where
  perm : sorted.Perm steps
  ascending : sorted.Pairwise fun a b => a.order ≤ b.order
  stable : ∀ n : Nat, (sorted.filter fun s => s.order = n) = steps.filter fun s => s.order = n

theorem mem_of_filters {as bs : List Step}
    (same : ∀ n : Nat, (as.filter fun s => s.order = n) = bs.filter fun s => s.order = n)
    {a : Step} (ha : a ∈ as) : a ∈ bs := by
  have kept : a ∈ as.filter fun s => s.order = a.order := List.mem_filter.mpr ⟨ha, by simp⟩
  exact (List.mem_filter.mp (same _ ▸ kept)).1

theorem head_order_le {a b : Step} {as : List Step}
    (ascending : (a :: as).Pairwise fun a b => a.order ≤ b.order) (hb : b ∈ a :: as) :
    a.order ≤ b.order := by
  rcases List.mem_cons.mp hb with rfl | hb
  · exact Nat.le_refl _
  · exact (List.pairwise_cons.mp ascending).1 b hb

/-- Two ascending lists with the same steps of each number are equal, by induction on the first. -/
theorem eq_of_ascending {as bs : List Step} (ascending : as.Pairwise fun a b => a.order ≤ b.order)
    (ascending' : bs.Pairwise fun a b => a.order ≤ b.order)
    (same : ∀ n : Nat, (as.filter fun s => s.order = n) = bs.filter fun s => s.order = n) :
    as = bs := by
  induction as generalizing bs with
  | nil =>
      refine (List.eq_nil_iff_forall_not_mem.mpr fun b hb => ?_).symm
      exact List.not_mem_nil (mem_of_filters (fun n => (same n).symm) hb)
  | cons a as ih =>
      cases bs with
      | nil => exact absurd (mem_of_filters same List.mem_cons_self) List.not_mem_nil
      | cons b bs =>
          have below : b.order ≤ a.order :=
            head_order_le ascending' (mem_of_filters same List.mem_cons_self)
          have above : a.order ≤ b.order :=
            head_order_le ascending (mem_of_filters (fun n => (same n).symm) List.mem_cons_self)
          -- both first steps come first among those of their number
          have first := same a.order
          rw [List.filter_cons_of_pos (by simp),
            List.filter_cons_of_pos (by simpa using Nat.le_antisymm below above)] at first
          obtain ⟨rfl, -⟩ := List.cons.inj first
          refine congrArg (a :: ·) (ih ascending.of_cons ascending'.of_cons fun n => ?_)
          have rest := same n
          rw [List.filter_cons, List.filter_cons] at rest
          split at rest
          · exact (List.cons.inj rest).2
          · exact rest

theorem stablySorted_sortSteps (steps : List Step) : StablySorted steps (sortSteps steps) where
  perm := List.mergeSort_perm _ _
  ascending := pairwise_sortSteps steps
  stable n := by
    have kept : (steps.filter fun s => s.order = n).Sublist (sortSteps steps) := by
      refine List.sublist_mergeSort order_trans order_total ?_ List.filter_sublist
      refine List.pairwise_of_forall_mem_list fun a ha b hb => ?_
      have orderA := (List.mem_filter.mp ha).2
      have orderB := (List.mem_filter.mp hb).2
      simp only [decide_eq_true_eq] at orderA orderB ⊢
      exact Nat.le_of_eq (orderA.trans orderB.symm)
    have kept := kept.filter fun s => s.order = n
    rw [List.filter_filter] at kept
    simp only [Bool.and_self] at kept
    exact (kept.eq_of_length ((List.mergeSort_perm _ _).filter _).length_eq.symm).symm

/-- There is one way to sort. -/
theorem stablySorted_iff {steps sorted : List Step} :
    StablySorted steps sorted ↔ sorted = sortSteps steps := by
  constructor
  · intro h
    have other := stablySorted_sortSteps steps
    exact eq_of_ascending h.ascending other.ascending fun n => (h.stable n).trans (other.stable n).symm
  · rintro rfl
    exact stablySorted_sortSteps steps

/-! ## Repeated identifiers -/

theorem mem_cons_or_iff {a b : Uuid} {as bs : List Uuid} :
    a ∈ b :: as ∨ a ∈ bs ↔ a ∈ as ∨ a ∈ b :: bs := by
  rw [List.mem_cons, List.mem_cons, or_assoc, or_left_comm]

/-- The first step whose identifier was seen, or is that of one of the steps before it. -/
def FirstSeenAgain (seen : List Uuid) (steps : List Step) (s : Step) : Prop :=
  ∃ before after, steps = before ++ s :: after ∧ (before.map Step.id).Nodup ∧
    (∀ t ∈ before, t.id ∉ seen) ∧ (s.id ∈ seen ∨ s.id ∈ before.map Step.id)

/-- The first step whose identifier one of the steps before it has. -/
def FirstRepeat (steps : List Step) (s : Step) : Prop :=
  ∃ before after, steps = before ++ s :: after ∧ (before.map Step.id).Nodup ∧
    s.id ∈ before.map Step.id

variable {seen : List Uuid} {steps : List Step} {s t : Step}

theorem firstSeenAgain_nil_iff : FirstSeenAgain [] steps s ↔ FirstRepeat steps s := by
  simp [FirstSeenAgain, FirstRepeat]

theorem not_firstSeenAgain_nil : ¬ FirstSeenAgain seen [] s := by
  rintro ⟨before, after, split, -⟩
  cases before <;> cases split

/-- A step whose identifier was seen is the first one. -/
theorem firstSeenAgain_cons_of_mem (old : t.id ∈ seen) :
    FirstSeenAgain seen (t :: steps) s ↔ s = t := by
  constructor
  · rintro ⟨before, after, split, -, new, -⟩
    cases before with
    | nil =>
        cases split
        rfl
    | cons b before =>
        cases split
        exact absurd old (new _ List.mem_cons_self)
  · rintro rfl
    exact ⟨[], steps, rfl, List.nodup_nil, fun _ h => absurd h List.not_mem_nil, .inl old⟩

/-- Behind any other step its identifier was seen. -/
theorem firstSeenAgain_cons_of_not_mem (new : t.id ∉ seen) :
    FirstSeenAgain seen (t :: steps) s ↔ FirstSeenAgain (t.id :: seen) steps s := by
  constructor
  · rintro ⟨before, after, split, nodup, fresh, again⟩
    cases before with
    | nil =>
        cases split
        exact absurd (again.resolve_right List.not_mem_nil) new
    | cons b before =>
        cases split
        obtain ⟨other, nodup⟩ := List.nodup_cons.mp nodup
        refine ⟨before, after, rfl, nodup, ?_, mem_cons_or_iff.mpr again⟩
        intro u hu h
        rcases List.mem_cons.mp h with h | h
        · exact other (List.mem_map.mpr ⟨u, hu, h⟩)
        · exact fresh u (List.mem_cons_of_mem _ hu) h
  · rintro ⟨before, after, rfl, nodup, fresh, again⟩
    refine ⟨t :: before, after, rfl, ?_, ?_, mem_cons_or_iff.mp again⟩
    · refine List.nodup_cons.mpr ⟨fun h => ?_, nodup⟩
      obtain ⟨u, hu, same⟩ := List.mem_map.mp h
      exact fresh u hu (same ▸ List.mem_cons_self)
    · rintro u (_ | ⟨_, hu⟩)
      · exact new
      · exact fun h => fresh u hu (List.mem_cons_of_mem _ h)

/-- What the check from a position on reports of numbered steps, by induction on the steps that
are left. -/
theorem checkFrom_eq_error_iff {n : Nat} {p : Problem}
    (numbered : ∀ (i : Nat) (s : Step), steps[i]? = some s → s.order = n + i) :
    checkFrom n seen steps = .error p ↔
      ∃ s, FirstSeenAgain seen steps s ∧ p = .duplicateStepId s.id := by
  induction steps generalizing n seen with
  | nil => simp [checkFrom, not_firstSeenAgain_nil]
  | cons t rest ih =>
      have order : t.order = n := numbered 0 t rfl
      have later : ∀ (i : Nat) (s : Step), rest[i]? = some s → s.order = n + 1 + i := by
        intro i s hs
        rw [numbered (i + 1) s hs, Nat.add_assoc, Nat.add_comm 1]
      rw [checkFrom]
      by_cases old : t.id ∈ seen
      · rw [if_pos (by simpa using old)]
        simp only [firstSeenAgain_cons_of_mem old, exists_eq_left, Except.error.injEq]
        exact eq_comm
      · rw [if_neg (by simpa using old), if_neg (not_not.mpr order), ih later]
        simp only [firstSeenAgain_cons_of_not_mem old]

/-- A numbered workflow passes the check exactly when its steps have different identifiers. -/
theorem IsNumbered.validate_eq_ok_iff {w : Workflow} (numbered : w.IsNumbered) :
    w.validate = .ok () ↔ (w.steps.map Step.id).Nodup := by
  rw [Workflow.validate_eq_ok_iff, IsValid]
  exact and_iff_left numbered

/-- What is reported of a numbered workflow is its first repeated identifier. -/
theorem IsNumbered.validate_eq_error_iff {w : Workflow} (numbered : w.IsNumbered) {p : Problem} :
    w.validate = .error p ↔ ∃ s, FirstRepeat w.steps s ∧ p = .duplicateStepId s.id := by
  rw [validate, checkFrom_eq_error_iff (by simpa [IsNumbered] using numbered)]
  simp only [firstSeenAgain_nil_iff]

/-! ## Loading -/

/-- A record of members that decode, and of a list that holds some values for steps. -/
inductive Holds (r : Draft) (vs : List Json) : Document → Prop
  | mk {before after : List (String × Document)} {items : List Document}
      (others : decodeDraft (.record (before ++ after)) = .ok r)
      (once : ∀ m ∈ before ++ after, m.1 ≠ "steps")
      (values : Document.values? items = some vs) :
      Holds r vs (.record (before ++ ("steps", .list items) :: after))

/-- A step is read from a value, with the number of the value. -/
def IsRead (v : Json) (s : Step) : Prop :=
  (∃ fresh, s = Step.ofValueWith fresh v) ∧ Step.GivesOrder v s.order

/-- What loading makes of the other members and of the values for steps, and what the check says
of it. -/
structure Loads (r : Draft) (vs : List Json) (w : Workflow) : Prop where
  id : ∀ u, r.id = some u → w.id = u
  name : w.name = r.name
  deviceInfo : w.deviceInfo = r.deviceInfo
  tags : w.tags = r.tags
  version : w.version = r.version
  /-- Each value is read as one step, and the steps are sorted and numbered by position. -/
  steps : ∃ read sorted, List.Forall₂ IsRead vs read ∧ StablySorted read sorted ∧
    ∀ i : Nat, w.steps[i]? = sorted[i]?.map fun s => { s with order := i }
  accepted : w.validate = .ok () ↔ (w.steps.map Step.id).Nodup
  rejected : ∀ p, w.validate = .error p ↔ ∃ s, FirstRepeat w.steps s ∧ p = .duplicateStepId s.id

theorem listOf_value {items : List Document} {vs : List Json}
    (h : Document.values? items = some vs) : Decode.listOf Decode.value (.list items) = .ok vs := by
  induction items generalizing vs with
  | nil =>
      cases h
      rfl
  | cons d rest ih =>
      rw [Document.values?] at h
      split at h
      · next v vs hv hvs =>
          cases h
          have rest := ih hvs
          rw [Decode.listOf] at rest ⊢
          rw [Decode.each, Decode.value, hv, rest]
          rfl
      · cases h

/-- Every member that belongs to a field has the name of the field. -/
theorem eq_of_fieldName? {key name : String}
    (h : Decode.fieldName? recordFields key = some name) : key = name := by
  obtain ⟨f, found, rfl⟩ := Option.map_eq_some_iff.mp h
  have plain : ∀ f ∈ recordFields, f.aliases = [] := by
    simp [recordFields, Field.withDefault]
  have spelled := List.find?_some found
  rcases Field.hasSpelling_iff.mp spelled with spelled | spelled
  · exact spelled.symm
  · rw [plain f (List.mem_of_find?_eq_some found)] at spelled
    cases spelled

theorem Holds.decodeDraft_eq {r : Draft} {vs : List Json} {d : Document} (h : Holds r vs d) :
    decodeDraft d = .ok { r with steps := vs } := by
  obtain ⟨others, once, values⟩ := h
  refine Decode.record_of_others commuting others rfl ?_
    (Field.store_of_decode (listOf_value values) r)
  intro named
  obtain ⟨m, hm, name⟩ := List.mem_filterMap.mp named
  exact once m hm (eq_of_fieldName? name)

theorem loads_ofDraft (r : Draft) (vs : List Json) (ids : IdSupply) :
    Loads r vs (ofDraft { r with steps := vs } ids).1 := by
  have numbered : (ofDraft { r with steps := vs } ids).1.IsNumbered := by
    intro i s hs
    rw [renumber_order _ 0 i s hs, Nat.zero_add]
  refine ⟨?_, rfl, rfl, rfl, rfl, ?_, numbered.validate_eq_ok_iff,
    fun p => numbered.validate_eq_error_iff⟩
  · intro u hu
    show r.id.getD _ = u
    rw [hu]
    rfl
  · refine ⟨(readSteps vs (IdSupply.fresh ids).2).1, _, ?_, stablySorted_sortSteps _, fun i => ?_⟩
    · refine (readSteps_reads vs _).imp ?_
      rintro v s ⟨fresh, rfl⟩
      exact ⟨⟨fresh, rfl⟩, Step.givesOrder_ofValueWith fresh v⟩
    · show (numberFrom 0 _)[i]? = _
      rw [getElem?_numberFrom, Nat.zero_add]
      rfl

/-- Whatever values stand for steps, a record whose other members decode is loaded, each value as
one step. -/
theorem decode_holds {r : Draft} {vs : List Json} {d : Document} (h : Holds r vs d)
    (ids : IdSupply) : ∃ w, (decode d ids).1 = .ok w ∧ Loads r vs w :=
  ⟨_, decode_of_draft h.decodeDraft_eq ids, loads_ofDraft r vs ids⟩

/-- An identifier that two of the steps below have. -/
def sharedId : String := "00000000-0000-4000-8000-000000000007"

/-- A number, an action that is none of the six, a list that describes a step, and a record. -/
def mixedValues : List Json :=
  [.integer 5,
    .record [("action", .text "pinch"), ("name", .text "Odd"), ("order", .null)],
    .list [.text sharedId, .text "tap", .null, .text "Listed", .integer 3],
    .record [("action", .text "tap"), ("id", .text sharedId), ("name", .text "Again"),
      ("order", .integer 8)]]

/-- A workflow with these values for steps, between its other members. -/
def mixed : Document :=
  .record [("name", .text "Mixed"), ("steps", .list (Json.documents mixedValues)),
    ("version", .integer 2)]

theorem decode_holds_mixed :
    Holds { name := "Mixed", version := 2 } mixedValues mixed ∧
      ∃ w, (decode mixed ⟨0, 0⟩).1 = .ok w ∧
        Loads { name := "Mixed", version := 2 } mixedValues w ∧
        w.steps.map Step.name = ["", "Odd", "Listed", "Again"] ∧
        w.validate = .error (.duplicateStepId ⟨0x00000000000040008000000000000007⟩) := by
  have holds : Holds { name := "Mixed", version := 2 } mixedValues mixed :=
    @Holds.mk _ _ [("name", .text "Mixed")] [("version", .integer 2)] _ rfl (by decide) rfl
  obtain ⟨w, loaded, loads⟩ := decode_holds holds ⟨0, 0⟩
  obtain ⟨w', loaded', hsteps⟩ := exists_decode_of_pairwise (d := mixed) ⟨0, 0⟩ rfl
    (by decide +kernel)
  cases loaded.symm.trans loaded'
  refine ⟨holds, w, loaded, loads, ?_, ?_⟩
  · rw [hsteps]
    rfl
  · rw [validate, hsteps]
    rfl

end Workflow

end UiReplay
