import UiReplay.Proofs.Workflow.Written
import UiReplay.Workflow.Basic

/-!
# Where steps stand after saving and loading

Reading a workflow reads its steps one by one, sorts them by the numbers they come with, and
numbers them by position.  So the steps of a workflow that was read are written with their
positions for numbers, and sorting leaves them where they stand.

A value that is no record is the exception.  Nothing is written for its number, and it is read
back with the number zero, so it comes to stand in front of all steps that are written with a
number, but for the first, which has the number zero as well (`Workflow.number_moves`).  The
steps stand where they stood exactly when no such value stands behind a step with a number,
the first step left out (`Workflow.decode_document`).
-/

namespace UiReplay

/-! ## Parts of a workflow -/

theorem nullable_optionalText (o : Option String) :
    Decode.nullable Decode.text (optionalText o) = .ok o := by
  cases o <;> rfl

/-- A measure that fits 32 bits. -/
def FitsWord (o : Option Nat) : Prop := ∀ n, o = some n → n < Number.wordLimit32

theorem nullable_optionalInteger {o : Option Nat} (h : FitsWord o) :
    Decode.nullable Decode.nat32 (optionalInteger (o.map Int.ofNat)) = .ok o := by
  cases o with
  | none => rfl
  | some n =>
      show (Decode.nat32 (.integer n)).map some = .ok (some n)
      rw [Decode.nat32, Decode.natBelow_eq_ok_iff.mpr ⟨rfl, h n rfl⟩]
      rfl

theorem fitsWord_of_nullable {d : Document} {o : Option Nat}
    (h : Decode.nullable Decode.nat32 d = .ok o) : FitsWord o := by
  rintro n rfl
  exact (Decode.natBelow_eq_ok_iff.mp (Decode.of_nullable h)).2

namespace DeviceInfo

/-- Both measures of the screen fit 32 bits. -/
def Fits (i : DeviceInfo) : Prop := FitsWord i.screenWidth ∧ FitsWord i.screenHeight

theorem Fits.decode_eq {i : DeviceInfo} (h : i.Fits) : decode i.document = .ok i := by
  simp [decode, document, Decode.record, Decode.visit, recordFields, Field.withDefault,
    Field.hasSpelling, Decode.missing?, nullable_optionalText, nullable_optionalInteger h.1,
    nullable_optionalInteger h.2, Except.map]

theorem fits_of_decode {d : Document} {i : DeviceInfo} (h : decode d = .ok i) : i.Fits := by
  refine Decode.record_keeps (P := Fits) ?_ h ⟨nofun, nofun⟩
  intro f hf
  simp only [recordFields, List.mem_cons, List.not_mem_nil, or_false] at hf
  rcases hf with rfl | rfl | rfl | rfl | rfl
  · exact Field.keeps_withDefault fun _ _ _ _ h => h
  · exact Field.keeps_withDefault fun _ _ _ _ h => h
  · exact Field.keeps_withDefault fun _ _ _ _ h => h
  · exact Field.keeps_withDefault fun _ _ hw _ h => ⟨fitsWord_of_nullable hw, h.2⟩
  · exact Field.keeps_withDefault fun _ _ hh _ h => ⟨h.1, fitsWord_of_nullable hh⟩

end DeviceInfo

namespace Workflow

/-! ## Workflows that were read -/

/-- What is known of a workflow that was read. -/
structure IsLoaded (w : Workflow) : Prop where
  version : w.version < Number.wordLimit32
  device : ∀ i, w.deviceInfo = some i → i.Fits
  steps : ∀ s ∈ w.steps, s.IsLoaded
  orders : ∀ (i : Nat) (s : Step), w.steps[i]? = some s → s.order = i

/-- Each step is read from its value. -/
theorem readSteps_reads (vs : List Json) (ids : IdSupply) :
    List.Forall₂ (fun v t => ∃ fresh, t = Step.ofValueWith fresh v) vs (readSteps vs ids).1 := by
  induction vs generalizing ids with
  | nil => exact .nil
  | cons v rest ih => exact .cons ⟨_, rfl⟩ (ih _)

theorem mem_numberFrom {n : Nat} {steps : List Step} {s : Step} (h : s ∈ numberFrom n steps) :
    ∃ t ∈ steps, ∃ m, s = { t with order := m } := by
  obtain ⟨i, hi⟩ := List.mem_iff_getElem?.mp h
  rw [getElem?_numberFrom] at hi
  obtain ⟨t, ht, rfl⟩ := Option.map_eq_some_iff.mp hi
  exact ⟨t, List.mem_of_getElem? ht, _, rfl⟩

theorem ordered_of_listOf {d : Document} {vs : List Json}
    (h : Decode.listOf Decode.value d = .ok vs) : ∀ v ∈ vs, v.Ordered := by
  have ordered : ∀ d v, Decode.value d = .ok v → v.Ordered := by
    intro d v h
    unfold Decode.value at h
    split at h
    · next hv =>
        cases h
        exact Document.ordered_of_value? hv
    · cases h
  cases d with
  | list items => exact Decode.forall_of_each ordered h
  | _ => cases h

theorem draft_of_decode {d : Document} {r : Draft} (h : decodeDraft d = .ok r) :
    r.version < Number.wordLimit32 ∧ (∀ i, r.deviceInfo = some i → i.Fits) ∧
      ∀ v ∈ r.steps, v.Ordered := by
  refine Decode.record_keeps (P := fun r : Draft => r.version < Number.wordLimit32 ∧
    (∀ i, r.deviceInfo = some i → i.Fits) ∧ ∀ v ∈ r.steps, v.Ordered) ?_ h
    ⟨by decide, nofun, nofun⟩
  intro f hf
  simp only [recordFields, List.mem_cons, List.not_mem_nil, or_false] at hf
  rcases hf with rfl | rfl | rfl | rfl | rfl | rfl
  · exact Field.keeps_withDefault fun _ _ _ _ h => h
  · exact Field.keeps_withDefault fun _ _ _ _ h => h
  · refine Field.keeps_withDefault fun d a ha _ h => ⟨h.1, ?_, h.2.2⟩
    rintro i rfl
    exact DeviceInfo.fits_of_decode (Decode.of_nullable ha)
  · exact Field.keeps_withDefault fun _ _ _ _ h => h
  · exact Field.keeps_withDefault fun _ _ hv _ h => ⟨(Decode.natBelow_eq_ok_iff.mp hv).2, h.2⟩
  · exact Field.keeps_withDefault fun _ _ hvs _ h => ⟨h.1, h.2.1, ordered_of_listOf hvs⟩

theorem decode_of_draft {d : Document} {r : Draft} (h : decodeDraft d = .ok r)
    (ids : IdSupply) : (decode d ids).1 = .ok (ofDraft r ids).1 := by
  unfold decode
  rw [h]
  rfl

theorem isLoaded_of_decode {d : Document} {ids : IdSupply} {w : Workflow}
    (h : (decode d ids).1 = .ok w) : w.IsLoaded := by
  cases hr : decodeDraft d with
  | error fault =>
      unfold decode at h
      rw [hr] at h
      cases h
  | ok r =>
      obtain ⟨version, device, values⟩ := draft_of_decode hr
      rw [decode_of_draft hr] at h
      cases h
      refine ⟨version, device, ?_, ?_⟩
      · intro s hs
        obtain ⟨t, ht, n, rfl⟩ := mem_numberFrom hs
        have read := List.mem_mergeSort.mp ht
        obtain ⟨v, hv, fresh, rfl⟩ := exists_of_mem_right (readSteps_reads _ _) read
        exact ⟨fresh, v, n, values v hv, rfl⟩
      · intro i s hs
        have := renumber_order _ _ _ _ hs
        omega

/-! ## Reading what is written -/

theorem decodeDraft_document {w : Workflow} (version : w.version < Number.wordLimit32)
    (device : ∀ i, w.deviceInfo = some i → i.Fits) {vs : List Json}
    (values : List.Forall₂ (fun s v => s.document.value? = some v) w.steps vs) :
    decodeDraft w.document = .ok {
      id := some w.id, name := w.name, deviceInfo := w.deviceInfo, tags := w.tags,
      version := w.version, steps := vs } := by
  have device : Decode.nullable DeviceInfo.decode
      ((w.deviceInfo.map DeviceInfo.document).getD .null) = .ok w.deviceInfo := by
    cases h : w.deviceInfo with
    | none => rfl
    | some i =>
        show (DeviceInfo.decode i.document).map some = .ok (some i)
        rw [(device i h).decode_eq]
        rfl
  have tags : Decode.listOf Decode.text (.list (w.tags.map .text)) = .ok w.tags := by
    refine Decode.each_eq_ok (List.forall₂_same.mpr fun t _ => rfl)
  have steps : Decode.listOf Decode.value (.list (w.steps.map Step.document)) = .ok vs := by
    refine Decode.each_eq_ok (values.imp fun s v h => ?_)
    rw [Decode.value, h]
  have version : Decode.nat32 (.integer w.version) = .ok w.version :=
    Decode.natBelow_eq_ok_iff.mpr ⟨rfl, version⟩
  have id : Uuid.decode (.text w.id.text) = .ok w.id := Step.decode_text w.id
  have name : Decode.text (.text w.name) = .ok w.name := rfl
  rw [decodeDraft, document, Decode.record,
    Decode.visit_of_store rfl (by decide) (Field.store_of_decode id _),
    Decode.visit_of_store rfl (by decide) (Field.store_of_decode name _),
    Decode.visit_of_store rfl (by decide) (Field.store_of_decode device _),
    Decode.visit_of_store rfl (by decide) (Field.store_of_decode tags _),
    Decode.visit_of_store rfl (by decide) (Field.store_of_decode version _),
    Decode.visit_of_store rfl (by decide) (Field.store_of_decode steps _)]
  rfl

/-! ## Sorting -/

/-- From the second position on no step without a number stands behind one with a number. -/
def Settled (steps : List Step) : Prop :=
  ∀ (i j : Nat) (s t : Step), 1 ≤ i → i < j → steps[i]? = some s → steps[j]? = some t →
    s.isNumbered = true → t.isNumbered = true

/-- A step has its position for a number, or none. -/
def Placed (steps : List Step) : Prop :=
  ∀ (i : Nat) (t : Step), steps[i]? = some t → t.order = if t.isNumbered then i else 0

theorem exists_of_map_eq {α β : Type} {f : α → β} {as bs : List α} (h : as.map f = bs.map f)
    {i : Nat} {b : α} (hb : bs[i]? = some b) : ∃ a, as[i]? = some a ∧ f a = f b := by
  have hi : (as.map f)[i]? = some (f b) := by
    rw [h, List.getElem?_map, hb]
    rfl
  rw [List.getElem?_map] at hi
  exact Option.map_eq_some_iff.mp hi

theorem Settled.congr {a b : List Step} (h : a.map Step.isNumbered = b.map Step.isNumbered)
    (settled : Settled a) : Settled b := by
  intro i j s t hi hij hs ht numbered
  obtain ⟨s', hs', sameS⟩ := exists_of_map_eq h hs
  obtain ⟨t', ht', sameT⟩ := exists_of_map_eq h ht
  exact sameT ▸ settled i j s' t' hi hij hs' ht' (sameS.trans numbered)

theorem sortSteps_of_pairwise {steps : List Step}
    (sorted : steps.Pairwise fun a b => a.order ≤ b.order) : sortSteps steps = steps :=
  List.mergeSort_of_pairwise (sorted.imp fun h => decide_eq_true h)

/-- Sorting leaves settled steps where they stand. -/
theorem sortSteps_of_settled {steps : List Step} (placed : Placed steps)
    (settled : Settled steps) : sortSteps steps = steps := by
  apply sortSteps_of_pairwise
  rw [List.pairwise_iff_getElem]
  intro i j hi hj hij
  have orderI := placed i steps[i] (List.getElem?_eq_getElem hi)
  have orderJ := placed j steps[j] (List.getElem?_eq_getElem hj)
  rw [orderI]
  split
  · next numbered =>
      rcases Nat.eq_zero_or_pos i with rfl | pos
      · exact Nat.zero_le _
      · have := settled i j _ _ pos hij (List.getElem?_eq_getElem hi) (List.getElem?_eq_getElem hj)
          numbered
        rw [orderJ, if_pos this]
        exact Nat.le_of_lt hij
  · exact Nat.zero_le _

/-- Only the first step can have a number and the number zero. -/
theorem Placed.pairwise {steps : List Step} (placed : Placed steps) :
    steps.Pairwise fun a b =>
      ¬ ((a.isNumbered = true ∧ a.order = 0) ∧ b.isNumbered = true ∧ b.order = 0) := by
  rw [List.pairwise_iff_getElem]
  rintro i j hi hj hij ⟨-, numbered, zero⟩
  have order := placed j steps[j] (List.getElem?_eq_getElem hj)
  rw [if_pos numbered, zero] at order
  omega

theorem order_trans (a b c : Step) (hab : decide (a.order ≤ b.order) = true)
    (hbc : decide (b.order ≤ c.order) = true) : decide (a.order ≤ c.order) = true :=
  decide_eq_true (Nat.le_trans (of_decide_eq_true hab) (of_decide_eq_true hbc))

theorem order_total (a b : Step) :
    (decide (a.order ≤ b.order) || decide (b.order ≤ a.order)) = true := by
  simpa using Nat.le_total a.order b.order

theorem pairwise_sortSteps (steps : List Step) :
    (sortSteps steps).Pairwise fun a b => a.order ≤ b.order :=
  (List.pairwise_mergeSort order_trans order_total steps).imp fun h => of_decide_eq_true h

theorem rel_of_pairwise {α : Type} {R : α → α → Prop} {as : List α} (h : as.Pairwise R)
    {i j : Nat} {a b : α} (hij : i < j) (ha : as[i]? = some a) (hb : as[j]? = some b) :
    R a b := by
  obtain ⟨hi, rfl⟩ := List.getElem?_eq_some_iff.mp ha
  obtain ⟨hj, rfl⟩ := List.getElem?_eq_some_iff.mp hb
  exact List.pairwise_iff_getElem.mp h i j hi hj hij

/-- If sorting leaves the steps with a number where they stand, the steps are settled. -/
theorem settled_of_sortSteps {steps : List Step} (placed : Placed steps)
    (same : (sortSteps steps).map Step.isNumbered = steps.map Step.isNumbered) :
    Settled steps := by
  have perm : (sortSteps steps).Perm steps := List.mergeSort_perm _ _
  have sorted : (sortSteps steps).Pairwise fun a b => a.order ≤ b.order :=
    pairwise_sortSteps steps
  have unique := (perm.pairwise_iff fun h h' => h ⟨h'.2, h'.1⟩).mpr placed.pairwise
  intro i j s t hi hij hs ht numbered
  obtain ⟨a, ha, numberedA⟩ := exists_of_map_eq same hs
  obtain ⟨b, hb, numberedB⟩ := exists_of_map_eq same ht
  by_contra unnumbered
  have zeroB : b.order = 0 := by
    obtain ⟨k, hk⟩ := List.mem_iff_getElem?.mp (perm.mem_iff.mp (List.mem_of_getElem? hb))
    rw [placed k b hk, numberedB, if_neg unnumbered]
  have zeroA : a.order = 0 :=
    Nat.le_zero.mp (zeroB ▸ rel_of_pairwise sorted hij ha hb)
  -- the step with the number zero came from the first position, and another one stands there now
  obtain ⟨k, hk⟩ := List.mem_iff_getElem?.mp (perm.mem_iff.mp (List.mem_of_getElem? ha))
  have first := placed k a hk
  rw [numberedA, if_pos numbered, zeroA] at first
  subst first
  obtain ⟨c, hc, numberedC⟩ := exists_of_map_eq same hk
  have zeroC : c.order = 0 := Nat.le_zero.mp (zeroA ▸ rel_of_pairwise sorted hi hc ha)
  exact rel_of_pairwise unique hi hc ha
    ⟨⟨numberedC.trans (numberedA.trans numbered), zeroC⟩, numberedA.trans numbered, zeroA⟩

/-! ## Saving and loading -/

/-- The steps of a list are what those of another are read back as. -/
def Reads (steps read : List Step) : Prop :=
  List.Forall₂ (fun s t => s.Reread t ∧ t.order = if s.isNumbered then s.order else 0) steps read

/-- What is written for steps that were read is read back as them. -/
theorem exists_values {steps : List Step} (loaded : ∀ s ∈ steps, s.IsLoaded) :
    ∃ vs, List.Forall₂ (fun s v => s.document.value? = some v) steps vs ∧
      ∀ ids, Reads steps (readSteps vs ids).1 := by
  induction steps with
  | nil => exact ⟨[], .nil, fun _ => .nil⟩
  | cons s rest ih =>
      obtain ⟨vs, values, reads⟩ := ih fun t ht => loaded t (List.mem_cons_of_mem _ ht)
      obtain ⟨v, value, written⟩ := (loaded s List.mem_cons_self).exists_written
      exact ⟨v :: vs, .cons value values, fun ids => .cons (written.reread value _) (reads _)⟩

/-- A workflow that was read is read back with its steps read one by one, sorted and numbered. -/
theorem IsLoaded.exists_decode {w : Workflow} (loaded : w.IsLoaded) (ids : IdSupply) :
    ∃ w' read, (decode w.document ids).1 = .ok w' ∧ Reads w.steps read ∧
      w'.steps = numberFrom 0 (sortSteps read) := by
  obtain ⟨vs, values, reads⟩ := exists_values loaded.steps
  have draft := decodeDraft_document loaded.version loaded.device values
  exact ⟨_, _, decode_of_draft draft ids, reads _, rfl⟩

variable {steps read : List Step}

theorem Reads.isNumbered (h : Reads steps read) :
    steps.map Step.isNumbered = read.map Step.isNumbered := by
  induction h with
  | nil => rfl
  | cons head _ ih => rw [List.map_cons, List.map_cons, head.1.numbered, ih]

theorem Reads.getElem? (h : Reads steps read) {i : Nat} {s t : Step} (hs : steps[i]? = some s)
    (ht : read[i]? = some t) : s.Reread t ∧ t.order = if s.isNumbered then s.order else 0 := by
  obtain ⟨hi, rfl⟩ := List.getElem?_eq_some_iff.mp hs
  obtain ⟨hi', rfl⟩ := List.getElem?_eq_some_iff.mp ht
  exact (List.forall₂_iff_get.mp h).2 i hi hi'

theorem Reads.placed (h : Reads steps read)
    (orders : ∀ (i : Nat) (s : Step), steps[i]? = some s → s.order = i) : Placed read := by
  intro i t ht
  obtain ⟨s, hs, -⟩ := exists_of_map_eq h.isNumbered ht
  obtain ⟨reread, order⟩ := h.getElem? hs ht
  rw [order, orders i s hs, reread.numbered]

/-- The steps of a list stand at the same positions of another. -/
def KeptInPlace (steps back : List Step) : Prop :=
  ∀ (i : Nat) (s : Step), steps[i]? = some s →
    ∃ t, back[i]? = some t ∧ s.Reread t ∧ t.order = s.order

/-- Steps stand where they stood exactly when they are settled. -/
theorem Reads.keptInPlace_iff (h : Reads steps read)
    (orders : ∀ (i : Nat) (s : Step), steps[i]? = some s → s.order = i) :
    KeptInPlace steps (numberFrom 0 (sortSteps read)) ↔ Settled steps := by
  have placed := h.placed orders
  constructor
  · intro kept
    refine (settled_of_sortSteps placed ?_).congr h.isNumbered.symm
    rw [← h.isNumbered]
    apply List.ext_getElem?
    intro i
    rw [List.getElem?_map, List.getElem?_map]
    cases hs : steps[i]? with
    | none =>
        have short : (sortSteps read).length ≤ i := by
          rw [sortSteps, List.length_mergeSort, ← h.length_eq]
          exact List.getElem?_eq_none_iff.mp hs
        rw [List.getElem?_eq_none_iff.mpr short]
    | some s =>
        obtain ⟨t, ht, reread, -⟩ := kept i s hs
        rw [getElem?_numberFrom] at ht
        obtain ⟨u, hu, rfl⟩ := Option.map_eq_some_iff.mp ht
        rw [hu]
        exact congrArg some reread.numbered
  · intro settled i s hs
    rw [sortSteps_of_settled placed (settled.congr h.isNumbered), getElem?_numberFrom]
    obtain ⟨t, ht, -⟩ := exists_of_map_eq h.isNumbered.symm hs
    obtain ⟨reread, -⟩ := h.getElem? hs ht
    exact ⟨_, by rw [ht]; rfl, reread.renumbered _, (Nat.zero_add i).trans (orders i s hs).symm⟩

/-- What becomes of a workflow that was read, written and read again.  It has as many steps as
before, and they stand where they stood exactly when they are settled. -/
theorem decode_document {d : Document} {ids : IdSupply} {w : Workflow}
    (h : (decode d ids).1 = .ok w) (ids' : IdSupply) :
    ∃ w', (decode w.document ids').1 = .ok w' ∧ w'.steps.length = w.steps.length ∧
      (KeptInPlace w.steps w'.steps ↔ Settled w.steps) := by
  have loaded := isLoaded_of_decode h
  obtain ⟨w', read, back, reads, hsteps⟩ := loaded.exists_decode ids'
  refine ⟨w', back, ?_, ?_⟩
  · rw [hsteps, length_numberFrom, sortSteps, List.length_mergeSort, reads.length_eq]
  · rw [hsteps]
    exact reads.keptInPlace_iff loaded.orders

/-- Steps that are sorted when they are read keep their order. -/
theorem exists_decode_of_pairwise {d : Document} {r : Draft} (ids : IdSupply)
    (draft : decodeDraft d = .ok r)
    (sorted : (readSteps r.steps (IdSupply.fresh ids).2).1.Pairwise fun a b =>
      a.order ≤ b.order) :
    ∃ w, (decode d ids).1 = .ok w ∧
      w.steps = numberFrom 0 (readSteps r.steps (IdSupply.fresh ids).2).1 :=
  ⟨_, decode_of_draft draft ids, congrArg (numberFrom 0) (sortSteps_of_pairwise sorted)⟩

/-- A record of a tap. -/
def tapNamed (name : String) : Document :=
  .record [("action", .text "tap"), ("name", .text name)]

/-- A workflow with a number among its steps, in second place. -/
def numberSecond : Document :=
  .record [("steps", .list [tapNamed "A", .integer 5, tapNamed "B", tapNamed "C"])]

theorem decode_document_numberSecond :
    ∃ w w', (decode numberSecond ⟨0, 0⟩).1 = .ok w ∧ (decode w.document ⟨1, 0⟩).1 = .ok w' ∧
      w.steps.map Step.name = ["A", "", "B", "C"] ∧ KeptInPlace w.steps w'.steps := by
  obtain ⟨w, loaded, hsteps⟩ := exists_decode_of_pairwise (d := numberSecond) ⟨0, 0⟩ rfl
    (by decide +kernel)
  have flags : w.steps.map Step.isNumbered = [true, false, true, true] := by
    rw [hsteps]
    rfl
  have settled : Settled w.steps := by
    intro i j s t hi hij _ ht _
    have flag := congrArg (·[j]?) flags
    simp only [List.getElem?_map, ht, Option.map_some] at flag
    rcases j with _ | _ | _ | _ | j
    · omega
    · omega
    · exact Option.some.inj flag
    · exact Option.some.inj flag
    · cases flag
  obtain ⟨w', back, -, kept⟩ := decode_document loaded ⟨1, 0⟩
  refine ⟨w, w', loaded, back, ?_, kept.mpr settled⟩
  rw [hsteps]
  rfl

/-- A workflow with a number among its steps, in last place. -/
def numberLast : Document :=
  .record [("steps", .list [tapNamed "A", tapNamed "B", .integer 5])]

/-- A value that is no record may come back in another place. -/
theorem number_moves :
    ∃ w w', (decode numberLast ⟨0, 0⟩).1 = .ok w ∧ (decode w.document ⟨1, 0⟩).1 = .ok w' ∧
      w.steps.map Step.name = ["A", "B", ""] ∧ ¬ KeptInPlace w.steps w'.steps := by
  obtain ⟨w, loaded, sorted⟩ := exists_decode_of_pairwise (d := numberLast) ⟨0, 0⟩ rfl
    (by decide +kernel)
  have isLoaded := isLoaded_of_decode loaded
  obtain ⟨w', read, back, reads, hsteps⟩ := isLoaded.exists_decode ⟨1, 0⟩
  refine ⟨w, w', loaded, back, ?_, ?_⟩
  · rw [sorted]
    rfl
  · rw [hsteps, reads.keptInPlace_iff isLoaded.orders, sorted]
    intro settled
    have last := settled 1 2 _ _ (Nat.le_refl 1) (by decide) rfl rfl rfl
    cases last

end Workflow

end UiReplay
