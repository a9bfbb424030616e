import UiReplay.Proofs.Json.Ordered
import UiReplay.Proofs.Json.Records
import UiReplay.Proofs.Workflow.Identifier
import UiReplay.Workflow.Step

/-!
# Records that describe no step

A record that describes no step is kept as a step, and written back with four fields set:
identifier, name, flag and number.  What is written always has the four values of the step,
so reading it gives them back, whatever it describes (`Step.Marks.same`).

All other fields are written as they were read.  But the four fields now decode.  If one of
them was all that was wrong with the record, what is written describes a step that is carried
out.  So a kept record is kept again exactly when the rest of it, without the four fields,
describes no step (`Step.keep_written`), and it need not be (`Step.keep_fades`).
-/

namespace UiReplay

/-! ## Fields set aside -/

namespace Fields

variable {α : Type} {name : String} {v : α} {fields : List (String × α)}

theorem without_insert {names : List String} (h : name ∈ names) :
    Decode.without names (insert name v fields) = Decode.without names fields :=
  filter_insert (p := fun key => !names.contains key) (by simpa using h)

end Fields

namespace Json

theorem documentFields_without (names : List String) (fields : List (String × Json)) :
    documentFields (Decode.without names fields) =
      Decode.without names (documentFields fields) := by
  rw [documentFields_eq_map, documentFields_eq_map, Decode.without, Decode.without,
    List.filter_map]
  rfl

end Json

/-! ## The four fields -/

/-- The names of the fields that every step has of its own. -/
def Step.marks : List String := ["id", "name", "enabled", "order"]

/-- What a flat record says apart from these fields. -/
def StepRecord.rest (r : StepRecord) : StepRecord :=
  { r with id := none, name := "", order := 0, enabled := true }

namespace Step

/-- Fields hold the identifier, the name, the flag and the number of a step. -/
structure Marks (s : Step) (fields : List (String × Json)) : Prop where
  id : Fields.find? "id" fields = some (.text s.id.text)
  name : Fields.find? "name" fields = some (.text s.name)
  enabled : Fields.find? "enabled" fields = some (.bool s.enabled)
  order : Fields.find? "order" fields = some (.integer s.order)

/-- Two steps have the same identifier, name, flag and number. -/
structure SameMarks (s t : Step) : Prop where
  id : t.id = s.id
  name : t.name = s.name
  enabled : t.enabled = s.enabled
  order : t.order = s.order

/-- The fields of a record that is written back. -/
def markedFields (s : Step) (fields : List (String × Json)) : List (String × Json) :=
  Fields.insert "order" (.integer s.order) (Fields.insert "enabled" (.bool s.enabled)
    (Fields.insert "name" (.text s.name) (Fields.insert "id" (.text s.id.text) fields)))

variable {s : Step} {fields : List (String × Json)}

theorem find?_markedFields {name : String} (h : name ∉ marks) :
    Fields.find? name (s.markedFields fields) = Fields.find? name fields := by
  simp only [marks, List.mem_cons, List.not_mem_nil, or_false, not_or] at h
  obtain ⟨hid, hname, henabled, horder⟩ := h
  rw [markedFields, Fields.find?_insert_of_ne horder, Fields.find?_insert_of_ne henabled,
    Fields.find?_insert_of_ne hname, Fields.find?_insert_of_ne hid]

theorem marks_markedFields (s : Step) (fields : List (String × Json)) :
    s.Marks (s.markedFields fields) where
  id := by
    rw [markedFields, Fields.find?_insert_of_ne (by decide), Fields.find?_insert_of_ne (by decide),
      Fields.find?_insert_of_ne (by decide), Fields.find?_insert_self]
  name := by
    rw [markedFields, Fields.find?_insert_of_ne (by decide), Fields.find?_insert_of_ne (by decide),
      Fields.find?_insert_self]
  enabled := by
    rw [markedFields, Fields.find?_insert_of_ne (by decide), Fields.find?_insert_self]
  order := Fields.find?_insert_self ..

theorem without_markedFields (s : Step) (fields : List (String × Json)) :
    Decode.without marks (s.markedFields fields) = Decode.without marks fields := by
  rw [markedFields, Fields.without_insert (by decide), Fields.without_insert (by decide),
    Fields.without_insert (by decide), Fields.without_insert (by decide)]

theorem ordered_markedFields (ordered : (Json.record fields).Ordered) :
    (Json.record (s.markedFields fields)).Ordered := by
  obtain ⟨ascending, values⟩ := Json.ordered_record.mp ordered
  have insert : ∀ {name : String} {v : Json} {fields : List (String × Json)}, v.Ordered →
      (∀ f ∈ fields, f.2.Ordered) → ∀ f ∈ Fields.insert name v fields, f.2.Ordered := by
    intro name v fields hv hfields f hf
    rcases Fields.mem_insert hf with rfl | hf
    · exact hv
    · exact hfields f hf
  refine Json.ordered_record.mpr ⟨?_, ?_⟩
  · exact Fields.insert_ascending _ _ (Fields.insert_ascending _ _
      (Fields.insert_ascending _ _ (Fields.insert_ascending _ _ ascending)))
  · exact insert trivial (insert trivial (insert trivial (insert trivial values)))

/-! ## Reading the four fields -/

/-- What a field of the flat record keeps that does not set what is meant by `name`. -/
theorem keeps_of {P : StepRecord → Prop} {name : String}
    (hid : name = "id" ∨ ∀ u r, P r → P { r with id := some u })
    (hname : name = "name" ∨ ∀ n r, P r → P { r with name := n })
    (horder : name = "order" ∨ ∀ n r, P r → P { r with order := n })
    (henabled : name = "enabled" ∨ ∀ b r, P r → P { r with enabled := b })
    (hrest : ∀ r r' : StepRecord, r'.id = r.id → r'.name = r.name → r'.order = r.order →
      r'.enabled = r.enabled → P r → P r') :
    ∀ g ∈ StepRecord.recordFields, g.name ≠ name → g.Keeps P := by
  intro g hg hne
  simp only [StepRecord.recordFields, List.mem_cons, List.not_mem_nil, or_false] at hg
  rcases hg with rfl | rfl | rfl | rfl | rfl | rfl | rfl | rfl | rfl | rfl
  · exact Field.keeps_withDefault fun _ a _ => hid.resolve_left (Ne.symm hne) a
  · exact Field.keeps_required fun _ _ _ r => hrest r _ rfl rfl rfl rfl
  · exact Field.keeps_withDefault fun _ _ _ r => hrest r _ rfl rfl rfl rfl
  · exact Field.keeps_withDefault fun _ a _ => hname.resolve_left (Ne.symm hne) a
  · exact Field.keeps_withDefault fun _ a _ => horder.resolve_left (Ne.symm hne) a
  · exact Field.keeps_withDefault fun _ a _ => henabled.resolve_left (Ne.symm hne) a
  all_goals exact Field.keeps_withDefault fun _ _ _ r => hrest r _ rfl rfl rfl rfl

/-- The step of a flat record has its values. -/
theorem ofRecord?_eq_ok {fresh : Uuid} {r : StepRecord} {t : Step}
    (h : ofRecord? fresh r = .ok t) :
    r.action? = .ok t.action ∧ t.id = r.id.getD fresh ∧ t.name = r.name ∧
      t.enabled = r.enabled ∧ t.order = r.order := by
  unfold ofRecord? at h
  cases ha : r.action? with
  | error p =>
      rw [ha] at h
      cases h
  | ok action =>
      cases hc : r.chain? with
      | error p =>
          rw [ha, hc] at h
          cases h
      | ok chain =>
          rw [ha, hc] at h
          cases h
          exact ⟨rfl, rfl, rfl, rfl, rfl⟩

theorem decode_text (u : Uuid) : Uuid.decode (Json.text u.text).document = .ok u := by
  rw [Json.document, Uuid.decode, Uuid.read?_text]

variable {r : StepRecord}

/-- What a flat record with the four values decodes to has them. -/
theorem of_decode {P : StepRecord → Prop} {name : String} {v : Json}
    {f : Field StepRecord} (h : StepRecord.decode (Json.record fields).document = .ok r)
    (found : Fields.find? name fields = some v)
    (spelled : StepRecord.recordFields.find? (·.hasSpelling name) = some f)
    (puts : ∀ {r r' : StepRecord}, f.store v.document r = .ok r' → P r')
    (keeps : ∀ g ∈ StepRecord.recordFields, g.name ≠ f.name → g.Keeps P) : P r := by
  obtain ⟨seen, hvisit⟩ := Decode.visit_of_record h
  exact Decode.visit_puts (Json.mem_documentFields (Fields.mem_of_find? found)) spelled puts keeps
    hvisit

theorem Marks.decoded_id (marked : s.Marks fields)
    (h : StepRecord.decode (Json.record fields).document = .ok r) : r.id = some s.id := by
  have keeps := keeps_of (P := fun r : StepRecord => r.id = some s.id) (.inl rfl)
    (.inr fun _ _ h => h) (.inr fun _ _ h => h) (.inr fun _ _ h => h)
    fun _ _ hid _ _ _ h => hid.trans h
  refine of_decode h marked.id rfl ?_ keeps
  intro r r' hstore
  obtain ⟨u, hu, rfl⟩ := Field.store_withDefault hstore
  rw [decode_text] at hu
  exact congrArg some (Except.ok.inj hu).symm

theorem Marks.decoded_name (marked : s.Marks fields)
    (h : StepRecord.decode (Json.record fields).document = .ok r) : r.name = s.name := by
  have keeps := keeps_of (P := fun r : StepRecord => r.name = s.name) (.inr fun _ _ h => h)
    (.inl rfl) (.inr fun _ _ h => h) (.inr fun _ _ h => h) fun _ _ _ hname _ _ h => hname.trans h
  refine of_decode h marked.name rfl ?_ keeps
  intro r r' hstore
  obtain ⟨n, hn, rfl⟩ := Field.store_withDefault hstore
  cases hn
  rfl

theorem Marks.decoded_enabled (marked : s.Marks fields)
    (h : StepRecord.decode (Json.record fields).document = .ok r) : r.enabled = s.enabled := by
  have keeps := keeps_of (P := fun r : StepRecord => r.enabled = s.enabled)
    (.inr fun _ _ h => h) (.inr fun _ _ h => h) (.inr fun _ _ h => h) (.inl rfl)
    fun _ _ _ _ _ henabled h => henabled.trans h
  refine of_decode h marked.enabled rfl ?_ keeps
  intro r r' hstore
  obtain ⟨b, hb, rfl⟩ := Field.store_withDefault hstore
  cases hb
  rfl

theorem Marks.decoded_order (marked : s.Marks fields)
    (h : StepRecord.decode (Json.record fields).document = .ok r) : r.order = s.order := by
  have keeps := keeps_of (P := fun r : StepRecord => r.order = s.order) (.inr fun _ _ h => h)
    (.inr fun _ _ h => h) (.inl rfl) (.inr fun _ _ h => h)
    fun _ _ _ _ horder _ h => horder.trans h
  refine of_decode h marked.order rfl ?_ keeps
  intro r r' hstore
  obtain ⟨n, hn, rfl⟩ := Field.store_withDefault hstore
  exact Int.ofNat.inj (Document.integer.inj (Decode.natBelow_eq_ok_iff.mp hn).1).symm

/-- What a flat record with the four values gives has them. -/
theorem sameMarks_of_ofValue? {fresh : Uuid} {t : Step} (marked : s.Marks fields)
    (h : ofValue? fresh (.record fields) = .ok t) : s.SameMarks t := by
  unfold ofValue? at h
  split at h
  · next r hr =>
      obtain ⟨-, tid, tname, tenabled, torder⟩ := ofRecord?_eq_ok h
      have hid := marked.decoded_id hr
      exact ⟨by rw [tid, hid]; rfl, tname.trans (marked.decoded_name hr),
        tenabled.trans (marked.decoded_enabled hr), torder.trans (marked.decoded_order hr)⟩
  · cases h

/-- What is kept of fields with the four values has them. -/
theorem sameMarks_keep {fresh : Uuid} {problem : Problem} (marked : s.Marks fields) :
    s.SameMarks (keep fresh (.record fields) problem) := by
  constructor <;> simp [keep, Json.field?, marked.id, marked.name, marked.enabled, marked.order,
    Json.text?, Json.bool?, Json.nat64?, Uuid.read?_text]

/-- Reading gives the four values back. -/
theorem Marks.same (marked : s.Marks fields) (fresh : Uuid) :
    s.SameMarks (ofValueWith fresh (.record fields)) := by
  unfold ofValueWith
  split
  · next t h => exact sameMarks_of_ofValue? marked h
  · exact sameMarks_keep marked

/-! ## Reading the rest -/

theorem aside_marks : Decode.Aside StepRecord.recordFields marks StepRecord.rest where
  spelled := by
    intro f hf key h
    rcases Field.hasSpelling_iff.mp h with h | h
    · exact .inl h.symm
    · simp only [StepRecord.recordFields, List.mem_cons, List.not_mem_nil, or_false] at hf
      rcases hf with rfl | rfl | rfl | rfl | rfl | rfl | rfl | rfl | rfl | rfl
      all_goals try exact absurd h List.not_mem_nil
      -- only the text to type has a second spelling
      cases List.mem_singleton.mp h
      exact .inr (by decide)
  optional := by
    intro f hf hname
    simp only [StepRecord.recordFields, List.mem_cons, List.not_mem_nil, or_false] at hf
    rcases hf with rfl | rfl | rfl | rfl | rfl | rfl | rfl | rfl | rfl | rfl
    all_goals first
      | rfl
      | exact absurd hname (by decide)
  leaves := by
    intro f hf hname d r r' h
    simp only [StepRecord.recordFields, List.mem_cons, List.not_mem_nil, or_false] at hf
    rcases hf with rfl | rfl | rfl | rfl | rfl | rfl | rfl | rfl | rfl | rfl
    all_goals first
      | exact absurd hname (by decide)
      | obtain ⟨a, -, rfl⟩ := Field.store_withDefault h
        rfl
  respects := by
    intro f hf hname d r r' h
    simp only [StepRecord.recordFields, List.mem_cons, List.not_mem_nil, or_false] at hf
    rcases hf with rfl | rfl | rfl | rfl | rfl | rfl | rfl | rfl | rfl | rfl
    all_goals first
      | exact absurd (by decide) hname
      | exact Field.respects_withDefault (by intro _ _; rfl) d h
      | exact Field.respects_required (by intro _ _; rfl) d h

/-- A flat record describes no step because of its action, else because of its chain. -/
theorem ofRecord?_eq_error_iff {fresh : Uuid} {r : StepRecord} {p : Problem} :
    ofRecord? fresh r = .error p ↔
      r.action? = .error p ∨ (∃ a, r.action? = .ok a) ∧ r.chain? = .error p := by
  unfold ofRecord?
  cases r.action? with
  | error q => simp [bind, Except.bind]
  | ok a =>
      cases r.chain? with
      | error q => simp [bind, Except.bind]
      | ok c => simp [bind, Except.bind, pure, Except.pure]

/-- Whether a flat record describes a step is decided by the rest of it. -/
theorem ofRecord?_error_iff {fresh fresh' : Uuid} {r r' : StepRecord} (h : r.rest = r'.rest) :
    (∃ p, ofRecord? fresh r = .error p) ↔ ∃ p, ofRecord? fresh' r' = .error p := by
  have action : r.rest.action? = r'.rest.action? := congrArg StepRecord.action? h
  have chain : r.rest.chain? = r'.rest.chain? := congrArg StepRecord.chain? h
  change r.action? = r'.action? at action
  change r.chain? = r'.chain? at chain
  simp only [ofRecord?_eq_error_iff, action, chain]

/-- The four fields decode when they hold the values of a step. -/
theorem Marks.fits (marked : s.Marks fields) (ascending : Fields.Ascending fields)
    (count : s.order < Number.wordLimit64) :
    ∀ m ∈ Json.documentFields fields, m.1 ∈ marks →
      ∀ f, StepRecord.recordFields.find? (·.hasSpelling m.1) = some f →
        ∀ r, ∃ r', f.store m.2 r = .ok r' := by
  intro m hm hname f hf r
  rw [Json.documentFields_eq_map] at hm
  obtain ⟨⟨key, v⟩, hmem, rfl⟩ := List.mem_map.mp hm
  have found := Fields.find?_of_mem ascending hmem
  simp only [marks, List.mem_cons, List.not_mem_nil, or_false] at hname
  rcases hname with rfl | rfl | rfl | rfl
  · cases marked.id.symm.trans found
    cases hf
    exact ⟨_, Field.store_of_decode (decode_text s.id) r⟩
  · cases marked.name.symm.trans found
    cases hf
    exact ⟨_, rfl⟩
  · cases marked.enabled.symm.trans found
    cases hf
    exact ⟨_, rfl⟩
  · cases marked.order.symm.trans found
    cases hf
    exact ⟨_, Field.store_of_decode (Decode.natBelow_eq_ok_iff.mpr ⟨rfl, count⟩) r⟩

/-- Fields that hold the values of a step describe one exactly when the rest does. -/
theorem Marks.ofValue?_error_iff (marked : s.Marks fields) (ascending : Fields.Ascending fields)
    (count : s.order < Number.wordLimit64) (fresh fresh' : Uuid) :
    (∃ p, ofValue? fresh (.record fields) = .error p) ↔
      ∃ p, ofValue? fresh' (.record (Decode.without marks fields)) = .error p := by
  have nodup : ((Json.documentFields fields).map Prod.fst).Nodup := by
    rw [Json.documentFields_eq_map, List.map_map]
    exact ascending.nodup
  have decoded : (StepRecord.decode (Json.record fields).document).map StepRecord.rest =
      (StepRecord.decode (Json.record (Decode.without marks fields)).document).map
        StepRecord.rest := by
    rw [Json.document, Json.document, Json.documentFields_without]
    exact aside_marks.record nodup (marked.fits ascending count)
  unfold ofValue?
  rcases Decode.outcomes_of_map_eq decoded with ⟨fault, h, h'⟩ | ⟨r, r', h, h', same⟩
  · rw [h, h']
  · rw [h, h']
    exact ofRecord?_error_iff same

/-! ## Records that are kept -/

theorem order_keep_lt {fresh : Uuid} {problem : Problem}
    (count : ∀ i, Fields.find? "order" fields = some (.integer i) → i < Number.wordLimit64) :
    (keep fresh (.record fields) problem).order < Number.wordLimit64 := by
  show (((Fields.find? "order" fields).bind Json.nat64?).getD 0) < _
  cases h : (Fields.find? "order" fields).bind Json.nat64? with
  | none => decide
  | some n =>
      obtain ⟨v, hv, hn⟩ := Option.bind_eq_some_iff.mp h
      cases v with
      | integer i =>
          have below := count i hv
          rw [Json.nat64?] at hn
          split at hn
          · cases hn
            show i.toNat < _
            omega
          · cases hn
      | _ => cases hn

/-- No flat record gives an action that is kept. -/
theorem actionOf_ne_unusable {r : StepRecord} {kind : ActionKind} {u : UnusableRecord} :
    r.actionOf kind ≠ .ok (.unusable u) := by
  have present : ∀ {α : Type} {kind : ActionKind} {make : α → Action} {o : Option α},
      (∀ a, make a ≠ .unusable u) →
        (StepRecord.present kind o).map make ≠ .ok (.unusable u) := by
    intro α kind make o hmake h
    cases o with
    | none => cases h
    | some a => exact hmake a (Except.ok.inj h)
  cases kind with
  | swipe | inputText | wait => exact present fun a h => by cases h
  | _ => exact fun h => by cases h

theorem action_ne_unusable {fresh : Uuid} {v : Json} {t : Step} (h : ofValue? fresh v = .ok t)
    (u : UnusableRecord) : t.action ≠ .unusable u := by
  intro ht
  unfold ofValue? at h
  split at h
  · next r _ =>
      obtain ⟨action, -⟩ := ofRecord?_eq_ok h
      rw [ht, StepRecord.action?] at action
      split at action
      · cases action
      · split at action
        · cases action
        · exact actionOf_ne_unusable action
  · cases h

theorem ofValueWith_unusable_iff {fresh : Uuid} {v : Json} :
    (∃ u, (ofValueWith fresh v).action = .unusable u) ↔ ∃ p, ofValue? fresh v = .error p := by
  unfold ofValueWith
  cases h : ofValue? fresh v with
  | ok t => exact ⟨fun ⟨u, hu⟩ => absurd hu (action_ne_unusable h u), fun ⟨p, hp⟩ => by cases hp⟩
  | error p => exact ⟨fun _ => ⟨p, rfl⟩, fun _ => ⟨_, rfl⟩⟩

/-- Both steps are kept, with the same action. -/
def KeptAlike (s t : Step) : Prop :=
  ∃ u u', s.action = .unusable u ∧ t.action = .unusable u' ∧ u'.action = u.action

/-- What becomes of a record that describes no step.  It is written with all fields but the
four as they were.  Reading what is written gives the four values back, and keeps the record
again with the same action exactly when the rest of it describes no step. -/
theorem keep_written (ordered : (Json.record fields).Ordered)
    (count : ∀ i, Fields.find? "order" fields = some (.integer i) → i < Number.wordLimit64)
    {fresh : Uuid} {problem : Problem}
    (undescribed : ofValue? fresh (.record fields) = .error problem) :
    let s := ofValueWith fresh (.record fields)
    ∃ written : List (String × Json),
      s.document = (Json.record written).document ∧
      Decode.without marks written = Decode.without marks fields ∧
      s.document.value? = some (.record written) ∧
      ∀ fresh', let t := ofValueWith fresh' (.record written)
        s.SameMarks t ∧
          (s.KeptAlike t ↔
            ∃ p, ofValue? fresh' (.record (Decode.without marks fields)) = .error p) := by
  intro s
  have kept : s = keep fresh (.record fields) problem := by
    show ofValueWith _ _ = _
    rw [ofValueWith, undescribed]
  have marked := marks_markedFields s fields
  have orderedWritten := ordered_markedFields (s := s) ordered
  have written : s.document = (Json.record (s.markedFields fields)).document := by
    rw [kept]
    rfl
  refine ⟨_, written, without_markedFields _ _, ?_, fun fresh' => ⟨marked.same fresh', ?_⟩⟩
  · rw [written]
    exact Json.value?_document orderedWritten
  · have again := marked.ofValue?_error_iff (Json.ordered_record.mp orderedWritten).1
      (kept ▸ order_keep_lt count) fresh' fresh'
    rw [without_markedFields] at again
    rw [← again]
    constructor
    · rintro ⟨u, u', -, hu', -⟩
      exact ofValueWith_unusable_iff.mp ⟨u', hu'⟩
    · rintro ⟨p, hp⟩
      refine ⟨.of (.record fields) problem, .of (.record (s.markedFields fields)) p, ?_, ?_, ?_⟩
      · rw [kept]
        rfl
      · rw [ofValueWith, hp]
        rfl
      · show ((Fields.find? "action" _).bind Json.text?).getD "" = _
        rw [find?_markedFields (by decide)]
        rfl

/-- The fields of a record of an action that is none of the six. -/
def pinchFields : List (String × Json) :=
  [("action", .text "pinch"), ("enabled", .null), ("name", .text "Zoom"), ("scale", .integer 2)]

theorem keep_written_pinch :
    (Json.record pinchFields).Ordered ∧
      (∀ i, Fields.find? "order" pinchFields = some (.integer i) → i < Number.wordLimit64) ∧
      ofValue? ⟨1⟩ (.record pinchFields) =
        .error (.malformed (.wrongType .null "a boolean")) ∧
      ∃ written,
        (ofValueWith ⟨1⟩ (.record pinchFields)).document.value? = some (.record written) ∧
        ∀ fresh', (ofValueWith ⟨1⟩ (.record pinchFields)).KeptAlike
          (ofValueWith fresh' (.record written)) := by
  have ordered : (Json.record pinchFields).Ordered := by
    refine Json.ordered_record.mpr ⟨?_, ?_⟩
    · unfold Fields.Ascending pinchFields
      decide
    · simp [pinchFields, Json.Ordered]
  have count : ∀ i, Fields.find? "order" pinchFields = some (.integer i) →
      i < Number.wordLimit64 := by
    intro i h
    cases h
  have undescribed : ofValue? ⟨1⟩ (.record pinchFields) =
      .error (.malformed (.wrongType .null "a boolean")) := rfl
  obtain ⟨written, -, -, value, again⟩ := keep_written ordered count undescribed
  exact ⟨ordered, count, undescribed, written, value, fun fresh' =>
    (again fresh').2.mpr ⟨.unknownAction "pinch", rfl⟩⟩

/-- The fields of a wait whose name is a number. -/
def misnamedFields : List (String × Json) :=
  [("action", .text "wait"), ("name", .integer 5),
    ("wait_data", .record [("duration_ms", .integer 1)])]

/-- A record may be kept and described by what is written for it. -/
theorem keep_fades :
    (∃ problem, ofValue? ⟨1⟩ (.record misnamedFields) = .error problem) ∧
      ∃ v, (ofValueWith ⟨1⟩ (.record misnamedFields)).document.value? = some v ∧
        (ofValueWith ⟨2⟩ v).kind = .wait := by
  refine ⟨⟨_, rfl⟩, _, rfl, ?_⟩
  decide +kernel

end Step

end UiReplay
