import UiReplay.Proofs.Workflow.ByValue
import UiReplay.Proofs.Workflow.Places
import UiReplay.Workflow.Validity

/-!
# A workflow survives being written and read

Every part of a workflow is read back from the document that is written for it: the data of an
action, a chain of selectors of any length, the flat form of a step, and the flat form of the
workflow.  The parts that are left out are those that reading leaves at their defaults.

A document that is accepted can be read by its value as well.  So a valid workflow, all of whose
steps can be carried out, is the same after it was encoded to a value and decoded
(`Workflow.decode_value`).  Its numbers have to fit their types (`Workflow.Fits`).
-/

namespace UiReplay

/-! ## Numbers and words -/

/-- A coordinate that fits 32 bits. -/
def FitsCoordinate (o : Option Int) : Prop := ∀ i, o = some i → Number.fitsInt32 i = true

theorem nullable_coordinate {o : Option Int} (h : FitsCoordinate o) :
    Decode.nullable Decode.int32 (optionalInteger o) = .ok o := by
  cases o with
  | none => rfl
  | some i =>
      show (Decode.int32 (.integer i)).map some = .ok (some i)
      rw [Decode.int32, Decode.integerIn, if_pos (h i rfl)]
      rfl

theorem nat64_integer {n : Nat} (h : n < Number.wordLimit64) :
    Decode.nat64 (.integer n) = .ok n :=
  Decode.natBelow_eq_ok_iff.mpr ⟨rfl, h⟩

theorem SelectorKind.decode_name (k : SelectorKind) : decode (.text k.name) = .ok k := by
  cases k <;> rfl

theorem Direction.decode_name (d : Direction) : decode (.text d.name) = .ok d := by
  cases d <;> rfl

/-! ## Data of actions -/

/-- The numbers of a tap fit their types. -/
structure TapData.Fits (d : TapData) : Prop where
  x : FitsCoordinate d.x
  y : FitsCoordinate d.y
  duration : d.durationMs < Number.wordLimit64

theorem TapData.Fits.decode_written {d : TapData} (h : d.Fits) : decode d.document = .ok d := by
  rw [decode, document, Decode.record,
    Decode.visit_of_store rfl (by decide) (Field.store_of_decode (nullable_coordinate h.x) _),
    Decode.visit_of_store rfl (by decide) (Field.store_of_decode (nullable_coordinate h.y) _),
    Decode.visit_of_store rfl (by decide) (Field.store_of_decode (nat64_integer h.duration) _)]
  rfl

/-- The numbers of a swipe or scroll fit their types. -/
structure SwipeData.Fits (d : SwipeData) : Prop where
  startX : FitsCoordinate d.startX
  startY : FitsCoordinate d.startY
  endX : FitsCoordinate d.endX
  endY : FitsCoordinate d.endY
  duration : d.durationMs < Number.wordLimit64

theorem SwipeData.Fits.decode_written {d : SwipeData} (h : d.Fits) :
    decode d.document = .ok d := by
  rw [decode, document, Decode.record,
    Decode.visit_of_store rfl (by decide) (Field.store_of_decode (Direction.decode_name _) _),
    Decode.visit_of_store rfl (by decide) (Field.store_of_decode (nullable_coordinate h.startX) _),
    Decode.visit_of_store rfl (by decide) (Field.store_of_decode (nullable_coordinate h.startY) _),
    Decode.visit_of_store rfl (by decide) (Field.store_of_decode (nullable_coordinate h.endX) _),
    Decode.visit_of_store rfl (by decide) (Field.store_of_decode (nullable_coordinate h.endY) _),
    Decode.visit_of_store rfl (by decide) (Field.store_of_decode (nat64_integer h.duration) _)]
  rfl

theorem InputTextData.decode_written (d : InputTextData) : decode d.document = .ok d := by
  have text : Decode.text (.text d.text) = .ok d.text := rfl
  have clearFirst : Decode.truth (.bool d.clearFirst) = .ok d.clearFirst := rfl
  rw [decode, document, Decode.record,
    Decode.visit_of_store rfl (by decide) (Field.store_required_of_decode text _),
    Decode.visit_of_store rfl (by decide) (Field.store_of_decode clearFirst _)]
  rfl

/-- The time of a wait fits its type. -/
structure WaitData.Fits (d : WaitData) : Prop where
  duration : d.durationMs < Number.wordLimit64

theorem WaitData.Fits.decode_written {d : WaitData} (h : d.Fits) : decode d.document = .ok d := by
  have waitForElement : Decode.truth (.bool d.waitForElement) = .ok d.waitForElement := rfl
  rw [decode, document, Decode.record,
    Decode.visit_of_store rfl (by decide)
      (Field.store_required_of_decode (nat64_integer h.duration) _),
    Decode.visit_of_store rfl (by decide) (Field.store_of_decode waitForElement _)]
  rfl

/-! ## Chains -/

namespace NestedSelector

/-- The fields of a level that a chain is written with are stored. -/
theorem visit_level (inner : Decoder NestedSelector) (s : Selector)
    (rest : List (String × Document)) :
    Decode.visit (recordFields inner) (levelFields s.level ++ rest) [] {} =
      Decode.visit (recordFields inner) rest ["confidence", "value", "type"]
        { kind := s.kind, value := s.value, confidence := some (.finite s.confidence) } := by
  have value : Decode.text (.text s.value) = .ok s.value := rfl
  have confidence : Decode.nullable Decode.single (.single s.confidence) =
      .ok (some (.finite s.confidence)) := rfl
  show Decode.visit _ (("type", .text s.kind.name) :: ("value", .text s.value) ::
    ("confidence", .single s.confidence) :: rest) _ _ = _
  rw [Decode.visit_of_store rfl (by decide)
      (Field.store_required_of_decode s.kind.decode_name _),
    Decode.visit_of_store rfl (by decide) (Field.store_required_of_decode value _),
    Decode.visit_of_store rfl (by decide) (Field.store_of_decode confidence _)]
  rfl

theorem document_ne_null (n : NestedSelector) : n.document ≠ .null := by
  cases n <;> exact Document.noConfusion

/-- A chain is read back within a bound for its length, by induction on the selectors after the
first. -/
theorem decodeWithin_nest (s : Selector) (rest : List Selector) :
    decodeWithin (rest.length + 1) (Chain.nest s rest).document = .ok (Chain.nest s rest) := by
  induction rest generalizing s with
  | nil =>
      show (Decode.record _ _ _ (.record (levelFields s.level))).map ofDraft = _
      rw [Decode.record, ← List.append_nil (levelFields _), visit_level]
      rfl
  | cons t rest ih =>
      have inner : Decode.nullable (decodeWithin (rest.length + 1)) (Chain.nest t rest).document =
          .ok (some (Chain.nest t rest)) := by
        rw [Decode.nullable_of_ne (document_ne_null _), ih]
        rfl
      have fresh : "fallback" ∉ ["confidence", "value", "type"] := by decide
      show (Decode.record _ _ _ (.record (levelFields s.level ++
        [("fallback", (Chain.nest t rest).document)]))).map ofDraft = _
      rw [List.length_cons, Decode.record, visit_level,
        Decode.visit_of_store rfl fresh (Field.store_of_decode inner _)]
      rfl

theorem decode_nested (c : Chain) : decode c.nested.document = .ok c.nested :=
  decode_of_within (decodeWithin_nest c.primary c.fallbacks)

end NestedSelector

/-! ## Flat steps -/

namespace Decode

variable {σ α : Type} {fields : List (Field σ)} {rest : List (String × Document)} {r r' : σ}
  {name : String} {write : α → Document} {o : Option α}

/-- A member that may be left out is stored, or the record is as if it were. -/
theorem Stores.optional {f : Field σ} (put : Option α → σ)
    (spelled : fields.find? (·.hasSpelling name) = some f) (absent : put none = r)
    (stored : ∀ a, o = some a → f.store (write a) r = .ok (put (some a)))
    (more : Stores fields rest (put o) r') :
    Stores fields (StepRecord.optionalField name write o ++ rest) r r' := by
  cases o with
  | none =>
      rw [absent] at more
      exact more
  | some a => exact .known spelled (stored a rfl) more

theorem named_append (members members' : List (String × Document)) :
    named fields (members ++ members') = named fields members ++ named fields members' :=
  List.filterMap_append

theorem named_optionalField (h : fieldName? fields name = some name) :
    (named fields (StepRecord.optionalField name write o)).Sublist [name] := by
  cases o with
  | none => exact List.nil_sublist _
  | some a => simp [StepRecord.optionalField, named, h]

end Decode

namespace StepRecord

/-- The numbers of a flat step fit their types, and its selectors are those of a chain. -/
structure Fits (r : StepRecord) : Prop where
  selector : ∀ n, r.selector = some n → ∃ c : Chain, n = c.nested
  order : r.order < Number.wordLimit64
  tapData : ∀ d, r.tapData = some d → d.Fits
  swipeData : ∀ d, r.swipeData = some d → d.Fits
  waitData : ∀ d, r.waitData = some d → d.Fits

variable {r : StepRecord}

/-- What is written for data that may be missing. -/
theorem nullable_of_decode {α : Type} {decode : Decoder α} {d : Document} {a : α}
    (h : decode d = .ok a) (present : d ≠ .null) : Decode.nullable decode d = .ok (some a) := by
  rw [Decode.nullable_of_ne present, h]
  rfl

/-- The members that are written are stored one after the other. -/
theorem Fits.stores (fits : r.Fits) {members : List (String × Document)}
    (h : r.document = .record members) : Decode.Stores recordFields members {} r := by
  have action : Decode.text (.text r.action) = .ok r.action := rfl
  have name : Decode.text (.text r.name) = .ok r.name := rfl
  have order : Decode.count (.integer r.order) = .ok r.order :=
    Decode.natBelow_eq_ok_iff.mpr ⟨rfl, fits.order⟩
  have enabled : Decode.truth (.bool r.enabled) = .ok r.enabled := rfl
  have selector : ∀ n, r.selector = some n →
      Decode.nullable NestedSelector.decode n.document = .ok (some n) := by
    intro n hn
    obtain ⟨c, rfl⟩ := fits.selector n hn
    exact nullable_of_decode (NestedSelector.decode_nested c) c.nested.document_ne_null
  cases h
  rw [← List.append_nil (_ ++ optionalField "wait_data" _ _)]
  simp only [List.append_assoc, List.cons_append, List.nil_append]
  refine .optional (fun o => { id := o }) rfl rfl
    (fun u _ => Field.store_of_decode (Step.decode_text u) _) ?_
  refine .known rfl (Field.store_required_of_decode action _) ?_
  refine .optional (fun o => { id := r.id, action := r.action, selector := o }) rfl rfl
    (fun n hn => Field.store_of_decode (selector n hn) _) ?_
  refine .known rfl (Field.store_of_decode name _) ?_
  refine .known rfl (Field.store_of_decode order _) ?_
  refine .known rfl (Field.store_of_decode enabled _) ?_
  refine .optional (fun o => { r with
    tapData := o, swipeData := none, inputData := none, waitData := none }) rfl rfl
    (fun d hd => Field.store_of_decode
      (nullable_of_decode (fits.tapData d hd).decode_written Document.noConfusion) _) ?_
  refine .optional (fun o => { r with swipeData := o, inputData := none, waitData := none }) rfl rfl
    (fun d hd => Field.store_of_decode
      (nullable_of_decode (fits.swipeData d hd).decode_written Document.noConfusion) _) ?_
  refine .optional (fun o => { r with inputData := o, waitData := none }) rfl rfl
    (fun d _ => Field.store_of_decode
      (nullable_of_decode d.decode_written Document.noConfusion) _) ?_
  refine .optional (fun o => { r with waitData := o }) rfl rfl
    (fun d hd => Field.store_of_decode
      (nullable_of_decode (fits.waitData d hd).decode_written Document.noConfusion) _) ?_
  exact .done

/-- The members that are written belong to different fields, and one of them to the action. -/
theorem named_document {members : List (String × Document)} (h : r.document = .record members) :
    (Decode.named recordFields members).Nodup ∧ "action" ∈ Decode.named recordFields members := by
  cases h
  simp only [Decode.named_append]
  have names : (["id"] ++ ["action"] ++ ["selector"] ++ ["name", "order", "enabled"] ++
      ["tap_data"] ++ ["swipe_data"] ++ ["input_data"] ++ ["wait_data"]).Nodup := by decide
  have optional : ∀ {α : Type} {name : String} {write : α → Document} {o : Option α},
      Decode.fieldName? recordFields name = some name →
        (Decode.named recordFields (optionalField name write o)).Sublist [name] :=
    Decode.named_optionalField
  refine ⟨names.sublist ?_, ?_⟩
  · exact (((((((optional rfl).append (.refl _)).append (optional rfl)).append (.refl _)).append
      (optional rfl)).append (optional rfl)).append (optional rfl)).append (optional rfl)
  · have action : Decode.named recordFields [("action", .text r.action)] = ["action"] := rfl
    simp [action]

theorem Fits.decode_written (fits : r.Fits) : decode r.document = .ok r := by
  obtain ⟨nodup, action⟩ := named_document (r := r) rfl
  refine Decode.record_eq_ok_iff.mpr ⟨fits.stores rfl, nodup, ?_⟩
  intro f hf required
  simp only [recordFields, List.mem_cons, List.not_mem_nil, or_false] at hf
  rcases hf with rfl | rfl | rfl | rfl | rfl | rfl | rfl | rfl | rfl | rfl
  all_goals first
    | exact action
    | cases required

end StepRecord

/-! ## Steps -/

/-- The numbers of an action fit their types. -/
def Action.Fits : Action → Prop
  | .tap d | .longTap d => d.Fits
  | .swipe d | .scroll d => d.Fits
  | .wait d => d.Fits
  | .inputText _ | .unusable _ => True

namespace Step

/-- The numbers of a step fit their types. -/
structure Fits (s : Step) : Prop where
  action : s.action.Fits
  order : s.order < Number.wordLimit64

/-- The step is carried out. -/
def IsUsable (s : Step) : Prop := ∀ u, s.action ≠ .unusable u

variable {s : Step}

theorem Fits.record (fits : s.Fits) : s.record.Fits := by
  obtain ⟨id, action, selector, name, enabled, order⟩ := s
  have chain : ∀ n, selector.map Chain.nested = some n → ∃ c : Chain, n = c.nested := by
    intro n hn
    obtain ⟨c, -, rfl⟩ := Option.map_eq_some_iff.mp hn
    exact ⟨c, rfl⟩
  have own := fits.action
  cases action with
  | tap d | longTap d =>
      exact ⟨chain, fits.order, fun e he => Option.some.inj he ▸ own, nofun, nofun⟩
  | swipe d | scroll d =>
      exact ⟨chain, fits.order, nofun, fun e he => Option.some.inj he ▸ own, nofun⟩
  | inputText d => exact ⟨chain, fits.order, nofun, nofun, nofun⟩
  | wait d => exact ⟨chain, fits.order, nofun, nofun, fun e he => Option.some.inj he ▸ own⟩
  | unusable u => exact ⟨chain, fits.order, nofun, nofun, nofun⟩

/-- The flat form of a step that is carried out describes it, one case for each kind. -/
theorem ofRecord?_record (usable : s.IsUsable) (fresh : Uuid) :
    ofRecord? fresh s.record = .ok s := by
  obtain ⟨id, action, selector, name, enabled, order⟩ := s
  have chain : ∀ r : StepRecord, r.selector = selector.map Chain.nested →
      r.chain? = .ok selector := by
    intro r hr
    rw [StepRecord.chain?, hr]
    cases selector with
    | none => rfl
    | some c => simp only [Option.map_some, Chain.ofNested?_nested]
  unfold ofRecord?
  rw [chain _ (by cases action <;> rfl)]
  cases action with
  | unusable u => exact absurd rfl (usable u)
  | _ => rfl

theorem document_of_usable (usable : s.IsUsable) : s.document = s.record.document := by
  unfold Step.document
  split
  · next u hu => exact absurd hu (usable u)
  · rfl

/-- A step that is carried out is given back by its value. -/
theorem Fits.ofValueWith_eq (fits : s.Fits) (usable : s.IsUsable) {v : Json}
    (value : s.document.value? = some v) (fresh : Uuid) : ofValueWith fresh v = s := by
  have decoded : StepRecord.decode v.document = .ok s.record :=
    StepRecord.readsValue_decode ⟨v, value, rfl⟩
      (document_of_usable usable ▸ fits.record.decode_written)
  rw [ofValueWith, ofValue?, decoded]
  simp only [ofRecord?_record usable]

end Step

/-! ## Workflows -/

namespace Workflow

/-- The numbers of a workflow fit their types. -/
structure Fits (w : Workflow) : Prop where
  version : w.version < Number.wordLimit32
  device : ∀ i, w.deviceInfo = some i → i.Fits
  steps : ∀ s ∈ w.steps, s.Fits

/-- Steps that pass the check have their positions for numbers. -/
theorem order_of_checkFrom {n : Nat} {seen : List Uuid} {steps : List Step}
    (valid : checkFrom n seen steps = .ok ()) {i : Nat} {s : Step} (hs : steps[i]? = some s) :
    s.order = n + i :=
  (checkFrom_eq_ok_iff.mp valid).2 i s hs

/-- Steps that have their positions for numbers are sorted. -/
theorem sortSteps_of_orders {steps : List Step}
    (orders : ∀ (i : Nat) (s : Step), steps[i]? = some s → s.order = i) :
    sortSteps steps = steps := by
  apply sortSteps_of_pairwise
  rw [List.pairwise_iff_getElem]
  intro i j hi hj hij
  rw [orders i _ (List.getElem?_eq_getElem hi), orders j _ (List.getElem?_eq_getElem hj)]
  exact Nat.le_of_lt hij

/-- The values of steps that are carried out are read as these steps. -/
theorem readSteps_values {steps : List Step} {vs : List Json}
    (values : List.Forall₂ (fun s v => s.document.value? = some v) steps vs)
    (fits : ∀ s ∈ steps, s.Fits) (usable : ∀ s ∈ steps, s.IsUsable) (ids : IdSupply) :
    (readSteps vs ids).1 = steps := by
  induction values generalizing ids with
  | nil => rfl
  | @cons s v rest vs value _ ih =>
      have head := (fits s List.mem_cons_self).ofValueWith_eq (usable s List.mem_cons_self) value
        ids.next
      have tail := ih (fun t ht => fits t (List.mem_cons_of_mem _ ht))
        (fun t ht => usable t (List.mem_cons_of_mem _ ht)) (IdSupply.fresh ids).2
      show Step.ofValueWith ids.next v :: (readSteps vs (IdSupply.fresh ids).2).1 = _
      rw [head, tail]

/-! ## Encoding and decoding -/

theorem isSome_values? {items : List Document} (h : ∀ d ∈ items, d.value?.isSome = true) :
    (Document.values? items).isSome = true := by
  induction items with
  | nil => rfl
  | cons d rest ih =>
      obtain ⟨v, hv⟩ := Option.isSome_iff_exists.mp (h d List.mem_cons_self)
      obtain ⟨vs, hvs⟩ := Option.isSome_iff_exists.mp
        (ih fun e he => h e (List.mem_cons_of_mem _ he))
      rw [Document.values?, hv, hvs]
      rfl

theorem isSome_list {α : Type} {write : α → Document} {as : List α}
    (h : ∀ a ∈ as, (write a).value?.isSome = true) :
    (Document.list (as.map write)).value?.isSome = true := by
  rw [Document.value?, Option.isSome_map]
  refine isSome_values? fun d hd => ?_
  obtain ⟨a, ha, rfl⟩ := List.mem_map.mp hd
  exact h a ha

theorem isSome_optionalText (o : Option String) : (optionalText o).value?.isSome = true := by
  cases o <;> rfl

theorem isSome_device (o : Option DeviceInfo) :
    ((o.map DeviceInfo.document).getD .null).value?.isSome = true := by
  cases o with
  | none => rfl
  | some i =>
      refine Document.isSome_record fun f hf => ?_
      simp only [List.mem_cons, List.not_mem_nil, or_false] at hf
      rcases hf with rfl | rfl | rfl | rfl | rfl
      · exact isSome_optionalText _
      · exact isSome_optionalText _
      · exact isSome_optionalText _
      · exact isSome_optionalInteger _
      · exact isSome_optionalInteger _

variable {w : Workflow}

/-- A workflow is written as a value when its steps are. -/
theorem isSome_document (h : ∀ s ∈ w.steps, s.document.value?.isSome = true) :
    w.document.value?.isSome = true := by
  refine Document.isSome_record fun f hf => ?_
  simp only [List.mem_cons, List.not_mem_nil, or_false] at hf
  rcases hf with rfl | rfl | rfl | rfl | rfl | rfl
  · rfl
  · rfl
  · exact isSome_device _
  · exact isSome_list fun _ _ => rfl
  · rfl
  · exact isSome_list h

theorem exists_step_values {steps : List Step}
    (h : ∀ s ∈ steps, s.document.value?.isSome = true) :
    ∃ vs, List.Forall₂ (fun s v => s.document.value? = some v) steps vs := by
  induction steps with
  | nil => exact ⟨[], .nil⟩
  | cons s rest ih =>
      obtain ⟨v, hv⟩ := Option.isSome_iff_exists.mp (h s List.mem_cons_self)
      obtain ⟨vs, values⟩ := ih fun t ht => h t (List.mem_cons_of_mem _ ht)
      exact ⟨v :: vs, .cons hv values⟩

/-- A workflow that passes the check and whose steps can all be carried out is the same after it
was encoded to a value and decoded. -/
theorem decode_value (fits : w.Fits) (valid : w.validate = .ok ())
    (usable : ∀ s ∈ w.steps, s.IsUsable) (ids : IdSupply) :
    ∃ v, w.document.value? = some v ∧ (decode v.document ids).1 = .ok w := by
  have readable : ∀ s ∈ w.steps, s.document.value?.isSome = true := by
    intro s hs
    obtain ⟨v, value, -⟩ := Step.exists_written_record (usable s hs)
    rw [value]
    rfl
  obtain ⟨v, value⟩ := Option.isSome_iff_exists.mp (isSome_document readable)
  obtain ⟨vs, values⟩ := exists_step_values readable
  refine ⟨v, value, ?_⟩
  have draft := readsValue_decodeDraft ⟨v, value, rfl⟩
    (decodeDraft_document fits.version fits.device values)
  have orders : ∀ (i : Nat) (s : Step), w.steps[i]? = some s → s.order = i := fun i s hs =>
    (order_of_checkFrom valid hs).trans (Nat.zero_add i)
  rw [decode_of_draft draft]
  have steps := readSteps_values values fits.steps usable (IdSupply.fresh ids).2
  show Except.ok ({ w with
    steps := numberFrom 0 (sortSteps (readSteps vs (IdSupply.fresh ids).2).1) } : Workflow) = .ok w
  rw [steps, sortSteps_of_orders orders, numberFrom_of_orders]
  intro i s hs
  rw [orders i s hs, Nat.zero_add]

/-- The button with the text OK, or what stands at its place. -/
def okChain : Chain :=
  ⟨⟨.text, "OK", SelectorKind.text.baseConfidence, by decide, SelectorKind.inUnit_baseConfidence _⟩,
    [⟨.bounds, "[0,0][10,10]", SelectorKind.bounds.baseConfidence, by decide,
      SelectorKind.inUnit_baseConfidence _⟩]⟩

/-- A workflow of a long tap, a swipe, the typing of a text, and a wait that is not replayed. -/
def signIn : Workflow where
  id := ⟨9⟩
  name := "Sign in"
  deviceInfo := some { model := some "A", screenWidth := some 1080 }
  tags := ["smoke", "daily"]
  version := 4
  steps := [
    { id := ⟨1⟩, action := .longTap { durationMs := 700 }, selector := some okChain, order := 0 },
    { id := ⟨2⟩, action := .swipe { direction := .up, startX := some 5, startY := some (-5) },
      name := "Up", order := 1 },
    { id := ⟨3⟩, action := .inputText { text := "a", clearFirst := false }, order := 2 },
    { id := ⟨4⟩, action := .wait { durationMs := 20 }, enabled := false, order := 3 }]

theorem decode_value_signIn :
    signIn.Fits ∧ signIn.validate = .ok () ∧ (∀ s ∈ signIn.steps, s.IsUsable) ∧
      ∃ v, signIn.document.value? = some v ∧ (decode v.document ⟨0, 0⟩).1 = .ok signIn := by
  have fits : signIn.Fits := by
    refine ⟨by decide, ?_, ?_⟩
    · rintro i ⟨⟩
      refine ⟨?_, nofun⟩
      rintro n ⟨⟩
      decide
    · intro s hs
      simp only [signIn, List.mem_cons, List.not_mem_nil, or_false] at hs
      rcases hs with rfl | rfl | rfl | rfl
      · exact ⟨⟨nofun, nofun, by decide⟩, by decide⟩
      · refine ⟨⟨?_, ?_, nofun, nofun, by decide⟩, by decide⟩
        · rintro i ⟨⟩
          decide
        · rintro i ⟨⟩
          decide
      · exact ⟨trivial, by decide⟩
      · exact ⟨⟨by decide⟩, by decide⟩
  have valid : signIn.validate = .ok () := by decide
  have usable : ∀ s ∈ signIn.steps, s.IsUsable := by
    intro s hs u hu
    simp only [signIn, List.mem_cons, List.not_mem_nil, or_false] at hs
    rcases hs with rfl | rfl | rfl | rfl <;> cases hu
  exact ⟨fits, valid, usable, decode_value fits valid usable ⟨0, 0⟩⟩

end Workflow

end UiReplay
