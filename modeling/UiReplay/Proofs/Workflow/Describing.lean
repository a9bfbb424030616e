import UiReplay.Proofs.Selector.Nesting
import UiReplay.Proofs.Workflow.Kept

/-!
# Which flat records describe a step

A flat record names an action, carries data of up to four sorts, and may hold a nested record of
selectors.  It describes a step when its action is one of the six kinds, all data that it carries
belongs to that kind, the data is there if the kind cannot do without, and all levels of its
selectors are sound.  The step has the kind and the data, or the usual data where none is needed.

Any other record is refused, and the first of four reasons counts: the action, data of another
kind, missing data, the selectors (`Step.ReadAs`).  Of several data of other kinds the one whose
field comes first is reported, and of several levels the outermost (`Step.ofRecord?_reads`).  No
record describes a step that is kept as unusable, since no record can name that kind.
-/

namespace UiReplay

/-! ## Kinds and data -/

namespace ActionKind

/-- An action of this kind needs data of its own. -/
def needsData : ActionKind → Bool
  | .swipe | .inputText | .wait => true
  | _ => false

theorem ne_unusable_of_mem {kind : ActionKind} (h : kind ∈ replayable) : kind ≠ .unusable := by
  rintro rfl
  exact absurd h (by decide)

theorem ofName?_eq_some_iff {s : String} {kind : ActionKind} :
    ofName? s = some kind ↔ kind ∈ replayable ∧ kind.name = s := by
  constructor
  · intro h
    exact ⟨List.mem_of_find?_eq_some h, by simpa using List.find?_some h⟩
  · rintro ⟨mem, rfl⟩
    exact ofName?_name (ne_unusable_of_mem mem)

theorem ofName?_eq_none_iff {s : String} :
    ofName? s = none ↔ ∀ kind ∈ replayable, kind.name ≠ s := by
  simp [ofName?]

end ActionKind

/-- The sorts of data, in the order of their fields. -/
def Payload.all : List Payload := [.tap, .swipe, .input, .wait]

theorem Payload.mem_all (p : Payload) : p ∈ all := by
  cases p <;> decide

/-! ## Flat records -/

namespace StepRecord

def carries (r : StepRecord) : Payload → Bool
  | .tap => r.tapData.isSome
  | .swipe => r.swipeData.isSome
  | .input => r.inputData.isSome
  | .wait => r.waitData.isSome

/-- The record names one of the six kinds. -/
structure Names (r : StepRecord) (kind : ActionKind) : Prop where
  replayable : kind ∈ ActionKind.replayable
  name : kind.name = r.action

/-- The record carries data of a sort that does not belong to a kind. -/
structure IsForeign (r : StepRecord) (kind : ActionKind) (p : Payload) : Prop where
  carried : r.carries p = true
  other : kind.payload? ≠ some p

/-- All data that the record carries belongs to a kind. -/
def Own (r : StepRecord) (kind : ActionKind) : Prop :=
  ∀ p, r.carries p = true → kind.payload? = some p

/-- The first field with data that does not belong to a kind. -/
def FirstForeign (r : StepRecord) (kind : ActionKind) (p : Payload) : Prop :=
  ∃ before after, Payload.all = before ++ p :: after ∧ r.IsForeign kind p ∧
    ∀ q ∈ before, ¬ r.IsForeign kind q

/-- The record does not carry the data that a kind needs. -/
structure Lacks (r : StepRecord) (kind : ActionKind) : Prop where
  needed : kind.needsData = true
  absent : ∀ p, kind.payload? = some p → r.carries p = false

/-- The action of a kind with the data of the record.  Taps and scrolls get the usual data when
the record carries none. -/
inductive Acts (r : StepRecord) : ActionKind → Action → Prop
  | tap : Acts r .tap (.tap (r.tapData.getD {}))
  | longTap : Acts r .longTap (.longTap (r.tapData.getD {}))
  | scroll : Acts r .scroll (.scroll (r.swipeData.getD {}))
  | swipe {d : SwipeData} (carried : r.swipeData = some d) : Acts r .swipe (.swipe d)
  | inputText {d : InputTextData} (carried : r.inputData = some d) :
      Acts r .inputText (.inputText d)
  | wait {d : WaitData} (carried : r.waitData = some d) : Acts r .wait (.wait d)

/-- The chain of the record has one selector for each level, outermost first. -/
inductive Selects (r : StepRecord) : Option Chain → Prop
  | none (absent : r.selector = none) : Selects r none
  | chain {n : NestedSelector} {c : Chain} (nested : r.selector = some n)
      (gives : List.Forall₂ SelectorLevel.Gives n.levels c.selectors) : Selects r (some c)

/-- The record names the kind of an action, carries no data of another kind, and the action has
the data that it carries. -/
structure Describes (r : StepRecord) (a : Action) : Prop where
  named : r.Names a.kind
  own : r.Own a.kind
  acts : r.Acts a.kind a

variable {r : StepRecord} {kind : ActionKind} {p : Payload} {a : Action} {problem : Problem}

/-! ### Data of other kinds -/

theorem populated_eq (r : StepRecord) : r.populated = Payload.all.filter r.carries := by
  obtain ⟨_, _, _, _, _, _, tap, swipe, input, wait⟩ := r
  cases tap <;> cases swipe <;> cases input <;> cases wait <;> rfl

theorem foreign?_eq (r : StepRecord) (kind : ActionKind) :
    r.foreign? kind = Payload.all.find? fun p => r.carries p && some p != kind.payload? := by
  rw [foreign?, populated_eq, List.find?_filter]
  simp only [Bool.decide_and, Bool.decide_eq_true]

theorem isForeign_iff :
    (r.carries p && some p != kind.payload?) = true ↔ r.IsForeign kind p := by
  rw [Bool.and_eq_true, bne_iff_ne]
  exact ⟨fun ⟨carried, other⟩ => ⟨carried, Ne.symm other⟩,
    fun ⟨carried, other⟩ => ⟨carried, Ne.symm other⟩⟩

theorem foreign?_eq_some_iff : r.foreign? kind = some p ↔ r.FirstForeign kind p := by
  rw [foreign?_eq, List.find?_eq_some_iff_append, isForeign_iff]
  simp only [Bool.not_eq_true', ← Bool.not_eq_true, isForeign_iff]
  constructor
  · rintro ⟨foreign, before, after, split, first⟩
    exact ⟨before, after, split, foreign, first⟩
  · rintro ⟨before, after, split, foreign, first⟩
    exact ⟨foreign, before, after, split, first⟩

theorem foreign?_eq_none_iff : r.foreign? kind = none ↔ r.Own kind := by
  rw [foreign?_eq, List.find?_eq_none]
  simp only [isForeign_iff]
  constructor
  · intro none p carried
    by_contra other
    exact none p p.mem_all ⟨carried, other⟩
  · exact fun own p _ foreign => foreign.other (own p foreign.carried)

/-! ### Data of the kind -/

theorem present_map_eq_ok_iff {α : Type} {make : α → Action} {o : Option α} :
    (present kind o).map make = .ok a ↔ ∃ d, o = some d ∧ a = make d := by
  cases o with
  | none => exact ⟨fun h => (nomatch h), fun ⟨_, h, _⟩ => (nomatch h)⟩
  | some d =>
      constructor
      · intro h
        exact ⟨d, rfl, (Except.ok.inj h).symm⟩
      · rintro ⟨_, ⟨⟩, rfl⟩
        rfl

theorem present_map_eq_error_iff {α : Type} {make : α → Action} {o : Option α} :
    (present kind o).map make = .error problem ↔ o.isSome = false ∧
      problem = .missingPayload kind := by
  cases o with
  | none =>
      constructor
      · intro h
        exact ⟨rfl, (Except.error.inj h).symm⟩
      · rintro ⟨-, rfl⟩
        rfl
  | some d => exact ⟨fun h => (nomatch h), fun ⟨h, _⟩ => (nomatch h)⟩

/-- The action is made from the data of the record, by cases on the kind. -/
theorem actionOf_eq_ok_iff (known : kind ≠ .unusable) :
    r.actionOf kind = .ok a ↔ r.Acts kind a := by
  constructor
  · intro h
    cases kind with
    | tap => exact Except.ok.inj h ▸ .tap
    | longTap => exact Except.ok.inj h ▸ .longTap
    | scroll => exact Except.ok.inj h ▸ .scroll
    | swipe =>
        obtain ⟨d, carried, rfl⟩ := present_map_eq_ok_iff.mp h
        exact .swipe carried
    | inputText =>
        obtain ⟨d, carried, rfl⟩ := present_map_eq_ok_iff.mp h
        exact .inputText carried
    | wait =>
        obtain ⟨d, carried, rfl⟩ := present_map_eq_ok_iff.mp h
        exact .wait carried
    | unusable => exact absurd rfl known
  · intro h
    cases h with
    | tap => rfl
    | longTap => rfl
    | scroll => rfl
    | swipe carried => exact present_map_eq_ok_iff.mpr ⟨_, carried, rfl⟩
    | inputText carried => exact present_map_eq_ok_iff.mpr ⟨_, carried, rfl⟩
    | wait carried => exact present_map_eq_ok_iff.mpr ⟨_, carried, rfl⟩

theorem actionOf_eq_error_iff (known : kind ≠ .unusable) :
    r.actionOf kind = .error problem ↔ r.Lacks kind ∧ problem = .missingPayload kind := by
  -- a kind has one sort of data, so lacking it is about one field
  have lacks : ∀ {kind : ActionKind} {p : Payload}, kind.needsData = true →
      kind.payload? = some p → (r.Lacks kind ↔ r.carries p = false) := by
    intro kind p needed own
    exact ⟨fun h => h.absent p own, fun h => ⟨needed, fun q hq => by
      cases own.symm.trans hq
      exact h⟩⟩
  cases kind with
  | tap => exact ⟨fun h => (nomatch h), fun h => (nomatch h.1.needed)⟩
  | longTap => exact ⟨fun h => (nomatch h), fun h => (nomatch h.1.needed)⟩
  | scroll => exact ⟨fun h => (nomatch h), fun h => (nomatch h.1.needed)⟩
  | swipe => rw [lacks (p := .swipe) rfl rfl, actionOf, present_map_eq_error_iff, carries]
  | inputText => rw [lacks (p := .input) rfl rfl, actionOf, present_map_eq_error_iff, carries]
  | wait => rw [lacks (p := .wait) rfl rfl, actionOf, present_map_eq_error_iff, carries]
  | unusable => exact absurd rfl known

theorem Acts.kind_eq (h : r.Acts kind a) : a.kind = kind := by
  cases h <;> rfl

/-! ### The action -/

theorem action?_of_names (named : r.Names kind) (own : r.Own kind) :
    r.action? = r.actionOf kind := by
  have known := ActionKind.ofName?_eq_some_iff.mpr ⟨named.replayable, named.name⟩
  rw [action?, known]
  dsimp only
  rw [foreign?_eq_none_iff.mpr own]

theorem action?_of_foreign (named : r.Names kind) (first : r.FirstForeign kind p) :
    r.action? = .error (.payloadMismatch kind p) := by
  have known := ActionKind.ofName?_eq_some_iff.mpr ⟨named.replayable, named.name⟩
  rw [action?, known]
  dsimp only
  rw [foreign?_eq_some_iff.mpr first]

/-- A record names one of the six kinds or none. -/
theorem names_or_unknown (r : StepRecord) :
    (∃ kind, r.Names kind) ∨ ∀ kind ∈ ActionKind.replayable, kind.name ≠ r.action := by
  by_cases unknown : ∀ kind ∈ ActionKind.replayable, kind.name ≠ r.action
  · exact .inr unknown
  · simp only [not_forall, not_not] at unknown
    obtain ⟨kind, replayable, name⟩ := unknown
    exact .inl ⟨kind, replayable, name⟩

/-- All data of a record belongs to a kind, or some field is the first with other data. -/
theorem own_or_foreign (r : StepRecord) (kind : ActionKind) :
    r.Own kind ∨ ∃ p, r.FirstForeign kind p := by
  cases h : r.foreign? kind with
  | none => exact .inl (foreign?_eq_none_iff.mp h)
  | some p => exact .inr ⟨p, foreign?_eq_some_iff.mp h⟩

/-- What is wrong with the action of a record. -/
inductive Misdescribes (r : StepRecord) : Problem → Prop
  | unknownAction (unknown : ∀ kind ∈ ActionKind.replayable, kind.name ≠ r.action) :
      Misdescribes r (.unknownAction r.action)
  | payloadMismatch {kind : ActionKind} {p : Payload} (named : r.Names kind)
      (first : r.FirstForeign kind p) : Misdescribes r (.payloadMismatch kind p)
  | missingPayload {kind : ActionKind} (named : r.Names kind) (own : r.Own kind)
      (lacks : r.Lacks kind) : Misdescribes r (.missingPayload kind)

theorem action?_of_misdescribes (h : r.Misdescribes problem) : r.action? = .error problem := by
  cases h with
  | unknownAction unknown => rw [action?, ActionKind.ofName?_eq_none_iff.mpr unknown]
  | payloadMismatch named first => exact action?_of_foreign named first
  | missingPayload named own lacks =>
      rw [action?_of_names named own]
      exact (actionOf_eq_error_iff (ActionKind.ne_unusable_of_mem named.replayable)).mpr
        ⟨lacks, rfl⟩

theorem action?_of_describes (h : r.Describes a) : r.action? = .ok a := by
  rw [action?_of_names h.named h.own]
  exact (actionOf_eq_ok_iff (ActionKind.ne_unusable_of_mem h.named.replayable)).mpr h.acts

/-- A record describes an action, or something is wrong with it, by the order of the checks. -/
theorem describes_or_misdescribes (r : StepRecord) :
    (∃ a, r.Describes a) ∨ ∃ problem, r.Misdescribes problem := by
  obtain ⟨kind, named⟩ | unknown := r.names_or_unknown
  · obtain own | ⟨p, first⟩ := r.own_or_foreign kind
    · have known := ActionKind.ne_unusable_of_mem named.replayable
      cases h : r.actionOf kind with
      | ok a =>
          have acts := (actionOf_eq_ok_iff known).mp h
          have same := acts.kind_eq
          subst same
          exact .inl ⟨a, named, own, acts⟩
      | error problem =>
          exact .inr ⟨_, .missingPayload named own ((actionOf_eq_error_iff known).mp h).1⟩
    · exact .inr ⟨_, .payloadMismatch named first⟩
  · exact .inr ⟨_, .unknownAction unknown⟩

/-- A record of a kind describes an action unless it lacks the data. -/
theorem exists_acts_iff (known : kind ≠ .unusable) : (∃ a, r.Acts kind a) ↔ ¬ r.Lacks kind := by
  simp only [← actionOf_eq_ok_iff known]
  cases h : r.actionOf kind with
  | ok a =>
      refine ⟨fun _ lacks => ?_, fun _ => ⟨a, rfl⟩⟩
      cases h.symm.trans ((actionOf_eq_error_iff known).mpr ⟨lacks, rfl⟩)
  | error problem =>
      have lacks := ((actionOf_eq_error_iff known).mp h).1
      exact ⟨fun ⟨_, h⟩ => (nomatch h), fun complete => absurd lacks complete⟩

/-! ### The selectors -/

theorem chain?_eq_ok_iff {c : Option Chain} : r.chain? = .ok c ↔ r.Selects c := by
  rw [chain?]
  constructor
  · intro h
    cases hs : r.selector with
    | none =>
        rw [hs] at h
        cases h
        exact .none hs
    | some n =>
        rw [hs] at h
        dsimp only at h
        split at h
        · next c hc =>
            cases h
            exact .chain hs (Chain.ofNested?_eq_ok_iff.mp hc)
        · cases h
  · intro h
    cases h with
    | none absent => rw [absent]
    | chain nested gives =>
        rw [nested]
        dsimp only
        rw [Chain.ofNested?_eq_ok_iff.mpr gives]

theorem chain?_eq_error_iff :
    r.chain? = .error problem ↔ ∃ n e, r.selector = some n ∧
      SelectorLevel.FailsFirst n.levels e ∧ problem = .selector e := by
  rw [chain?]
  constructor
  · intro h
    cases hs : r.selector with
    | none =>
        rw [hs] at h
        cases h
    | some n =>
        rw [hs] at h
        dsimp only at h
        split at h
        · cases h
        · next e he =>
            cases h
            exact ⟨n, e, rfl, Chain.ofNested?_eq_error_iff.mp he, rfl⟩
  · rintro ⟨n, e, nested, fails, rfl⟩
    rw [nested]
    dsimp only
    rw [Chain.ofNested?_eq_error_iff.mpr fails]

theorem exists_selects_iff :
    (∃ c, r.Selects c) ↔ ∀ n, r.selector = some n → ∀ l ∈ n.levels, l.IsSound := by
  constructor
  · rintro ⟨c, selects⟩ n nested
    cases selects with
    | none absent => cases absent.symm.trans nested
    | chain nested' gives =>
        cases nested.symm.trans nested'
        exact Chain.exists_ofNested?_iff_isSound.mp ⟨_, Chain.ofNested?_eq_ok_iff.mpr gives⟩
  · intro sound
    cases hs : r.selector with
    | none => exact ⟨none, .none hs⟩
    | some n =>
        obtain ⟨c, hc⟩ := Chain.exists_ofNested?_iff_isSound.mpr (sound n hs)
        exact ⟨some c, .chain hs (Chain.ofNested?_eq_ok_iff.mp hc)⟩

end StepRecord

/-! ## Steps -/

namespace Step

/-- What a flat record is read as: the step that it describes, or what is wrong with it.  The
selectors are only looked at when nothing is wrong with the action. -/
inductive ReadAs (fresh : Uuid) (r : StepRecord) : Except Problem Step → Prop
  | misdescribed {p : Problem} (wrong : r.Misdescribes p) : ReadAs fresh r (.error p)
  | unsound {a : Action} {n : NestedSelector} {e : SelectorError} (describes : r.Describes a)
      (nested : r.selector = some n) (fails : SelectorLevel.FailsFirst n.levels e) :
      ReadAs fresh r (.error (.selector e))
  | step {a : Action} {c : Option Chain} (describes : r.Describes a) (selects : r.Selects c) :
      ReadAs fresh r (.ok {
        id := r.id.getD fresh
        action := a
        selector := c
        name := r.name
        enabled := r.enabled
        order := r.order })

variable {fresh : Uuid} {r : StepRecord}

theorem ofRecord?_of_describes {a : Action} (h : r.Describes a) :
    ofRecord? fresh r = r.chain?.map fun c => {
      id := r.id.getD fresh
      action := a
      selector := c
      name := r.name
      enabled := r.enabled
      order := r.order } := by
  rw [ofRecord?, StepRecord.action?_of_describes h]
  cases r.chain? <;> rfl

theorem readAs_ofRecord? (fresh : Uuid) (r : StepRecord) : ReadAs fresh r (ofRecord? fresh r) := by
  obtain ⟨a, describes⟩ | ⟨p, wrong⟩ := r.describes_or_misdescribes
  · rw [ofRecord?_of_describes describes]
    cases h : r.chain? with
    | ok c => exact .step describes (StepRecord.chain?_eq_ok_iff.mp h)
    | error p =>
        obtain ⟨n, e, nested, fails, rfl⟩ := StepRecord.chain?_eq_error_iff.mp h
        exact .unsound describes nested fails
  · rw [ofRecord?_eq_error_iff.mpr (.inl (StepRecord.action?_of_misdescribes wrong))]
    exact .misdescribed wrong

theorem ReadAs.eq {result : Except Problem Step} (h : ReadAs fresh r result) :
    ofRecord? fresh r = result := by
  cases h with
  | misdescribed wrong =>
      exact ofRecord?_eq_error_iff.mpr (.inl (StepRecord.action?_of_misdescribes wrong))
  | unsound describes nested fails =>
      rw [ofRecord?_of_describes describes,
        StepRecord.chain?_eq_error_iff.mpr ⟨_, _, nested, fails, rfl⟩]
      rfl
  | step describes selects =>
      rw [ofRecord?_of_describes describes, StepRecord.chain?_eq_ok_iff.mpr selects]
      rfl

theorem ofRecord?_eq_iff {result : Except Problem Step} :
    ofRecord? fresh r = result ↔ ReadAs fresh r result :=
  ⟨fun h => h ▸ readAs_ofRecord? fresh r, ReadAs.eq⟩

/-- A record describes a step exactly when it names one of the six kinds, carries no other data,
does not lack the data of its kind, and all levels of its selectors are sound. -/
theorem exists_ofRecord?_iff :
    (∃ s, ofRecord? fresh r = .ok s) ↔ ∃ kind, r.Names kind ∧ r.Own kind ∧ ¬ r.Lacks kind ∧
      ∀ n, r.selector = some n → ∀ l ∈ n.levels, l.IsSound := by
  simp only [ofRecord?_eq_iff]
  constructor
  · rintro ⟨s, h⟩
    cases h with
    | step describes selects =>
        have known := ActionKind.ne_unusable_of_mem describes.named.replayable
        exact ⟨_, describes.named, describes.own,
          (StepRecord.exists_acts_iff known).mp ⟨_, describes.acts⟩,
          StepRecord.exists_selects_iff.mp ⟨_, selects⟩⟩
  · rintro ⟨kind, named, own, complete, sound⟩
    have known := ActionKind.ne_unusable_of_mem named.replayable
    obtain ⟨a, acts⟩ := (StepRecord.exists_acts_iff known).mpr complete
    obtain ⟨c, selects⟩ := StepRecord.exists_selects_iff.mpr sound
    have same := acts.kind_eq
    subst same
    exact ⟨_, .step ⟨named, own, acts⟩ selects⟩

/-- A flat record is read as the step that it describes or as the first thing that is wrong with
it.  It describes a step of the kind that it names, which is never the kind of a record that is
kept as unusable. -/
theorem ofRecord?_reads (fresh : Uuid) (r : StepRecord) :
    (∀ result, ofRecord? fresh r = result ↔ ReadAs fresh r result) ∧
      ((∃ s, ofRecord? fresh r = .ok s) ↔ ∃ kind, r.Names kind ∧ r.Own kind ∧ ¬ r.Lacks kind ∧
        ∀ n, r.selector = some n → ∀ l ∈ n.levels, l.IsSound) ∧
      ∀ s, ofRecord? fresh r = .ok s → r.Names s.kind ∧ ∀ u, s.action ≠ .unusable u := by
  refine ⟨fun _ => ofRecord?_eq_iff, exists_ofRecord?_iff, fun s h => ?_⟩
  cases ofRecord?_eq_iff.mp h with
  | step describes selects =>
      have known := ActionKind.ne_unusable_of_mem describes.named.replayable
      exact ⟨describes.named, fun u hu => known (congrArg Action.kind hu)⟩

/-- A scroll without data and with two levels of selectors. -/
def scrollRecord : StepRecord where
  id := some ⟨7⟩
  action := "scroll"
  selector := some (.before ⟨.text, "List", none⟩ (.last ⟨.bounds, "[0,0][9,9]", none⟩))

/-- A swipe with data of two other kinds, and a level that says nothing. -/
def crowdedRecord : StepRecord where
  action := "swipe"
  selector := some (.last ⟨.text, " ", none⟩)
  tapData := some {}
  waitData := some { durationMs := 5 }

theorem ofRecord?_reads_scroll :
    (∃ s, ofRecord? ⟨1⟩ scrollRecord = .ok s ∧ s.kind = .scroll ∧ scrollRecord.Names s.kind ∧
      ReadAs ⟨1⟩ scrollRecord (.ok s)) ∧
    ReadAs ⟨1⟩ crowdedRecord (.error (.payloadMismatch .swipe .tap)) := by
  obtain ⟨reads, -, kinds⟩ := ofRecord?_reads ⟨1⟩ scrollRecord
  constructor
  · refine ⟨_, rfl, rfl, (kinds _ rfl).1, (reads _).mp rfl⟩
  · exact ((ofRecord?_reads ⟨1⟩ crowdedRecord).1 _).mp rfl

/-- The name under which a record that is kept is shown is no action of a record. -/
example : ofRecord? ⟨1⟩ { action := "invalid" } = .error (.unknownAction "invalid") := rfl

end Step

end UiReplay
