import UiReplay.Workflow.Action

/-!
# Steps

A step has an identifier, an action, perhaps a chain of selectors, a name, a number
and a flag that says whether it is enabled.

A record is a flat form of a step: the name of the action, and a field of data for
each kind, of which only the one that belongs to the action may be there.
`StepRecord.action?` checks this.  The first of four problems counts: an unknown
action, data of another kind, missing data, a chain that is refused.  A tap, a long
tap and a scroll do without data, the other three do not.

Reading a step never fails.  A value that describes no step is kept with the reason
(`Step.ofValue`).  Its identifier, name, flag and number are those fields of it that
are usable.  It is written back with the four fields set and all else as it was.
-/

namespace UiReplay

/-! ## The flat form -/

/-- The flat form of a step. -/
structure StepRecord where
  /-- The identifier, if one is given. -/
  id : Option Uuid := none
  /-- The name of the action. -/
  action : String := ""
  /-- The chain of selectors. -/
  selector : Option NestedSelector := none
  /-- The name of the step. -/
  name : String := ""
  /-- The number of the step. -/
  order : Nat := 0
  /-- Whether the step is enabled. -/
  enabled : Bool := true
  /-- The data of a tap. -/
  tapData : Option TapData := none
  /-- The data of a swipe or scroll. -/
  swipeData : Option SwipeData := none
  /-- The text to type. -/
  inputData : Option InputTextData := none
  /-- The data of a wait. -/
  waitData : Option WaitData := none
deriving DecidableEq

namespace StepRecord

/-- The fields of a record. -/
def recordFields : List (Field StepRecord) := [
  .withDefault "id" [] Uuid.decode fun v r => { r with id := some v },
  .required "action" Decode.text fun v r => { r with action := v },
  .withDefault "selector" [] (Decode.nullable NestedSelector.decode)
    fun v r => { r with selector := v },
  .withDefault "name" [] Decode.text fun v r => { r with name := v },
  .withDefault "order" [] Decode.count fun v r => { r with order := v },
  .withDefault "enabled" [] Decode.truth fun v r => { r with enabled := v },
  .withDefault "tap_data" [] (Decode.nullable TapData.decode) fun v r => { r with tapData := v },
  .withDefault "swipe_data" [] (Decode.nullable SwipeData.decode)
    fun v r => { r with swipeData := v },
  .withDefault "input_data" ["input_text_data"] (Decode.nullable InputTextData.decode)
    fun v r => { r with inputData := v },
  .withDefault "wait_data" [] (Decode.nullable WaitData.decode)
    fun v r => { r with waitData := v }]

/-- The flat form in a document. -/
def decode : Decoder StepRecord := Decode.record "RawStep" recordFields {}

/-- A field that is left out when it is absent. -/
def optionalField {α : Type} (name : String) (write : α → Document) :
    Option α → List (String × Document)
  | some a => [(name, write a)]
  | none => []

/-- The flat form as it is written. -/
def document (r : StepRecord) : Document :=
  .record (optionalField "id" (fun u => .text u.text) r.id ++
    [("action", .text r.action)] ++
    optionalField "selector" NestedSelector.document r.selector ++
    [("name", .text r.name), ("order", .integer r.order), ("enabled", .bool r.enabled)] ++
    optionalField "tap_data" TapData.document r.tapData ++
    optionalField "swipe_data" SwipeData.document r.swipeData ++
    optionalField "input_data" InputTextData.document r.inputData ++
    optionalField "wait_data" WaitData.document r.waitData)

/-- The data that is there, in the order of the fields. -/
def populated (r : StepRecord) : List Payload :=
  (if r.tapData.isSome then [.tap] else []) ++ (if r.swipeData.isSome then [.swipe] else []) ++
    (if r.inputData.isSome then [.input] else []) ++ (if r.waitData.isSome then [.wait] else [])

/-- The first data of another kind. -/
def foreign? (r : StepRecord) (kind : ActionKind) : Option Payload :=
  r.populated.find? fun p => some p != kind.payload?

/-- The data that must be there. -/
def present {α : Type} (kind : ActionKind) : Option α → Except Problem α
  | some a => .ok a
  | none => .error (.missingPayload kind)

/-- The action of a kind with the data of the record. -/
def actionOf (r : StepRecord) : ActionKind → Except Problem Action
  | .tap => .ok (.tap (r.tapData.getD {}))
  | .longTap => .ok (.longTap (r.tapData.getD {}))
  | .scroll => .ok (.scroll (r.swipeData.getD {}))
  | .swipe => (present .swipe r.swipeData).map .swipe
  | .inputText => (present .inputText r.inputData).map .inputText
  | .wait => (present .wait r.waitData).map .wait
  | .unusable => .error (.unknownAction r.action)

/-- The action of a record. -/
def action? (r : StepRecord) : Except Problem Action :=
  match ActionKind.ofName? r.action with
  | none => .error (.unknownAction r.action)
  | some kind =>
      match r.foreign? kind with
      | some found => .error (.payloadMismatch kind found)
      | none => r.actionOf kind

/-- The chain of a record, if it has one. -/
def chain? (r : StepRecord) : Except Problem (Option Chain) :=
  match r.selector with
  | none => .ok none
  | some n =>
      match Chain.ofNested? n with
      | .ok c => .ok (some c)
      | .error e => .error (.selector e)

end StepRecord

/-! ## Steps -/

/-- One step of a workflow. -/
structure Step where
  /-- The identifier. -/
  id : Uuid
  /-- What the step does. -/
  action : Action
  /-- How the element is found. -/
  selector : Option Chain := none
  /-- The name, empty when none was given. -/
  name : String := ""
  /-- Whether the step is replayed. -/
  enabled : Bool := true
  /-- The number of the step in its workflow. -/
  order : Nat := 0

namespace Step

/-- The kind of the action of a step. -/
def kind (s : Step) : ActionKind := s.action.kind

/-- A step with a new identifier. -/
def make (action : Action) (selector : Option Chain) : IdSupply.With Step := do
  let id ← IdSupply.fresh
  return { id := id, action := action, selector := selector }

/-- A step with a name. -/
def named (s : Step) (name : String) : Step := { s with name := name }

/-- A step that is not replayed. -/
def disabled (s : Step) : Step := { s with enabled := false }

/-! ## Reading -/

/-- The step that a flat record describes, with an identifier to use when it has
none. -/
def ofRecord? (fresh : Uuid) (r : StepRecord) : Except Problem Step := do
  let action ← r.action?
  let selector ← r.chain?
  return {
    id := r.id.getD fresh
    action := action
    selector := selector
    name := r.name
    enabled := r.enabled
    order := r.order }

/-- The step that a value describes. -/
def ofValue? (fresh : Uuid) (v : Json) : Except Problem Step :=
  match StepRecord.decode v.document with
  | .ok r => ofRecord? fresh r
  | .error fault => .error (.malformed fault)

/-- A value that describes no step, kept as a step with the reason. -/
def keep (fresh : Uuid) (v : Json) (problem : Problem) : Step where
  id := (((v.field? "id").bind Json.text?).bind Uuid.read?).getD fresh
  action := .unusable (.of v problem)
  name := ((v.field? "name").bind Json.text?).getD ""
  enabled := ((v.field? "enabled").bind Json.bool?).getD true
  order := ((v.field? "order").bind Json.nat64?).getD 0

/-- The step of a value, with an identifier to use when it has none. -/
def ofValueWith (fresh : Uuid) (v : Json) : Step :=
  match ofValue? fresh v with
  | .ok s => s
  | .error problem => keep fresh v problem

/-- The step of a value. -/
def ofValue (v : Json) : IdSupply.With Step := do
  let fresh ← IdSupply.fresh
  return ofValueWith fresh v

/-! ## Writing -/

/-- The flat form of a step, without data when its record describes none. -/
def record (s : Step) : StepRecord :=
  let plain : StepRecord := {
    id := some s.id
    action := s.kind.name
    selector := s.selector.map Chain.nested
    name := s.name
    order := s.order
    enabled := s.enabled }
  match s.action with
  | .tap d | .longTap d => { plain with tapData := some d }
  | .swipe d | .scroll d => { plain with swipeData := some d }
  | .inputText d => { plain with inputData := some d }
  | .wait d => { plain with waitData := some d }
  | .unusable _ => plain

/-- The four fields of a step set in a record that was kept.  Any other value stays
as it is. -/
def markRecord (s : Step) : Json → Json
  | .record fields =>
      let fields := Fields.insert "id" (.text s.id.text) fields
      let fields := Fields.insert "name" (.text s.name) fields
      let fields := Fields.insert "enabled" (.bool s.enabled) fields
      .record (Fields.insert "order" (.integer s.order) fields)
  | v => v

/-- A step as it is written. -/
def document (s : Step) : Document :=
  match s.action with
  | .unusable r => (s.markRecord r.record).document
  | _ => s.record.document

end Step

end UiReplay
