import UiReplay.Workflow.Step

/-!
# Workflows

A workflow is a list of steps with a name and some facts about the device it was
recorded on.  The number of a step is its position.  Every operation that adds,
removes or moves a step numbers all steps anew, and reading a workflow sorts the
steps by the numbers they come with before.  Changing a step in place
(`Workflow.modify`) does not touch the numbers.

* `renumber_order` says that numbering makes number and position agree.
* `content_renumber` says that it changes nothing else.
-/

namespace UiReplay

/-! ## The device -/

/-- What is known of the device that a workflow was recorded on. -/
structure DeviceInfo where
  /-- The model. -/
  model : Option String := none
  /-- The manufacturer. -/
  manufacturer : Option String := none
  /-- The version of its system. -/
  osVersion : Option String := none
  /-- The width of its screen. -/
  screenWidth : Option Nat := none
  /-- The height of its screen. -/
  screenHeight : Option Nat := none
deriving DecidableEq, Repr

namespace DeviceInfo

/-- The fields of a record. -/
def recordFields : List (Field DeviceInfo) := [
  .withDefault "model" [] (Decode.nullable Decode.text) fun v r => { r with model := v },
  .withDefault "manufacturer" [] (Decode.nullable Decode.text)
    fun v r => { r with manufacturer := v },
  .withDefault "os_version" [] (Decode.nullable Decode.text) fun v r => { r with osVersion := v },
  .withDefault "screen_width" [] (Decode.nullable Decode.nat32)
    fun v r => { r with screenWidth := v },
  .withDefault "screen_height" [] (Decode.nullable Decode.nat32)
    fun v r => { r with screenHeight := v }]

/-- The facts in a document. -/
def decode : Decoder DeviceInfo := Decode.record "DeviceInfo" recordFields {}

/-- The facts as they are written. -/
def document (i : DeviceInfo) : Document :=
  .record [("model", optionalText i.model), ("manufacturer", optionalText i.manufacturer),
    ("os_version", optionalText i.osVersion),
    ("screen_width", optionalInteger (i.screenWidth.map Int.ofNat)),
    ("screen_height", optionalInteger (i.screenHeight.map Int.ofNat))]

/-- The rectangle of the screen, if both measures are known and fit. -/
def screen? (i : DeviceInfo) : Option Rect := do
  let width ← i.screenWidth
  let height ← i.screenHeight
  if Number.fitsInt32 width && Number.fitsInt32 height then Rect.of? 0 0 width height else none

end DeviceInfo

/-! ## Workflows -/

/-- A list of steps with a name. -/
structure Workflow where
  /-- The identifier. -/
  id : Uuid
  /-- The name. -/
  name : String := "New Workflow"
  /-- The device it was recorded on. -/
  deviceInfo : Option DeviceInfo := none
  /-- Words to find it by. -/
  tags : List String := []
  /-- The version. -/
  version : Nat := 1
  /-- The steps, in the order in which they are replayed. -/
  steps : List Step := []

namespace Workflow

/-- A workflow without steps and with a new identifier. -/
def make (name : String) : IdSupply.With Workflow := do
  let id ← IdSupply.fresh
  return { id := id, name := name }

/-- The rectangle of the screen that it was recorded on. -/
def screen? (w : Workflow) : Option Rect := w.deviceInfo.bind DeviceInfo.screen?

/-! ## Numbering -/

/-- Numbers steps from a position on. -/
def numberFrom : Nat → List Step → List Step
  | _, [] => []
  | n, s :: rest => { s with order := n } :: numberFrom (n + 1) rest

/-- The workflow with these steps, numbered by position. -/
def withSteps (w : Workflow) (steps : List Step) : Workflow :=
  { w with steps := numberFrom 0 steps }

/-- The content of a step is all but its number. -/
def content (s : Step) : Step := { s with order := 0 }

theorem length_numberFrom : ∀ (n : Nat) (steps : List Step),
    (numberFrom n steps).length = steps.length
  | _, [] => rfl
  | n, s :: rest => by rw [numberFrom, List.length_cons, List.length_cons, length_numberFrom]

/-- Numbering gives each step its position. -/
theorem getElem?_numberFrom (n : Nat) (steps : List Step) (i : Nat) :
    (numberFrom n steps)[i]? = steps[i]?.map fun s => { s with order := n + i } := by
  induction steps generalizing n i with
  | nil => rfl
  | cons t rest ih =>
      cases i with
      | zero => rfl
      | succ i =>
          rw [numberFrom, List.getElem?_cons_succ, List.getElem?_cons_succ, ih, Nat.add_right_comm]
          rfl

/-- Numbering makes number and position agree. -/
theorem renumber_order (steps : List Step) : ∀ (n i : Nat) (s : Step),
    (numberFrom n steps)[i]? = some s → s.order = n + i := by
  induction steps with
  | nil =>
      intro n i s h
      simp [numberFrom] at h
  | cons t rest ih =>
      intro n i s h
      cases i with
      | zero =>
          simp [numberFrom] at h
          rw [← h]
          rfl
      | succ i =>
          simp [numberFrom] at h
          have := ih (n + 1) i s h
          omega

/-- Numbering steps that have their positions for numbers changes nothing. -/
theorem numberFrom_of_orders {n : Nat} {steps : List Step}
    (orders : ∀ (i : Nat) (s : Step), steps[i]? = some s → s.order = n + i) :
    numberFrom n steps = steps := by
  apply List.ext_getElem?
  intro i
  rw [getElem?_numberFrom]
  cases hs : steps[i]? with
  | none => rfl
  | some s =>
      show some { s with order := n + i } = some s
      rw [← orders i s hs]

/-- Numbering changes nothing but the numbers. -/
theorem content_renumber : ∀ (n : Nat) (steps : List Step),
    (numberFrom n steps).map content = steps.map content
  | _, [] => rfl
  | n, s :: rest => by
      rw [numberFrom, List.map_cons, List.map_cons, content_renumber (n + 1) rest]
      rfl

/-! ## Adding, removing and moving steps -/

/-- Adds a step at the end. -/
def push (w : Workflow) (s : Step) : Workflow := w.withSteps (w.steps ++ [s])

/-- Puts a step at a position. -/
def insert? (w : Workflow) (index : Nat) (s : Step) : Except Problem Workflow :=
  if index ≤ w.steps.length then .ok (w.withSteps (w.steps.insertIdx index s))
  else .error (.stepOutOfRange index w.steps.length)

/-- The first step with an identifier. -/
def find? (w : Workflow) (id : Uuid) : Option Step := w.steps.find? fun s => s.id == id

/-- Takes the first step with an identifier out. -/
def remove? (w : Workflow) (id : Uuid) : Option (Step × Workflow) :=
  match w.steps.findIdx? fun s => s.id == id with
  | none => none
  | some i => (w.steps[i]?).map fun s => (s, w.withSteps (w.steps.eraseIdx i))

/-- Moves the step at one position to another. -/
def move? (w : Workflow) (source target : Nat) : Except Problem Workflow :=
  let length := w.steps.length
  if length ≤ source then .error (.stepOutOfRange source length)
  else if length ≤ target then .error (.stepOutOfRange target length)
  else
    match w.steps[source]? with
    | some s => .ok (w.withSteps ((w.steps.eraseIdx source).insertIdx target s))
    | none => .error (.stepOutOfRange source length)

/-- Changes the first step of a list with an identifier. -/
def modifyFirst (id : Uuid) (change : Step → Step) : List Step → List Step
  | [] => []
  | s :: rest => if s.id = id then change s :: rest else s :: modifyFirst id change rest

/-- Changes the first step with an identifier in place.  The numbers of the steps
stay as they are, or as the change makes them. -/
def modify (w : Workflow) (id : Uuid) (change : Step → Step) : Workflow :=
  { w with steps := modifyFirst id change w.steps }

/-! ## Reading and writing -/

/-- The flat form of a workflow. -/
structure Draft where
  /-- The identifier, if one is given. -/
  id : Option Uuid := none
  /-- The name. -/
  name : String := ""
  /-- The device. -/
  deviceInfo : Option DeviceInfo := none
  /-- The tags. -/
  tags : List String := []
  /-- The version. -/
  version : Nat := 1
  /-- The values of the steps. -/
  steps : List Json := []

/-- The fields of a record. -/
def recordFields : List (Field Draft) := [
  .withDefault "id" [] Uuid.decode fun v r => { r with id := some v },
  .withDefault "name" [] Decode.text fun v r => { r with name := v },
  .withDefault "device_info" [] (Decode.nullable DeviceInfo.decode)
    fun v r => { r with deviceInfo := v },
  .withDefault "tags" [] (Decode.listOf Decode.text) fun v r => { r with tags := v },
  .withDefault "version" [] Decode.nat32 fun v r => { r with version := v },
  .withDefault "steps" [] (Decode.listOf Decode.value) fun v r => { r with steps := v }]

/-- The flat form in a document. -/
def decodeDraft : Decoder Draft := Decode.record "WorkflowRecord" recordFields {}

/-- Reads one step after the other. -/
def readSteps : List Json → IdSupply.With (List Step)
  | [] => pure []
  | v :: rest => do
      let s ← Step.ofValue v
      let steps ← readSteps rest
      return s :: steps

/-- The steps by ascending numbers, those with one number in their order. -/
def sortSteps (steps : List Step) : List Step := steps.mergeSort fun a b => a.order ≤ b.order

/-- The workflow of a flat form. -/
def ofDraft (r : Draft) : IdSupply.With Workflow := do
  let fresh ← IdSupply.fresh
  let steps ← readSteps r.steps
  return {
    id := r.id.getD fresh
    name := r.name
    deviceInfo := r.deviceInfo
    tags := r.tags
    version := r.version
    steps := numberFrom 0 (sortSteps steps) }

/-- The workflow in a document. -/
def decode (d : Document) : IdSupply.With (Except Fault Workflow) :=
  match decodeDraft d with
  | .ok r => do
      let w ← ofDraft r
      return .ok w
  | .error fault => pure (.error fault)

/-- A workflow as it is written. -/
def document (w : Workflow) : Document :=
  .record [("id", .text w.id.text), ("name", .text w.name),
    ("device_info", (w.deviceInfo.map DeviceInfo.document).getD .null),
    ("tags", .list (w.tags.map .text)), ("version", .integer w.version),
    ("steps", .list (w.steps.map Step.document))]

end Workflow

end UiReplay
