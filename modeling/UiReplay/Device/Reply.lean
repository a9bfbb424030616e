import UiReplay.Device.Error
import UiReplay.Json.Reader
import UiReplay.Screen.Node
import UiReplay.Workflow.Action

/-!
# Replies of the device

The device wraps every reply in an envelope with a status, a message and data.  A
reply without a status is a success, and so is one whose status says so.  Otherwise
the message tells why, else the data if they are a text, else the status.

The state of the device comes as the data of a reply: a record, or a text that holds
one.  Recorded events come as a list, and no data means no events.
-/

namespace UiReplay

/-! ## Envelopes -/

/-- What every reply of the device is wrapped in. -/
structure Envelope where
  /-- How the request went. -/
  status : Option String := none
  /-- What the device has to say. -/
  message : Option String := none
  /-- What was asked for. -/
  data : Option Json := none

namespace Envelope

/-- The fields of a record. -/
def recordFields : List (Field Envelope) := [
  .withDefault "status" [] (Decode.nullable Decode.text) fun v r => { r with status := v },
  .withDefault "message" [] (Decode.nullable Decode.text) fun v r => { r with message := v },
  .withDefault "data" [] (Decode.nullable Decode.value) fun v r => { r with data := v }]

/-- The envelope in a document. -/
def decode : Decoder Envelope := Decode.record "StatusResponse" recordFields {}

/-- The envelope in a text. -/
def ofText? (text : String) : Option Envelope :=
  match (Json.read? text).map decode with
  | some (.ok e) => some e
  | _ => none

/-- Whether the request went well. -/
def isSuccess (e : Envelope) : Bool :=
  match e.status with
  | none => true
  | some word => word == "success"

/-- Why a request did not go well. -/
def rejection (e : Envelope) : Rejection :=
  match e.message, e.data with
  | some text, _ => .said text
  | none, some (.text text) => .said text
  | none, _ => .status (e.status.getD "")

/-- The envelope of a request that went well. -/
def check (e : Envelope) (endpoint : String) : Except DeviceError Envelope :=
  if e.isSuccess then .ok e else .error (.rejected endpoint e.rejection)

end Envelope

/-! ## The state of the device -/

/-- The state of the device. -/
structure DeviceState where
  /-- The accessibility tree. -/
  tree : List Node := []
  /-- What else the device tells of itself. -/
  phone : Json := .null

namespace DeviceState

/-- Where the state is asked for. -/
def endpoint : String := "/state"

/-- The fields of a record. -/
def recordFields : List (Field DeviceState) := [
  .withDefault "a11y_tree" ["a11yTree"] (Decode.listOf Node.decode)
    fun v r => { r with tree := v },
  .withDefault "phone_state" ["phoneState"] Decode.value fun v r => { r with phone := v }]

/-- The state in a document. -/
def decode : Decoder DeviceState := Decode.record "DeviceState" recordFields {}

/-- The state in the data of a reply. -/
def ofData : Json → Except DeviceError DeviceState
  | .text s =>
      match (Json.read? s).map decode with
      | some (.ok state) => .ok state
      | _ => .error (.unexpected endpoint .badText)
  | .record fields =>
      match decode (Json.record fields).document with
      | .ok state => .ok state
      | .error fault => .error (.unexpected endpoint (.badValue fault))
  | data => .error (.unexpected endpoint (.oddData data))

/-- The state in a reply. -/
def ofEnvelope (e : Envelope) : Except DeviceError DeviceState :=
  match e.data with
  | some data => ofData data
  | none => .error (.unexpected endpoint .noData)

end DeviceState

/-! ## Recorded events -/

/-- What the device recorded of one touch of its user. -/
structure RecordedEvent where
  /-- The number of the event. -/
  id : Nat := 0
  /-- What was done. -/
  action : String := ""
  /-- What is known of the element. -/
  element : Json := .null
  /-- From the left. -/
  x : Option Int := none
  /-- From the top. -/
  y : Option Int := none
  /-- The text that was typed. -/
  text : Option String := none
  /-- Where the movement went. -/
  direction : Option Direction := none
  /-- How long it took. -/
  durationMs : Option Nat := none
  /-- Where the finger started, from the left. -/
  startX : Option Int := none
  /-- Where the finger started, from the top. -/
  startY : Option Int := none
  /-- Where the finger ended, from the left. -/
  endX : Option Int := none
  /-- Where the finger ended, from the top. -/
  endY : Option Int := none

namespace RecordedEvent

/-- Where events are asked for. -/
def endpoint : String := "/recording/events"

/-- The fields of a record. -/
def recordFields : List (Field RecordedEvent) := [
  .required "id" Decode.nat64 fun v r => { r with id := v },
  .required "action" Decode.text fun v r => { r with action := v },
  .withDefault "element" [] Decode.value fun v r => { r with element := v },
  .withDefault "x" [] (Decode.nullable Decode.int32) fun v r => { r with x := v },
  .withDefault "y" [] (Decode.nullable Decode.int32) fun v r => { r with y := v },
  .withDefault "text" [] (Decode.nullable Decode.text) fun v r => { r with text := v },
  .withDefault "direction" [] (Decode.nullable Direction.decode)
    fun v r => { r with direction := v },
  .withDefault "duration_ms" ["durationMs", "duration"] (Decode.nullable Decode.nat64)
    fun v r => { r with durationMs := v },
  .withDefault "start_x" ["startX"] (Decode.nullable Decode.int32)
    fun v r => { r with startX := v },
  .withDefault "start_y" ["startY"] (Decode.nullable Decode.int32)
    fun v r => { r with startY := v },
  .withDefault "end_x" ["endX"] (Decode.nullable Decode.int32) fun v r => { r with endX := v },
  .withDefault "end_y" ["endY"] (Decode.nullable Decode.int32) fun v r => { r with endY := v }]

/-- The event in a document. -/
def decode : Decoder RecordedEvent := Decode.record "RecordedEvent" recordFields {}

/-- The events in a reply. -/
def listOfEnvelope (e : Envelope) : Except DeviceError (List RecordedEvent) := do
  let e ← e.check endpoint
  match e.data with
  | none | some .null => return []
  | some data =>
      match Decode.listOf decode data.document with
      | .ok events => return events
      | .error fault => throw (.unexpected endpoint (.badValue fault))

end RecordedEvent

end UiReplay
