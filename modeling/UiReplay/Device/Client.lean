import UiReplay.Device.Action
import UiReplay.Device.Address
import UiReplay.Device.Reply

/-!
# Talking to the device

The device listens at an address.  Each question to it is one request, and what
comes of the request is the answer (`Client.ping`, `Client.state`, `Client.perform`,
`Client.events`).  A request that gets no whole answer is a transport error.  A
status code that is none of success rejects the request, with the message of the
envelope as the detail, or with the whole body when there is none.  Any other body
has to be an envelope that reports success.

The request for a question does not depend on any answer (`Client.request`), so it
can be sent by one party and its outcome read by another.
-/

namespace UiReplay

/-! ## Questions -/

/-- What the device is asked. -/
inductive Question where
  /-- Whether it answers. -/
  | ping
  /-- Its state. -/
  | state
  /-- To do something. -/
  | perform (action : DeviceAction)
  /-- The events after the one with a number. -/
  | events (since : Option Nat)
deriving DecidableEq, Repr

namespace Question

/-- Where a question goes. -/
def endpoint : Question → String
  | .ping => "/ping"
  | .state => DeviceState.endpoint
  | .perform action => action.endpoint
  | .events none => RecordedEvent.endpoint
  | .events (some id) => RecordedEvent.endpoint ++ "?since=" ++ Number.natText id

/-- What is sent along. -/
def body : Question → Option Json
  | .perform action => some action.body
  | _ => none

end Question

/-! ## Clients -/

/-- Where the device is when nothing else is said. -/
def Client.defaultAddress : String := "http://127.0.0.1:8080"

/-- A device at an address. -/
structure Client where
  /-- The address, as it was given. -/
  address : String := Client.defaultAddress
deriving DecidableEq, Repr

namespace Client

/-- The address without the slashes at its end. -/
def base (c : Client) : String :=
  String.ofList (Text.dropEnd (· == '/') c.address.toList)

/-- The request for a question, none when the address cannot be reached. -/
def request? (c : Client) (q : Question) : Option HttpRequest :=
  (Address.target? (c.base ++ q.endpoint)).map fun target => ⟨target, q.body⟩

end Client

/-! ## Answers -/

namespace Outcome

/-- The detail of a rejection by status code. -/
def detail (body : String) : String :=
  ((Envelope.ofText? body).bind Envelope.message).getD body

/-- The envelope that an outcome brings. -/
def envelope (endpoint : String) : Outcome → Except DeviceError Envelope
  | .failed | .cut => .error (.transport endpoint none)
  | .answered code body =>
      if StatusCode.isSuccess code then
        match Envelope.ofText? body with
        | some e => e.check endpoint
        | none => .error (.unexpected endpoint .badText)
      else .error (.rejected endpoint (.code code (detail body)))

/-- Whether the request went well. -/
def reached (endpoint : String) (o : Outcome) : Except DeviceError Unit :=
  (o.envelope endpoint).map fun _ => ()

/-- The state that an outcome brings. -/
def state (o : Outcome) : Except DeviceError DeviceState :=
  (o.envelope DeviceState.endpoint).bind DeviceState.ofEnvelope

/-- The events that an outcome brings. -/
def events (since : Option Nat) (o : Outcome) : Except DeviceError (List RecordedEvent) :=
  (o.envelope (Question.events since).endpoint).bind RecordedEvent.listOfEnvelope

end Outcome

/-! ## Tests -/

example : (Question.events (some 6)).endpoint = "/recording/events?since=6" := by decide +kernel

end UiReplay
