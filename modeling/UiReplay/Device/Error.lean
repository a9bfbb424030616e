import UiReplay.Json.Decoding
import UiReplay.Json.Writer
import UiReplay.Device.Http

/-!
# Device errors

Talking to the device fails in one of four ways.  A request may not get through.  The
device may reject it.  Its answer may not be understood.  Or the client was never set
up.  Only the first may help to repeat, because a rejection is an answer and the next
one would be the same.

A fault in a JSON text is told by its place in the text, which is not kept.  Such a
reason is shown as `<json>`.
-/

namespace UiReplay

/-- Why the device rejects a request. -/
inductive Rejection where
  /-- The device says why. -/
  | said (text : String)
  /-- The device only names a status. -/
  | status (word : String)
  /-- The status code is none of success, and some detail comes with it. -/
  | code (number : Nat) (detail : String)
deriving DecidableEq, Repr

/-- The text of a rejection. -/
def Rejection.message : Rejection → String
  | .said text => text
  | .status word => "status '" ++ word ++ "'"
  | .code number detail => "HTTP " ++ StatusCode.text number ++ ": " ++ detail

/-- Why an answer is not understood. -/
inductive Misreading where
  /-- It is told in words. -/
  | said (text : String)
  /-- A text is no JSON of the expected form. -/
  | badText
  /-- A value is not of the expected form. -/
  | badValue (fault : Fault)
  /-- There are no data. -/
  | noData
  /-- The data are neither a text nor a record. -/
  | oddData (data : Json)

/-- The text of a misreading. -/
def Misreading.message : Misreading → String
  | .said text => text
  | .badText => "<json>"
  | .badValue fault => fault.message
  | .noData => "response has no data"
  | .oddData data => "expected string or object data, got " ++ Json.compact data.document

/-- A failure to talk to the device. -/
inductive DeviceError where
  /-- The request may not have reached the device. -/
  | transport (endpoint : String) (detail : Option String)
  /-- The device rejects the request. -/
  | rejected (endpoint : String) (why : Rejection)
  /-- The answer is not understood. -/
  | unexpected (endpoint : String) (why : Misreading)
  /-- There is no client. -/
  | setup (detail : String)

namespace DeviceError

/-- Whether the request may be repeated. -/
def isTransient : DeviceError → Bool
  | .transport _ _ => true
  | _ => false

/-- The endpoint of the request. -/
def endpoint? : DeviceError → Option String
  | .transport endpoint _ | .rejected endpoint _ | .unexpected endpoint _ => some endpoint
  | .setup _ => none

/-- The text of an error. -/
def message : DeviceError → String
  | .transport endpoint none => "transport error on " ++ endpoint
  | .transport endpoint (some detail) => "transport error on " ++ endpoint ++ ": " ++ detail
  | .rejected endpoint why => "device rejected " ++ endpoint ++ ": " ++ why.message
  | .unexpected endpoint why => "unexpected response from " ++ endpoint ++ ": " ++ why.message
  | .setup detail => "failed to set up HTTP client: " ++ detail

end DeviceError

/-! ## Tests -/

example : (DeviceError.rejected "/ping" (.status "error")).message
    = "device rejected /ping: status 'error'" := by decide

end UiReplay
