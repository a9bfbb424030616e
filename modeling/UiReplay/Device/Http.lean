import UiReplay.Json.Value
import UiReplay.Number.Shortest

/-!
# Requests and answers

A request asks for a target, or sends a JSON value to it.  It either fails, because
nothing answers or because the answer breaks off, or it brings a status code and a
body.  An answer that by its code has no body brings an empty one.

A status code is shown with the phrase that the standard gives it.
-/

namespace UiReplay

/-! ## Status codes -/

namespace StatusCode

/-- The phrases of the standard codes. -/
def phrases : List (Nat × String) := [
  (100, "Continue"), (101, "Switching Protocols"), (102, "Processing"),
  (200, "OK"), (201, "Created"), (202, "Accepted"), (203, "Non Authoritative Information"),
  (204, "No Content"), (205, "Reset Content"), (206, "Partial Content"), (207, "Multi-Status"),
  (208, "Already Reported"), (226, "IM Used"),
  (300, "Multiple Choices"), (301, "Moved Permanently"), (302, "Found"), (303, "See Other"),
  (304, "Not Modified"), (305, "Use Proxy"), (307, "Temporary Redirect"),
  (308, "Permanent Redirect"),
  (400, "Bad Request"), (401, "Unauthorized"), (402, "Payment Required"), (403, "Forbidden"),
  (404, "Not Found"), (405, "Method Not Allowed"), (406, "Not Acceptable"),
  (407, "Proxy Authentication Required"), (408, "Request Timeout"), (409, "Conflict"),
  (410, "Gone"), (411, "Length Required"), (412, "Precondition Failed"),
  (413, "Payload Too Large"), (414, "URI Too Long"), (415, "Unsupported Media Type"),
  (416, "Range Not Satisfiable"), (417, "Expectation Failed"), (418, "I'm a teapot"),
  (421, "Misdirected Request"), (422, "Unprocessable Entity"), (423, "Locked"),
  (424, "Failed Dependency"), (425, "Too Early"), (426, "Upgrade Required"),
  (428, "Precondition Required"), (429, "Too Many Requests"),
  (431, "Request Header Fields Too Large"), (451, "Unavailable For Legal Reasons"),
  (500, "Internal Server Error"), (501, "Not Implemented"), (502, "Bad Gateway"),
  (503, "Service Unavailable"), (504, "Gateway Timeout"), (505, "HTTP Version Not Supported"),
  (506, "Variant Also Negotiates"), (507, "Insufficient Storage"), (508, "Loop Detected"),
  (510, "Not Extended"), (511, "Network Authentication Required")]

/-- Whether a code means success. -/
def isSuccess (code : Nat) : Bool := 200 ≤ code && code < 300

/-- A code with its phrase. -/
def text (code : Nat) : String :=
  Number.natText code ++ " " ++
    ((phrases.find? fun p => p.1 == code).map Prod.snd).getD "<unknown status code>"

/-- Whether an answer with a code has no body. -/
def isBodiless (code : Nat) : Bool := code == 204 || code == 304

end StatusCode

/-! ## Requests -/

/-- A request. -/
structure HttpRequest where
  /-- What is asked for: a path with its query. -/
  target : String
  /-- The value that is sent, none when something is only asked for. -/
  body : Option Json

/-- The method of a request. -/
def HttpRequest.method (r : HttpRequest) : String := if r.body.isSome then "POST" else "GET"

/-- The type of what is sent. -/
def HttpRequest.contentType (r : HttpRequest) : Option String :=
  if r.body.isSome then some "application/json" else none

/-! ## Answers -/

/-- What comes of a request. -/
inductive Outcome where
  /-- Nothing answers. -/
  | failed
  /-- The body breaks off. -/
  | cut
  /-- A status code and a body. -/
  | answered (code : Nat) (body : String)
deriving DecidableEq, Repr

/-- An answer, with an empty body if its code says so. -/
def Outcome.received (code : Nat) (body : String) : Outcome :=
  .answered code (if StatusCode.isBodiless code then "" else body)

/-- An answer that only reports success. -/
def Outcome.success : Outcome := .answered 200 "\x7b\"status\":\"success\"\x7d"

/-! ## Tests -/

example : StatusCode.text 404 = "404 Not Found" := by decide +kernel
example : StatusCode.text 599 = "599 <unknown status code>" := by decide +kernel

end UiReplay
