import UiReplay.Device.Client

/-!
# What the outcome of a request tells

A request is *lost* when nothing answers or the answer breaks off (`Outcome.isLost`).  An outcome
brings an envelope or one of the errors of `Outcome.Brings`, and the data of an envelope tell a
state or are misread (`DeviceState.Told`).

Only the error of a lost request is transient (`Outcome.separates_reached`,
`Outcome.separates_state`).  A misreading is an answer like any other.
-/

namespace UiReplay

/-! ## Outcomes -/

/-- The request did not get a whole answer. -/
def Outcome.isLost : Outcome → Bool
  | .failed | .cut => true
  | .answered _ _ => false

/-- What an outcome brings from an endpoint. -/
inductive Outcome.Brings (endpoint : String) : Outcome → Except DeviceError Envelope → Prop
  | failed : Brings endpoint .failed (.error (.transport endpoint none))
  | cut : Brings endpoint .cut (.error (.transport endpoint none))
  | code {code : Nat} (body : String) (failure : code < 200 ∨ 300 ≤ code) :
      Brings endpoint (.answered code body)
        (.error (.rejected endpoint (.code code (detail body))))
  | unreadable {code : Nat} {body : String} (success : 200 ≤ code ∧ code < 300)
      (text : Envelope.ofText? body = none) :
      Brings endpoint (.answered code body) (.error (.unexpected endpoint .badText))
  | refused {code : Nat} {body : String} {e : Envelope} {word : String}
      (success : 200 ≤ code ∧ code < 300) (text : Envelope.ofText? body = some e)
      (status : e.status = some word) (other : word ≠ "success") :
      Brings endpoint (.answered code body) (.error (.rejected endpoint e.rejection))
  | envelope {code : Nat} {body : String} {e : Envelope} (success : 200 ≤ code ∧ code < 300)
      (text : Envelope.ofText? body = some e)
      (status : ∀ word, e.status = some word → word = "success") :
      Brings endpoint (.answered code body) (.ok e)

namespace Outcome

variable {o : Outcome} {e : DeviceError}

theorem isSuccess_iff {code : Nat} :
    StatusCode.isSuccess code = true ↔ 200 ≤ code ∧ code < 300 := by
  simp [StatusCode.isSuccess]

theorem brings_envelope (endpoint : String) (o : Outcome) :
    o.Brings endpoint (o.envelope endpoint) := by
  cases o with
  | failed => exact .failed
  | cut => exact .cut
  | answered code body =>
      rw [envelope]
      split
      · next success =>
          have success := isSuccess_iff.mp success
          split
          · next e text =>
              rw [Envelope.check, Envelope.isSuccess]
              cases status : e.status with
              | none => exact .envelope success text fun word h => by cases status.symm.trans h
              | some word =>
                  by_cases same : word = "success"
                  · rw [if_pos (by simpa using same)]
                    refine .envelope success text fun word' h => ?_
                    cases status.symm.trans h
                    exact same
                  · rw [if_neg (by simpa using same)]
                    exact .refused success text status same
          · next text => exact .unreadable success text
      · next failure =>
          refine .code body ?_
          rw [isSuccess_iff] at failure
          omega

/-- The error of an outcome is transient exactly when the request was lost. -/
theorem Brings.isTransient {endpoint : String} (h : o.Brings endpoint (.error e)) :
    e.isTransient = o.isLost := by
  cases h <;> rfl

end Outcome

/-! ## States -/

/-- The state that the data of an envelope tell, or why they are misread. -/
inductive DeviceState.Told : Json → Except DeviceError DeviceState → Prop
  | text {s : String} {d : Document} {state : DeviceState} (read : Json.read? s = some d)
      (decoded : decode d = .ok state) : Told (.text s) (.ok state)
  | badText {s : String} (none : ∀ d state, Json.read? s = some d → decode d ≠ .ok state) :
      Told (.text s) (.error (.unexpected endpoint .badText))
  | record {fields : List (String × Json)} {state : DeviceState}
      (decoded : decode (Json.record fields).document = .ok state) :
      Told (.record fields) (.ok state)
  | badValue {fields : List (String × Json)} {fault : Fault}
      (undecoded : decode (Json.record fields).document = .error fault) :
      Told (.record fields) (.error (.unexpected endpoint (.badValue fault)))
  | odd {data : Json} (noText : ∀ s, data ≠ .text s) (noRecord : ∀ fields, data ≠ .record fields) :
      Told data (.error (.unexpected endpoint (.oddData data)))

/-- The state in what an outcome brought.  An error is passed on. -/
inductive DeviceState.Brought :
    Except DeviceError Envelope → Except DeviceError DeviceState → Prop
  | error (e : DeviceError) : Brought (.error e) (.error e)
  | noData {e : Envelope} (none : e.data = none) :
      Brought (.ok e) (.error (.unexpected endpoint .noData))
  | data {e : Envelope} {data : Json} {state : Except DeviceError DeviceState}
      (given : e.data = some data) (told : Told data state) : Brought (.ok e) state

namespace DeviceState

theorem told_ofData (data : Json) : Told data (ofData data) := by
  cases data with
  | text s =>
      rw [ofData]
      split
      · next state h =>
          obtain ⟨d, read, decoded⟩ := Option.map_eq_some_iff.mp h
          exact .text read decoded
      · next none =>
          refine .badText fun d state read decoded => none state ?_
          rw [read, Option.map_some, decoded]
  | record fields =>
      rw [ofData]
      cases decoded : decode (Json.record fields).document with
      | ok state => exact .record decoded
      | error fault => exact .badValue decoded
  | _ => exact .odd (by simp) (by simp)

theorem brought_state (o : Outcome) : Brought (o.envelope endpoint) o.state := by
  rw [Outcome.state]
  cases o.envelope endpoint with
  | error e => exact .error e
  | ok e =>
      show Brought (.ok e) (ofEnvelope e)
      rw [ofEnvelope]
      cases data : e.data with
      | none => exact .noData data
      | some d => exact .data data (told_ofData d)

theorem Told.isTransient {data : Json} {e : DeviceError} (h : Told data (.error e)) :
    e.isTransient = false := by
  cases h <;> rfl

/-- What the data add to the errors is never transient. -/
theorem Brought.isTransient {e : DeviceError} {env : Envelope} (h : Brought (.ok env) (.error e)) :
    e.isTransient = false := by
  cases h with
  | noData => rfl
  | data _ told => exact told.isTransient

end DeviceState

/-! ## Readings -/

namespace Outcome

variable {α : Type}

/-- A way to read outcomes. -/
abbrev Reading (α : Type) := Outcome → Except DeviceError α

/-- What outcomes may be read as. -/
abbrev Meaning (α : Type) := Outcome → Except DeviceError α → Prop

/-- A lost request is read as a transient error, and no other outcome is. -/
structure Reading.Separates (read : Reading α) : Prop where
  lost : ∀ o : Outcome, o.isLost = true → ∃ e, read o = .error e ∧ e.isTransient = true
  final : ∀ o : Outcome, o.isLost = false → ∀ e, read o = .error e → e.isTransient = false

theorem separates_reached (endpoint : String) : Reading.Separates (reached endpoint) where
  lost := by
    rintro (_ | _ | _) lost
    · exact ⟨_, rfl, rfl⟩
    · exact ⟨_, rfl, rfl⟩
    · cases lost
  final := by
    intro o whole e read
    have brings := o.brings_envelope endpoint
    rw [reached] at read
    cases brought : o.envelope endpoint with
    | ok env =>
        rw [brought] at read
        cases read
    | error e' =>
        rw [brought] at read brings
        cases read
        exact brings.isTransient.trans whole

theorem separates_state : Reading.Separates state where
  lost := by
    rintro (_ | _ | _) lost
    · exact ⟨_, rfl, rfl⟩
    · exact ⟨_, rfl, rfl⟩
    · cases lost
  final := by
    intro o whole e read
    have brings := o.brings_envelope DeviceState.endpoint
    have told := DeviceState.brought_state o
    rw [read] at told
    cases brought : o.envelope DeviceState.endpoint with
    | ok env => exact (brought ▸ told).isTransient
    | error e' =>
        rw [brought] at brings told
        cases told
        exact brings.isTransient.trans whole

/-- What is brought from an endpoint, for one who only asks whether it went well. -/
def MeansDone (endpoint : String) : Meaning Unit := fun o answer =>
  ∃ brought, o.Brings endpoint brought ∧ answer = brought.map fun _ => ()

/-- The tree of the state that is brought, or why there is none. -/
def MeansTree : Meaning (List Node) := fun o answer =>
  ∃ brought state, o.Brings DeviceState.endpoint brought ∧ DeviceState.Brought brought state ∧
    answer = state.map DeviceState.tree

end Outcome

end UiReplay
