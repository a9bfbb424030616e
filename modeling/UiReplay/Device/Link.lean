import UiReplay.Device.Client

/-!
# Links to the device

A link is a client together with the answers that its requests will get.  The requests
get them one after the other, and after the last one every request gets the same.  A
question that makes no request gets no answer and takes none.

`sent_ask` says that a question adds at most its own request to those that were sent.
-/

namespace UiReplay

/-- A link to the device. -/
structure Link where
  /-- The client. -/
  client : Client := {}
  /-- The answers to come. -/
  answers : List Outcome := []
  /-- What every request gets after the last one. -/
  afterwards : Outcome := .failed
  /-- The requests so far. -/
  sent : List HttpRequest := []

namespace Link

/-- Asks a question. -/
def ask (l : Link) (q : Question) : Outcome × Link :=
  match l.client.request? q with
  | none => (.failed, l)
  | some r =>
      (l.answers.headD l.afterwards, { l with answers := l.answers.tail, sent := l.sent ++ [r] })

theorem sent_ask (l : Link) (q : Question) :
    (l.ask q).2.sent = l.sent ++ (l.client.request? q).toList := by
  unfold ask
  split <;> rename_i h <;> simp [h]

theorem client_ask (l : Link) (q : Question) : (l.ask q).2.client = l.client := by
  unfold ask
  split <;> rfl

end Link

end UiReplay
