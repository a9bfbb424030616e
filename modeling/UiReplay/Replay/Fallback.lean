import UiReplay.Replay.Progress

/-!
# Trying selectors in order

An attempt is made with one selector of a chain after the other.  The first that
brings something ends the search, and so does a cancel.  An attempt that brings
nothing and one that fails both lead on to the next.  When none is left the last
failure counts, and without any failure the chain was not found.
-/

namespace UiReplay

/-- What an attempt brought, and with which selector. -/
structure Hit (α : Type) where
  /-- What it brought. -/
  value : α
  /-- The selector. -/
  selector : Selector
  /-- The place of the selector in its chain. -/
  index : Nat

/-- What a step reports that was done through a selector. -/
def Hit.outcome {α : Type} (h : Hit α) (deed : Deed) : StepOutcome where
  deed := deed
  selector := some (h.selector, h.index)
  fallbackUsed := 0 < h.index

namespace Chain

variable {S α : Type}

/-- Tries selectors in order.  `last` is the last failure so far. -/
def firstHitFrom (c : Chain) (attempt : Selector → ExceptT StepError (StateM S) (Option α)) :
    List Selector → Nat → Option StepError → ExceptT StepError (StateM S) (Hit α)
  | [], _, last => throw (last.getD (.notFound c))
  | s :: rest, i, last => ExceptT.mk do
      match ← (attempt s).run with
      | .ok (some value) => return .ok ⟨value, s, i⟩
      | .ok none => (c.firstHitFrom attempt rest (i + 1) last).run
      | .error .cancelled => return .error .cancelled
      | .error e => (c.firstHitFrom attempt rest (i + 1) (some e)).run

/-- Tries the selectors of a chain in order. -/
def firstHit (c : Chain) (attempt : Selector → ExceptT StepError (StateM S) (Option α)) :
    ExceptT StepError (StateM S) (Hit α) :=
  c.firstHitFrom attempt c.selectors 0 none

end Chain

end UiReplay
