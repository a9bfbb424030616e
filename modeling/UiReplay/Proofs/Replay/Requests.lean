import UiReplay.Proofs.Replay.Moves

/-!
# What a computation sends to the device

`Run.sent` lists the suspensions of a run in which the device was asked something.  A
computation *sends* what it adds to this list, and `Engine.Sends` ties that to its outcome.
What a computation sends is put together from what its parts send, one part after the
other, whatever is done about a failure in between (`Sends.handle`, `Sends.bind`).

A request is repeated until it gets an answer that is final (`Tried`).  So when an action
is performed the device accepted it once, in the last request, and when it is not
performed the device never accepted it (`sends_perform`).  Fetching the tree only asks for
the state (`sends_fetchTree`).
-/

namespace UiReplay

/-! ## Suspensions -/

namespace Suspension

/-- A request was made and got an answer. -/
def Got (x : Suspension) (r : Request) (answer : r.Answer) : Prop :=
  ∃ (start : Nat) (i : Interlude r), x = ⟨start, r, i⟩ ∧ i.answer = answer

/-- The action that the device accepted. -/
def accepted? : Suspension → Option DeviceAction
  | ⟨_, .perform a, i⟩ =>
      match i.answer with
      | .ok _ => some a
      | .error _ => none
  | ⟨_, .state, _⟩ | ⟨_, .sleep _, _⟩ | ⟨_, .gate, _⟩ => none

/-- The device was asked for an action and did not accept it. -/
structure Refuses (x : Suspension) (a : DeviceAction) : Prop where
  request : x.request = .perform a
  accepted : x.accepted? = none

theorem Got.request {x : Suspension} {r : Request} {answer : r.Answer} (h : x.Got r answer) :
    x.request = r := by
  obtain ⟨start, i, rfl, -⟩ := h
  rfl

theorem Got.accepts {x : Suspension} {a : DeviceAction} {u : Unit}
    (h : x.Got (.perform a) (.ok u)) : x.accepted? = some a := by
  obtain ⟨start, i, rfl, hi⟩ := h
  simp [accepted?, hi]

theorem Got.refuses {x : Suspension} {a : DeviceAction} {e : DeviceError}
    (h : x.Got (.perform a) (.error e)) : x.Refuses a := by
  obtain ⟨start, i, rfl, hi⟩ := h
  exact ⟨rfl, by simp [accepted?, hi]⟩

theorem accepted?_of_state {x : Suspension} (h : x.request = .state) : x.accepted? = none := by
  obtain ⟨start, r, i⟩ := x
  cases h
  rfl

end Suspension

/-! ## Runs -/

namespace Run

variable {σ : Type}

/-- What the device was asked in a run, in order. -/
def sent (run : Run σ) : List Suspension :=
  (suspensionsOf run.journal).filter fun x => x.request.isDevice

theorem suspensionsOf_append (a b : List JournalEntry) :
    suspensionsOf (a ++ b) = suspensionsOf a ++ suspensionsOf b :=
  List.filterMap_append

theorem suspensionsOf_ofCalls (c : Control) (xs : List ControlCall) :
    suspensionsOf (JournalEntry.ofCalls c xs) = [] := by
  induction xs generalizing c with
  | nil => rfl
  | cons x rest ih =>
      rw [JournalEntry.ofCalls]
      cases h : (c.call x).event <;> simpa [suspensionsOf] using ih (c.call x).control

theorem sent_publish (e : ReplayEvent) (run : Run σ) : (publish e run).2.sent = run.sent := by
  show (suspensionsOf (run.journal ++ [.published e])).filter _ = _
  rw [suspensionsOf_append, show suspensionsOf [.published e] = [] from rfl, List.append_nil]
  rfl

theorem sent_see (tree : List Node) (run : Run σ) : (see tree run).2.sent = run.sent := rfl

/-- A run is suspended once for what it asks for. -/
theorem suspensionsOf_ask (w : Surroundings σ) (r : Request) (run : Run σ) :
    suspensionsOf (w.ask r run).2.journal =
      suspensionsOf run.journal ++ [⟨run.clock, r, (w.respond r run.control run.around).1⟩] := by
  let i := (w.respond r run.control run.around).1
  show suspensionsOf (run.journal ++
    .suspended ⟨run.clock, r, i⟩ :: JournalEntry.ofCalls run.control i.calls) = _
  rw [suspensionsOf_append, ← List.singleton_append, suspensionsOf_append, suspensionsOf_ofCalls,
    List.append_nil]
  rfl

/-- A suspension is sent if the device is asked. -/
theorem sent_ask_eq (w : Surroundings σ) (r : Request) (run : Run σ) :
    (w.ask r run).2.sent = run.sent ++
      if r.isDevice then [⟨run.clock, r, (w.respond r run.control run.around).1⟩] else [] := by
  rw [sent, suspensionsOf_ask, List.filter_append, List.filter_cons, List.filter_nil]
  rfl

theorem sent_ask (w : Surroundings σ) (r : Request) (run : Run σ) :
    ∃ x : Suspension, x.Got r (w.ask r run).1 ∧
      (w.ask r run).2.sent = run.sent ++ if r.isDevice then [x] else [] :=
  ⟨_, ⟨run.clock, _, rfl, rfl⟩, sent_ask_eq w r run⟩

end Run

namespace Engine

variable {σ α β : Type}

/-! ## Computations -/

/-- In every run, what a computation sends fits its outcome. -/
def Sends (x : Attempt σ α) (fits : Except StepError α → List Suspension → Prop) : Prop :=
  ∀ run : Run σ, ∃ sent, (x.run run).2.sent = run.sent ++ sent ∧ fits (x.run run).1 sent

variable {P : Except StepError α → List Suspension → Prop}
  {Q : Except StepError β → List Suspension → Prop}

theorem Sends.mono {x : Attempt σ α} {P' : Except StepError α → List Suspension → Prop}
    (h : Sends x P) (hP : ∀ outcome sent, P outcome sent → P' outcome sent) : Sends x P' := by
  intro run
  obtain ⟨sent, hsent, fits⟩ := h run
  exact ⟨sent, hsent, hP _ _ fits⟩

/-- One computation after the other, whatever is done about a failure in between. -/
theorem Sends.handle {x : Attempt σ α} {k : Except StepError α → Act σ (Except StepError β)}
    (hx : Sends x P)
    (hk : ∀ outcome first, P outcome first →
      Sends (ExceptT.mk (k outcome)) fun outcome' rest => Q outcome' (first ++ rest)) :
    Sends (ExceptT.mk (x.run >>= k)) Q := by
  intro run
  obtain ⟨first, hfirst, fits⟩ := hx run
  obtain ⟨rest, hrest, fits⟩ := hk _ first fits (x.run run).2
  refine ⟨first ++ rest, ?_, fits⟩
  rw [← List.append_assoc, ← hfirst]
  exact hrest

/-- A computation that ends at once. -/
theorem sends_outcome {outcome : Except StepError α} (h : P outcome []) :
    Sends (ExceptT.mk (pure outcome) : Attempt σ α) P := by
  intro run
  exact ⟨[], (List.append_nil _).symm, h⟩

theorem Sends.bind {x : Attempt σ α} {f : α → Attempt σ β} (hx : Sends x P)
    (hf : ∀ a first, P (.ok a) first → Sends (f a) fun outcome rest => Q outcome (first ++ rest))
    (he : ∀ e first, P (.error e) first → Q (.error e) first) : Sends (x >>= f) Q := by
  refine Sends.handle (k := ExceptT.bindCont f) hx ?_
  intro outcome first fits
  cases outcome with
  | ok a => exact hf a first fits
  | error e =>
      apply sends_outcome
      rw [List.append_nil]
      exact he e first fits

/-- Nothing is sent, and there is no failure but a cancel. -/
structure Silent (outcome : Except StepError α) (sent : List Suspension) : Prop where
  nothing : sent = []
  cancelled : ∀ e, outcome = .error e → e = .cancelled

/-- What comes after a computation that sends nothing. -/
theorem Sends.after {x : Attempt σ α} {f : α → Attempt σ β} (hx : Sends x Silent)
    (hf : ∀ a, Sends (f a) Q) (he : Q (.error .cancelled) []) : Sends (x >>= f) Q := by
  refine hx.bind ?_ ?_
  · rintro a first ⟨rfl, -⟩
    exact hf a
  · rintro e first ⟨rfl, cancelled⟩
    rw [cancelled e rfl]
    exact he

theorem sends_sure {x : Act σ α} (h : ∀ run, (x run).2.sent = run.sent) :
    Sends x.sure Silent := by
  intro run
  exact ⟨[], (h run).trans (List.append_nil _).symm, rfl, fun e he => by cases he⟩

theorem sends_note (n : Note) : Sends (Run.note n : Act σ Unit).sure Silent :=
  sends_sure (Run.sent_publish _)

theorem sends_checkCancelled : Sends (checkCancelled : Attempt σ Unit) Silent := by
  intro run
  refine ⟨[], by rw [run_checkCancelled, List.append_nil], rfl, fun e he => ?_⟩
  rw [run_checkCancelled] at he
  split at he
  · cases he
    rfl
  · cases he

/-- A request to the device. -/
theorem sends_ask (w : Surroundings σ) {r : Request} (device : r.isDevice = true) :
    Sends (w.ask r).sure fun outcome sent =>
      ∃ answer x, outcome = .ok answer ∧ sent = [x] ∧ Suspension.Got x r answer := by
  intro run
  obtain ⟨x, got, hsent⟩ := Run.sent_ask w r run
  rw [device] at hsent
  exact ⟨[x], hsent, _, x, rfl, rfl, got⟩

variable {g : Engine σ}

theorem sends_sleep (ms : Nat) : Sends (g.sleep ms) Silent := by
  have waits : Sends (g.surroundings.ask (.sleep ms)).sure Silent := by
    refine sends_sure fun run => ?_
    obtain ⟨x, -, hsent⟩ := Run.sent_ask g.surroundings (.sleep ms) run
    exact hsent.trans (List.append_nil _)
  have cancelled : Silent (.error .cancelled : Except StepError Unit) [] :=
    ⟨rfl, fun e he => by cases he; rfl⟩
  exact sends_checkCancelled.after
    (fun _ => waits.after (fun _ => sends_checkCancelled) cancelled) cancelled

/-! ## Requests that are repeated -/

/-- What is sent for a request that is repeated while its answer is an error, where `got`
says what a suspension brought. -/
inductive Tried (got : Suspension → Except DeviceError α → Prop) :
    Except StepError α → List Suspension → Prop
  | cancelled : Tried got (.error .cancelled) []
  | answered {x : Suspension} {a : α} (h : got x (.ok a)) : Tried got (.ok a) [x]
  | failed {x : Suspension} {e : DeviceError} (h : got x (.error e)) :
      Tried got (.error (.device e)) [x]
  | again {x : Suspension} {e : DeviceError} {outcome : Except StepError α}
      {rest : List Suspension} (h : got x (.error e)) (more : Tried got outcome rest) :
      Tried got outcome (x :: rest)

/-- Repeating a request, by induction on the attempts that are left. -/
theorem sends_retry (what : String) {call : Act σ (Except DeviceError α)}
    {got : Suspension → Except DeviceError α → Prop}
    (hcall : Sends call.sure fun outcome sent =>
      ∃ answer x, outcome = .ok answer ∧ sent = [x] ∧ got x answer) (left : Nat) :
    Sends (g.retry what call left) (Tried got) := by
  induction left with
  | zero =>
      refine sends_checkCancelled.after (fun _ => hcall.bind ?_ ?_) .cancelled
      · rintro answer first ⟨_, x, ⟨⟩, rfl, h⟩
        cases answer with
        | ok a => exact sends_outcome (.answered h)
        | error e => exact sends_outcome (.failed h)
      · rintro e first ⟨_, _, ⟨⟩, -⟩
  | succ left ih =>
      refine sends_checkCancelled.after (fun _ => hcall.bind ?_ ?_) .cancelled
      · rintro answer first ⟨_, x, ⟨⟩, rfl, h⟩
        cases answer with
        | ok a => exact sends_outcome (.answered h)
        | error e =>
            dsimp only
            split
            · have more : Sends (g.retry what call left) fun outcome rest =>
                  Tried got outcome ([x] ++ rest) := ih.mono fun _ _ more => .again h more
              exact (sends_note _).after
                (fun _ => (sends_sleep _).after (fun _ => more) (.again h .cancelled))
                (.again h .cancelled)
            · exact sends_outcome (.failed h)
      · rintro e first ⟨_, _, ⟨⟩, -⟩

/-- What is sent to have an action performed. -/
def Performed (a : DeviceAction) (outcome : Except StepError Unit) (sent : List Suspension) :
    Prop :=
  match outcome with
  | .ok _ => ∃ refused x, sent = refused ++ [x] ∧ (∀ y ∈ refused, y.Refuses a) ∧
      x.accepted? = some a
  | .error _ => ∀ y ∈ sent, y.Refuses a

theorem sends_perform (a : DeviceAction) : Sends (g.perform a) (Performed a) := by
  refine (sends_retry _ (sends_ask _ rfl) _).mono ?_
  intro outcome sent tried
  induction tried with
  | cancelled => exact fun y hy => absurd hy List.not_mem_nil
  | answered h => exact ⟨[], _, rfl, fun y hy => absurd hy List.not_mem_nil, h.accepts⟩
  | failed h =>
      intro y hy
      rw [List.mem_singleton.mp hy]
      exact h.refuses
  | @again x e outcome rest h _ ih =>
      cases outcome with
      | ok u =>
          obtain ⟨refused, y, rfl, hrefused, hy⟩ := ih
          refine ⟨x :: refused, y, rfl, ?_, hy⟩
          rintro z (_ | ⟨_, hz⟩)
          · exact h.refuses
          · exact hrefused z hz
      | error e =>
          rintro z (_ | ⟨_, hz⟩)
          · exact h.refuses
          · exact ih z hz

/-- What is sent to fetch the tree. -/
structure Fetched (outcome : Except StepError (List Node)) (sent : List Suspension) : Prop where
  /-- Only the state is asked for. -/
  quiet : ∀ x ∈ sent, x.request = .state
  /-- The tree is that of a state that the device gave. -/
  tree : ∀ tree, outcome = .ok tree →
    ∃ x ∈ sent, ∃ state : DeviceState, x.Got .state (.ok state) ∧ state.tree = tree

theorem sends_fetchTree : Sends g.fetchTree Fetched := by
  have asks : Sends (g.retry DeviceState.endpoint (g.surroundings.ask .state) (g.attempts - 1))
      fun outcome sent => (∀ x ∈ sent, x.request = .state) ∧
        ∀ state, outcome = .ok state → ∃ x ∈ sent, x.Got .state (.ok state) := by
    refine (sends_retry _ (sends_ask _ rfl) _).mono ?_
    intro outcome sent tried
    induction tried with
    | cancelled => simp
    | @answered x a h =>
        refine ⟨fun y hy => ?_, ?_⟩
        · rw [List.mem_singleton.mp hy]
          exact h.request
        · rintro state ⟨⟩
          exact ⟨x, List.mem_singleton_self x, h⟩
    | failed h =>
        refine ⟨fun y hy => ?_, fun state hstate => by cases hstate⟩
        rw [List.mem_singleton.mp hy]
        exact h.request
    | again h _ ih =>
        refine ⟨?_, fun state hstate => ?_⟩
        · rintro z (_ | ⟨_, hz⟩)
          · exact h.request
          · exact ih.1 z hz
        · obtain ⟨x, hx, got⟩ := ih.2 state hstate
          exact ⟨x, List.mem_cons_of_mem _ hx, got⟩
  refine asks.bind ?_ ?_
  · rintro state first ⟨quiet, got⟩
    obtain ⟨x, hx, hgot⟩ := got state rfl
    refine (sends_sure (Run.sent_see _)).after (fun _ => sends_outcome ?_) ?_
    · rw [List.append_nil]
      refine ⟨quiet, ?_⟩
      rintro tree ⟨⟩
      exact ⟨x, hx, state, hgot, rfl⟩
    · rw [List.append_nil]
      exact ⟨quiet, fun tree htree => by cases htree⟩
  · rintro e first ⟨quiet, -⟩
    exact ⟨quiet, fun tree htree => by cases htree⟩

end Engine

end UiReplay
