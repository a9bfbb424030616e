import UiReplay.CommandLine.Replay
import UiReplay.Proofs.Device.Outcomes
import UiReplay.Proofs.Replay.Requests

/-!
# How often a request is sent

The engine sends a request again while it is lost, and no more often than its attempts allow.  So
the number of requests is the place of the first outcome that is not lost, or the number of
attempts if that is less (`tries_eq_min`).  Between two of them it sleeps once, and what comes of
the last one decides the result (`Engine.retry_askedUntil`).

Nothing is said of what else the surroundings do, as long as they answer over a link to the device
(`Surroundings.Reaches`).  A cancel may come at any time.  Then the call either ends as cancelled
or is done as if none had come (`Engine.Concludes`).
-/

namespace UiReplay

/-! ## Links -/

namespace Link

/-- What comes of a question when it is asked for the time with a number, counted from zero. -/
def outcome (l : Link) (q : Question) (i : Nat) : Outcome :=
  if (l.client.request? q).isSome then l.answers.getD i l.afterwards else .failed

theorem ask_fst (l : Link) (q : Question) : (l.ask q).1 = l.outcome q 0 := by
  unfold ask outcome
  split
  · next h => simp [h]
  · next r h =>
      rw [h, Option.isSome_some, if_pos rfl]
      cases l.answers <;> rfl

theorem outcome_ask (l : Link) (q : Question) (i : Nat) :
    (l.ask q).2.outcome q i = l.outcome q (i + 1) := by
  rw [outcome, outcome, client_ask]
  split
  · next h =>
      obtain ⟨r, hr⟩ := Option.isSome_iff_exists.mp h
      unfold ask
      rw [hr]
      cases l.answers <;> simp
  · rfl

end Link

/-! ## Counting -/

/-- The place of the first outcome that is not lost, counted from one. -/
structure FirstWhole (outcome : Nat → Outcome) (j : Nat) : Prop where
  positive : 0 < j
  whole : (outcome (j - 1)).isLost = false
  before : ∀ i, i + 1 < j → (outcome i).isLost = true

/-- How often a request is sent when it may be sent again so many times. -/
def tries (outcome : Nat → Outcome) : Nat → Nat
  | 0 => 1
  | left + 1 => if (outcome 0).isLost then tries (fun i => outcome (i + 1)) left + 1 else 1

variable {outcome : Nat → Outcome} {j : Nat}

theorem FirstWhole.tail (h : FirstWhole outcome (j + 1)) (lost : (outcome 0).isLost = true) :
    FirstWhole (fun i => outcome (i + 1)) j where
  positive := by
    rcases Nat.eq_zero_or_pos j with rfl | pos
    · cases lost.symm.trans h.whole
    · exact pos
  whole := by
    cases j with
    | zero => cases lost.symm.trans h.whole
    | succ j => exact h.whole
  before := fun i hi => h.before (i + 1) (Nat.succ_lt_succ hi)

/-- The number of requests, by induction on how often they may be sent again. -/
theorem tries_eq_min (first : FirstWhole outcome j) (left : Nat) :
    tries outcome left = min j (left + 1) := by
  induction left generalizing outcome j with
  | zero =>
      have := first.positive
      rw [tries]
      omega
  | succ left ih =>
      obtain ⟨j, rfl⟩ := Nat.exists_eq_succ_of_ne_zero (Nat.ne_of_gt first.positive)
      rw [tries]
      split
      · next lost => rw [ih (first.tail lost), Nat.succ_eq_add_one, Nat.add_min_add_right]
      · next whole =>
          rcases Nat.eq_zero_or_pos j with rfl | later
          · omega
          · exact absurd (first.before 0 (by omega)) whole

theorem tries_eq_of_lost (lost : ∀ i, (outcome i).isLost = true) (left : Nat) :
    tries outcome left = left + 1 := by
  induction left generalizing outcome with
  | zero => rfl
  | succ left ih => rw [tries, if_pos (lost 0), ih fun i => lost (i + 1)]

theorem tries_pos (outcome : Nat → Outcome) (left : Nat) : 0 < tries outcome left := by
  cases left with
  | zero => exact Nat.one_pos
  | succ left =>
      rw [tries]
      split
      · exact Nat.succ_pos _
      · exact Nat.one_pos

/-- The number of requests is the place of the first outcome that is not lost, or the number of
attempts if that is less. -/
structure IsTryCount (outcome : Nat → Outcome) (attempts k : Nat) : Prop where
  first : ∀ j, FirstWhole outcome j → k = min j (max 1 attempts)
  never : (∀ i, (outcome i).isLost = true) → k = max 1 attempts

theorem isTryCount_tries (outcome : Nat → Outcome) (attempts : Nat) :
    IsTryCount outcome attempts (tries outcome (max 1 attempts - 1)) := by
  have total : max 1 attempts - 1 + 1 = max 1 attempts :=
    Nat.sub_add_cancel (Nat.le_max_left 1 attempts)
  exact ⟨fun j first => by rw [tries_eq_min first, total],
    fun lost => by rw [tries_eq_of_lost lost, total]⟩

/-! ## Repeating a request -/

/-- What a run was suspended for so far, in order. -/
def Run.requests {σ : Type} (run : Run σ) : List Request :=
  (suspensionsOf run.journal).map Suspension.request

theorem Run.requests_ask {σ : Type} (w : Surroundings σ) (r : Request) (run : Run σ) :
    (w.ask r run).2.requests = run.requests ++ [r] := by
  rw [requests, suspensionsOf_ask, List.map_append]
  rfl

theorem Run.requests_note {σ : Type} (n : Note) (run : Run σ) :
    (note n run).2.requests = run.requests := by
  show (suspensionsOf (run.journal ++ [.published (.noted n)])).map _ = _
  rw [suspensionsOf_append]
  exact congrArg _ (List.append_nil _)

namespace Engine

variable {σ α : Type} {g : Engine σ} {link : σ → Link} {q : Question} {r : Request}
  {call : Act σ (Except DeviceError α)} {read : Outcome.Reading α}

/-- A suspension asks a question over a link, and reads what comes of it. -/
structure AsksOver (call : Act σ (Except DeviceError α)) (link : σ → Link) (q : Question)
    (r : Request) (read : Outcome.Reading α) : Prop where
  answer : ∀ run, (call run).1 = read ((link run.around).ask q).1
  around : ∀ run, link (call run).2.around = ((link run.around).ask q).2
  requests : ∀ run, (call run).2.requests = run.requests ++ [r]
  separates : read.Separates

/-- A question was asked so many times over a link, with a sleep between each two. -/
structure Asked (g : Engine σ) (link : σ → Link) (q : Question) (r : Request) (k : Nat)
    (run run' : Run σ) : Prop where
  requests : run'.requests =
    run.requests ++ (List.replicate k r).intersperse (.sleep g.config.retryDelay)
  sent : (link run'.around).sent = (link run.around).sent ++
    (List.replicate k ((link run.around).client.request? q).toList).flatten

/-- A cancel was accepted, and a call ended because of it. -/
structure EndedByCancel (result : Except StepError α) (run : Run σ) : Prop where
  result : result = .error .cancelled
  accepted : run.control.isCancelled = true

theorem AsksOver.asked_one (h : AsksOver call link q r read) (run : Run σ) :
    g.Asked link q r 1 run (call run).2 where
  requests := h.requests run
  sent := by
    rw [h.around, Link.sent_ask]
    simp

/-- One more request and a sleep in front of those that follow. -/
theorem AsksOver.asked_succ (h : AsksOver call link q r read) {k : Nat} (pos : 0 < k)
    {run delayed run' : Run σ} (around : link delayed.around = link (call run).2.around)
    (requests : delayed.requests = (call run).2.requests ++ [.sleep g.config.retryDelay])
    (later : g.Asked link q r k delayed run') : g.Asked link q r (k + 1) run run' where
  requests := by
    obtain ⟨k, rfl⟩ := Nat.exists_eq_succ_of_ne_zero (Nat.ne_of_gt pos)
    rw [later.requests, requests, h.requests]
    simp [List.replicate_succ]
  sent := by
    rw [later.sent, around, h.around, Link.sent_ask, Link.client_ask, List.append_assoc,
      List.replicate_succ, List.flatten_cons]

theorem run_sure_bind {β : Type} (x : Act σ α) (f : α → Attempt σ β) (run : Run σ) :
    (x.sure >>= f).run run = (f (x run).1).run (x run).2 := rfl

/-- A computation behind a look for a cancel. -/
theorem run_checked (f : Unit → Attempt σ α) (run : Run σ) :
    (checkCancelled >>= f).run run =
      if run.control.isCancelled then (.error .cancelled, run) else (f ()).run run := by
  show ExceptT.bindCont f (checkCancelled.run run).1 (checkCancelled.run run).2 = _
  rw [run_checkCancelled]
  cases run.control.isCancelled <;> rfl

/-- A computation behind a sleep. -/
theorem run_sleep_bind {ms : Nat} (f : Unit → Attempt σ α) (run : Run σ) :
    (g.sleep ms >>= f).run run =
      if run.control.isCancelled then (.error .cancelled, run)
      else if (g.surroundings.ask (.sleep ms) run).2.control.isCancelled then
        (.error .cancelled, (g.surroundings.ask (.sleep ms) run).2)
      else (f ()).run (g.surroundings.ask (.sleep ms) run).2 := by
  show ExceptT.bindCont f ((g.sleep ms).run run).1 ((g.sleep ms).run run).2 = _
  rw [run_sleep, run_checkCancelled]
  cases run.control.isCancelled with
  | true => rfl
  | false => cases (g.surroundings.ask (.sleep ms) run).2.control.isCancelled <;> rfl

/-- An answer of the device as the result of a call. -/
def settled (answer : Except DeviceError α) : Except StepError α := answer.mapError .device

/-- A run behind the note and the sleep before a request is sent again. -/
def delayed (g : Engine σ) (n : Note) (run : Run σ) : Run σ :=
  (g.surroundings.ask (.sleep g.config.retryDelay) (Run.note n run).2).2

theorem run_retry_cancelled (what : String) (left : Nat) {run : Run σ}
    (cancelled : run.control.isCancelled = true) :
    (g.retry what call left).run run = (.error .cancelled, run) := by
  cases left <;> rw [retry, run_checked, cancelled, if_pos rfl]

/-- A request is settled when its last attempt was made or its answer is not transient. -/
theorem run_retry_settled (what : String) {left : Nat} {run : Run σ}
    (going : run.control.isCancelled = false)
    (settles : ∀ e, (call run).1 = .error e → left = 0 ∨ e.isTransient = false) :
    (g.retry what call left).run run = (settled (call run).1, (call run).2) := by
  cases left with
  | zero =>
      rw [retry, run_checked, going, run_sure_bind]
      cases (call run).1 <;> rfl
  | succ left =>
      rw [retry, run_checked, going, run_sure_bind]
      cases answer : (call run).1 with
      | ok a => rfl
      | error e =>
          have final := (settles e answer).resolve_left (Nat.succ_ne_zero left)
          simp only [final]
          rfl

/-- Any other request is sent again after a sleep.  A cancel is looked for before the sleep and
behind it. -/
theorem run_retry_again (g : Engine σ) (what : String) (left : Nat) {run : Run σ} {e : DeviceError}
    (going : run.control.isCancelled = false) (answer : (call run).1 = .error e)
    (transient : e.isTransient = true) :
    ∃ n, (g.retry what call (left + 1)).run run =
      if (call run).2.control.isCancelled then (.error .cancelled, (Run.note n (call run).2).2)
      else if (g.delayed n (call run).2).control.isCancelled then
        (.error .cancelled, g.delayed n (call run).2)
      else (g.retry what call left).run (g.delayed n (call run).2) := by
  refine ⟨.retrying what (g.attempts - (left + 1)) g.attempts e, ?_⟩
  rw [retry, run_checked, going, run_sure_bind, answer]
  simp only [transient, if_true, Bool.false_eq_true, if_false]
  exact run_sleep_bind _ (Run.note _ (call run).2).2

theorem requests_delayed (n : Note) (run : Run σ) :
    (g.delayed n run).requests = run.requests ++ [.sleep g.config.retryDelay] := by
  rw [delayed, Run.requests_ask, Run.requests_note]

/-- A question was asked over a link until its outcome was not lost, and at most so many times
again.  The last outcome is the result.  Or a cancel ended it. -/
def AskedUntil (g : Engine σ) (link : σ → Link) (q : Question) (r : Request)
    (read : Outcome.Reading α) (left : Nat) (run : Run σ)
    (result : Except StepError α) (run' : Run σ) : Prop :=
  EndedByCancel result run' ∨
    g.Asked link q r (tries ((link run.around).outcome q) left) run run' ∧
      result = settled (read ((link run.around).outcome q
        (tries ((link run.around).outcome q) left - 1)))

theorem AsksOver.askedUntil_one (asks : AsksOver call link q r read) {left : Nat} {run : Run σ}
    (one : tries ((link run.around).outcome q) left = 1) :
    g.AskedUntil link q r read left run (settled (call run).1) (call run).2 := by
  right
  rw [one, asks.answer, Link.ask_fst]
  exact ⟨asks.asked_one run, rfl⟩

/-- A request that was lost is followed by those behind the sleep. -/
theorem AsksOver.askedUntil_succ (asks : AsksOver call link q r read)
    (sleeps : ∀ ms c s, link (g.surroundings.respond (.sleep ms) c s).2 = link s) {left : Nat}
    {run : Run σ} {n : Note} {result : Except StepError α} {run' : Run σ}
    (lost : ((link run.around).outcome q 0).isLost = true)
    (later : g.AskedUntil link q r read left (g.delayed n (call run).2) result run') :
    g.AskedUntil link q r read (left + 1) run result run' := by
  have around : link (g.delayed n (call run).2).around = link (call run).2.around := sleeps _ _ _
  have shifted : (link (g.delayed n (call run).2).around).outcome q =
      fun i => (link run.around).outcome q (i + 1) := by
    funext i
    rw [around, asks.around, Link.outcome_ask]
  have next : tries ((link run.around).outcome q) (left + 1) =
      tries (fun i => (link run.around).outcome q (i + 1)) left + 1 := by
    rw [tries, if_pos lost]
  refine later.imp id ?_
  rw [shifted, next]
  intro ⟨asked, result⟩
  have pos := tries_pos (fun i => (link run.around).outcome q (i + 1)) left
  refine ⟨asks.asked_succ pos around (requests_delayed n _) asked, ?_⟩
  rw [result, Nat.add_sub_cancel]
  exact congrArg (fun i => settled (read ((link run.around).outcome q i)))
    (Nat.sub_add_cancel pos)

/-- Repeating a request, by induction on the attempts that are left. -/
theorem retry_askedUntil (asks : AsksOver call link q r read)
    (sleeps : ∀ ms c s, link (g.surroundings.respond (.sleep ms) c s).2 = link s) (what : String)
    (left : Nat) (run : Run σ) :
    g.AskedUntil link q r read left run ((g.retry what call left).run run).1
      ((g.retry what call left).run run).2 := by
  have answer : ∀ run, (call run).1 = read ((link run.around).outcome q 0) := by
    intro run
    rw [asks.answer, Link.ask_fst]
  induction left generalizing run with
  | zero =>
      cases going : run.control.isCancelled with
      | true => exact .inl (run_retry_cancelled what 0 going ▸ ⟨rfl, going⟩)
      | false =>
          rw [run_retry_settled what going fun _ _ => .inl rfl]
          exact asks.askedUntil_one rfl
  | succ left ih =>
      cases going : run.control.isCancelled with
      | true => exact .inl (run_retry_cancelled what _ going ▸ ⟨rfl, going⟩)
      | false =>
          cases lost : ((link run.around).outcome q 0).isLost with
          | false =>
              rw [run_retry_settled what going fun e he =>
                .inr (asks.separates.final _ lost e ((answer run).symm.trans he))]
              exact asks.askedUntil_one (by rw [tries, lost]; rfl)
          | true =>
              obtain ⟨e, he, transient⟩ := asks.separates.lost _ lost
              obtain ⟨n, retried⟩ := run_retry_again g what left going
                ((answer run).trans he) transient
              rw [retried]
              split
              · next cancelled => exact .inl ⟨rfl, cancelled⟩
              · split
                · next cancelled => exact .inl ⟨rfl, cancelled⟩
                · exact asks.askedUntil_succ sleeps lost (ih _)

/-! ## Performing and fetching -/

end Engine

/-- Surroundings answer for the device over a link.  Nothing is said of the calls of the remote
control and of the time. -/
structure Surroundings.Reaches {σ : Type} (w : Surroundings σ) (link : σ → Link) : Prop where
  perform : ∀ a c s,
    (w.respond (.perform a) c s).1.answer = ((link s).ask (.perform a)).1.reached a.endpoint ∧
      link (w.respond (.perform a) c s).2 = ((link s).ask (.perform a)).2
  state : ∀ c s, (w.respond .state c s).1.answer = ((link s).ask .state).1.state ∧
    link (w.respond .state c s).2 = ((link s).ask .state).2
  sleep : ∀ ms c s, link (w.respond (.sleep ms) c s).2 = link s

namespace Engine

variable {σ : Type} {g : Engine σ} {link : σ → Link}

theorem asksOver_perform (reaches : g.surroundings.Reaches link) (a : DeviceAction) :
    AsksOver (g.surroundings.ask (.perform a)) link (.perform a) (.perform a)
      (Outcome.reached a.endpoint) where
  answer _ := (reaches.perform a _ _).1
  around _ := (reaches.perform a _ _).2
  requests := Run.requests_ask _ _
  separates := Outcome.separates_reached a.endpoint

theorem asksOver_state (reaches : g.surroundings.Reaches link) :
    AsksOver (g.surroundings.ask .state) link .state .state Outcome.state where
  answer _ := (reaches.state _ _).1
  around _ := (reaches.state _ _).2
  requests := Run.requests_ask _ _
  separates := Outcome.separates_state

/-- A call that asks a question is ended by a cancel.  Or it makes as many requests as it should,
and its result is what the outcome of the last one means. -/
def Concludes {α : Type} (g : Engine σ) (link : σ → Link) (q : Question) (r : Request)
    (means : Outcome.Meaning α) (run : Run σ) (result : Except StepError α)
    (run' : Run σ) : Prop :=
  EndedByCancel result run' ∨
    ∃ k answer, IsTryCount ((link run.around).outcome q) g.config.maxAttempts k ∧
      g.Asked link q r k run run' ∧ means ((link run.around).outcome q (k - 1)) answer ∧
        result = settled answer

theorem concludes_perform (reaches : g.surroundings.Reaches link) (a : DeviceAction)
    (run : Run σ) :
    g.Concludes link (.perform a) (.perform a) (Outcome.MeansDone a.endpoint) run
      ((g.perform a).run run).1 ((g.perform a).run run).2 := by
  refine (retry_askedUntil (asksOver_perform reaches a) reaches.sleep a.endpoint (g.attempts - 1)
    run).imp id ?_
  rintro ⟨asked, result⟩
  exact ⟨_, _, isTryCount_tries _ _, asked, ⟨_, Outcome.brings_envelope a.endpoint _, rfl⟩, result⟩

/-- The tree is fetched by asking for the state, and the screen is remembered when there is one. -/
theorem run_fetchTree (run : Run σ) :
    g.fetchTree.run run =
      let out := (g.retry DeviceState.endpoint (g.surroundings.ask .state) (g.attempts - 1)).run run
      match out.1 with
      | .ok state => (.ok state.tree, (Run.see state.tree out.2).2)
      | .error e => (.error e, out.2) := by
  show ExceptT.bindCont
    (fun state : DeviceState => (Run.see state.tree).sure >>= fun _ => pure state.tree)
      ((g.retry DeviceState.endpoint (g.surroundings.ask .state) (g.attempts - 1)).run run).1
      ((g.retry DeviceState.endpoint (g.surroundings.ask .state) (g.attempts - 1)).run run).2 = _
  dsimp only
  cases ((g.retry DeviceState.endpoint (g.surroundings.ask .state) (g.attempts - 1)).run run).1 <;>
    rfl

theorem concludes_fetchTree (reaches : g.surroundings.Reaches link) (run : Run σ) :
    g.Concludes link .state .state Outcome.MeansTree run (g.fetchTree.run run).1
      (g.fetchTree.run run).2 := by
  rw [run_fetchTree]
  rcases retry_askedUntil (asksOver_state reaches) reaches.sleep DeviceState.endpoint
    (g.attempts - 1) run with ended | ⟨asked, result⟩
  · left
    dsimp only
    rw [ended.result]
    exact ⟨rfl, ended.accepted⟩
  · have count : IsTryCount ((link run.around).outcome .state) g.config.maxAttempts
        (tries ((link run.around).outcome .state) (g.attempts - 1)) := isTryCount_tries _ _
    generalize tries ((link run.around).outcome .state) (g.attempts - 1) = k at count asked result
    refine .inr ⟨k, _, count, ?_,
      ⟨_, _, Outcome.brings_envelope DeviceState.endpoint _, DeviceState.brought_state _, rfl⟩, ?_⟩
    · dsimp only
      split
      · exact ⟨asked.requests, asked.sent⟩
      · exact asked
    · dsimp only
      rw [result]
      cases ((link run.around).outcome .state (k - 1)).state <;> rfl

/-- A request is sent until an outcome is not lost, as often as the attempts allow, and that
outcome decides the result. -/
theorem concludes_requests (reaches : g.surroundings.Reaches link) (a : DeviceAction)
    (run : Run σ) :
    g.Concludes link (.perform a) (.perform a) (Outcome.MeansDone a.endpoint) run
        ((g.perform a).run run).1 ((g.perform a).run run).2 ∧
      g.Concludes link .state .state Outcome.MeansTree run (g.fetchTree.run run).1
        (g.fetchTree.run run).2 :=
  ⟨concludes_perform reaches a run, concludes_fetchTree reaches run⟩

theorem reaches_desk : Desk.surroundings.Reaches Desk.link where
  perform a c d := by
    simp only [Desk.surroundings, Desk.respond, Desk.answer_consult, Desk.link_consult, and_self]
  state c d := by
    simp only [Desk.surroundings, Desk.respond, Desk.answer_consult, Desk.link_consult, and_self]
  sleep _ _ _ := rfl

/-- A desk at which the first request is lost, and the second one is answered. -/
def lossyDesk : Desk where
  link := { answers := [.cut, .success, .answered 200 "\x7b\x7d"] }
  ids := ⟨0, 0⟩

theorem concludes_requests_lossy :
    Desk.surroundings.Reaches Desk.link ∧
      let g : Engine Desk := { surroundings := Desk.surroundings }
      let run : Run Desk := { control := .fresh, screen := ⟨0, 0, 1080, 2400⟩, around := lossyDesk }
      let performed := (g.perform (.press .back)).run run
      g.Concludes Desk.link (.perform (.press .back)) (.perform (.press .back))
          (Outcome.MeansDone "/action/global") run performed.1 performed.2 ∧
        performed.1.isOk = true ∧
        performed.2.requests = [.perform (.press .back), .sleep 500, .perform (.press .back)] ∧
        performed.2.around.link.sent.length = 2 :=
  ⟨reaches_desk, (concludes_requests reaches_desk (.press .back) _).1, by decide +kernel,
    by decide +kernel, by decide +kernel⟩

end Engine

end UiReplay
