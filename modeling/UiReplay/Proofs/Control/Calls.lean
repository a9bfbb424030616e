import UiReplay.Replay.Run

/-!
# What calls of the remote control do

A call is refused and changes nothing, or it does what the status allows: a pause of a
running replay, a resume of a paused one, a cancel of an idle one and a cancel of one that
goes on (`Control.Answers`).  Whatever is said of calls here is read off from these cases.

Calls change no more of a replay that goes on than its status, which stays running or
paused, its gate, and whether a cancel was accepted (`Control.keeps_calls`).  A cancel is
accepted if and only if the journal says so (`Control.isCancelled_calls_iff`).
-/

namespace UiReplay

/-- Whether a replay has started and is not over. -/
def ReplayStatus.IsActive (s : ReplayStatus) : Prop := s = .running ∨ s = .paused

theorem ReplayStatus.IsActive.not_terminal {s : ReplayStatus} (h : s.IsActive) :
    s.isTerminal = false := by
  rcases h with rfl | rfl <;> rfl

theorem ReplayStatus.IsActive.not_idle {s : ReplayStatus} (h : s.IsActive) : s ≠ .idle := by
  rcases h with rfl | rfl <;> simp

theorem ReplayStatus.isActive_of_going {s : ReplayStatus} (going : s.isTerminal = false)
    (started : s ≠ .idle) : s.IsActive := by
  cases s with
  | idle => exact absurd rfl started
  | running => exact .inl rfl
  | paused => exact .inr rfl
  | completed => cases going
  | failed => cases going
  | cancelled => cases going

namespace Control

/-! ## Single calls -/

theorem toPaused?_eq_some_iff {c c' : Control} :
    c.toPaused? = some c' ↔ c.status = .running ∧ c' = c.withStatus .paused := by
  unfold toPaused?
  split
  · next h => simp [h, eq_comm]
  · next h => simp [h]

theorem toRunning?_eq_some_iff {c c' : Control} :
    c.toRunning? = some c' ↔ c.status = .paused ∧ c' = c.withStatus .running := by
  unfold toRunning?
  split
  · next h => simp [h, eq_comm]
  · next h => simp [h]

/-- What may come of a call. -/
inductive Answers (c : Control) : ControlCall → CallReply → Prop where
  | refused (x : ControlCall) : Answers c x ⟨false, none, c⟩
  | paused (h : c.status = .running) :
      Answers c .pause ⟨true, some (.statusChanged (c.withStatus .paused).progress),
        (c.withStatus .paused).closeGate⟩
  | resumed (h : c.status = .paused) :
      Answers c .resume ⟨true, some (.statusChanged (c.withStatus .running).progress),
        (c.withStatus .running).openGate⟩
  | ended (h : c.status = .idle) :
      Answers c .cancel ⟨true, some (.statusChanged (c.progress.finish .cancelled none)),
        { c.update (fun p => p.finish .cancelled none) with isCancelled := true }⟩
  | cancelled (h : c.status.IsActive) :
      Answers c .cancel ⟨true, none, { c with isCancelled := true }⟩

theorem answers_call (c : Control) (x : ControlCall) : c.Answers x (c.call x) := by
  cases x with
  | pause =>
      rw [call, pause]
      cases h : c.toPaused? with
      | none => exact .refused _
      | some c' =>
          obtain ⟨running, rfl⟩ := toPaused?_eq_some_iff.mp h
          exact .paused running
  | resume =>
      rw [call, resume]
      cases h : c.toRunning? with
      | none => exact .refused _
      | some c' =>
          obtain ⟨paused, rfl⟩ := toRunning?_eq_some_iff.mp h
          exact .resumed paused
  | cancel =>
      rw [call, cancel]
      split
      · exact .refused _
      · next going =>
          split
          · next idle => exact .ended idle
          · next started =>
              exact .cancelled (ReplayStatus.isActive_of_going (by simpa using going) started)

/-- A call publishes at most a change of the status. -/
theorem event_call {c : Control} {x : ControlCall} {e : ReplayEvent}
    (h : (c.call x).event = some e) : ∃ p, e = .statusChanged p := by
  have answers := c.answers_call x
  generalize c.call x = reply at answers h
  cases answers with
  | refused => cases h
  | paused _ => exact ⟨_, (Option.some.inj h).symm⟩
  | resumed _ => exact ⟨_, (Option.some.inj h).symm⟩
  | ended _ => exact ⟨_, (Option.some.inj h).symm⟩
  | cancelled _ => cases h

/-- No call takes effect when the replay is over. -/
theorem call_of_terminal {c : Control} (terminal : c.status.isTerminal = true)
    (x : ControlCall) : c.call x = ⟨false, none, c⟩ := by
  have answers := c.answers_call x
  generalize c.call x = reply at answers
  cases answers with
  | refused => rfl
  | paused h => rw [h] at terminal; cases terminal
  | resumed h => rw [h] at terminal; cases terminal
  | ended h => rw [h] at terminal; cases terminal
  | cancelled h => rw [h.not_terminal] at terminal; cases terminal

/-- A call changes nothing of the status of a replay that is over. -/
theorem status_call_of_terminal {c : Control} (terminal : c.status.isTerminal = true)
    (x : ControlCall) : (c.call x).control.status = c.status := by
  rw [call_of_terminal terminal]

/-- Among the calls, only a cancel ends a replay, and only an idle one. -/
theorem terminal_call {c : Control} {x : ControlCall} (going : c.status.isTerminal = false)
    (terminal : (c.call x).control.status.isTerminal = true) : x = .cancel ∧ c.status = .idle := by
  have answers := c.answers_call x
  generalize c.call x = reply at answers terminal
  cases answers with
  | refused => exact absurd (going.symm.trans terminal) Bool.false_ne_true
  | paused _ => cases terminal
  | resumed _ => cases terminal
  | ended h => exact ⟨rfl, h⟩
  | cancelled _ => exact absurd (going.symm.trans terminal) Bool.false_ne_true

/-! ## Calls to a replay that goes on -/

/-- What calls leave as it was while a replay goes on. -/
structure Keeps (c c' : Control) : Prop where
  /-- The replay still goes on. -/
  active : c'.status.IsActive
  /-- No more than its status is another. -/
  progress : c'.progress = { c.progress with status := c'.status }

theorem Keeps.refl {c : Control} (h : c.status.IsActive) : c.Keeps c := ⟨h, rfl⟩

theorem Keeps.trans {a b c : Control} (hab : a.Keeps b) (hbc : b.Keeps c) : a.Keeps c where
  active := hbc.active
  progress := by rw [hbc.progress, hab.progress]

theorem keeps_call {c : Control} (active : c.status.IsActive) (x : ControlCall) :
    c.Keeps (c.call x).control := by
  have answers := c.answers_call x
  generalize c.call x = reply at answers
  cases answers with
  | refused => exact .refl active
  | paused _ => exact ⟨.inr rfl, rfl⟩
  | resumed _ => exact ⟨.inl rfl, rfl⟩
  | ended h => exact absurd h active.not_idle
  | cancelled _ => exact ⟨active, rfl⟩

theorem keeps_calls {c : Control} (active : c.status.IsActive) (xs : List ControlCall) :
    c.Keeps (c.calls xs) := by
  induction xs generalizing c with
  | nil => exact .refl active
  | cons x rest ih =>
      have keeps := keeps_call active x
      exact keeps.trans (ih keeps.active)

/-! ## Cancels -/

theorem isCancelled_call_iff (c : Control) (x : ControlCall) :
    (c.call x).control.isCancelled = true ↔
      c.isCancelled = true ∨ x = .cancel ∧ (c.call x).accepted = true := by
  have answers := c.answers_call x
  generalize c.call x = reply at answers ⊢
  cases answers with
  | refused => simp
  | paused _ => simp [closeGate, withStatus]
  | resumed _ => simp [openGate, withStatus]
  | ended _ => simp
  | cancelled _ => simp

/-- A cancel is accepted if and only if the journal says so. -/
theorem isCancelled_calls_iff (c : Control) (xs : List ControlCall) :
    (c.calls xs).isCancelled = true ↔
      c.isCancelled = true ∨ .called .cancel true ∈ JournalEntry.ofCalls c xs := by
  induction xs generalizing c with
  | nil => simp [calls, JournalEntry.ofCalls]
  | cons x rest ih =>
      rw [calls, ih, isCancelled_call_iff]
      simp only [JournalEntry.ofCalls, List.mem_cons, List.mem_append, List.mem_map,
        JournalEntry.called.injEq]
      grind

end Control

/-! ## The journal -/

theorem JournalEntry.mem_ofCalls {c : Control} {xs : List ControlCall} {e : JournalEntry}
    (h : e ∈ ofCalls c xs) :
    (∃ x accepted, e = .called x accepted) ∨ ∃ p, e = .published (.statusChanged p) := by
  induction xs generalizing c with
  | nil => cases h
  | cons x rest ih =>
      simp only [ofCalls, List.mem_cons, List.mem_append, List.mem_map, Option.mem_toList] at h
      rcases h with rfl | ⟨event, hevent, rfl⟩ | h
      · exact .inl ⟨_, _, rfl⟩
      · obtain ⟨p, rfl⟩ := Control.event_call hevent
        exact .inr ⟨p, rfl⟩
      · exact ih h

end UiReplay
