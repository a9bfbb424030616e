import Mathlib.Logic.Relation
import UiReplay.Proofs.Control.Calls
import UiReplay.Replay.Workflow

/-!
# Pauses and resumes of many callers

A pause and a resume change the status first and write the gate afterwards.  Calls that
come in one after the other keep the gate closed if and only if the replay is paused
(`Control.agrees_calls`).

Many callers at once may mix the parts of their calls (`Crowd`), and then the gate is as
the last write left it, which may be that of an older call.  The calls that are accepted
take turns, since a pause needs a running replay and a resume a paused one.  So the gate
agrees with the status if and only if an even number of calls was accepted after the one
that wrote it last (`Crowd.agrees_iff`).  A pause that is overtaken by a resume leaves a
running replay at a closed gate (`Crowd.held_while_running`).
-/

namespace UiReplay

/-! ## Calls in a row -/

namespace Control

/-- The gate is closed if and only if the replay is paused. -/
def Agrees (c : Control) : Prop := c.isHeld = true ↔ c.status = .paused

/-- The gate is open when a replay starts. -/
theorem agrees_start (w : Workflow) : (fresh.update fun p => p.start w).Agrees := by
  constructor
  · intro held
    cases held
  · intro paused
    cases paused

theorem agrees_call {c : Control} (active : c.status.IsActive) (h : c.Agrees) (x : ControlCall) :
    (c.call x).control.Agrees := by
  have answers := c.answers_call x
  generalize c.call x = reply at answers
  cases answers with
  | refused => exact h
  | paused _ => exact ⟨fun _ => rfl, fun _ => rfl⟩
  | resumed _ =>
      refine ⟨?_, ?_⟩
      · intro held
        cases held
      · intro paused
        cases paused
  | ended idle => exact absurd idle active.not_idle
  | cancelled _ => exact h

/-- Calls that come in one after the other keep gate and status together. -/
theorem agrees_calls {c : Control} (active : c.status.IsActive) (h : c.Agrees)
    (xs : List ControlCall) : (c.calls xs).Agrees := by
  induction xs generalizing c with
  | nil => exact h
  | cons x rest ih => exact ih (keeps_call active x).active (agrees_call active h x)

theorem status_cancel {c : Control} (active : (c.call .cancel).control.status.IsActive) :
    (c.call .cancel).control.status = c.status := by
  have answers := c.answers_call .cancel
  generalize c.call .cancel = reply at answers active ⊢
  cases answers with
  | refused => rfl
  | ended _ => rcases active with h | h <;> cases h
  | cancelled _ => rfl

theorem isHeld_cancel (c : Control) : (c.call .cancel).control.isHeld = c.isHeld := by
  have answers := c.answers_call .cancel
  generalize c.call .cancel = reply at answers ⊢
  cases answers <;> rfl

end Control

/-! ## Calls at once -/

/-- A call whose write to the gate is still to come. -/
structure HalfCall where
  /-- Its number among the calls that were accepted. -/
  number : Nat
  /-- Whether it closes the gate. -/
  closes : Bool

/-- The write of a call to the gate. -/
def HalfCall.write (half : HalfCall) (c : Control) : Control :=
  if half.closes then c.closeGate else c.openGate

theorem HalfCall.status_write (half : HalfCall) (c : Control) :
    (half.write c).status = c.status := by
  unfold write
  split <;> rfl

/-- A control with the calls that are half done. -/
structure Crowd where
  /-- What is shared. -/
  control : Control
  /-- The calls that are half done. -/
  halves : List HalfCall := []
  /-- How many calls were accepted. -/
  accepted : Nat := 0
  /-- The number of the call that wrote the gate last, zero before the first one. -/
  writer : Nat := 0

namespace Crowd

/-- A call is accepted and has changed the status. -/
def begin (s : Crowd) (c : Control) (closes : Bool) : Crowd where
  control := c
  halves := ⟨s.accepted + 1, closes⟩ :: s.halves
  accepted := s.accepted + 1
  writer := s.writer

/-- A call writes the gate and is done, and others are still half done. -/
def land (s : Crowd) (half : HalfCall) (others : List HalfCall) : Crowd where
  control := half.write s.control
  halves := others
  accepted := s.accepted
  writer := half.number

/-- What a caller or the replay does at one point.  A call that is refused changes nothing. -/
inductive Turn (s : Crowd) : Crowd → Prop where
  | pause {c : Control} (h : s.control.toPaused? = some c) : Turn s (s.begin c true)
  | resume {c : Control} (h : s.control.toRunning? = some c) : Turn s (s.begin c false)
  /-- A call that is half done writes the gate. -/
  | write (before after : List HalfCall) {half : HalfCall}
      (h : s.halves = before ++ half :: after) : Turn s (s.land half (before ++ after))
  | cancel : Turn s { s with control := (s.control.call .cancel).control }
  | enter (index : Nat) (name : String) :
      Turn s { s with control := s.control.update fun p => p.enter index name }
  | add (r : StepResult) : Turn s { s with control := s.control.update fun p => p.add r }
  | finish {status : ReplayStatus} (terminal : status.isTerminal = true)
      (failure : Option StepFailure) :
      Turn s { s with control := s.control.update fun p => p.finish status failure }

/-- A replay that has just started on a fresh control. -/
def start (w : Workflow) : Crowd where
  control := Control.fresh.update fun p => p.start w

/-- What callers and a replay of a workflow can lead to. -/
def Reachable (w : Workflow) (s : Crowd) : Prop := Relation.ReflTransGen Turn (start w) s

/-- What the numbers of calls say: the calls with odd numbers are the pauses. -/
structure Counted (s : Crowd) : Prop where
  /-- The status is that of the call that was accepted last. -/
  status : s.control.status.IsActive → (s.control.status = .paused ↔ s.accepted % 2 = 1)
  /-- The gate is as the call left it that wrote it last. -/
  gate : s.control.isHeld = true ↔ s.writer % 2 = 1
  /-- That call was accepted. -/
  writer : s.writer ≤ s.accepted
  /-- So were the calls that are half done. -/
  halves : ∀ half ∈ s.halves, half.number ≤ s.accepted ∧
    (half.closes = true ↔ half.number % 2 = 1)

theorem counted_start (w : Workflow) : (start w).Counted where
  status := by
    intro _
    refine ⟨?_, ?_⟩
    · intro h
      cases h
    · intro h
      cases h
  gate := by
    refine ⟨?_, ?_⟩
    · intro h
      cases h
    · intro h
      cases h
  writer := Nat.le_refl 0
  halves := by
    intro half h
    cases h

/-- What neither accepts a call nor writes the gate changes no number. -/
theorem Counted.keep {s : Crowd} {c : Control} (h : s.Counted)
    (status : c.status.IsActive → c.status = s.control.status)
    (gate : c.isHeld = s.control.isHeld) : Counted { s with control := c } where
  status := by
    intro active
    have same := status active
    rw [same] at active
    rw [same]
    exact h.status active
  gate := by rw [gate]; exact h.gate
  writer := h.writer
  halves := h.halves

/-- The calls that are accepted take turns. -/
theorem Counted.begin {s : Crowd} {c : Control} {closes : Bool} (h : s.Counted)
    (gate : c.isHeld = s.control.isHeld)
    (turn : c.status = .paused ↔ (s.accepted + 1) % 2 = 1)
    (kind : closes = true ↔ (s.accepted + 1) % 2 = 1) : (s.begin c closes).Counted where
  status := fun _ => turn
  gate := by
    show c.isHeld = true ↔ s.writer % 2 = 1
    rw [gate]
    exact h.gate
  writer := Nat.le_succ_of_le h.writer
  halves := by
    intro half hhalf
    rcases List.mem_cons.mp hhalf with rfl | hhalf
    · exact ⟨Nat.le_refl _, kind⟩
    · exact ⟨Nat.le_succ_of_le (h.halves half hhalf).1, (h.halves half hhalf).2⟩

/-- The gate is as the call leaves it that writes it. -/
theorem Counted.land {s : Crowd} {before after : List HalfCall} {half : HalfCall}
    (h : s.Counted) (hs : s.halves = before ++ half :: after) :
    (s.land half (before ++ after)).Counted where
  status := by
    show (half.write s.control).status.IsActive →
      ((half.write s.control).status = .paused ↔ s.accepted % 2 = 1)
    rw [HalfCall.status_write]
    exact h.status
  gate := by
    show (half.write s.control).isHeld = true ↔ half.number % 2 = 1
    rw [← (h.halves half (by rw [hs]; simp)).2]
    unfold HalfCall.write
    cases half.closes <;> simp [Control.closeGate, Control.openGate]
  writer := (h.halves half (by rw [hs]; simp)).1
  halves := by
    intro other hother
    refine h.halves other ?_
    rw [hs]
    rcases List.mem_append.mp hother with hother | hother
    · exact List.mem_append_left _ hother
    · exact List.mem_append_right _ (List.mem_cons_of_mem _ hother)

theorem Counted.turn {s t : Crowd} (turn : s.Turn t) (h : s.Counted) : t.Counted := by
  cases turn with
  | pause hc =>
      obtain ⟨running, rfl⟩ := Control.toPaused?_eq_some_iff.mp hc
      have even : s.accepted % 2 ≠ 1 := by
        intro odd
        cases running.symm.trans ((h.status (.inl running)).mpr odd)
      have odd : (s.accepted + 1) % 2 = 1 := by omega
      exact h.begin rfl ⟨fun _ => odd, fun _ => rfl⟩ ⟨fun _ => odd, fun _ => rfl⟩
  | resume hc =>
      obtain ⟨paused, rfl⟩ := Control.toRunning?_eq_some_iff.mp hc
      have odd := (h.status (.inr paused)).mp paused
      have even : (s.accepted + 1) % 2 ≠ 1 := by omega
      refine h.begin rfl ⟨?_, fun odd => absurd odd even⟩ ⟨?_, fun odd => absurd odd even⟩
      · intro hstatus
        cases hstatus
      · intro hcloses
        cases hcloses
  | write before after hs => exact h.land hs
  | cancel => exact h.keep Control.status_cancel (Control.isHeld_cancel _)
  | enter index name => exact h.keep (fun _ => rfl) rfl
  | add r => exact h.keep (fun _ => rfl) rfl
  | finish terminal failure =>
      refine h.keep (fun active => ?_) rfl
      exact absurd terminal (Bool.eq_false_iff.mp active.not_terminal)

/-- Whatever the order of their steps is, callers keep count. -/
theorem Reachable.counted {w : Workflow} {s : Crowd} (h : Reachable w s) : s.Counted := by
  induction h with
  | refl => exact counted_start w
  | tail _ turn ih => exact ih.turn turn

/-- As long as a replay goes on, the gate is closed if and only if the replay is paused,
exactly when an even number of calls was accepted after the one that wrote the gate last. -/
theorem agrees_iff {w : Workflow} {s : Crowd} (h : Reachable w s)
    (active : s.control.status.IsActive) :
    s.control.Agrees ↔ (s.accepted - s.writer) % 2 = 0 := by
  have counted := h.counted
  have hwriter := counted.writer
  rw [Control.Agrees, counted.gate, counted.status active]
  omega

theorem agrees_iff_of_pause :
    ∃ w s, Reachable w s ∧ s.control.status.IsActive ∧
      (s.control.Agrees ↔ (s.accepted - s.writer) % 2 = 0) := by
  let w : Workflow := { id := ⟨0⟩ }
  let s₁ := (start w).begin ((start w).control.withStatus .paused) true
  let s₂ := s₁.land ⟨1, true⟩ []
  have h₁ : (start w).Turn s₁ := .pause rfl
  have h₂ : s₁.Turn s₂ := Turn.write [] [] rfl
  have active : s₂.control.status.IsActive := .inr rfl
  exact ⟨w, s₂, .head h₁ (.single h₂), active, agrees_iff (.head h₁ (.single h₂)) active⟩

/-- A pause changes the status, then a resume is done, and then the pause closes the gate:
no call is half done, the replay says that it runs, and it is held at the gate. -/
theorem held_while_running :
    ∃ w s, Reachable w s ∧ s.halves = [] ∧ s.control.status = .running ∧
      ¬ s.control.Agrees ∧ s.control.passage? = none ∧ s.control.resume.accepted = false := by
  let w : Workflow := { id := ⟨0⟩, steps := [{ id := ⟨1⟩, action := .wait (.forMs 10) }] }
  let s₁ := (start w).begin ((start w).control.withStatus .paused) true
  let s₂ := s₁.begin (s₁.control.withStatus .running) false
  let s₃ := s₂.land ⟨2, false⟩ [⟨1, true⟩]
  let s₄ := s₃.land ⟨1, true⟩ []
  have h₁ : (start w).Turn s₁ := .pause rfl
  have h₂ : s₁.Turn s₂ := .resume rfl
  have h₃ : s₂.Turn s₃ := Turn.write [] [⟨1, true⟩] rfl
  have h₄ : s₃.Turn s₄ := Turn.write [] [] rfl
  refine ⟨w, s₄, .head h₁ (.head h₂ (.head h₃ (.single h₄))), rfl, rfl, ?_, rfl, rfl⟩
  intro agrees
  cases agrees.mp rfl

end Crowd

end UiReplay
