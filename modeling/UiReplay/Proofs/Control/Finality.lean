import UiReplay.Proofs.Control.Gate

/-!
# Whether the end is final

An engine that executes a workflow looks at the status first and writes it afterwards.
Remote controls on other threads may call in between.  `Threads.Takes` lists what the
threads do at one point, each time that one of them holds the progress, and `Threads.Goes`
puts these in any order that the threads can take.

The status of a replay that is over changes only when an execution begins.  An execution is
not admitted then, but one that was admitted before begins all the same.  So the end is
final until the engine is reset, unless a cancel ends an idle engine between the look of an
execution and its beginning (`Threads.isFinal_iff`).  Nothing hinders such a cancel
(`Threads.running_after_cancelled`).
-/

namespace UiReplay

/-! ## Threads -/

/-- Where the executing thread stands. -/
inductive Stance where
  /-- It executes nothing. -/
  | resting
  /-- It has looked at the status and goes on to begin. -/
  | admitted (w : Workflow)
  /-- It has begun. -/
  | underway

/-- A control and the thread that executes workflows on it. -/
structure Threads where
  control : Control
  stance : Stance

/-- What a thread does while it holds the progress. -/
inductive Beat where
  /-- The executing thread looks whether it may start a workflow. -/
  | look (w : Workflow)
  | begin
  | enter (index : Nat) (name : String)
  | add (r : StepResult)
  | finish (status : ReplayStatus) (failure : Option StepFailure)
  /-- The executing thread is stopped, and leaves the replay as it is. -/
  | abandon
  | call (x : ControlCall)
  | reset

namespace Threads

/-- What can happen next.  The executing thread does one thing after the other, and a
remote control may call at any time. -/
inductive Takes : Threads → Beat → Threads → Prop where
  | accept {c : Control} {w : Workflow} (h : Engine.refusal? c w = none) :
      Takes ⟨c, .resting⟩ (.look w) ⟨c, .admitted w⟩
  | refuse {c : Control} {w : Workflow} {r : Refusal} (h : Engine.refusal? c w = some r) :
      Takes ⟨c, .resting⟩ (.look w) ⟨c, .resting⟩
  | begin {c : Control} {w : Workflow} :
      Takes ⟨c, .admitted w⟩ .begin ⟨c.update fun p => p.start w, .underway⟩
  | enter {c : Control} (index : Nat) (name : String) :
      Takes ⟨c, .underway⟩ (.enter index name) ⟨c.update fun p => p.enter index name, .underway⟩
  | add {c : Control} (r : StepResult) :
      Takes ⟨c, .underway⟩ (.add r) ⟨c.update fun p => p.add r, .underway⟩
  | finish {c : Control} {status : ReplayStatus} (terminal : status.isTerminal = true)
      (failure : Option StepFailure) :
      Takes ⟨c, .underway⟩ (.finish status failure)
        ⟨c.update fun p => p.finish status failure, .resting⟩
  | abandon {c : Control} : Takes ⟨c, .underway⟩ .abandon ⟨c, .resting⟩
  | call {c : Control} {stance : Stance} (x : ControlCall) :
      Takes ⟨c, stance⟩ (.call x) ⟨(c.call x).control, stance⟩
  | reset {c : Control} : Takes ⟨c, .resting⟩ .reset ⟨.fresh, .resting⟩

/-- A fresh engine. -/
def start : Threads := ⟨.fresh, .resting⟩

/-- What can happen to a fresh engine, in order. -/
inductive Goes : List Beat → Threads → Prop where
  | nil : Goes [] start
  | snoc {done : List Beat} {s t : Threads} {b : Beat} (h : Goes done s) (next : s.Takes b t) :
      Goes (done ++ [b]) t

/-! ## Beats in order -/

theorem Takes.unique {s t u : Threads} {b : Beat} (ht : s.Takes b t) (hu : s.Takes b u) :
    t = u := by
  cases ht with
  | accept h =>
      cases hu with
      | accept _ => rfl
      | refuse h' =>
          rw [h] at h'
          cases h'
  | refuse h =>
      cases hu with
      | accept h' =>
          rw [h] at h'
          cases h'
      | refuse _ => rfl
  | begin => cases hu; rfl
  | enter _ _ => cases hu; rfl
  | add _ => cases hu; rfl
  | finish _ _ => cases hu; rfl
  | abandon => cases hu; rfl
  | call _ => cases hu; rfl
  | reset => cases hu; rfl

theorem concat_inj {xs ys : List Beat} {a b : Beat} (h : xs ++ [a] = ys ++ [b]) :
    xs = ys ∧ a = b := by
  obtain ⟨hxs, hab⟩ := List.append_inj' h rfl
  exact ⟨hxs, (List.cons.inj hab).1⟩

theorem append_eq_concat {before during done : List Beat} {b : Beat}
    (h : before ++ during = done ++ [b]) :
    during = [] ∨ ∃ rest, during = rest ++ [b] ∧ before ++ rest = done := by
  rcases List.eq_nil_or_concat during with rfl | ⟨rest, b', rfl⟩
  · exact .inl rfl
  · rw [List.concat_eq_append, ← List.append_assoc] at h
    obtain ⟨hdone, rfl⟩ := concat_inj h
    exact .inr ⟨rest, List.concat_eq_append, hdone⟩

theorem Goes.unique {beats : List Beat} {s t : Threads} (hs : Goes beats s) (ht : Goes beats t) :
    s = t := by
  induction hs generalizing t with
  | nil =>
      generalize hbeats : ([] : List Beat) = beats at ht
      cases ht with
      | nil => rfl
      | snoc _ _ => simp at hbeats
  | @snoc done s s' b hs next ih =>
      generalize hbeats : done ++ [b] = beats at ht
      cases ht with
      | nil => simp at hbeats
      | snoc ht next' =>
          obtain ⟨rfl, rfl⟩ := concat_inj hbeats
          rw [ih ht] at next
          exact next.unique next'

/-- What holds at one point and is kept by every beat after it holds from there on. -/
theorem Goes.keeps {P : List Beat → Threads → Prop} {before during : List Beat} {s t : Threads}
    (hs : Goes before s) (nil : P [] s)
    (snoc : ∀ {during b u v}, Goes (before ++ during) u → P during u → u.Takes b v →
      P (during ++ [b]) v)
    (ht : Goes (before ++ during) t) : P during t := by
  generalize hbeats : before ++ during = beats at ht
  induction ht generalizing during with
  | nil =>
      obtain ⟨rfl, rfl⟩ := List.append_eq_nil_iff.mp hbeats
      rw [hs.unique .nil] at nil
      exact nil
  | @snoc done u v b hu next ih =>
      rcases append_eq_concat hbeats with rfl | ⟨during, rfl, rfl⟩
      · rw [List.append_nil] at hbeats
        subst hbeats
        rw [hs.unique (hu.snoc next)] at nil
        exact nil
      · exact snoc hu (ih rfl) next

/-- What can happen starts with what can happen. -/
theorem Goes.of_append {before after : List Beat} {t : Threads} (h : Goes (before ++ after) t) :
    ∃ s, Goes before s := by
  generalize hbeats : before ++ after = beats at h
  induction h generalizing after with
  | nil =>
      obtain ⟨rfl, rfl⟩ := List.append_eq_nil_iff.mp hbeats
      exact ⟨_, .nil⟩
  | @snoc done u v b hu next ih =>
      rcases append_eq_concat hbeats with rfl | ⟨after, rfl, rfl⟩
      · rw [List.append_nil] at hbeats
        subst hbeats
        exact ⟨v, hu.snoc next⟩
      · exact ih rfl

theorem Goes.of_snoc {done : List Beat} {b : Beat} {t : Threads} (h : Goes (done ++ [b]) t) :
    ∃ s, Goes done s ∧ s.Takes b t := by
  generalize hbeats : done ++ [b] = beats at h
  cases h with
  | nil => simp at hbeats
  | snoc hs next =>
      obtain ⟨rfl, rfl⟩ := concat_inj hbeats
      exact ⟨_, hs, next⟩

/-! ## Statuses -/

/-- Once it is over, the status stays as it is until the engine is reset. -/
def IsFinal (beats : List Beat) : Prop :=
  ∀ before during after s t, beats = before ++ (during ++ after) → Goes before s →
    Goes (before ++ during) t → s.control.status.isTerminal = true → .reset ∉ during →
    t.control.status = s.control.status

/-- A cancel ends an idle engine that has admitted an execution, and the execution begins
all the same. -/
def IsOvertaken (beats : List Beat) : Prop :=
  ∃ before during after s w, beats = before ++ .call .cancel :: (during ++ .begin :: after) ∧
    Goes before s ∧ s.stance = .admitted w ∧ s.control.status = .idle

/-- What is true after some beats. -/
structure Traced (done : List Beat) (s : Threads) : Prop where
  /-- A replay that has begun is not over. -/
  underway : s.stance = .underway → s.control.status.IsActive
  /-- If an execution is admitted although the engine is over, a cancel has overtaken it. -/
  admitted : ∀ w, s.stance = .admitted w → s.control.status.isTerminal = true →
    ∃ before during s₀, done = before ++ .call .cancel :: during ∧ Goes before s₀ ∧
      s₀.stance = .admitted w ∧ s₀.control.status = .idle

/-- An engine that is over admits nothing. -/
theorem not_terminal_of_accept {c : Control} {w : Workflow} (h : Engine.refusal? c w = none) :
    c.status.isTerminal = false := by
  cases ended : c.status.isTerminal with
  | false => rfl
  | true =>
      rw [Engine.refusal?, if_pos ended] at h
      cases h

theorem Traced.of_resting {done : List Beat} {c : Control} : Traced done ⟨c, .resting⟩ where
  underway := by
    intro h
    cases h
  admitted := by
    intro w h
    cases h

theorem Traced.of_underway {done : List Beat} {c : Control} (active : c.status.IsActive) :
    Traced done ⟨c, .underway⟩ where
  underway := fun _ => active
  admitted := by
    intro w h
    cases h

theorem Traced.takes {done : List Beat} {s t : Threads} {b : Beat} (hs : Goes done s)
    (h : Traced done s) (next : s.Takes b t) : Traced (done ++ [b]) t := by
  cases next with
  | accept haccept =>
      refine ⟨?_, ?_⟩
      · intro hstance
        cases hstance
      · intro w _ ended
        exact absurd ((not_terminal_of_accept haccept).symm.trans ended) Bool.false_ne_true
  | refuse _ => exact .of_resting
  | begin => exact .of_underway (.inl rfl)
  | enter _ _ => exact .of_underway (h.underway rfl)
  | add _ => exact .of_underway (h.underway rfl)
  | finish _ _ => exact .of_resting
  | abandon => exact .of_resting
  | reset => exact .of_resting
  | @call c stance x =>
      refine ⟨fun hstance => (Control.keeps_call (h.underway hstance) x).active, ?_⟩
      intro w hstance ended
      cases before : c.status.isTerminal with
      | true =>
          obtain ⟨before, during, s₀, rfl, rest⟩ := h.admitted w hstance before
          refine ⟨before, during ++ [.call x], s₀, ?_, rest⟩
          rw [List.append_assoc, List.cons_append]
      | false =>
          obtain ⟨rfl, idle⟩ := Control.terminal_call before ended
          exact ⟨done, [], ⟨c, stance⟩, rfl, hs, hstance, idle⟩

theorem Goes.traced {done : List Beat} {s : Threads} (h : Goes done s) : Traced done s := by
  induction h with
  | nil => exact .of_resting
  | snoc h next ih => exact ih.takes h next

/-- The status of an engine that is over changes only when an execution begins. -/
theorem Takes.status_of_terminal {done : List Beat} {s t : Threads} {b : Beat}
    (next : s.Takes b t) (hs : Goes done s) (ended : s.control.status.isTerminal = true)
    (noBegin : b ≠ .begin) (noReset : b ≠ .reset) : t.control.status = s.control.status := by
  cases next with
  | accept _ => rfl
  | refuse _ => rfl
  | begin => exact absurd rfl noBegin
  | enter _ _ => rfl
  | add _ => rfl
  | finish _ _ =>
      have active := hs.traced.underway rfl
      exact absurd (active.not_terminal.symm.trans ended) Bool.false_ne_true
  | abandon => rfl
  | call x => exact Control.status_call_of_terminal ended x
  | reset => exact absurd rfl noReset

theorem status_stays {before during : List Beat} {s t : Threads} (hs : Goes before s)
    (ended : s.control.status.isTerminal = true) (ht : Goes (before ++ during) t)
    (noBegin : .begin ∉ during) (noReset : .reset ∉ during) :
    t.control.status = s.control.status := by
  refine hs.keeps (P := fun during t => .begin ∉ during → .reset ∉ during →
    t.control.status = s.control.status) (fun _ _ => rfl) ?_ ht noBegin noReset
  intro during b u v hu ih next noBegin noReset
  have same := ih (fun h => noBegin (List.mem_append_left _ h))
    (fun h => noReset (List.mem_append_left _ h))
  rw [next.status_of_terminal hu (by rw [same]; exact ended), same]
  · rintro rfl
    exact noBegin (by simp)
  · rintro rfl
    exact noReset (by simp)

/-- The executing thread begins what it has admitted before it does anything else. -/
theorem stance_stays {before during : List Beat} {s t : Threads} {w : Workflow}
    (hs : Goes before s) (admitted : s.stance = .admitted w) (ht : Goes (before ++ during) t)
    (noBegin : .begin ∉ during) : t.stance = .admitted w ∧ .reset ∉ during := by
  refine hs.keeps (P := fun during t => .begin ∉ during →
    t.stance = .admitted w ∧ .reset ∉ during) (fun _ => ⟨admitted, List.not_mem_nil⟩) ?_ ht noBegin
  intro during b u v _ ih next noBegin
  obtain ⟨hstance, noReset⟩ := ih fun h => noBegin (List.mem_append_left _ h)
  cases next with
  | begin => exact absurd (by simp) noBegin
  | call x => exact ⟨hstance, by simpa using noReset⟩
  | _ => cases hstance

theorem Takes.cancel_idle {s t : Threads} (h : s.Takes (.call .cancel) t)
    (idle : s.control.status = .idle) :
    t.stance = s.stance ∧ t.control.status = .cancelled := by
  cases h with
  | call x =>
      refine ⟨rfl, ?_⟩
      rw [Control.call, Control.cancel, if_neg (by rw [idle]; simp [ReplayStatus.isTerminal]),
        if_pos idle]
      rfl

theorem Takes.status_begin {s t : Threads} (h : s.Takes .begin t) :
    t.control.status = .running := by
  cases h with
  | begin => rfl

theorem exists_first_begin (during after : List Beat) :
    ∃ first rest, during ++ .begin :: after = first ++ .begin :: rest ∧ .begin ∉ first :=
  List.eq_append_cons_of_mem (List.mem_append_right during List.mem_cons_self)

/-- No execution begins on an engine that is over, unless a cancel has overtaken it. -/
theorem not_begin {beats before during after : List Beat} {s t : Threads}
    (hbeats : beats = before ++ (during ++ after)) (hs : Goes before s)
    (ht : Goes (before ++ during) t) (ended : s.control.status.isTerminal = true)
    (noReset : .reset ∉ during) (straight : ¬ IsOvertaken beats) : .begin ∉ during := by
  intro hbegin
  obtain ⟨first, rest, rfl, noBegin⟩ := List.eq_append_cons_of_mem hbegin
  have hsplit : before ++ (first ++ .begin :: rest) = before ++ first ++ [.begin] ++ rest := by simp
  rw [hsplit] at ht
  obtain ⟨v, hv⟩ := ht.of_append
  obtain ⟨u, hu, next⟩ := hv.of_snoc
  have same := status_stays hs ended hu noBegin fun h => noReset (List.mem_append_left _ h)
  rw [← same] at ended
  cases next with
  | begin =>
      obtain ⟨earlier, since, s₀, hfirst, hs₀, admitted, idle⟩ := hu.traced.admitted _ rfl ended
      refine straight ⟨earlier, since, rest ++ after, s₀, _, ?_, hs₀, admitted, idle⟩
      rw [hbeats, ← List.append_assoc, hsplit, hfirst]
      simp

/-- An execution that was overtaken begins on an engine that is over. -/
theorem IsOvertaken.not_isFinal {beats : List Beat} {last : Threads} (legal : Goes beats last)
    (overtaken : IsOvertaken beats) : ¬ IsFinal beats := by
  intro final
  obtain ⟨before, during, after, s, w, hbeats, hs, admitted, idle⟩ := overtaken
  obtain ⟨first, rest, hfirst, noBegin⟩ := exists_first_begin during after
  have hsplit : beats = before ++ [.call .cancel] ++ (first ++ [.begin] ++ rest) := by
    rw [hbeats, hfirst]
    simp
  rw [hsplit, ← List.append_assoc] at legal
  obtain ⟨v, hv⟩ := legal.of_append
  have hv' := hv
  rw [← List.append_assoc] at hv'
  obtain ⟨u, hu, begins⟩ := hv'.of_snoc
  obtain ⟨s₁, hs₁⟩ := hu.of_append
  obtain ⟨s', hs', cancels⟩ := hs₁.of_snoc
  rw [hs'.unique hs] at cancels
  -- The cancel ends the engine, and the thread has no choice but to begin.
  obtain ⟨hstance, cancelled⟩ := cancels.cancel_idle idle
  have ended : s₁.control.status.isTerminal = true := by rw [cancelled]; rfl
  have noReset := (stance_stays hs₁ (hstance.trans admitted) hu noBegin).2
  have same := final _ _ rest s₁ v hsplit hs₁ hv ended (by simpa using noReset)
  rw [begins.status_begin, cancelled] at same
  cases same

/-- The end is final if and only if no cancel has overtaken an execution. -/
theorem isFinal_iff {beats : List Beat} {last : Threads} (legal : Goes beats last) :
    IsFinal beats ↔ ¬ IsOvertaken beats := by
  constructor
  · intro final overtaken
    exact overtaken.not_isFinal legal final
  · intro straight before during after s t hbeats hs ht ended noReset
    have noBegin := not_begin hbeats hs ht ended noReset straight
    exact status_stays hs ended ht noBegin noReset

theorem isFinal_iff_of_finished :
    ∃ w last, Goes [.look w, .begin, .finish .completed none] last ∧
      (IsFinal [.look w, .begin, .finish .completed none] ↔
        ¬ IsOvertaken [.look w, .begin, .finish .completed none]) := by
  let w : Workflow := { id := ⟨0⟩ }
  have h₁ : Goes [.look w] ⟨.fresh, .admitted w⟩ := Goes.nil.snoc (.accept rfl)
  have h₂ : Goes [.look w, .begin] _ := h₁.snoc .begin
  have h₃ : Goes [.look w, .begin, .finish .completed none] _ := h₂.snoc (.finish rfl none)
  exact ⟨w, _, h₃, isFinal_iff h₃⟩

/-- An idle engine is cancelled between the look of an execution and its beginning: it says
that it was cancelled, and then that it runs. -/
theorem running_after_cancelled :
    ∃ w s t, Goes [.look w, .call .cancel] s ∧ s.control.status = .cancelled ∧
      Goes [.look w, .call .cancel, .begin] t ∧ t.control.status = .running ∧
      ¬ IsFinal [.look w, .call .cancel, .begin] := by
  let w : Workflow := { id := ⟨0⟩, steps := [{ id := ⟨1⟩, action := .wait (.forMs 10) }] }
  have h₁ : Goes [.look w] ⟨.fresh, .admitted w⟩ := Goes.nil.snoc (.accept rfl)
  have h₂ : Goes [.look w, .call .cancel] _ := h₁.snoc (.call .cancel)
  have h₃ : Goes [.look w, .call .cancel, .begin] _ := h₂.snoc .begin
  refine ⟨w, _, _, h₂, rfl, h₃, rfl, ?_⟩
  intro final
  cases final _ [.begin] [] _ _ rfl h₂ h₃ rfl (by simp)

end Threads

end UiReplay
