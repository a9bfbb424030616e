import UiReplay.Proofs.Replay.Hearing
import UiReplay.Replay.Rehearsal

/-!
# What a cancel does to a replay

Once a cancel was accepted a replay is not suspended any more, so the device gets no
further request.  No further step starts, whatever calls come in, and at most one more
result is added.  The replay ends cancelled (`replay_cancelled`).

The journal holds the cancel with its reply, so this is a statement about what comes
behind such an entry (`Heeds`).  The invariant is `Engine.Obedient`: at most one result
comes behind a cancel, and only at a spot that has just got one.
-/

namespace UiReplay

/-! ## Behind a cancel -/

/-- Whether an entry may come behind a cancel: it neither tells of a suspension nor of a
step that starts. -/
def JournalEntry.IsSilent : JournalEntry → Prop
  | .suspended _ => False
  | .published (.stepStarted _) => False
  | .published _ => True
  | .called _ _ => True

/-- Whether an entry tells of a result. -/
def JournalEntry.isCompletion : JournalEntry → Bool
  | .published (.stepCompleted _) => true
  | .published _ => false
  | .called _ _ => false
  | .suspended _ => false

/-- The number of results that a journal tells of. -/
def completions (journal : List JournalEntry) : Nat :=
  journal.countP JournalEntry.isCompletion

/-- Behind a cancel that was accepted there are silent entries only, and no more than so
many results. -/
def Heeds (allowance : Nat) (journal : List JournalEntry) : Prop :=
  ∀ before after, journal = before ++ .called .cancel true :: after →
    (∀ e ∈ after, e.IsSilent) ∧ completions after ≤ allowance

theorem completions_append (journal own : List JournalEntry) :
    completions (journal ++ own) = completions journal + completions own :=
  List.countP_append

theorem completions_eq_zero {own : List JournalEntry} (h : ∀ e ∈ own, e.isCompletion = false) :
    completions own = 0 := by
  refine List.countP_eq_zero.mpr ?_
  intro e he hc
  rw [h e he] at hc
  cases hc

section
variable {m n : Nat} {journal own : List JournalEntry}

theorem Heeds.of_not_mem (h : .called .cancel true ∉ journal) : Heeds n journal := by
  intro before after hj
  subst hj
  exact absurd (List.mem_append_right _ List.mem_cons_self) h

theorem Heeds.of_silent (silent : ∀ e ∈ own, e.IsSilent) (hn : completions own ≤ n) :
    Heeds n own := by
  intro before after hj
  subst hj
  refine ⟨fun e he => silent e (List.mem_append_right _ (List.mem_cons_of_mem _ he)), ?_⟩
  rw [completions_append, completions, completions, List.countP_cons] at hn
  rw [completions]
  omega

theorem Heeds.le (h : Heeds m journal) (hmn : m ≤ n) : Heeds n journal := by
  intro before after hj
  obtain ⟨silent, hm⟩ := h before after hj
  exact ⟨silent, Nat.le_trans hm hmn⟩

/-- What is added to a journal has to be silent if a cancel stands in it. -/
theorem Heeds.append (h : Heeds m journal) (hown : Heeds n own)
    (silent : .called .cancel true ∈ journal →
      (∀ e ∈ own, e.IsSilent) ∧ m + completions own ≤ n) : Heeds n (journal ++ own) := by
  intro before after hj
  rcases List.append_eq_append_iff.mp hj with ⟨mid, hbefore, hmid⟩ | ⟨mid, hjournal, hmid⟩
  · exact hown mid after hmid
  · cases mid with
    | nil => exact hown [] after (by rw [List.nil_append]; exact hmid.symm)
    | cons x mid =>
        rw [List.cons_append] at hmid
        obtain ⟨rfl, rfl⟩ := List.cons.inj hmid
        obtain ⟨hmid, hm⟩ := h before mid hjournal
        obtain ⟨hsilent, hn⟩ := silent (by rw [hjournal]; simp)
        refine ⟨?_, ?_⟩
        · intro e he
          rcases List.mem_append.mp he with he | he
          · exact hmid e he
          · exact hsilent e he
        · rw [completions_append]
          omega

end

theorem JournalEntry.isSilent_ofCalls {c : Control} {xs : List ControlCall} :
    ∀ e ∈ ofCalls c xs, e.IsSilent := by
  intro e he
  rcases mem_ofCalls he with ⟨x, accepted, rfl⟩ | ⟨p, rfl⟩ <;> exact trivial

theorem completions_ofCalls (c : Control) (xs : List ControlCall) :
    completions (JournalEntry.ofCalls c xs) = 0 := by
  refine completions_eq_zero fun e he => ?_
  rcases JournalEntry.mem_ofCalls he with ⟨x, accepted, rfl⟩ | ⟨p, rfl⟩ <;> rfl

/-! ## The invariant -/

namespace Engine

variable {σ : Type}

/-- What is true of a run that goes on and had so many results at its start: a cancel that
the journal tells of is known, and at most so many results come behind it. -/
structure Obedient (base allowance : Nat) (run : Run σ) : Prop where
  /-- The status is that of a replay that goes on. -/
  active : run.control.status.IsActive
  /-- A cancel that was accepted is known. -/
  known : .called .cancel true ∈ run.journal → run.control.isCancelled = true
  /-- The journal heeds a cancel. -/
  heeds : Heeds allowance run.journal
  /-- The journal tells of the results. -/
  results : run.control.progress.results.length = base + completions run.journal

/-- What is true of a run that is over: a cancel has ended it. -/
structure Obeyed (base : Nat) (run : Run σ) (p : Progress) : Prop where
  /-- At most one result comes behind a cancel. -/
  heeds : Heeds 1 run.journal
  /-- The journal tells of the results. -/
  results : p.results.length = base + completions run.journal
  /-- A cancel was the end. -/
  cancelled : .called .cancel true ∈ run.journal → p.status = .cancelled

/-- What is true of a run at a spot. -/
def Obeys (base : Nat) : Spot × Run σ → Prop
  | (.before _, run) => Obedient base 0 run
  | (.within _, run) => Obedient base 0 run
  | (.behind _ _, run) => Obedient base 1 run
  | (.resting _, run) => Obedient base 0 run
  | (.ended p, run) => Obeyed base run p
  | (.held, run) => .called .cancel true ∉ run.journal

section
variable {base m n : Nat} {run run' : Run σ}

theorem Obedient.not_cancelled (h : Obedient base m run)
    (going : run.control.isCancelled = false) : .called .cancel true ∉ run.journal := by
  intro hc
  rw [h.known hc] at going
  cases going

/-- A run that was not cancelled has no cancel to heed. -/
theorem Obedient.renew (h : Obedient base m run) (going : run.control.isCancelled = false) :
    Obedient base n run :=
  { h with heeds := .of_not_mem (h.not_cancelled going) }

theorem Obedient.hears (h : Obedient base m run) (heard : run.Hears run') :
    Obedient base m run' := by
  obtain ⟨own, xs, isOwn, control, journal⟩ := heard
  have keeps := Control.keeps_calls h.active xs
  have noCancel : .called .cancel true ∉ own := by
    intro hc
    cases isOwn _ hc
  have noResult : completions (own ++ JournalEntry.ofCalls run.control xs) = 0 := by
    rw [completions_append, completions_ofCalls, Nat.add_zero]
    refine completions_eq_zero fun e he => ?_
    cases isOwn e he <;> rfl
  refine ⟨?_, ?_, ?_, ?_⟩
  · rw [control]
    exact keeps.active
  · intro hc
    rw [control, Control.isCancelled_calls_iff]
    rw [journal] at hc
    rcases List.mem_append.mp hc with hc | hc
    · exact .inl (h.known hc)
    · rcases List.mem_append.mp hc with hc | hc
      · exact absurd hc noCancel
      · exact .inr hc
  · have calls : Heeds m (JournalEntry.ofCalls run.control xs) :=
      .of_silent JournalEntry.isSilent_ofCalls (by rw [completions_ofCalls]; exact Nat.zero_le m)
    have added : Heeds m (own ++ JournalEntry.ofCalls run.control xs) :=
      Heeds.append (m := 0) (.of_not_mem noCancel) calls fun hc => absurd hc noCancel
    rw [journal]
    refine h.heeds.append added fun hc => ⟨?_, by rw [noResult]; exact Nat.le_refl m⟩
    -- A suspension is no entry of its own once a cancel is known.
    intro e he
    rcases List.mem_append.mp he with he | he
    · cases isOwn e he with
      | note n => exact trivial
      | suspended s going =>
          rw [h.known hc] at going
          cases going
    · exact JournalEntry.isSilent_ofCalls e he
  · rw [control, keeps.progress, journal, completions_append, noResult, Nat.add_zero]
    exact h.results

/-- A run writes entries to its journal, which are silent if a cancel stands there. -/
theorem Obedient.write {own : List JournalEntry} (h : Obedient base m run)
    (active : run'.control.status.IsActive)
    (isCancelled : run'.control.isCancelled = run.control.isCancelled)
    (journal : run'.journal = run.journal ++ own) (noCancel : .called .cancel true ∉ own)
    (silent : run.control.isCancelled = true →
      (∀ e ∈ own, e.IsSilent) ∧ m + completions own ≤ n)
    (results : run'.control.progress.results.length =
      run.control.progress.results.length + completions own) : Obedient base n run' where
  active := active
  known := by
    intro hc
    rw [journal] at hc
    rw [isCancelled]
    exact (List.mem_append.mp hc).elim h.known fun hc => absurd hc noCancel
  heeds := by
    rw [journal]
    exact h.heeds.append (.of_not_mem noCancel) fun hc => silent (h.known hc)
  results := by rw [results, journal, completions_append, h.results, Nat.add_assoc]

theorem Obedient.announce (h : Obedient base 0 run) (going : run.control.isCancelled = false)
    (i : Nat) (name : String) : Obedient base 0 (announce i name run).2 := by
  have journal : (Engine.announce i name run).2.journal =
      run.journal ++ [.published (.stepStarted (run.control.progress.enter i name))] := rfl
  refine h.write h.active rfl journal (by simp) ?_ rfl
  intro cancelled
  rw [going] at cancelled
  cases cancelled

theorem Obedient.settle (h : Obedient base 0 run) (r : StepResult) :
    Obedient base 1 (settle r run).2 := by
  refine h.write h.active rfl rfl (by simp) ?_ List.length_append
  intro _
  refine ⟨?_, Nat.le_refl 1⟩
  intro e he
  rw [List.mem_singleton.mp he]
  exact trivial

theorem Obedient.regret (h : Obedient base 1 run) (f : StepFailure) :
    Obedient base 1 (Run.publish (.stepFailed f) run).2 := by
  refine h.write h.active rfl rfl (by simp) ?_ rfl
  intro _
  refine ⟨?_, Nat.le_refl 1⟩
  intro e he
  rw [List.mem_singleton.mp he]
  exact trivial

/-- A run that goes on is ended, and by a cancel if one is known. -/
theorem Obedient.ends {status : ReplayStatus} {failure : Option StepFailure}
    (h : Obedient base m run) (hm : m ≤ 1)
    (cancelled : run.control.isCancelled = true → status = .cancelled) :
    Obeys base ((finish status failure run).1.spot, (finish status failure run).2) := by
  obtain ⟨own, hjournal, hown⟩ := finish_journal status failure run
  have noCancel : .called .cancel true ∉ own := by
    intro hc
    rcases hown _ hc with ⟨n, hn⟩ | ⟨p, hp⟩
    · cases hn
    · cases hp
  have noResult : completions own = 0 := by
    refine completions_eq_zero fun e he => ?_
    rcases hown e he with ⟨n, rfl⟩ | ⟨p, rfl⟩ <;> rfl
  have silent : ∀ e ∈ own, e.IsSilent := by
    intro e he
    rcases hown e he with ⟨n, rfl⟩ | ⟨p, rfl⟩ <;> exact trivial
  rw [finish_ending]
  refine ⟨?_, ?_, ?_⟩
  · rw [hjournal]
    exact (h.heeds.le hm).append (.of_not_mem noCancel) fun _ => ⟨silent, by omega⟩
  · rw [hjournal, completions_append, noResult, Nat.add_zero]
    exact h.results
  · intro hc
    rw [hjournal] at hc
    rcases List.mem_append.mp hc with hc | hc
    · exact cancelled (h.known hc)
    · exact absurd hc noCancel

end

/-- A run that has not ended is obedient. -/
theorem Obeys.obedient {base : Nat} {spot : Spot} {run : Run σ} (h : Obeys base (spot, run))
    (isOpen : spot.IsOpen) : ∃ m ≤ 1, Obedient base m run := by
  cases isOpen with
  | before i => exact ⟨0, Nat.zero_le 1, h⟩
  | within i => exact ⟨0, Nat.zero_le 1, h⟩
  | behind i r => exact ⟨1, Nat.le_refl 1, h⟩
  | resting i => exact ⟨0, Nat.zero_le 1, h⟩

variable {g : Engine σ} {steps : List Step}

/-- An advance keeps what is true of a run at a spot. -/
theorem Obeys.advance {base : Nat} {here there : Spot × Run σ}
    (advance : g.Advance steps here there) (h : Obeys base here) : Obeys base there := by
  cases advance with
  | noteGate _ => exact Obedient.hears h (Run.hears_note _ _)
  | askGate closed =>
      have going := (Control.passage?_eq_none_iff.mp closed).1
      exact Obedient.hears h (Run.hears_ask _ _ going)
  | receive elapsed calls _ => exact Obedient.hears h (Run.hears_receive elapsed calls _)
  | stay closed => exact Obedient.not_cancelled h (Control.passage?_eq_none_iff.mp closed).1
  | enter _ passed =>
      exact Obedient.announce h (Control.passage?_eq_passed_iff.mp passed).1 _ _
  | move move => exact Obedient.hears h move.hears
  | settle _ _ => exact Obedient.settle h _
  | calm going _ => exact Obedient.renew h going
  | regret going _ _ => exact (Obedient.regret h _).renew going
  | fail going _ _ hx =>
      subst hx
      refine (Obedient.regret h _).ends (Nat.le_refl 1) ?_
      intro cancelled
      exact absurd (going.symm.trans cancelled) Bool.false_ne_true
  | sleep ms going => exact Obedient.hears h (Run.hears_ask _ _ going)
  | turn => exact h
  | cancel isOpen _ hx =>
      subst hx
      obtain ⟨m, hm, obedient⟩ := h.obedient isOpen
      exact obedient.ends hm fun _ => rfl
  | complete _ going hx =>
      subst hx
      refine Obedient.ends h (Nat.zero_le 1) ?_
      intro cancelled
      exact absurd (going.symm.trans cancelled) Bool.false_ne_true

/-! ## The whole replay -/

/-- At the start of a replay no cancel came in. -/
theorem obeys_started (g : Engine σ) (w : Workflow) (c : Control) (around : σ) :
    Obeys c.progress.results.length (.before 0, g.started w c around) := by
  have journal : (g.started w c around).journal =
      [.published (.statusChanged (c.progress.start w)),
        .published (.noted (.replaying w.name w.steps.length))] := rfl
  have noCancel : .called .cancel true ∉ (g.started w c around).journal := by
    rw [journal]
    simp
  exact {
    active := .inl rfl
    known := fun hc => absurd hc noCancel
    heeds := .of_not_mem noCancel
    results := rfl }

/-- Behind a cancel that was accepted during a replay, there is no suspension, so that no
request is sent any more, no step starts, and there is at most one more result.  The replay
ends cancelled. -/
theorem replay_cancelled {g : Engine σ} {w : Workflow} {c : Control} {around : σ}
    {ending : Ending} {run : Run σ} {before after : List JournalEntry}
    (h : g.replay w c around = .ok (ending, run))
    (hj : run.journal = before ++ .called .cancel true :: after) :
    (∀ s, .suspended s ∉ after) ∧ (∀ p, .published (.stepStarted p) ∉ after) ∧
      completions after ≤ 1 ∧
      ∃ p, ending = .ended p ∧ p.status = .cancelled ∧
        p.results.length = c.progress.results.length + completions before + completions after := by
  have hcancel : .called .cancel true ∈ run.journal := by
    rw [hj]
    exact List.mem_append_right _ List.mem_cons_self
  have obeys := (course_replay h).keeps Obeys.advance (obeys_started g w c around)
  cases ending with
  | held => exact absurd hcancel obeys
  | ended p =>
      obtain ⟨silent, honce⟩ := obeys.heeds before after hj
      refine ⟨fun s hs => silent _ hs, fun q hq => silent _ hq, honce, p, rfl,
        obeys.cancelled hcancel, ?_⟩
      rw [obeys.results, hj, completions_append]
      simp [completions, JournalEntry.isCompletion, Nat.add_assoc]

end Engine

/-- A workflow of one wait. -/
def Workflow.oneWait : Workflow where
  id := ⟨0⟩
  steps := [{ id := ⟨1⟩, action := .wait (.forMs 10) }]

/-- A stage on which a replay is cancelled, and resumed afterwards. -/
def Stage.cancelling : Stage where
  cues := [⟨5, some .cancel⟩, ⟨7, some .resume⟩]

theorem Engine.replay_cancelled_oneWait :
    ∃ ending run before after,
      Engine.replay ⟨Stage.surroundings, {}, {}, {}, 0⟩ .oneWait .fresh .cancelling =
          .ok (ending, run) ∧
        run.journal = before ++ .called .cancel true :: after ∧
        (∀ s, .suspended s ∉ after) ∧ (∀ p, .published (.stepStarted p) ∉ after) ∧
        completions after ≤ 1 ∧
        ∃ p, ending = .ended p ∧ p.status = .cancelled ∧
          p.results.length = Control.fresh.progress.results.length + completions before +
            completions after := by
  let x := (Engine.replayValid ⟨Stage.surroundings, {}, {}, {}, 0⟩ .oneWait).run
    (Engine.startOf ⟨Stage.surroundings, {}, {}, {}, 0⟩ .fresh .oneWait .cancelling)
  have replayed : Engine.replay ⟨Stage.surroundings, {}, {}, {}, 0⟩ .oneWait .fresh .cancelling =
      .ok (x.1, x.2) := rfl
  have journal : x.2.journal =
      x.2.journal.take 5 ++ .called .cancel true :: x.2.journal.drop 6 := rfl
  exact ⟨x.1, x.2, _, _, replayed, journal, Engine.replay_cancelled replayed journal⟩

end UiReplay
