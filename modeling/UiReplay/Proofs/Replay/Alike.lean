import UiReplay.Proofs.Replay.Quiet

/-!
# Runs that a step cannot tell apart

Surroundings may be a machine that only gets requests (`Surroundings.IsMachine`): nobody uses the
remote control, and the answers do not depend on how far the replay has come.  Then a step looks at
no more of a run than its screen, its clock and the state of the machine.  Two runs that agree in
these, and in what they have asked the device for, are alike (`Run.Alike`).

A computation that has the same outcome in runs that are alike, and leaves them alike, is blind to
the rest (`Blind`).  The parts of a step are (`blind_sleep`, `blind_perform`, `blind_fetchTree`),
and so is every step, by induction on how it is put together (`Composed.blind`).

A step may have one number in one run and another number in the other.  What is wrong with a step
is said with its number, but whether it is valid does not depend on it (`Step.validate_numbered`).
So the step has the same status in both runs and leaves them alike (`exists_alike_carried`).
-/

namespace UiReplay

variable {σ α β : Type}

/-- Surroundings that are a machine from requests to answers. -/
structure Surroundings.IsMachine (w : Surroundings σ) : Prop where
  /-- Nobody uses the remote control. -/
  quiet : w.IsQuiet
  /-- The answers do not depend on the replay. -/
  blind : ∀ r c c' around, w.respond r c around = w.respond r c' around

/-! ## Runs -/

/-- Two runs that are clear and agree in all that a step looks at, and in what was sent. -/
structure Run.Alike (run run' : Run σ) : Prop where
  clear : run.IsClear
  clear' : run'.IsClear
  screen : run.screen = run'.screen
  seen : run.seen = run'.seen
  clock : run.clock = run'.clock
  around : run.around = run'.around
  sent : run.sent = run'.sent

namespace Run

variable {run run' run'' : Run σ}

theorem Alike.symm (h : run.Alike run') : run'.Alike run :=
  ⟨h.clear', h.clear, h.screen.symm, h.seen.symm, h.clock.symm, h.around.symm, h.sent.symm⟩

theorem Alike.trans (h : run.Alike run') (h' : run'.Alike run'') : run.Alike run'' :=
  ⟨h.clear, h'.clear', h.screen.trans h'.screen, h.seen.trans h'.seen, h.clock.trans h'.clock,
    h.around.trans h'.around, h.sent.trans h'.sent⟩

/-- What is published makes no difference. -/
theorem IsClear.alike_publish (clear : run.IsClear) (e : ReplayEvent) :
    (publish e run).2.Alike run :=
  ⟨clear, clear, rfl, rfl, rfl, rfl, sent_publish e run⟩

/-- Neither does the progress. -/
theorem IsClear.alike_update (clear : run.IsClear) (change : Progress → Progress) :
    (update change run).2.Alike run :=
  ⟨clear, clear, rfl, rfl, rfl, rfl, rfl⟩

theorem Alike.update (h : run.Alike run') (change change' : Progress → Progress) :
    (update change run).2.Alike (Run.update change' run').2 :=
  ((h.clear.alike_update change).trans h).trans (h.clear'.alike_update change').symm

theorem Alike.publish (h : run.Alike run') (e e' : ReplayEvent) :
    (publish e run).2.Alike (Run.publish e' run').2 :=
  ((h.clear.alike_publish e).trans h).trans (h.clear'.alike_publish e').symm

theorem Alike.see (h : run.Alike run') (tree : List Node) :
    (see tree run).2.Alike (Run.see tree run').2 where
  clear := h.clear
  clear' := h.clear'
  screen := h.screen
  seen := congrArg (Node.screen? tree).or h.seen
  clock := h.clock
  around := h.around
  sent := h.sent

end Run

/-! ## Computations -/

/-- A computation with the same outcome in runs that are alike, which it leaves alike. -/
def Blind (x : Act σ α) : Prop :=
  ∀ run run' : Run σ, run.Alike run' → (x run).1 = (x run').1 ∧ (x run).2.Alike (x run').2

namespace Engine

variable {g : Engine σ}

/-! ## One computation after the other -/

theorem blind_pure (a : α) : Blind (pure a : Act σ α) := fun _ _ alike => ⟨rfl, alike⟩

theorem blind_bind {x : Act σ α} {f : α → Act σ β} (hx : Blind x) (hf : ∀ a, Blind (f a)) :
    Blind (x >>= f) := by
  intro run run' alike
  obtain ⟨same, alike⟩ := hx run run' alike
  rw [act_bind, act_bind, same]
  exact hf _ _ _ alike

theorem blind_bindCont {x : Attempt σ α} {f : α → Attempt σ β} (hx : Blind x.run)
    (hf : ∀ a, Blind (f a).run) : Blind (x >>= f).run := by
  refine blind_bind (f := ExceptT.bindCont f) hx ?_
  intro outcome
  cases outcome with
  | ok a => exact hf a
  | error e => exact blind_pure _

theorem blind_sure {x : Act σ α} (hx : Blind x) : Blind x.sure.run :=
  blind_bind hx fun _ => blind_pure _

theorem blind_note (n : Note) : Blind (Run.note n : Act σ Unit) :=
  fun _ _ alike => ⟨rfl, alike.publish _ _⟩

/-! ## Requests -/

theorem blind_checkCancelled : Blind (checkCancelled : Attempt σ Unit).run := by
  intro run run' alike
  rw [run_checkCancelled, run_checkCancelled, alike.clear.going, alike.clear'.going]
  exact ⟨rfl, alike⟩

theorem blind_ask (machine : g.surroundings.IsMachine) (r : Request) :
    Blind (g.surroundings.ask r) := by
  intro run run' alike
  have same : g.surroundings.respond r run.control run.around =
      g.surroundings.respond r run'.control run'.around := by
    rw [alike.around]
    exact machine.blind r _ _ _
  have clear := isClear_ask machine.quiet r alike.clear
  have clear' := isClear_ask machine.quiet r alike.clear'
  refine ⟨congrArg (fun x => x.1.answer) same, clear, clear', alike.screen, alike.seen, ?_,
    congrArg Prod.snd same, ?_⟩
  · -- How long it lasts depends on a cancel, and there is none in either run.
    show run.clock + r.lasting (g.surroundings.ask r run).2.control.isCancelled
        (g.surroundings.respond r run.control run.around).1.elapsed =
      run'.clock + r.lasting (g.surroundings.ask r run').2.control.isCancelled
        (g.surroundings.respond r run'.control run'.around).1.elapsed
    rw [clear.going, clear'.going, alike.clock, same]
  · rw [Run.sent_ask_eq, Run.sent_ask_eq, alike.sent, alike.clock, same]

theorem blind_sleep (machine : g.surroundings.IsMachine) (ms : Nat) : Blind (g.sleep ms).run :=
  blind_bindCont blind_checkCancelled fun _ =>
    blind_bindCont (blind_sure (blind_ask machine _)) fun _ => blind_checkCancelled

/-- A request that is repeated, by induction on the attempts that are left. -/
theorem blind_retry (machine : g.surroundings.IsMachine) (what : String)
    {call : Act σ (Except DeviceError α)} (hcall : Blind call) (left : Nat) :
    Blind (g.retry what call left).run := by
  induction left with
  | zero =>
      refine blind_bindCont blind_checkCancelled fun _ =>
        blind_bindCont (blind_sure hcall) fun answer => ?_
      cases answer with
      | ok a => exact blind_pure _
      | error e => exact blind_pure _
  | succ left ih =>
      refine blind_bindCont blind_checkCancelled fun _ =>
        blind_bindCont (blind_sure hcall) fun answer => ?_
      cases answer with
      | ok a => exact blind_pure _
      | error e =>
          dsimp only
          split
          · exact blind_bindCont (blind_sure (blind_note _)) fun _ =>
              blind_bindCont (blind_sleep machine _) fun _ => ih
          · exact blind_pure _

theorem blind_perform (machine : g.surroundings.IsMachine) (a : DeviceAction) :
    Blind (g.perform a).run :=
  blind_retry machine _ (blind_ask machine _) _

theorem blind_fetchTree (machine : g.surroundings.IsMachine) : Blind g.fetchTree.run := by
  refine blind_bindCont (blind_retry machine _ (blind_ask machine _) _) fun state => ?_
  exact blind_bindCont (blind_sure fun _ _ alike => ⟨rfl, alike.see state.tree⟩)
    fun _ => blind_pure _

/-! ## Steps -/

/-- What is put together from the parts of a step is blind, by induction on how it is put
together. -/
theorem Composed.blind (machine : g.surroundings.IsMachine) {x : Attempt σ α}
    (h : g.Composed x) : Blind x.run := by
  induction h with
  | ended _ => exact blind_pure _
  | handle _ passes _ first next =>
      refine blind_bind first ?_
      intro outcome
      by_cases cancelled : outcome = .error .cancelled
      · rw [cancelled, passes]
        exact blind_pure _
      · exact next outcome cancelled
  | time => exact blind_sure fun _ _ alike => ⟨alike.clock, alike⟩
  | knownScreen =>
      exact blind_sure fun run run' alike =>
        ⟨congrArg₂ Option.getD alike.seen alike.screen, alike⟩
  | note n => exact blind_sure (blind_note n)
  | sleep ms => exact blind_sleep machine ms
  | perform a => exact blind_perform machine a
  | fetchTree => exact blind_fetchTree machine

end Engine

/-! ## Steps with another number -/

/-- A step with another number. -/
def Step.numbered (s : Step) (n : Nat) : Step := { s with order := n }

theorem Workflow.numberFrom_cons (n : Nat) (s : Step) (rest : List Step) :
    numberFrom n (s :: rest) = s.numbered n :: numberFrom (n + 1) rest := rfl

/-- A step is valid whatever its number is, or never. -/
theorem Step.validate_numbered (s : Step) (n : Nat) :
    (s.numbered n).validate = .ok () ↔ s.validate = .ok () := by
  cases h : s.action with
  | tap d | longTap d =>
      simp only [validate, numbered, h]
      split
      · simp
      · split <;> simp
  | swipe d | scroll d | inputText d =>
      simp only [validate, numbered, h]
      split <;> simp
  | wait d | unusable r => simp only [validate, numbered, h]

/-- The ends of a step that has two numbers. -/
inductive EndsAlike : Except StepError StepOutcome → Except StepError StepOutcome → Prop
  /-- They are the same. -/
  | same (outcome : Except StepError StepOutcome) : EndsAlike outcome outcome
  /-- The step is not valid. -/
  | invalid (problem problem' : Problem) :
      EndsAlike (.error (.invalid problem)) (.error (.invalid problem'))

namespace Engine

variable {g : Engine σ} {run run' : Run σ}

/-- A step with another number ends alike in a run that is alike. -/
theorem ends_execute (machine : g.surroundings.IsMachine) (alike : run.Alike run') (s : Step)
    (n : Nat) :
    EndsAlike ((g.execute s).run run).1 ((g.execute (s.numbered n)).run run').1 ∧
      ((g.execute s).run run).2.Alike ((g.execute (s.numbered n)).run run').2 := by
  cases h : s.validate with
  | ok _ =>
      have same : g.execute (s.numbered n) = g.execute s := by
        rw [execute_of_validate h, execute_of_validate ((s.validate_numbered n).mpr h)]
        rfl
      obtain ⟨outcome, alike⟩ := (composed_execute s).blind machine run run' alike
      rw [same, outcome]
      exact ⟨.same _, alike⟩
  | error problem =>
      cases h' : (s.numbered n).validate with
      | ok _ => cases h.symm.trans ((s.validate_numbered n).mp h')
      | error problem' =>
          rw [execute, execute, h, h']
          exact ⟨.invalid _ _, alike⟩

theorem status_of_endsAlike {s s' : Step} {i i' : Nat} {name name' : String} {d d' : Nat}
    {outcome outcome' : Except StepError StepOutcome} {r r' : StepResult}
    (ends : EndsAlike outcome outcome')
    (hr : StepResult.ofEnd? s i name d outcome = some r)
    (hr' : StepResult.ofEnd? s' i' name' d' outcome' = some r') : r.status = r'.status := by
  cases ends with
  | same =>
      cases outcome with
      | ok o =>
          cases hr
          cases hr'
          rfl
      | error e => cases e <;> cases hr <;> cases hr' <;> rfl
  | invalid =>
      cases hr
      cases hr'
      rfl

/-- A step has the same status in both runs, and leaves them alike. -/
theorem exists_alike_carried (machine : g.surroundings.IsMachine) (alike : run.Alike run')
    (total total' i i' : Nat) (s : Step) (n : Nat) :
    ∃ r r', (g.carried total i s run).1 = some r ∧
      (g.carried total' i' (s.numbered n) run').1 = some r' ∧
      r.TellsOf s i ∧ r'.TellsOf (s.numbered n) i' ∧ r.status = r'.status ∧
      (g.carried total i s run).2.Alike (g.carried total' i' (s.numbered n) run').2 := by
  obtain ⟨r, hr, tells, -⟩ := exists_carried machine.quiet total i s alike.clear
  obtain ⟨r', hr', tells', -⟩ :=
    exists_carried machine.quiet total' i' (s.numbered n) alike.clear'
  refine ⟨r, r', hr, hr', tells, tells', ?_⟩
  have announced : (announce i (g.namer.labelForStep s) run).2.Alike
      (announce i' (g.namer.labelForStep s) run').2 :=
    (alike.update _ _).publish _ _
  cases enabled : s.enabled with
  | false =>
      refine ⟨(tells.skipped.mpr enabled).trans (tells'.skipped.mpr enabled).symm, ?_⟩
      rw [carried_of_disabled enabled, carried_of_disabled (s := s.numbered n) enabled]
      exact announced.publish _ _
  | true =>
      rw [carried, resultOf_of_enabled enabled] at hr ⊢
      rw [carried, resultOf_of_enabled (s := s.numbered n) enabled] at hr' ⊢
      obtain ⟨ends, alike⟩ := ends_execute machine (announced.publish
        (.noted (.step (i + 1) total (g.namer.labelForStep s)))
        (.noted (.step (i' + 1) total' (g.namer.labelForStep s)))) s n
      exact ⟨status_of_endsAlike ends hr hr', alike⟩

end Engine

end UiReplay
