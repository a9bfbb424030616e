import UiReplay.Replay.Fallback

/-!
# In the order of a chain

A search makes its attempts with the selectors of a chain.  What an attempt does is unknown: it
reads and changes a state of its own, and brings what it likes or fails as it likes.  So nothing
is said of attempts, only of the order in which they are made and of what becomes of the outcomes.

`Chain.Leads` are the outcomes after which a search goes on, and `Chain.Ends` says how a search
ends after some selectors with some outcomes.  `Chain.Course` is the course of a search from any
point in its chain.  One attempt that leads on puts a selector before the course of the rest
(`Course.cons`), and an attempt that does not lead on is the whole course (`Course.stop`).  The
search through a chain is then an induction on the selectors that are left, with the outcomes so
far kept (`exists_course`), and comes to `Chain.firstHit_in_order`.

Which selectors an attempt is made with cannot be seen from its outcomes.  `Chain.noting` is the
same attempt with a list of them.
-/

namespace UiReplay

/-! ## Names -/

theorem Text.isInfix_joinWith {text sep : String} {texts : List String} (mem : text ∈ texts) :
    text.toList <:+: (joinWith sep texts).toList := by
  induction texts with
  | nil => cases mem
  | cons head rest ih =>
      cases rest with
      | nil =>
          rw [List.mem_singleton.mp mem]
          exact List.infix_rfl
      | cons next rest =>
          show _ <:+: (head ++ sep ++ joinWith sep (next :: rest)).toList
          rw [String.toList_append, String.toList_append, List.append_assoc]
          rcases List.mem_cons.mp mem with rfl | mem
          · exact (List.prefix_append _ _).isInfix
          · rw [← List.append_assoc]
            exact (ih mem).trans (List.suffix_append _ _).isInfix

/-- An error about a chain that was not found names its selectors. -/
theorem StepError.isInfix_message_notFound {c : Chain} {t : Selector} (mem : t ∈ c.selectors) :
    t.display.toList <:+: (notFound c).message.toList := by
  have joined : t.display.toList <:+: c.display.toList :=
    Text.isInfix_joinWith (List.mem_map_of_mem mem)
  show _ <:+: ("no element matched " ++ c.display).toList
  rw [String.toList_append]
  exact joined.trans (List.suffix_append _ _).isInfix

namespace Chain

variable {S α : Type} {c : Chain} {attempt : Selector → ExceptT StepError (StateM S) (Option α)}

/-! ## Attempts -/

/-- What comes of an attempt. -/
abbrev Try (α : Type) := Except StepError (Option α)

/-- An attempt that also notes the selector it is made with. -/
def noting (attempt : Selector → ExceptT StepError (StateM S) (Option α)) (t : Selector) :
    ExceptT StepError (StateM (S × List Selector)) (Option α) :=
  ExceptT.mk fun (s, noted) =>
    let (o, s') := (attempt t).run.run s
    (o, (s', noted ++ [t]))

theorem run_noting {t : Selector} {s s' : S} {o : Try α}
    (made : (attempt t).run.run s = (o, s')) (noted : List Selector) :
    (noting attempt t).run.run (s, noted) = (o, (s', noted ++ [t])) := by
  show (let (o, s') := (attempt t).run.run s; (o, (s', noted ++ [t]))) = _
  rw [made]

/-- The outcomes after which a search goes on: nothing was brought, or it failed without a
cancel. -/
inductive Leads : Try α → Prop
  | nothing : Leads (.ok none)
  | failed {e : StepError} (other : e ≠ .cancelled) : Leads (.error e)

/-- The outcomes that end a search, and its result when they come from a selector with a place. -/
inductive Decides (t : Selector) (i : Nat) : Try α → Except StepError (Hit α) → Prop
  | hit (v : α) : Decides t i (.ok (some v)) (.ok ⟨v, t, i⟩)
  | cancelled : Decides t i (.error .cancelled) (.error .cancelled)

theorem leads_or_decides (t : Selector) (i : Nat) (o : Try α) :
    Leads o ∨ ∃ result, Decides t i o result := by
  cases o with
  | ok found =>
      cases found with
      | none => exact .inl .nothing
      | some v => exact .inr ⟨_, .hit v⟩
  | error e =>
      by_cases h : e = .cancelled
      · subst h
        exact .inr ⟨_, .cancelled⟩
      · exact .inl (.failed h)

/-! ## Failures -/

/-- The failure of an attempt. -/
def failure? : Try α → Option StepError
  | .ok _ => none
  | .error e => some e

/-- The last failure of some attempts. -/
def lastFailure? (outcomes : List (Try α)) : Option StepError :=
  (outcomes.filterMap failure?).getLast?

theorem lastFailure?_append_one (outcomes : List (Try α)) (o : Try α) :
    lastFailure? (outcomes ++ [o]) = (failure? o).or (lastFailure? outcomes) := by
  cases o <;> simp [lastFailure?, failure?]

theorem nothing_of_lastFailure?_eq_none {outcomes : List (Try α)}
    (leads : ∀ o ∈ outcomes, Leads o) (h : lastFailure? outcomes = none) :
    ∀ o ∈ outcomes, o = .ok none := by
  intro o mem
  cases leads o mem with
  | nothing => rfl
  | failed _ =>
      rw [lastFailure?, List.getLast?_eq_none_iff, List.filterMap_eq_nil_iff] at h
      cases h _ mem

/-! ## Ends -/

/-- How a search ends that tried selectors with some outcomes. -/
inductive Ends (c : Chain) : List Selector → List (Try α) → Except StepError (Hit α) → Prop
  /-- The last attempt brought something. -/
  | hit {before : List Selector} {t : Selector} {passed : List (Try α)} {v : α}
      (leads : ∀ o ∈ passed, Leads o) :
      Ends c (before ++ [t]) (passed ++ [.ok (some v)]) (.ok ⟨v, t, before.length⟩)
  /-- The last attempt was cancelled. -/
  | cancelled {tried : List Selector} {passed : List (Try α)} (leads : ∀ o ∈ passed, Leads o) :
      Ends c tried (passed ++ [.error .cancelled]) (.error .cancelled)
  /-- Every selector was tried, and some attempt failed. -/
  | failed {passed : List (Try α)} {e : StepError} (leads : ∀ o ∈ passed, Leads o)
      (last : lastFailure? passed = some e) : Ends c c.selectors passed (.error e)
  /-- Every selector was tried, and none brought anything. -/
  | missed {passed : List (Try α)} (nothing : ∀ o ∈ passed, o = .ok none) :
      Ends c c.selectors passed (.error (.notFound c))

theorem Ends.decided {before : List Selector} {t : Selector} {passed : List (Try α)} {o : Try α}
    {result : Except StepError (Hit α)} (leads : ∀ o ∈ passed, Leads o)
    (decides : Decides t before.length o result) :
    c.Ends (before ++ [t]) (passed ++ [o]) result := by
  cases decides with
  | hit v => exact .hit leads
  | cancelled => exact .cancelled leads

/-- A search that has no selector left reports its last failure. -/
theorem Ends.exhausted {passed : List (Try α)} (leads : ∀ o ∈ passed, Leads o) :
    c.Ends c.selectors passed (.error ((lastFailure? passed).getD (.notFound c))) := by
  cases h : lastFailure? passed with
  | none => exact .missed (nothing_of_lastFailure?_eq_none leads h)
  | some e => exact .failed leads h

/-! ## Courses -/

/-- The course of a search through the selectors that are left. -/
structure Course (c : Chain) (attempt : Selector → ExceptT StepError (StateM S) (Option α))
    (left : List Selector) (i : Nat) (last : Option StepError) (s : S)
    (tried : List Selector) (outcomes : List (Try α)) (result : Except StepError (Hit α))
    (s' : S) : Prop where
  /-- The first selectors are tried. -/
  first : tried <+: left
  /-- The result is reached, with the state. -/
  reached : (c.firstHitFrom attempt left i last).run.run s = (result, s')
  /-- Attempts are made with the tried selectors in their order, and with no other. -/
  made : ∀ noted, (c.firstHitFrom (noting attempt) left i last).run.run (s, noted) =
    (result, (s', noted ++ tried))
  /-- The outcomes are those of these attempts, one after the other. -/
  brought : (tried.mapM fun t => (attempt t).run).run s = (outcomes, s')

section

variable {t : Selector} {left tried : List Selector} {i : Nat} {last : Option StepError}
  {s s₁ s' : S} {o : Try α} {outcomes : List (Try α)} {result : Except StepError (Hit α)}

/-- After an attempt that leads on, the search goes through the rest. -/
theorem run_firstHitFrom_of_leads (leads : Leads o) (tried : (attempt t).run.run s = (o, s₁)) :
    (c.firstHitFrom attempt (t :: left) i last).run.run s =
      (c.firstHitFrom attempt left (i + 1) ((failure? o).or last)).run.run s₁ := by
  show (((attempt t).run >>= _ : StateM S _)).run s = _
  rw [StateT.run_bind, tried]
  cases leads with
  | nothing => rfl
  | @failed e other =>
      cases e with
      | cancelled => exact absurd rfl other
      | _ => rfl

/-- An attempt that decides gives the result. -/
theorem run_firstHitFrom_of_decides (decides : Decides t i o result)
    (tried : (attempt t).run.run s = (o, s₁)) :
    (c.firstHitFrom attempt (t :: left) i last).run.run s = (result, s₁) := by
  show (((attempt t).run >>= _ : StateM S _)).run s = _
  rw [StateT.run_bind, tried]
  cases decides <;> rfl

theorem run_mapM_cons (made : (attempt t).run.run s = (o, s₁))
    (rest : (tried.mapM fun t => (attempt t).run).run s₁ = (outcomes, s')) :
    ((t :: tried).mapM fun t => (attempt t).run).run s = (o :: outcomes, s') := by
  rw [List.mapM_cons, StateT.run_bind, made]
  show ((tried.mapM fun t => (attempt t).run) >>= _ : StateM S _).run s₁ = _
  rw [StateT.run_bind, rest]
  rfl

/-- Nothing is left. -/
theorem Course.nil : Course c attempt [] i last s [] [] (.error (last.getD (.notFound c))) s where
  first := List.nil_prefix
  reached := rfl
  made noted := by
    rw [List.append_nil]
    rfl
  brought := rfl

/-- An attempt that decides is the last. -/
theorem Course.stop (decides : Decides t i o result) (tried : (attempt t).run.run s = (o, s')) :
    Course c attempt (t :: left) i last s [t] [o] result s' where
  first := ⟨left, rfl⟩
  reached := run_firstHitFrom_of_decides decides tried
  made noted := run_firstHitFrom_of_decides decides (run_noting tried noted)
  brought := run_mapM_cons tried rfl

/-- An attempt that leads on comes before the course of the rest. -/
theorem Course.cons (leads : Leads o) (made : (attempt t).run.run s = (o, s₁))
    (rest : Course c attempt left (i + 1) ((failure? o).or last) s₁ tried outcomes result s') :
    Course c attempt (t :: left) i last s (t :: tried) (o :: outcomes) result s' where
  first := List.cons_prefix_cons.mpr ⟨rfl, rest.first⟩
  reached := (run_firstHitFrom_of_leads leads made).trans rest.reached
  made noted := by
    rw [run_firstHitFrom_of_leads leads (run_noting made noted), rest.made, List.append_assoc]
    rfl
  brought := run_mapM_cons made rest.brought

end

/-- A search has a course from any point in its chain, and ends as it must after the outcomes before
that point and those of the course. -/
theorem exists_course (c : Chain) (attempt : Selector → ExceptT StepError (StateM S) (Option α))
    {before left : List Selector} (split : before ++ left = c.selectors) {passed : List (Try α)}
    (leads : ∀ o ∈ passed, Leads o) (s : S) :
    ∃ tried outcomes result s',
      Course c attempt left before.length (lastFailure? passed) s tried outcomes result s' ∧
        c.Ends (before ++ tried) (passed ++ outcomes) result := by
  induction left generalizing before passed s with
  | nil =>
      refine ⟨[], [], _, s, .nil, ?_⟩
      rw [split, List.append_nil]
      exact .exhausted leads
  | cons t left ih =>
      rcases made : (attempt t).run.run s with ⟨o, s₁⟩
      rcases leads_or_decides t before.length o with on | ⟨result, decides⟩
      · have leads' : ∀ o' ∈ passed ++ [o], Leads o' :=
          List.forall_mem_append.mpr ⟨leads, List.forall_mem_singleton.mpr on⟩
        have split' : (before ++ [t]) ++ left = c.selectors := by
          rw [List.append_assoc, List.singleton_append, split]
        obtain ⟨tried, outcomes, result, s', course, ends⟩ := ih split' leads' s₁
        refine ⟨t :: tried, o :: outcomes, result, s', .cons on made ?_, ?_⟩
        · rwa [lastFailure?_append_one, List.length_append] at course
        · rwa [List.append_assoc, List.append_assoc] at ends
      · exact ⟨[t], [o], result, s₁, .stop decides made, .decided leads decides⟩

/-! ## Searches -/

/-- A search tries the selectors of its chain in order, up to the first attempt that brings
something or is cancelled, and ends with the outcome of that attempt.  When no attempt is of this
kind, it tries them all and ends with the last failure, or else with an error that names the chain
with each of its selectors. -/
theorem firstHit_in_order (c : Chain)
    (attempt : Selector → ExceptT StepError (StateM S) (Option α)) (s : S) :
    (∃ tried outcomes result s',
      tried <+: c.selectors ∧
        (c.firstHit attempt).run.run s = (result, s') ∧
        (c.firstHit (noting attempt)).run.run (s, []) = (result, (s', tried)) ∧
        (tried.mapM fun t => (attempt t).run).run s = (outcomes, s') ∧
        c.Ends tried outcomes result) ∧
      ∀ t ∈ c.selectors, t.display.toList <:+: (StepError.notFound c).message.toList := by
  refine ⟨?_, fun t mem => StepError.isInfix_message_notFound mem⟩
  obtain ⟨tried, outcomes, result, s', course, ends⟩ :=
    exists_course c attempt (List.nil_append c.selectors) (List.forall_mem_nil Leads) s
  exact ⟨tried, outcomes, result, s', course.first, course.reached, course.made [],
    course.brought, ends⟩

end Chain

end UiReplay
