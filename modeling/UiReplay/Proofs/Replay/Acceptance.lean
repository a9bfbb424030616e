import UiReplay.Proofs.Replay.Course
import UiReplay.Proofs.Replay.Requests
import UiReplay.Replay.Rehearsal

/-!
# What the device accepts of a step

A step sends requests until one of them does what the step says, and then it stops.
Retries, selectors and fallbacks all follow this rule, because each of them goes on only
after a failure, and a failure means that the device did not accept what counts
(`Settles`).  What counts is any action for a press, a swipe and a scroll, and the text for
a step that types.

`Engine.resultOf_sends` says what this comes to.  The device accepts at most one action of
a press, a swipe or a scroll, one exactly when the step succeeds, and this is the last
request.  It accepts at most one text of a step that types, one exactly when the step
succeeds, and through a chain only after it accepted the press that gives the focus to the
same field.  A wait sends no action.
-/

namespace UiReplay

/-! ## What counts -/

/-- The actions that the device accepted and that count. -/
def achieved (counts : DeviceAction → Bool) (sent : List Suspension) : List DeviceAction :=
  (sent.filterMap Suspension.accepted?).filter counts

theorem achieved_append (counts : DeviceAction → Bool) (a b : List Suspension) :
    achieved counts (a ++ b) = achieved counts a ++ achieved counts b := by
  simp [achieved]

theorem achieved_nil (counts : DeviceAction → Bool) : achieved counts [] = [] := rfl

theorem achieved_singleton {counts : DeviceAction → Bool} {x : Suspension} {a : DeviceAction}
    (h : x.accepted? = some a) : achieved counts [x] = if counts a then [a] else [] := by
  cases hc : counts a <;> simp [achieved, h, hc]

theorem mem_achieved {counts : DeviceAction → Bool} {sent : List Suspension} {a : DeviceAction} :
    a ∈ achieved counts sent ↔ (∃ x ∈ sent, x.accepted? = some a) ∧ counts a = true := by
  simp [achieved]

theorem achieved_eq_nil {counts : DeviceAction → Bool} {sent : List Suspension}
    (h : ∀ x ∈ sent, x.accepted? = none) : achieved counts sent = [] := by
  rw [achieved, List.filterMap_eq_nil_iff.mpr h, List.filter_nil]

/-- What was sent ends with what counts if it is done, and has nothing that counts if not. -/
inductive Settles (counts : DeviceAction → Bool) (close : List Suspension → Prop) :
    Bool → List Suspension → Prop
  | done {before last : List Suspension} (quiet : achieved counts before = []) (h : close last) :
      Settles counts close true (before ++ last)
  | undone {sent : List Suspension} (quiet : achieved counts sent = []) :
      Settles counts close false sent

variable {counts : DeviceAction → Bool} {close : List Suspension → Prop}

theorem Settles.after {first rest : List Suspension} {b : Bool}
    (quiet : achieved counts first = []) (h : Settles counts close b rest) :
    Settles counts close b (first ++ rest) := by
  cases h with
  | done hbefore hlast =>
      rw [← List.append_assoc]
      refine .done ?_ hlast
      rw [achieved_append, quiet, hbefore, List.nil_append]
  | undone hrest =>
      refine .undone ?_
      rw [achieved_append, quiet, hrest, List.nil_append]

/-! ## What is done once -/

/-- What counts is accepted at most once, exactly when the step succeeds, and then nothing
more is sent. -/
structure AcceptedOnce (counts : DeviceAction → Bool) (succeeded : Prop)
    (sent : List Suspension) : Prop where
  atMost : (achieved counts sent).length ≤ 1
  exactly : (achieved counts sent).length = 1 ↔ succeeded
  last : ∀ {before after : List Suspension} {x : Suspension} {a : DeviceAction},
    sent = before ++ x :: after → x.accepted? = some a → counts a = true → after = []

/-- Where one thing that counts is the last, nothing that counts is before it. -/
theorem eq_of_achieved_nil {init before after : List Suspension} {y x : Suspension}
    {a : DeviceAction} (quiet : achieved counts init = [])
    (h : init ++ [y] = before ++ x :: after) (hx : x.accepted? = some a) (ha : counts a = true) :
    before = init ∧ x = y ∧ after = [] := by
  rcases List.eq_nil_or_concat after with rfl | ⟨rest, z, rfl⟩
  · obtain ⟨rfl, hy⟩ := List.append_inj' h rfl
    exact ⟨rfl, (List.singleton_inj.mp hy).symm, rfl⟩
  · have split : init ++ [y] = (before ++ x :: rest) ++ [z] := by rw [h]; simp
    have mem : a ∈ achieved counts init := by
      rw [(List.append_inj' split rfl).1, mem_achieved]
      exact ⟨⟨x, by simp, hx⟩, ha⟩
    rw [quiet] at mem
    cases mem

/-- The last request is the one that counts. -/
def Closes (counts : DeviceAction → Bool) (last : List Suspension) : Prop :=
  ∃ init y a, last = init ++ [y] ∧ achieved counts init = [] ∧ y.accepted? = some a ∧
    counts a = true

theorem Settles.once {succeeded : Bool} {sent : List Suspension}
    (closes : ∀ last, close last → Closes counts last) (h : Settles counts close succeeded sent) :
    AcceptedOnce counts (succeeded = true) sent := by
  cases h with
  | @done before last quiet hlast =>
      obtain ⟨init, y, a, rfl, hinit, hy, ha⟩ := closes _ hlast
      have quiet : achieved counts (before ++ init) = [] := by
        rw [achieved_append, quiet, hinit, List.append_nil]
      have one : achieved counts (before ++ init ++ [y]) = [a] := by
        rw [achieved_append, quiet, achieved_singleton hy, ha]
        rfl
      rw [← List.append_assoc]
      refine ⟨?_, ?_, fun hsplit hx hb => (eq_of_achieved_nil quiet hsplit hx hb).2.2⟩
      · rw [one]
        exact Nat.le_refl 1
      · rw [one]
        exact ⟨fun _ => rfl, fun _ => rfl⟩
  | undone quiet =>
      refine ⟨?_, ?_, ?_⟩
      · rw [quiet]
        exact Nat.zero_le 1
      · rw [quiet]
        exact ⟨nofun, nofun⟩
      · rintro before after x a rfl hx ha
        have mem : a ∈ achieved counts (before ++ x :: after) :=
          mem_achieved.mpr ⟨⟨x, by simp, hx⟩, ha⟩
        rw [quiet] at mem
        cases mem

namespace Engine

variable {σ α β : Type} {g : Engine σ}

/-! ## Performing and fetching -/

theorem Performed.quiet {a : DeviceAction} {e : StepError} {sent : List Suspension}
    (h : Performed a (.error e) sent) : achieved counts sent = [] :=
  achieved_eq_nil fun x hx => (h x hx).accepted

theorem Fetched.achieved {outcome : Except StepError (List Node)} {sent : List Suspension}
    (h : Fetched outcome sent) : achieved counts sent = [] :=
  achieved_eq_nil fun x hx => Suspension.accepted?_of_state (h.quiet x hx)

/-- One request, which the device accepts. -/
def One (counts : DeviceAction → Bool) (last : List Suspension) : Prop :=
  ∃ x a, last = [x] ∧ x.accepted? = some a ∧ counts a = true

/-- Every action counts. -/
def anyAction (_ : DeviceAction) : Bool := true

theorem sends_perform_one (a : DeviceAction) (ha : counts a = true) :
    Sends (g.perform a) fun outcome sent => Settles counts (One counts) outcome.isOk sent := by
  refine (sends_perform a).mono ?_
  intro outcome sent performed
  cases outcome with
  | ok _ =>
      obtain ⟨refused, x, rfl, hrefused, hx⟩ := performed
      exact .done (achieved_eq_nil fun y hy => (hrefused y hy).accepted) ⟨x, a, rfl, hx, ha⟩
  | error e => exact .undone performed.quiet

/-- An outcome that is only changed where it succeeds. -/
theorem Sends.returning {x : Attempt σ α} {Q : Bool → List Suspension → Prop} (f : α → β)
    {ends : Except StepError β → Bool}
    (hends : ∀ outcome : Except StepError α, ends (outcome.map f) = outcome.isOk)
    (hx : Sends x fun outcome sent => Q outcome.isOk sent) :
    Sends (x >>= fun a => pure (f a)) fun outcome sent => Q (ends outcome) sent := by
  refine hx.bind ?_ ?_
  · intro a first h
    apply sends_outcome
    rw [List.append_nil]
    exact (hends (.ok a)).symm ▸ h
  · intro e first h
    exact (hends (.error e)).symm ▸ h

theorem isOk_map (f : α → β) (outcome : Except StepError α) :
    (outcome.map f).isOk = outcome.isOk := by
  cases outcome <;> rfl

/-! ## Selectors in order -/

/-- Whether an attempt brought something. -/
def brings : Except StepError (Option α) → Bool
  | .ok (some _) => true
  | .ok none | .error _ => false

theorem brings_map_some (f : α → β) (outcome : Except StepError α) :
    brings (outcome.map fun a => some (f a)) = outcome.isOk := by
  cases outcome <;> rfl

/-- A search goes on only after an attempt that brought nothing. -/
theorem sends_firstHitFrom (c : Chain) {attempt : Selector → Attempt σ (Option α)}
    {selectors : List Selector}
    (hattempt : ∀ s ∈ selectors,
      Sends (attempt s) fun outcome sent => Settles counts close (brings outcome) sent)
    (i : Nat) (last : Option StepError) :
    Sends (c.firstHitFrom attempt selectors i last) fun outcome sent =>
      Settles counts close outcome.isOk sent := by
  induction selectors generalizing i last with
  | nil => exact sends_outcome (.undone (achieved_nil _))
  | cons s rest ih =>
      have more := ih fun t ht => hattempt t (List.mem_cons_of_mem _ ht)
      refine (hattempt s List.mem_cons_self).handle ?_
      intro outcome first h
      cases outcome with
      | ok found =>
          cases found with
          | none =>
              cases h with
              | undone quiet => exact (more _ _).mono fun _ _ h => h.after quiet
          | some value =>
              apply sends_outcome
              rw [List.append_nil]
              exact h
      | error e =>
          cases h with
          | undone quiet =>
              cases e with
              | cancelled =>
                  apply sends_outcome
                  rw [List.append_nil]
                  exact .undone quiet
              | _ => exact (more _ _).mono fun _ _ h => h.after quiet

theorem sends_firstHit (c : Chain) {attempt : Selector → Attempt σ (Option α)}
    (hattempt : ∀ s ∈ c.selectors,
      Sends (attempt s) fun outcome sent => Settles counts close (brings outcome) sent) :
    Sends (c.firstHit attempt) fun outcome sent => Settles counts close outcome.isOk sent :=
  sends_firstHitFrom c hattempt _ _

/-- The recorded rectangle is used only after a search that brought nothing. -/
theorem sends_locate (c : Chain) {attempt : Selector → Attempt σ (Option α)} (deed : α → Deed)
    (note : Point → Note) {atPoint : Point → Attempt σ Deed}
    (hattempt : ∀ s ∈ c.selectors,
      Sends (attempt s) fun outcome sent => Settles counts close (brings outcome) sent)
    (hpoint : ∀ i s p, c.recordedPoint? = some (i, s, p) →
      Sends (atPoint p) fun outcome sent => Settles counts close outcome.isOk sent) :
    Sends (locate c attempt deed note atPoint) fun outcome sent =>
      Settles counts close outcome.isOk sent := by
  refine (sends_firstHit c hattempt).handle ?_
  intro outcome first h
  cases outcome with
  | ok hit =>
      apply sends_outcome
      rw [List.append_nil]
      exact h
  | error e =>
      cases h with
      | undone quiet =>
          have stop : ∀ e' : StepError,
              Sends (ExceptT.mk (pure (.error e')) : Attempt σ StepOutcome) fun outcome rest =>
                Settles counts close outcome.isOk (first ++ rest) := by
            intro e'
            apply sends_outcome
            rw [List.append_nil]
            exact .undone quiet
          cases e with
          | notFound missing =>
              dsimp only
              split
              · exact stop _
              · next i s p hp =>
                  have press := ((hpoint i s p hp).returning
                    (fun deed => ({ deed := deed, selector := some (s, i), fallbackUsed := true } :
                      StepOutcome)) (isOk_map _)).mono fun _ _ h => h.after quiet
                  refine (sends_note _).after (fun _ => press) ?_
                  rw [List.append_nil]
                  exact .undone quiet
          | _ => exact stop _

/-! ## Presses and movements -/

theorem sends_pressFound (long : Bool) (d : TapData) (tree : List Node) (s : Selector) :
    Sends (g.pressFound long d tree s) fun outcome sent =>
      Settles anyAction (One anyAction) (brings outcome) sent := by
  unfold pressFound
  split
  · exact sends_outcome (.undone (achieved_nil _))
  · exact (sends_perform_one _ rfl).returning _ (brings_map_some _)

/-- What comes after the tree was fetched. -/
theorem sends_fetchTree_then {f : List Node → Attempt σ β}
    (hf : ∀ tree, Sends (f tree) fun outcome sent => Settles counts close outcome.isOk sent) :
    Sends (g.fetchTree >>= f) fun outcome sent => Settles counts close outcome.isOk sent :=
  sends_fetchTree.bind (fun tree _ fetched => (hf tree).mono fun _ _ h => h.after fetched.achieved)
    fun _ _ fetched => .undone fetched.achieved

theorem sends_tap (chain : Option Chain) (long : Bool) (d : TapData) :
    Sends (g.tap chain long d) fun outcome sent =>
      Settles anyAction (One anyAction) outcome.isOk sent := by
  unfold tap
  split
  · exact (sends_perform_one _ rfl).returning _ (isOk_map _)
  · exact sends_outcome (.undone (achieved_nil _))
  · refine sends_fetchTree_then fun tree => sends_locate _ _ _ ?_ ?_
    · exact fun s _ => sends_pressFound long d tree s
    · exact fun _ _ _ _ => (sends_perform_one _ rfl).returning _ (isOk_map _)

theorem sends_swipeAcross (d : SwipeData) (direction : Direction) :
    Sends (g.swipeAcross d direction) fun outcome sent =>
      Settles anyAction (One anyAction) outcome.isOk sent :=
  (sends_sure fun _ => rfl).after
    (fun _ => (sends_perform_one _ rfl).returning _ (isOk_map _)) (.undone (achieved_nil _))

theorem sends_swipe (d : SwipeData) :
    Sends (g.swipe d) fun outcome sent => Settles anyAction (One anyAction) outcome.isOk sent := by
  unfold swipe
  split
  · exact (sends_perform_one _ rfl).returning _ (isOk_map _)
  · exact (sends_swipeAcross d _).returning _ (isOk_map _)

theorem sends_scrollFound (way : ScrollWay) (tree : List Node) (s : Selector) :
    Sends (g.scrollFound way tree s) fun outcome sent =>
      Settles anyAction (One anyAction) (brings outcome) sent := by
  unfold scrollFound
  split
  · exact sends_outcome (.undone (achieved_nil _))
  · exact (sends_perform_one _ rfl).returning _ (brings_map_some _)

theorem sends_scrollBySwipe (d : SwipeData) (fallbackUsed : Bool) :
    Sends (g.scrollBySwipe d fallbackUsed) fun outcome sent =>
      Settles anyAction (One anyAction) outcome.isOk sent :=
  (sends_swipeAcross d _).returning _ (isOk_map _)

/-- The swipe replaces a scroll only after a search that brought nothing. -/
theorem sends_scrollChain (c : Chain) (d : SwipeData) :
    Sends (g.scrollChain c d) fun outcome sent =>
      Settles anyAction (One anyAction) outcome.isOk sent := by
  have search : Sends (do
      let tree ← g.fetchTree
      c.firstHit (g.scrollFound (ScrollWay.towards d.direction) tree)) fun outcome sent =>
        Settles anyAction (One anyAction) outcome.isOk sent :=
    sends_fetchTree_then fun tree => sends_firstHit c fun s _ => sends_scrollFound _ tree s
  refine search.handle ?_
  intro outcome first h
  cases outcome with
  | ok hit =>
      apply sends_outcome
      rw [List.append_nil]
      exact h
  | error e =>
      cases h with
      | undone quiet =>
          have stop : Settles anyAction (One anyAction) false (first ++ []) := by
            rw [List.append_nil]
            exact .undone quiet
          cases e with
          | cancelled => exact sends_outcome stop
          | _ =>
              have swipe := (g.sends_scrollBySwipe d true).mono fun _ _ h => h.after quiet
              exact (sends_note _).after (fun _ => swipe) stop

theorem sends_scroll (chain : Option Chain) (d : SwipeData) :
    Sends (g.scroll chain d) fun outcome sent =>
      Settles anyAction (One anyAction) outcome.isOk sent := by
  unfold scroll
  split
  · exact (sends_perform_one _ rfl).returning _ (isOk_map _)
  · exact sends_scrollChain _ d
  · exact sends_scrollBySwipe d false

/-! ## Typing -/

/-- One attempt to type through a chain: the press that gives the focus, and the text.  It
uses a selector, or the recorded rectangle. -/
inductive OneAttempt (m : Matcher) (c : Chain) (d : InputTextData) (tree : List Node) :
    DeviceAction → DeviceAction → Prop
  | node {s : Selector} {i : Nat} {n : Node} {focus : DeviceAction} (mem : s ∈ c.selectors)
      (found : m.findNode tree s = some (i, n)) (hfocus : n.focus? = some focus) :
      OneAttempt m c d tree focus (.setText n.index (d.textFor n))
  | recorded {i : Nat} {s : Selector} {p : Point} (h : c.recordedPoint? = some (i, s, p)) :
      OneAttempt m c d tree (.tap p) (.setText none d.text)

/-- The focus was accepted, then the text, and in between the text was only refused. -/
def Focused (focus text : DeviceAction) (last : List Suspension) : Prop :=
  ∃ f between t, last = f :: (between ++ [t]) ∧ f.accepted? = some focus ∧
    (∀ x ∈ between, x.Refuses text) ∧ t.accepted? = some text

/-- One attempt that was brought to its end. -/
def TypedIn (m : Matcher) (c : Chain) (d : InputTextData) (tree : List Node)
    (last : List Suspension) : Prop :=
  ∃ focus text, OneAttempt m c d tree focus text ∧ Focused focus text last

theorem OneAttempt.focus_not_text {m : Matcher} {c : Chain} {d : InputTextData}
    {tree : List Node} {focus text : DeviceAction} (h : OneAttempt m c d tree focus text) :
    focus.isSetText = false := by
  cases h with
  | node _ _ hfocus =>
      unfold Node.focus? at hfocus
      split at hfocus
      · cases hfocus
        rfl
      · obtain ⟨i, -, rfl⟩ := Option.map_eq_some_iff.mp hfocus
        rfl
  | recorded _ => rfl

theorem OneAttempt.text_isSetText {m : Matcher} {c : Chain} {d : InputTextData}
    {tree : List Node} {focus text : DeviceAction} (h : OneAttempt m c d tree focus text) :
    text.isSetText = true := by
  cases h <;> rfl

/-- The text is sent only after the focus was accepted. -/
theorem sends_focusThenText {m : Matcher} {c : Chain} {d : InputTextData} {tree : List Node}
    {focus text : DeviceAction} (attempt : OneAttempt m c d tree focus text) :
    Sends (do g.perform focus; g.perform text) fun outcome sent =>
      Settles DeviceAction.isSetText (TypedIn m c d tree) outcome.isOk sent := by
  refine (sends_perform focus).bind ?_ ?_
  · rintro _ first ⟨refused, f, rfl, hrefused, hf⟩
    have quiet : achieved DeviceAction.isSetText refused = [] :=
      achieved_eq_nil fun x hx => (hrefused x hx).accepted
    refine (sends_perform text).mono ?_
    intro outcome rest performed
    cases outcome with
    | ok _ =>
        obtain ⟨between, t, rfl, hbetween, ht⟩ := performed
        rw [List.append_assoc, List.singleton_append]
        exact .done quiet ⟨focus, text, attempt, f, between, t, rfl, hf, hbetween, ht⟩
    | error e =>
        refine .undone ?_
        rw [achieved_append, achieved_append, quiet, achieved_singleton hf, performed.quiet]
        simp [attempt.focus_not_text]
  · exact fun _ _ performed => .undone performed.quiet

theorem sends_typeFound (c : Chain) (d : InputTextData) (tree : List Node) {s : Selector}
    (mem : s ∈ c.selectors) :
    Sends (g.typeFound d tree s) fun outcome sent =>
      Settles DeviceAction.isSetText (TypedIn g.matcher c d tree) (brings outcome) sent := by
  unfold typeFound
  split
  · exact sends_outcome (.undone (achieved_nil _))
  · next i n found =>
      split
      · exact sends_outcome (.undone (achieved_nil _))
      · next focus hfocus =>
          have attempt : OneAttempt g.matcher c d tree focus (.setText n.index (d.textFor n)) :=
            .node mem found hfocus
          rw [← bind_assoc]
          exact (sends_focusThenText attempt).returning _ (brings_map_some _)

/-- The tree is fetched, and a text that is typed goes to a field of it. -/
def TypedThrough (m : Matcher) (c : Chain) (d : InputTextData) (succeeded : Bool)
    (sent : List Suspension) : Prop :=
  ∃ tree looked rest, sent = looked ++ rest ∧ achieved DeviceAction.isSetText looked = [] ∧
    (succeeded = true → ∃ x ∈ looked, ∃ state : DeviceState,
      x.Got .state (.ok state) ∧ state.tree = tree) ∧
    Settles DeviceAction.isSetText (TypedIn m c d tree) succeeded rest

theorem sends_inputText_chain (c : Chain) (d : InputTextData) :
    Sends (g.inputText (some c) d) fun outcome sent =>
      TypedThrough g.matcher c d outcome.isOk sent := by
  refine sends_fetchTree.bind ?_ ?_
  · intro tree first fetched
    have point : ∀ i s p, c.recordedPoint? = some (i, s, p) → Sends (do
        g.perform (.tap p)
        g.perform (.setText none d.text)
        return Deed.typedAtRecorded) fun outcome sent =>
          Settles DeviceAction.isSetText (TypedIn g.matcher c d tree) outcome.isOk sent := by
      intro i s p h
      rw [← bind_assoc]
      exact (sends_focusThenText (.recorded h)).returning _ (isOk_map _)
    refine (sends_locate c _ _ (fun s mem => sends_typeFound c d tree mem) point).mono ?_
    exact fun outcome rest h =>
      ⟨tree, first, rest, rfl, fetched.achieved, fun _ => fetched.tree tree rfl, h⟩
  · intro e first fetched
    exact ⟨[], first, [], (List.append_nil _).symm, fetched.achieved, nofun,
      .undone (achieved_nil _)⟩

theorem sends_inputText_focus (d : InputTextData) :
    Sends (g.inputText none d) fun outcome sent =>
      Settles DeviceAction.isSetText (One DeviceAction.isSetText) outcome.isOk sent :=
  (sends_perform_one _ rfl).returning _ (isOk_map _)

/-! ## Waiting -/

theorem sends_lookUntil (c : Chain) (ms deadline left : Nat) :
    Sends (g.lookUntil c ms deadline left) fun _ sent => ∀ x ∈ sent, x.request = .state := by
  have none : ∀ x ∈ ([] : List Suspension), x.request = .state := fun _ h => by cases h
  induction left with
  | zero => exact sends_outcome none
  | succ left ih =>
      refine sends_fetchTree.bind ?_ fun _ _ fetched => fetched.quiet
      intro tree first fetched
      have after : ∀ {rest : List Suspension}, (∀ x ∈ rest, x.request = .state) →
          ∀ x ∈ first ++ rest, x.request = .state := by
        intro rest hrest x hx
        exact (List.mem_append.mp hx).elim (fetched.quiet x) (hrest x)
      split
      · exact sends_outcome (after none)
      · refine (sends_sure fun _ => rfl).after (fun now => ?_) (after none)
        split
        · exact sends_outcome (after none)
        · have more := ih.mono fun _ _ h => after h
          exact (sends_sleep _).after (fun _ => more) (after none)

theorem sends_wait (chain : Option Chain) (d : WaitData) :
    Sends (g.wait chain d) fun _ sent => ∀ x ∈ sent, x.request = .state := by
  have none : ∀ x ∈ ([] : List Suspension), x.request = .state := fun _ h => by cases h
  unfold wait
  split
  · exact (sends_sure fun _ => rfl).after (fun now => sends_lookUntil _ _ _ _) none
  · exact (sends_sleep _).after (fun _ => sends_outcome none) none

/-! ## Steps -/

theorem closes_of_one {last : List Suspension} (h : One counts last) : Closes counts last := by
  obtain ⟨x, a, rfl, hx, ha⟩ := h
  exact ⟨[], x, a, rfl, achieved_nil _, hx, ha⟩

theorem closes_of_typedIn {m : Matcher} {c : Chain} {d : InputTextData} {tree : List Node}
    {last : List Suspension} (h : TypedIn m c d tree last) :
    Closes DeviceAction.isSetText last := by
  obtain ⟨focus, text, attempt, f, between, t, rfl, hf, hbetween, ht⟩ := h
  refine ⟨f :: between, t, text, rfl, ?_, ht, attempt.text_isSetText⟩
  have quiet : achieved DeviceAction.isSetText between = [] :=
    achieved_eq_nil fun x hx => (hbetween x hx).accepted
  rw [← List.singleton_append, achieved_append, achieved_singleton hf, quiet]
  simp [attempt.focus_not_text]

/-- Before the text that the device accepted it accepted the press that gives the focus in
the same attempt, and in between it only refused the text.  The field is that of a tree that
the device gave before. -/
def FocusedBefore (m : Matcher) (c : Chain) (d : InputTextData) (sent : List Suspension) : Prop :=
  ∀ {before after : List Suspension} {t : Suspension} {text : DeviceAction},
    sent = before ++ t :: after → t.accepted? = some text → text.isSetText = true →
    ∃ tree focus earlier f between, OneAttempt m c d tree focus text ∧
      (∃ x ∈ earlier, ∃ state : DeviceState, x.Got .state (.ok state) ∧ state.tree = tree) ∧
      before = earlier ++ f :: between ∧ f.accepted? = some focus ∧
      ∀ x ∈ between, x.Refuses text

theorem TypedThrough.once {m : Matcher} {c : Chain} {d : InputTextData}
    {succeeded : Bool} {sent : List Suspension} (h : TypedThrough m c d succeeded sent) :
    AcceptedOnce DeviceAction.isSetText (succeeded = true) sent := by
  obtain ⟨tree, looked, rest, rfl, quiet, -, settles⟩ := h
  exact (settles.after quiet).once fun _ => closes_of_typedIn

theorem TypedThrough.focusedBefore {m : Matcher} {c : Chain} {d : InputTextData}
    {succeeded : Bool} {sent : List Suspension} (h : TypedThrough m c d succeeded sent) :
    FocusedBefore m c d sent := by
  obtain ⟨tree, looked, rest, rfl, hlooked, given, settles⟩ := h
  intro before after t text hsplit ht htext
  cases settles with
  | @done earlier last hearlier typed =>
      obtain ⟨focus, text', attempt, f, between, t', rfl, hf, hbetween, ht'⟩ := typed
      have quiet : achieved DeviceAction.isSetText (looked ++ earlier ++ f :: between) = [] := by
        rw [← List.singleton_append, achieved_append, achieved_append, achieved_append, hlooked,
          hearlier, achieved_singleton hf,
          achieved_eq_nil fun x hx => (hbetween x hx).accepted]
        simp [attempt.focus_not_text]
      obtain ⟨rfl, rfl, rfl⟩ := eq_of_achieved_nil quiet (by simpa using hsplit) ht htext
      cases ht'.symm.trans ht
      obtain ⟨x, hx, hgiven⟩ := given rfl
      exact ⟨tree, focus, looked ++ earlier, f, between, attempt,
        ⟨x, List.mem_append_left _ hx, hgiven⟩, rfl, hf, hbetween⟩
  | undone quiet =>
      have mem : text ∈ achieved DeviceAction.isSetText (looked ++ rest) :=
        mem_achieved.mpr ⟨⟨t, by simp [hsplit], ht⟩, htext⟩
      rw [achieved_append, hlooked, quiet] at mem
      cases mem

/-- What the device accepts of a step that is carried out. -/
def DoneOnce (m : Matcher) (s : Step) (succeeded : Prop) (sent : List Suspension) : Prop :=
  match s.action with
  | .tap _ | .longTap _ | .swipe _ | .scroll _ => AcceptedOnce anyAction succeeded sent
  | .inputText d =>
      AcceptedOnce DeviceAction.isSetText succeeded sent ∧
        ∀ c, s.selector = some c → FocusedBefore m c d sent
  | .wait _ => ∀ x ∈ sent, x.request = .state
  | .unusable _ => sent = []

theorem doneOnce_unsent (m : Matcher) (s : Step) {succeeded : Prop} (h : ¬ succeeded) :
    DoneOnce m s succeeded [] := by
  have once : ∀ counts, AcceptedOnce counts succeeded [] := fun counts =>
    ⟨Nat.zero_le 1, ⟨nofun, fun hs => absurd hs h⟩, fun hsplit => by simp at hsplit⟩
  unfold DoneOnce
  split
  case h_5 d => exact ⟨once _, fun c _ before after t text h => by simp at h⟩
  case h_6 => exact fun x hx => by cases hx
  case h_7 => rfl
  all_goals exact once _

theorem sends_carryOut (s : Step) :
    Sends (g.carryOut s) fun outcome sent => DoneOnce g.matcher s (outcome.isOk = true) sent := by
  have pressed : ∀ {outcome : Except StepError StepOutcome} {sent : List Suspension},
      Settles anyAction (One anyAction) outcome.isOk sent →
        AcceptedOnce anyAction (outcome.isOk = true) sent := fun h => h.once fun _ => closes_of_one
  unfold carryOut DoneOnce
  cases s.action with
  | wait d => exact sends_wait _ d
  | tap d => exact (sends_tap _ false d).mono fun _ _ => pressed
  | longTap d => exact (sends_tap _ true d).mono fun _ _ => pressed
  | swipe d => exact (sends_swipe d).mono fun _ _ => pressed
  | scroll d => exact (sends_scroll _ d).mono fun _ _ => pressed
  | inputText d =>
      cases s.selector with
      | none =>
          refine (sends_inputText_focus d).mono fun outcome sent h => ⟨?_, fun c hc => by cases hc⟩
          exact h.once fun _ => closes_of_one
      | some c =>
          refine (sends_inputText_chain c d).mono fun outcome sent h => ⟨h.once, ?_⟩
          rintro c ⟨⟩
          exact h.focusedBefore
  | unusable r => exact sends_outcome rfl

theorem sends_execute (s : Step) :
    Sends (g.execute s) fun outcome sent => DoneOnce g.matcher s (outcome.isOk = true) sent := by
  unfold execute
  split
  · exact sends_outcome (doneOnce_unsent _ _ fun h => by cases h)
  · exact sends_carryOut s

/-- A result that succeeds is that of an outcome without an error. -/
theorem StepResult.ofOutcome_success (s : Step) (index : Nat) (name : String) (ms : Nat)
    (outcome : Except StepError StepOutcome) :
    (StepResult.ofOutcome s index name ms outcome).status = .success ↔ outcome.isOk = true := by
  cases outcome with
  | ok o => exact ⟨fun _ => rfl, fun _ => rfl⟩
  | error e => cases e <;> exact ⟨nofun, nofun⟩

/-- What the device accepts of an enabled step, however it answers and whatever the remote
control does. -/
theorem resultOf_sends (g : Engine σ) (total index : Nat) (name : String) {s : Step}
    (enabled : s.enabled = true) (run : Run σ) :
    ∃ sent, (g.resultOf total index name s run).2.sent = run.sent ++ sent ∧
      DoneOnce g.matcher s
        (∃ r, (g.resultOf total index name s run).1 = some r ∧ r.status = .success) sent := by
  have sends := sends_execute (g := g) s (Run.note (.step (index + 1) total name) run).2
  have noted : (Run.note (.step (index + 1) total name) run).2.sent = run.sent :=
    Run.sent_publish _ _
  simp only [resultOf, enabled, if_true, act_bind, Run.time]
  generalize (g.execute s).run (Run.note (.step (index + 1) total name) run).2 = x at sends ⊢
  obtain ⟨outcome, after⟩ := x
  obtain ⟨sent, hsent, done⟩ := sends
  rw [noted] at hsent
  have told : ∀ {result : Option StepResult},
      ((∃ r, result = some r ∧ r.status = .success) ↔ outcome.isOk = true) →
        DoneOnce g.matcher s (∃ r, result = some r ∧ r.status = .success) sent := by
    intro result h
    rwa [h]
  have answered : ∀ ms, (∃ r, some (StepResult.ofOutcome s index name ms outcome) = some r ∧
      r.status = .success) ↔ outcome.isOk = true := by
    simp [StepResult.ofOutcome_success]
  cases outcome with
  | ok o => exact ⟨sent, hsent, told (answered _)⟩
  | error e =>
      cases e with
      | cancelled =>
          refine ⟨sent, hsent, told ⟨?_, ?_⟩⟩
          · rintro ⟨r, hr, -⟩
            cases hr
          · intro h
            cases h
      | _ => exact ⟨sent, hsent, told (answered _)⟩

end Engine

/-- A step that types into a field. -/
def Step.fillName : Step where
  id := ⟨1⟩
  action := .inputText { text := "Ada" }
  selector := some ⟨⟨.resourceId, "name", SelectorKind.resourceId.baseConfidence, by decide,
    SelectorKind.resourceId.inUnit_baseConfidence⟩, []⟩

/-- A run on a screen with the field, on which the first press does not get through. -/
def Run.atNameField : Run Stage where
  control := .fresh
  screen := ⟨0, 0, 1080, 2400⟩
  around :=
    { states := [⟨.ok { tree := [{ resourceId := "name", bounds := "[0,0][100,40]" }] }, 0⟩]
      results := [⟨.error (.transport "/action/tap" "refused"), 0⟩] }

/-- An engine for rehearsals. -/
def Engine.rehearsing : Engine Stage where
  surroundings := Stage.surroundings

theorem Engine.resultOf_sends_fillName :
    Step.fillName.enabled = true ∧
      ∃ sent, (Engine.rehearsing.resultOf 1 0 "Name" .fillName .atNameField).2.sent =
          Run.atNameField.sent ++ sent ∧
        Engine.DoneOnce Engine.rehearsing.matcher .fillName
          (∃ r, (Engine.rehearsing.resultOf 1 0 "Name" .fillName .atNameField).1 = some r ∧
            r.status = .success) sent :=
  ⟨rfl, Engine.resultOf_sends Engine.rehearsing 1 0 "Name" rfl .atNameField⟩

end UiReplay
