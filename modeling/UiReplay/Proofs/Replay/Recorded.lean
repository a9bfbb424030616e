import UiReplay.Proofs.Replay.Addressed

/-!
# Presses where a rectangle was recorded

When no selector of a chain leads to a node with a place to press, a press or typing falls back
on the chain itself: selectors by place on the screen hold the rectangle that was recorded.
`Chain.RecordsFirst` says that a selector is the first of its chain whose value is a rectangle.

The fallback looks at the first selector by place and at no other.  `Engine.sends_locate_missed`
says what comes of it.  So the step presses the middle of the first recorded rectangle, and fails
only when there is none, exactly when the first selector by place holds a rectangle or none does
(`Engine.resultOf_recorded`).  A first one whose value is no rectangle hides the later ones
(`Engine.resultOf_hides_rectangle`).
-/

namespace UiReplay

/-! ## Recorded rectangles -/

/-- The rectangle that a selector by place holds. -/
def Selector.rect? (s : Selector) : Option Rect :=
  if s.kind = .bounds then Rect.parse? s.value else none

namespace Chain

/-- The selector at a place of a chain holds a rectangle, and none before it does. -/
structure RecordsFirst (c : Chain) (i : Nat) (s : Selector) (r : Rect) : Prop where
  /-- The selector has this place. -/
  here : c.selectors[i]? = some s
  /-- It holds the rectangle. -/
  rect : s.rect? = some r
  /-- The selectors before it hold none. -/
  first : ∀ j < i, ∀ t, c.selectors[j]? = some t → t.rect? = none

variable {c : Chain} {i j : Nat} {s t : Selector} {r r' : Rect} {p : Point}

theorem RecordsFirst.le (h : c.RecordsFirst i s r) (h' : c.RecordsFirst j t r') : i ≤ j := by
  by_contra lt
  have nothing := h.first j (Nat.lt_of_not_le lt) t h'.here
  rw [h'.rect] at nothing
  cases nothing

theorem RecordsFirst.unique (h : c.RecordsFirst i s r) (h' : c.RecordsFirst j t r') :
    i = j ∧ s = t ∧ r = r' := by
  obtain rfl := Nat.le_antisymm (h.le h') (h'.le h)
  obtain rfl := Option.some.inj (h.here.symm.trans h'.here)
  exact ⟨rfl, rfl, Option.some.inj (h.rect.symm.trans h'.rect)⟩

/-- The fallback goes to the first recorded rectangle. -/
theorem recordsFirst_of_recordedPoint? (h : c.recordedPoint? = some (i, s, p)) :
    ∃ r, c.RecordsFirst i s r ∧ r.center = p := by
  unfold recordedPoint? at h
  split at h
  · cases h
  · next place t found =>
      obtain ⟨r, hr, same⟩ := Option.map_eq_some_iff.mp h
      obtain ⟨rfl, rfl, rfl⟩ : place = i ∧ t = s ∧ r.center = p := by simpa using same
      obtain ⟨here, kind, before⟩ := findKind?_eq_some found
      refine ⟨r, ⟨here, by rw [Selector.rect?, if_pos kind, hr], ?_⟩, rfl⟩
      intro j lt u hu
      rw [Selector.rect?, if_neg (before j lt u hu)]

/-- The fallback finds nothing exactly when the first selector by place, if there is one, holds
no rectangle. -/
theorem recordedPoint?_eq_none_iff :
    c.recordedPoint? = none ↔ ∀ i s, c.findKind? .bounds = some (i, s) → s.rect? = none := by
  unfold recordedPoint?
  cases found : c.findKind? .bounds with
  | none => simp
  | some first =>
      obtain ⟨i, s⟩ := first
      obtain ⟨-, kind, -⟩ := findKind?_eq_some found
      simp [Selector.rect?, kind]

/-- A chain that records a rectangle has a first selector by place. -/
theorem exists_findKind? (mem : s ∈ c.selectors) (rect : s.rect? ≠ none) :
    ∃ i t, c.findKind? .bounds = some (i, t) := by
  have kind : s.kind = .bounds := by
    by_contra other
    exact rect (if_neg other)
  cases found : c.findKind? .bounds with
  | none => exact absurd kind (findKind?_eq_none_iff.mp found s mem)
  | some first => exact ⟨first.1, first.2, rfl⟩

end Chain

/-! ## The fallback -/

/-- Whether an action presses something that it has to look for, since it says no
coordinates. -/
def Action.presses : Action → Bool
  | .tap d | .longTap d => d.point?.isNone
  | .inputText _ => true
  | .swipe _ | .scroll _ | .wait _ | .unusable _ => false

namespace Engine

variable {σ α : Type} {g : Engine σ} {tree : List Node} {c : Chain}

/-- What an action sends to a point that was recorded. -/
def pressesAt (g : Engine σ) (p : Point) : Action → List DeviceAction
  | .tap _ => [.tap p]
  | .longTap d => [.longPress p (if 0 < d.durationMs then d.durationMs else g.config.longPressMs)]
  | .inputText d => [.tap p, .setText none d.text]
  | .swipe _ | .scroll _ | .wait _ | .unusable _ => []

/-- What comes of the fallback, with what it asks the device for. -/
inductive FallsBack (c : Chain) (requests : Point → List Request) :
    Except StepError StepOutcome → List Request → Prop
  /-- It goes to the recorded point, and tells through which selector. -/
  | pressed {i : Nat} {s : Selector} {p : Point} (recorded : c.recordedPoint? = some (i, s, p))
      (deed : Deed) :
      FallsBack c requests (.ok { deed := deed, selector := some (s, i), fallbackUsed := true })
        (requests p)
  /-- There is no recorded point. -/
  | missing (nothing : c.recordedPoint? = none) :
      FallsBack c requests (.error (.notFound c)) []

/-- A search whose selectors all bring nothing fails without a request, by induction on the
selectors. -/
theorem sends_firstHitFrom_missed {attempt : Selector → Attempt σ (Option α)}
    {selectors : List Selector} (misses : ∀ s ∈ selectors, Brings (attempt s) (· = none) [])
    (i : Nat) (last : Option StepError) :
    Sends (c.firstHitFrom attempt selectors i last) fun outcome sent =>
      outcome = .error .cancelled ∨ outcome = .error (last.getD (.notFound c)) ∧ sent = [] := by
  induction selectors generalizing i with
  | nil => exact sends_outcome (.inr ⟨rfl, rfl⟩)
  | cons s rest ih =>
      refine Sends.handle (misses s List.mem_cons_self) ?_
      rintro outcome first (rfl | ⟨_, rfl, rfl, none⟩)
      · exact sends_outcome (.inl rfl)
      · obtain rfl := List.map_eq_nil_iff.mp none
        exact ih (fun t ht => misses t (List.mem_cons_of_mem s ht)) (i + 1)

/-- When no selector brings anything, all depends on the recorded point. -/
theorem sends_locate_missed {attempt : Selector → Attempt σ (Option α)} {deed : α → Deed}
    {note : Point → Note} {atPoint : Point → Attempt σ Deed} {requests : Point → List Request}
    (misses : ∀ s ∈ c.selectors, Brings (attempt s) (· = none) [])
    (presses : ∀ p, Brings (atPoint p) (fun _ => True) (requests p)) :
    Sends (locate c attempt deed note atPoint) fun outcome sent =>
      outcome = .error .cancelled ∨ FallsBack c requests outcome (sent.map Suspension.request) := by
  refine Sends.handle (sends_firstHitFrom_missed misses 0 none) ?_
  rintro outcome first (rfl | ⟨rfl, rfl⟩)
  · exact sends_outcome (.inl rfl)
  · dsimp only [Option.getD_none]
    cases recorded : c.recordedPoint? with
    | none => exact sends_outcome (.inr (.missing recorded))
    | some found =>
        obtain ⟨i, s, p⟩ := found
        refine Sends.after (sends_note _) (fun _ => Sends.bind (presses p) ?_ ?_) (.inl rfl)
        · rintro deed sent (cancelled | ⟨_, -, -, asked⟩)
          · cases cancelled
          · refine sends_outcome (.inr ?_)
            rw [List.nil_append, List.append_nil, asked]
            exact .pressed recorded deed
        · rintro e sent (⟨⟨⟩⟩ | ⟨_, failed, -⟩)
          · exact .inl rfl
          · cases failed

/-- The tree is fetched before anything else. -/
theorem sends_fetchTree_before {f : List Node → Attempt σ StepOutcome}
    {requests : Point → List Request} (accepts : g.surroundings.Accepts tree)
    (hf : Sends (f tree) fun outcome sent =>
      outcome = .error .cancelled ∨ FallsBack c requests outcome (sent.map Suspension.request)) :
    Sends (g.fetchTree >>= f) fun outcome sent => outcome = .error .cancelled ∨
      ∃ rest, sent.map Suspension.request = .state :: rest ∧ FallsBack c requests outcome rest := by
  refine Sends.bind (brings_fetchTree accepts) ?_ ?_
  · rintro _ first (cancelled | ⟨_, ⟨⟩, rfl, asked⟩)
    · cases cancelled
    · refine hf.mono ?_
      rintro outcome rest (cancelled | fallsBack)
      · exact .inl cancelled
      · exact .inr ⟨_, by rw [List.map_append, asked]; rfl, fallsBack⟩
  · rintro e first (⟨⟨⟩⟩ | ⟨_, failed, -⟩)
    · exact .inl rfl
    · cases failed

/-- A step that has to look for what it presses, and finds no node for it, falls back on the
recorded rectangle. -/
theorem sends_carryOut_missed (accepts : g.surroundings.Accepts tree) {step : Step}
    (chain : step.selector = some c) (presses : step.action.presses = true)
    (missed : ∀ s ∈ c.selectors, g.matcher.leadsTo? Node.isPressable tree s = none) :
    Sends (g.carryOut step) fun outcome sent => outcome = .error .cancelled ∨
      ∃ rest, sent.map Suspension.request = .state :: rest ∧
        FallsBack c (fun p => (g.pressesAt p step.action).map .perform) outcome rest := by
  have pressOnce (a : DeviceAction) (deed : Deed) :
      Brings (g.perform a >>= fun _ => return deed) (fun _ => True) [.perform a] :=
    (brings_perform accepts a).bind_finish fun _ _ => brings_pure trivial
  rw [carryOut, chain]
  cases h : step.action with
  | tap d =>
      rw [h] at presses
      simp only [tap, Option.isNone_iff_eq_none.mp presses]
      exact sends_fetchTree_before accepts (sends_locate_missed
        (fun s hs => brings_pressFound_nothing false d (missed s hs)) fun p => pressOnce _ _)
  | longTap d =>
      rw [h] at presses
      simp only [tap, Option.isNone_iff_eq_none.mp presses]
      exact sends_fetchTree_before accepts (sends_locate_missed
        (fun s hs => brings_pressFound_nothing true d (missed s hs)) fun p => pressOnce _ _)
  | inputText d =>
      exact sends_fetchTree_before accepts (sends_locate_missed
        (fun s hs => brings_typeFound_nothing d (missed s hs))
        fun p => (brings_perform accepts _).bind fun _ _ => pressOnce _ _)
  | swipe d => rw [h] at presses; cases presses
  | scroll d => rw [h] at presses; cases presses
  | wait d => rw [h] at presses; cases presses
  | unusable r => rw [h] at presses; cases presses

/-! ## The whole step -/

/-- From a run to a result and the run after it, a step succeeds through a selector that it fell
back on, and it asks the device for just these requests, in order. -/
structure DoneAtRecorded (run : Run σ) (x : Option StepResult × Run σ) (s : Selector) (i : Nat)
    (requests : List Request) : Prop where
  result : ∃ r, x.1 = some r ∧ r.status = .success ∧ r.selector = some (s, i) ∧
    r.fallbackUsed = true
  sent : ∃ sent, x.2.sent = run.sent ++ sent ∧ sent.map Suspension.request = requests

/-- From a run to a result and the run after it, a step fails since nothing was found for its
chain, and all it asks the device for is the tree. -/
structure NotFound (c : Chain) (run : Run σ) (x : Option StepResult × Run σ) : Prop where
  result : ∃ r, x.1 = some r ∧ r.status = .failed ∧ r.error = some (.notFound c)
  sent : ∃ sent, x.2.sent = run.sent ++ sent ∧ sent.map Suspension.request = [.state]

/-- A step presses the middle of the first rectangle that its chain records, and it fails without
an action exactly when there is none. -/
structure PressesRecorded (g : Engine σ) (c : Chain) (a : Action) (run : Run σ)
    (x : Option StepResult × Run σ) : Prop where
  pressed : ∀ i s r, c.RecordsFirst i s r →
    DoneAtRecorded run x s i (.state :: (g.pressesAt r.center a).map .perform)
  missing : NotFound c run x ↔ ∀ s ∈ c.selectors, s.rect? = none

theorem DoneAtRecorded.not_notFound {run : Run σ} {x : Option StepResult × Run σ} {s : Selector}
    {i : Nat} {requests : List Request} (done : DoneAtRecorded run x s i requests) :
    ¬ NotFound c run x := by
  rintro ⟨⟨r, hr, failed, -⟩, -⟩
  obtain ⟨r', hr', success, -⟩ := done.result
  obtain rfl := Option.some.inj (hr.symm.trans hr')
  cases failed.symm.trans success

/-- A step that finds no node presses the recorded point, or fails if there is none. -/
theorem resultOf_missed (accepts : g.surroundings.Accepts tree) {step : Step}
    (enabled : step.enabled = true) (valid : step.validate = .ok ())
    (chain : step.selector = some c) (presses : step.action.presses = true)
    (missed : ∀ s ∈ c.selectors, g.matcher.leadsTo? Node.isPressable tree s = none)
    (total index : Nat) (name : String) (run : Run σ)
    (going : (g.resultOf total index name step run).2.control.isCancelled = false) :
    (c.recordedPoint? = none ∧ NotFound c run (g.resultOf total index name step run)) ∨
      ∃ i s p, c.recordedPoint? = some (i, s, p) ∧
        DoneAtRecorded run (g.resultOf total index name step run) s i
          (.state :: (g.pressesAt p step.action).map .perform) := by
  have sends := sends_carryOut_missed accepts chain presses missed
  rw [← execute_of_validate valid] at sends
  obtain ⟨outcome, durationMs, sent, hresult, hsent, rest, asked, fallsBack⟩ :=
    resultOf_of_sends enabled sends total index name run going
  cases fallsBack with
  | missing nothing => exact .inl ⟨nothing, ⟨_, hresult, rfl, rfl⟩, sent, hsent, asked⟩
  | pressed recorded deed =>
      exact .inr ⟨_, _, _, recorded, ⟨_, hresult, rfl, rfl, rfl⟩, sent, hsent, asked⟩

/-- On a device that accepts every action, let no selector of the chain of a step lead to a node
with a place to press.  If the step presses or types, is valid, says no coordinates and is not
cancelled, then it presses the middle of the first rectangle that the chain records, and fails
only when there is none, if and only if the first selector by place holds a rectangle or no
selector does.  Otherwise it fails. -/
theorem resultOf_recorded (accepts : g.surroundings.Accepts tree) {step : Step}
    (enabled : step.enabled = true) (valid : step.validate = .ok ())
    (chain : step.selector = some c) (presses : step.action.presses = true)
    (missed : ∀ s ∈ c.selectors, g.matcher.leadsTo? Node.isPressable tree s = none)
    (total index : Nat) (name : String) (run : Run σ)
    (going : (g.resultOf total index name step run).2.control.isCancelled = false) :
    (g.PressesRecorded c step.action run (g.resultOf total index name step run) ↔
        ∀ i s, c.findKind? .bounds = some (i, s) → s.rect? = none →
          ∀ t ∈ c.selectors, t.rect? = none) ∧
      ((∀ i s, c.findKind? .bounds = some (i, s) → s.rect? = none) →
        NotFound c run (g.resultOf total index name step run)) := by
  rw [← Chain.recordedPoint?_eq_none_iff]
  rcases resultOf_missed accepts enabled valid chain presses missed total index name run going with
    ⟨nothing, notFound⟩ | ⟨i, s, p, recorded, done⟩
  · refine ⟨?_, fun _ => notFound⟩
    have first := Chain.recordedPoint?_eq_none_iff.mp nothing
    by_cases all : ∀ t ∈ c.selectors, t.rect? = none
    · refine iff_of_true ⟨?_, iff_of_true notFound all⟩ fun _ _ _ _ => all
      intro i s r recorded
      have nothing := all s (List.mem_of_getElem? recorded.here)
      cases nothing.symm.trans recorded.rect
    · refine iff_of_false (fun h => all (h.missing.mp notFound)) fun h => all ?_
      obtain ⟨t, mem, rect⟩ : ∃ t ∈ c.selectors, t.rect? ≠ none := by
        simpa only [not_forall, exists_prop] using all
      obtain ⟨i, s, found⟩ := Chain.exists_findKind? mem rect
      exact h i s found (first i s found)
  · obtain ⟨r, recordsFirst, rfl⟩ := Chain.recordsFirst_of_recordedPoint? recorded
    refine ⟨iff_of_true ⟨?_, iff_of_false done.not_notFound ?_⟩ ?_, ?_⟩
    · intro j t r' recordsFirst'
      obtain ⟨rfl, rfl, rfl⟩ := recordsFirst.unique recordsFirst'
      exact done
    · intro all
      have nothing := all s (List.mem_of_getElem? recordsFirst.here)
      cases nothing.symm.trans recordsFirst.rect
    · intro j t found nothing
      have none : c.recordedPoint? = none := by
        refine Chain.recordedPoint?_eq_none_iff.mpr fun k u found' => ?_
        cases found.symm.trans found'
        exact nothing
      cases none.symm.trans recorded
    · intro none
      cases none.symm.trans recorded

end Engine

/-- A selector by place with a given value. -/
def Selector.placed (value : String) (nonBlank : Text.isBlankText value = false := by decide) :
    Selector :=
  ⟨.bounds, value, SelectorKind.bounds.baseConfidence, nonBlank,
    SelectorKind.bounds.inUnit_baseConfidence⟩

/-- A chain whose first selector finds a node of no use, and whose second is a place. -/
def Chain.worn : Chain := ⟨Chain.confirm.primary, [.placed "[100,200][300,400]"]⟩

/-- A chain of two selectors by place, of which the first holds no rectangle. -/
def Chain.smudged : Chain := ⟨.placed "unknown", [.placed "[0,0][20,20]"]⟩

/-- A long tap along a chain. -/
def Step.holdAlong (c : Chain) : Step where
  id := ⟨1⟩
  action := .longTap {}
  selector := some c

theorem Engine.resultOf_recorded_worn :
    (Step.holdAlong .worn).validate = .ok () ∧
      Chain.worn.RecordsFirst 1 (.placed "[100,200][300,400]") ⟨100, 200, 300, 400⟩ ∧
      Engine.confirming.PressesRecorded .worn (Step.holdAlong .worn).action .begun
        (Engine.confirming.resultOf 1 0 "Hold" (.holdAlong .worn) .begun) := by
  have missed : ∀ s ∈ Chain.worn.selectors,
      Engine.confirming.matcher.leadsTo? Node.isPressable [.dialog] s = none := by
    decide +kernel
  have recorded := Engine.resultOf_recorded (Surroundings.accepts_steady _)
    (show (Step.holdAlong .worn).enabled = true from rfl) rfl rfl rfl missed 1 0 "Hold" .begun
    (by decide +kernel)
  refine ⟨rfl, ⟨rfl, by decide +kernel, ?_⟩, recorded.1.mpr ?_⟩
  · intro j lt t ht
    obtain rfl : j = 0 := by omega
    obtain rfl : Chain.worn.primary = t := Option.some.inj ht
    rfl
  · intro i s found nothing
    obtain ⟨rfl, rfl⟩ : 1 = i ∧ Selector.placed "[100,200][300,400]" = s := by
      simpa using (show Chain.worn.findKind? .bounds = some (1, _) from rfl).symm.trans found
    exact absurd nothing (by decide +kernel)

/-- A first selector by place whose value is no rectangle hides the rectangle of a later one. -/
theorem Engine.resultOf_hides_rectangle :
    (Step.holdAlong .smudged).validate = .ok () ∧
      (∀ s ∈ Chain.smudged.selectors,
        Engine.confirming.matcher.leadsTo? Node.isPressable [.dialog] s = none) ∧
      Chain.smudged.RecordsFirst 1 (.placed "[0,0][20,20]") ⟨0, 0, 20, 20⟩ ∧
      Engine.NotFound .smudged .begun
        (Engine.confirming.resultOf 1 0 "Hold" (.holdAlong .smudged) .begun) := by
  have missed : ∀ s ∈ Chain.smudged.selectors,
      Engine.confirming.matcher.leadsTo? Node.isPressable [.dialog] s = none := by
    decide +kernel
  refine ⟨rfl, missed, ⟨rfl, by decide +kernel, ?_⟩, ?_⟩
  · intro j lt t ht
    obtain rfl : j = 0 := by omega
    obtain rfl : Chain.smudged.primary = t := Option.some.inj ht
    decide +kernel
  · rcases Engine.resultOf_missed (Surroundings.accepts_steady _)
      (show (Step.holdAlong .smudged).enabled = true from rfl) rfl rfl rfl missed 1 0 "Hold" .begun
      (by decide +kernel) with ⟨-, notFound⟩ | ⟨i, s, p, recorded, -⟩
    · exact notFound
    · have nothing : Chain.smudged.recordedPoint? = none := by decide +kernel
      cases nothing.symm.trans recorded

end UiReplay
