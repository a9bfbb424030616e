import UiReplay.Replay.Workflow

/-!
# What a step is put together from

Whatever a step is, carrying it out is put together from seven kinds of parts
(`Engine.Composed`).  It looks at the time or at the screen, it notes something, it sleeps, it has
an action carried out, it fetches the tree, or it ends.  One part comes after the other, whatever
is done about a failure in between, and a cancel is always passed on.

`composed_execute` says so of every step.  So what holds of the parts, and is kept when one comes
after the other, holds of every step, by induction on how it is put together.

The recursions are those of the engine: over the selectors of a chain (`composed_firstHitFrom`),
and over the looks that are left (`composed_lookUntil`).

No part depends on whether failures end a replay.  Only a wait depends on how often one that never
sleeps looks.  An engine that differs in nothing else (`Engine.tuned`) carries out all other steps
in the same way (`execute_tuned`).
-/

namespace UiReplay

namespace Engine

variable {σ α β : Type}

/-- A computation is put together from what an engine does within a step. -/
inductive Composed (g : Engine σ) : {α : Type} → Attempt σ α → Prop
  /-- It ends, and does not make up a cancel. -/
  | ended {α : Type} {outcome : Except StepError α} (honest : outcome ≠ .error .cancelled) :
      Composed g (ExceptT.mk (pure outcome))
  /-- One computation comes after another, and passes a cancel on. -/
  | handle {α β : Type} {x : Attempt σ α} {k : Except StepError α → Act σ (Except StepError β)}
      (first : Composed g x) (passes : k (.error .cancelled) = pure (.error .cancelled))
      (next : ∀ outcome, outcome ≠ .error .cancelled → Composed g (ExceptT.mk (k outcome))) :
      Composed g (ExceptT.mk (x.run >>= k))
  /-- It looks at the time. -/
  | time : Composed g Run.time.sure
  /-- It looks at the screen. -/
  | knownScreen : Composed g Run.knownScreen.sure
  /-- It notes something. -/
  | note (n : Note) : Composed g (Run.note n).sure
  /-- It sleeps. -/
  | sleep (ms : Nat) : Composed g (g.sleep ms)
  /-- It has an action carried out. -/
  | perform (a : DeviceAction) : Composed g (g.perform a)
  /-- It fetches the tree. -/
  | fetchTree : Composed g g.fetchTree

variable {g : Engine σ}

/-! ## One part after the other -/

theorem composed_pure (a : α) : g.Composed (pure a : Attempt σ α) := by
  have honest : (.ok a : Except StepError α) ≠ .error .cancelled := fun h => by cases h
  exact .ended honest

theorem composed_throw {e : StepError} (honest : e ≠ .cancelled) :
    g.Composed (throw e : Attempt σ α) := by
  have honest : (.error e : Except StepError α) ≠ .error .cancelled :=
    fun h => honest (Except.error.inj h)
  exact .ended honest

theorem Composed.bind {x : Attempt σ α} {f : α → Attempt σ β} (hx : g.Composed x)
    (hf : ∀ a, g.Composed (f a)) : g.Composed (x >>= f) := by
  refine .handle (k := ExceptT.bindCont f) hx rfl ?_
  intro outcome honest
  cases outcome with
  | ok a => exact hf a
  | error e => exact composed_throw fun he => honest (congrArg Except.error he)

/-! ## Selectors in order -/

/-- The search through a chain, by induction on the selectors that are left.  The last
failure is never a cancel, since a cancel ends the search at once. -/
theorem composed_firstHitFrom (c : Chain) {attempt : Selector → Attempt σ (Option α)}
    (hattempt : ∀ s, g.Composed (attempt s)) (selectors : List Selector) (i : Nat)
    (last : Option StepError) (honest : last ≠ some .cancelled) :
    g.Composed (c.firstHitFrom attempt selectors i last) := by
  induction selectors generalizing i last with
  | nil =>
      apply composed_throw
      cases last with
      | none => simp
      | some e => simpa using honest
  | cons s rest ih =>
      refine .handle (hattempt s) rfl ?_
      intro outcome going
      cases outcome with
      | ok found =>
          cases found with
          | none => exact ih _ _ honest
          | some value => exact composed_pure _
      | error e =>
          cases e with
          | cancelled => exact absurd rfl going
          | _ => exact ih _ _ (by simp)

theorem composed_firstHit (c : Chain) {attempt : Selector → Attempt σ (Option α)}
    (hattempt : ∀ s, g.Composed (attempt s)) : g.Composed (c.firstHit attempt) :=
  composed_firstHitFrom c hattempt _ _ _ (by simp)

/-! ## Presses and typing -/

theorem composed_locate (c : Chain) {attempt : Selector → Attempt σ (Option α)} (deed : α → Deed)
    (note : Point → Note) {atPoint : Point → Attempt σ Deed}
    (hattempt : ∀ s, g.Composed (attempt s)) (hpoint : ∀ p, g.Composed (atPoint p)) :
    g.Composed (locate c attempt deed note atPoint) := by
  refine .handle (composed_firstHit c hattempt) rfl ?_
  intro outcome going
  cases outcome with
  | ok hit => exact composed_pure _
  | error e =>
      cases e with
      | notFound missing =>
          dsimp only
          split
          · exact composed_throw (by simp)
          · exact (Composed.note _).bind fun _ => (hpoint _).bind fun _ => composed_pure _
      | cancelled => exact absurd rfl going
      | _ => exact composed_throw (by simp)

theorem composed_pressFound (long : Bool) (d : TapData) (tree : List Node) (s : Selector) :
    g.Composed (g.pressFound long d tree s) := by
  unfold pressFound
  split
  · exact composed_pure _
  · exact (Composed.perform _).bind fun _ => composed_pure _

theorem composed_tap (chain : Option Chain) (long : Bool) (d : TapData) :
    g.Composed (g.tap chain long d) := by
  unfold tap
  split
  · exact (Composed.perform _).bind fun _ => composed_pure _
  · exact composed_throw (by simp)
  · exact Composed.fetchTree.bind fun _ => composed_locate _ _ _ (composed_pressFound long d _)
      fun _ => (Composed.perform _).bind fun _ => composed_pure _

theorem composed_typeFound (d : InputTextData) (tree : List Node) (s : Selector) :
    g.Composed (g.typeFound d tree s) := by
  unfold typeFound
  split
  · exact composed_pure _
  · split
    · exact composed_pure _
    · exact (Composed.perform _).bind fun _ => (Composed.perform _).bind fun _ => composed_pure _

theorem composed_inputText (chain : Option Chain) (d : InputTextData) :
    g.Composed (g.inputText chain d) := by
  cases chain with
  | none => exact (Composed.perform _).bind fun _ => composed_pure _
  | some c =>
      exact Composed.fetchTree.bind fun _ => composed_locate _ _ _ (composed_typeFound d _)
        fun _ => (Composed.perform _).bind fun _ => (Composed.perform _).bind fun _ =>
          composed_pure _

/-! ## Movements -/

theorem composed_swipeAcross (d : SwipeData) (direction : Direction) :
    g.Composed (g.swipeAcross d direction) :=
  Composed.knownScreen.bind fun _ => (Composed.perform _).bind fun _ => composed_pure _

theorem composed_swipe (d : SwipeData) : g.Composed (g.swipe d) := by
  unfold swipe
  split
  · exact (Composed.perform _).bind fun _ => composed_pure _
  · exact (composed_swipeAcross d _).bind fun _ => composed_pure _

theorem composed_scrollFound (way : ScrollWay) (tree : List Node) (s : Selector) :
    g.Composed (g.scrollFound way tree s) := by
  unfold scrollFound
  split
  · exact composed_pure _
  · exact (Composed.perform _).bind fun _ => composed_pure _

theorem composed_scrollBySwipe (d : SwipeData) (fallbackUsed : Bool) :
    g.Composed (g.scrollBySwipe d fallbackUsed) :=
  (composed_swipeAcross d _).bind fun _ => composed_pure _

theorem composed_scrollChain (c : Chain) (d : SwipeData) : g.Composed (g.scrollChain c d) := by
  have search : g.Composed (do
      let tree ← g.fetchTree
      c.firstHit (g.scrollFound (ScrollWay.towards d.direction) tree)) :=
    Composed.fetchTree.bind fun _ => composed_firstHit c (composed_scrollFound _ _)
  refine .handle search rfl ?_
  intro outcome going
  cases outcome with
  | ok hit => exact composed_pure _
  | error e =>
      cases e with
      | cancelled => exact absurd rfl going
      | _ => exact (Composed.note _).bind fun _ => composed_scrollBySwipe d true

theorem composed_scroll (chain : Option Chain) (d : SwipeData) :
    g.Composed (g.scroll chain d) := by
  unfold scroll
  split
  · exact (Composed.perform _).bind fun _ => composed_pure _
  · exact composed_scrollChain _ d
  · exact composed_scrollBySwipe d false

/-! ## Waits -/

/-- The looks for an element, by induction on the looks that are left. -/
theorem composed_lookUntil (c : Chain) (ms deadline left : Nat) :
    g.Composed (g.lookUntil c ms deadline left) := by
  induction left with
  | zero => exact composed_throw (by simp)
  | succ left ih =>
      refine Composed.fetchTree.bind fun tree => ?_
      split
      · exact composed_pure _
      · refine Composed.time.bind fun now => ?_
        split
        · exact composed_throw (by simp)
        · exact (Composed.sleep _).bind fun _ => ih

theorem composed_wait (chain : Option Chain) (d : WaitData) : g.Composed (g.wait chain d) := by
  unfold wait
  split
  · exact Composed.time.bind fun _ => composed_lookUntil _ _ _ _
  · exact (Composed.sleep _).bind fun _ => composed_pure _

/-! ## Steps -/

theorem execute_of_validate {step : Step} (valid : step.validate = .ok ()) :
    g.execute step = g.carryOut step := by
  rw [execute, valid]

theorem composed_carryOut (s : Step) : g.Composed (g.carryOut s) := by
  unfold carryOut
  split
  · exact composed_wait _ _
  · exact composed_tap _ _ _
  · exact composed_tap _ _ _
  · exact composed_swipe _
  · exact composed_scroll _ _
  · exact composed_inputText _ _
  · exact composed_throw (by simp)

/-- Every step is put together from these parts. -/
theorem composed_execute (s : Step) : g.Composed (g.execute s) := by
  unfold execute
  split
  · exact composed_throw (by simp)
  · exact composed_carryOut s

/-! ## What no part depends on -/

/-- The engine, once it ends a replay at the first failure or goes on behind it, and with so many
looks for a wait that never sleeps. -/
def tuned (g : Engine σ) (stops : Bool) (idleLooks : Nat) : Engine σ :=
  { g with config := { g.config with stopOnError := stops }, idleLooks := idleLooks }

variable (g) (stops : Bool) (idle : Nat)

theorem retry_tuned (what : String) (call : Act σ (Except DeviceError α)) (left : Nat) :
    (g.tuned stops idle).retry what call left = g.retry what call left := by
  induction left with
  | zero => rfl
  | succ left ih =>
      rw [retry, retry, ih]
      rfl

theorem perform_tuned (a : DeviceAction) : (g.tuned stops idle).perform a = g.perform a :=
  retry_tuned g stops idle _ _ _

theorem fetchTree_tuned : (g.tuned stops idle).fetchTree = g.fetchTree := by
  rw [fetchTree, retry_tuned]
  rfl

theorem lookUntil_tuned (c : Chain) (ms deadline left : Nat) :
    (g.tuned stops idle).lookUntil c ms deadline left = g.lookUntil c ms deadline left := by
  induction left with
  | zero => rfl
  | succ left ih =>
      rw [lookUntil, lookUntil, fetchTree_tuned, ih]
      rfl

/-- A step is carried out in the same way, if its wait is. -/
theorem execute_tuned {s : Step}
    (waits : ∀ d, s.action = .wait d →
      (g.tuned stops idle).wait s.selector d = g.wait s.selector d) :
    (g.tuned stops idle).execute s = g.execute s := by
  rw [execute, execute, carryOut, carryOut]
  cases action : s.action with
  | wait d =>
      dsimp only
      rw [waits d action]
  | unusable _ => rfl
  | tap _ | longTap _ | swipe _ | scroll _ | inputText _ =>
      unfold tap inputText swipe scroll scrollChain scrollBySwipe swipeAcross
        scrollFound typeFound pressFound
      simp only [perform_tuned, fetchTree_tuned]
      rfl

end Engine

end UiReplay
