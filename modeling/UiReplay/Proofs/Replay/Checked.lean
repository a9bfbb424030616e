import UiReplay.Proofs.Replay.Addressed
import UiReplay.Proofs.Replay.Tries

/-!
# Steps that are checked first

A step is checked before it is carried out, and what it lacks is looked for in two places: the check
knows every action, and so does the engine that carries it out.  The two agree
(`Engine.resultOf_checked`).

A step that does not pass the check fails with its problem, and nothing is asked for, neither of the
device nor of the time.  A step that passes says where it goes, so no failure of it is blamed on the
step itself (`StepError.blamesStep`).  A swipe or scroll that passes has all four coordinates or
none.  With all four, every request goes along the way that they tell.  Without any it goes across a
screen, or a scroll looks for a node (`Engine.Unguided`).

What a computation asks for and how it fails is put together from its parts (`Engine.Abides`), by
induction on the selectors of a chain (`abides_firstHitFrom`) and on the looks of a wait
(`abides_lookUntil`).
-/

namespace UiReplay

/-! ## What the check requires -/

/-- An error says that the step is at fault: it is not valid, or nothing says where it goes. -/
def StepError.blamesStep : StepError → Bool
  | .noSelector | .invalid _ => true
  | .notFound _ | .timeout _ _ | .device _ | .cancelled => false

namespace SwipeData

/-- All four coordinates are there, and they tell a way. -/
structure Tells (d : SwipeData) (p : Path) : Prop where
  startX : d.startX = some p.start.x
  startY : d.startY = some p.start.y
  endX : d.endX = some p.finish.x
  endY : d.endY = some p.finish.y

/-- None of the four coordinates is there. -/
structure IsFree (d : SwipeData) : Prop where
  startX : d.startX = none
  startY : d.startY = none
  endX : d.endX = none
  endY : d.endY = none

variable {d : SwipeData}

theorem Tells.path? {p : Path} (h : d.Tells p) : d.path? = some p := by
  rw [SwipeData.path?, h.startX, h.startY, h.endX, h.endY]
  rfl

theorem IsFree.path? (h : d.IsFree) : d.path? = none := by
  rw [SwipeData.path?, h.startX]
  rfl

/-- Four coordinates are given or none, so there is a way or nothing of it. -/
theorem tells_or_isFree (h : d.given = 0 ∨ d.given = 4) : (∃ p, d.Tells p) ∨ d.IsFree := by
  obtain ⟨direction, startX, startY, endX, endY, ms⟩ := d
  cases startX <;> cases startY <;> cases endX <;> cases endY <;>
    first
      | exact .inl ⟨⟨⟨_, _⟩, ⟨_, _⟩⟩, rfl, rfl, rfl, rfl⟩
      | exact .inr ⟨rfl, rfl, rfl, rfl⟩
      | simp [given] at h

end SwipeData

/-- The movement of an action. -/
def Action.movement? : Action → Option SwipeData
  | .swipe d | .scroll d => some d
  | .tap _ | .longTap _ | .inputText _ | .wait _ | .unusable _ => none

/-- The press of an action. -/
def Action.press? : Action → Option TapData
  | .tap d | .longTap d => some d
  | .swipe _ | .scroll _ | .inputText _ | .wait _ | .unusable _ => none

namespace Step

variable {s : Step}

theorem usable_of_validate (valid : s.validate = .ok ()) (r : UnusableRecord) :
    s.action ≠ .unusable r := by
  intro h
  rw [validate, h] at valid
  cases valid

theorem validate_of_press {d : TapData} (press : s.action.press? = some d) :
    s.validate =
      if d.x.isSome ≠ d.y.isSome then .error (.incompleteCoordinates s.label)
      else if d.point?.isNone ∧ s.selector.isNone then .error (.missingTarget s.label)
      else .ok () := by
  rw [validate]
  cases h : s.action <;> rw [h] at press <;> cases press <;> rfl

theorem validate_of_movement {d : SwipeData} (movement : s.action.movement? = some d) :
    s.validate =
      if d.given ≠ 0 ∧ d.given ≠ 4 then .error (.incompleteCoordinates s.label) else .ok () := by
  rw [validate]
  cases h : s.action <;> rw [h] at movement <;> cases movement <;> rfl

theorem aimed_of_validate (valid : s.validate = .ok ()) {d : TapData}
    (press : s.action.press? = some d) (free : d.point? = none) : s.selector ≠ none := by
  intro bare
  rw [validate_of_press press] at valid
  split at valid
  · cases valid
  · rw [if_pos ⟨by rw [free]; rfl, by rw [bare]; rfl⟩] at valid
    cases valid

theorem tells_or_isFree_of_validate (valid : s.validate = .ok ()) {d : SwipeData}
    (movement : s.action.movement? = some d) : (∃ p, d.Tells p) ∨ d.IsFree := by
  rw [validate_of_movement movement] at valid
  split at valid
  · cases valid
  · next whole => exact SwipeData.tells_or_isFree (by omega)

end Step

/-- A result tells the failure of its outcome. -/
theorem StepResult.outcome_of_error {s : Step} {index : Nat} {name : String} {durationMs : Nat}
    {outcome : Except StepError StepOutcome} {r : StepResult} {e : StepError}
    (h : ofEnd? s index name durationMs outcome = some r) (he : r.error = some e) :
    outcome = .error e := by
  rw [StepResult.ofEnd?_eq_some fun cancelled => by rw [cancelled] at h; cases h] at h
  cases h
  cases outcome with
  | ok o => cases he
  | error e' => exact congrArg Except.error (Option.some.inj he)

namespace Engine

variable {σ α β : Type} {g : Engine σ} {allowed : Request → Prop}

/-! ## What is asked for, and what is blamed -/

/-- Nothing was sent but what is allowed, and no failure is blamed on the step. -/
structure Abiding (allowed : Request → Prop) (outcome : Except StepError α)
    (sent : List Suspension) : Prop where
  blameless : ∀ e, outcome = .error e → e.blamesStep = false
  sent : ∀ x ∈ sent, allowed x.request

/-- In every run a computation sends nothing but what is allowed, and no failure of it is blamed on
the step. -/
abbrev Abides (allowed : Request → Prop) (x : Attempt σ α) : Prop := Sends x (Abiding allowed)

theorem abides_outcome {outcome : Except StepError α}
    (blameless : ∀ e, outcome = .error e → e.blamesStep = false) :
    Abides allowed (ExceptT.mk (pure outcome) : Attempt σ α) :=
  sends_outcome ⟨blameless, fun _ h => by cases h⟩

theorem abides_pure (a : α) : Abides allowed (pure a : Attempt σ α) :=
  abides_outcome fun _ h => by cases h

theorem abides_throw {e : StepError} (h : e.blamesStep = false) :
    Abides allowed (throw e : Attempt σ α) :=
  abides_outcome fun _ he => Except.error.inj he ▸ h

theorem Abides.handle {x : Attempt σ α} {k : Except StepError α → Act σ (Except StepError β)}
    (hx : Abides allowed x)
    (hk : ∀ outcome : Except StepError α, (∀ e, outcome = .error e → e.blamesStep = false) →
      Abides allowed (ExceptT.mk (k outcome))) : Abides allowed (ExceptT.mk (x.run >>= k)) := by
  refine Sends.handle hx ?_
  intro outcome first abiding
  refine (hk outcome abiding.blameless).mono ?_
  intro outcome' rest abiding'
  refine ⟨abiding'.blameless, fun y hy => ?_⟩
  exact (List.mem_append.mp hy).elim (abiding.sent y) (abiding'.sent y)

theorem Abides.bind {x : Attempt σ α} {f : α → Attempt σ β} (hx : Abides allowed x)
    (hf : ∀ a, Abides allowed (f a)) : Abides allowed (x >>= f) := by
  refine Abides.handle (k := ExceptT.bindCont f) hx ?_
  intro outcome blameless
  cases outcome with
  | ok a => exact hf a
  | error e => exact abides_throw (blameless e rfl)

theorem abides_of_silent {x : Attempt σ α} (h : Sends x Silent) : Abides allowed x := by
  refine h.mono ?_
  rintro outcome _ ⟨rfl, cancelled⟩
  exact ⟨fun e he => cancelled e he ▸ rfl, fun _ h => by cases h⟩

/-- A request that is repeated fails with what the device says or with a cancel. -/
theorem Tried.abiding {got : Suspension → Except DeviceError α → Prop}
    {outcome : Except StepError α} {sent : List Suspension} (h : Tried got outcome sent)
    (hgot : ∀ x answer, got x answer → allowed x.request) : Abiding allowed outcome sent := by
  induction h with
  | cancelled => exact ⟨fun e he => by cases he; rfl, fun _ h => by cases h⟩
  | answered h =>
      refine ⟨fun e he => (nomatch he), fun y hy => ?_⟩
      rw [List.mem_singleton.mp hy]
      exact hgot _ _ h
  | failed h =>
      refine ⟨fun e he => by cases he; rfl, fun y hy => ?_⟩
      rw [List.mem_singleton.mp hy]
      exact hgot _ _ h
  | again h _ ih =>
      refine ⟨ih.blameless, ?_⟩
      rintro y (_ | ⟨_, hy⟩)
      · exact hgot _ _ h
      · exact ih.sent y hy

theorem abides_perform {a : DeviceAction} (h : allowed (.perform a)) :
    Abides allowed (g.perform a) :=
  (sends_retry _ (sends_ask _ rfl) _).mono fun _ _ tried =>
    tried.abiding fun _ _ got => got.request ▸ h

theorem abides_fetchTree (h : allowed .state) : Abides allowed g.fetchTree := by
  have asks : Abides allowed
      (g.retry DeviceState.endpoint (g.surroundings.ask .state) (g.attempts - 1)) :=
    (sends_retry _ (sends_ask _ rfl) _).mono fun _ _ tried =>
      tried.abiding fun _ _ got => got.request ▸ h
  exact asks.bind fun _ =>
    (abides_of_silent (sends_sure (Run.sent_see _))).bind fun _ => abides_pure _

/-- What comes behind an action has nothing more to ask for. -/
theorem abides_perform_then {a : DeviceAction} (h : allowed (.perform a)) (b : β) :
    Abides allowed (g.perform a >>= fun _ => return b) :=
  (abides_perform h).bind fun _ => abides_pure b

/-! ## Selectors in order -/

/-- A search abides by what its attempts abide by, by induction on the selectors that are left.  The
last failure is one of an attempt. -/
theorem abides_firstHitFrom (c : Chain) {attempt : Selector → Attempt σ (Option α)}
    (hattempt : ∀ s, Abides allowed (attempt s)) (selectors : List Selector) (i : Nat)
    (last : Option StepError) (blameless : ∀ e, last = some e → e.blamesStep = false) :
    Abides allowed (c.firstHitFrom attempt selectors i last) := by
  induction selectors generalizing i last with
  | nil =>
      apply abides_throw
      cases last with
      | none => rfl
      | some e => exact blameless e rfl
  | cons s rest ih =>
      refine (hattempt s).handle ?_
      intro outcome failed
      cases outcome with
      | ok found =>
          cases found with
          | none => exact ih _ _ blameless
          | some value => exact abides_pure _
      | error e =>
          have last : ∀ e', some e = some e' → e'.blamesStep = false :=
            fun e' he => Option.some.inj he ▸ failed e rfl
          cases e with
          | cancelled => exact abides_throw rfl
          | _ => exact ih _ _ last

theorem abides_firstHit (c : Chain) {attempt : Selector → Attempt σ (Option α)}
    (hattempt : ∀ s, Abides allowed (attempt s)) : Abides allowed (c.firstHit attempt) :=
  abides_firstHitFrom c hattempt _ _ _ fun _ h => by cases h

theorem abides_locate (c : Chain) {attempt : Selector → Attempt σ (Option α)} (deed : α → Deed)
    (note : Point → Note) {atPoint : Point → Attempt σ Deed}
    (hattempt : ∀ s, Abides allowed (attempt s)) (hpoint : ∀ p, Abides allowed (atPoint p)) :
    Abides allowed (locate c attempt deed note atPoint) := by
  refine (abides_firstHit c hattempt).handle ?_
  intro outcome blameless
  cases outcome with
  | ok hit => exact abides_pure _
  | error e =>
      cases e with
      | notFound missing =>
          dsimp only
          split
          · exact abides_throw rfl
          · exact (abides_of_silent (sends_note _)).bind fun _ =>
              (hpoint _).bind fun _ => abides_pure _
      | _ => exact abides_throw (blameless _ rfl)

/-! ## Presses, typing and waits -/

/-- Everything is allowed. -/
def Anything (_ : Request) : Prop := True

/-- A press that says where it goes. -/
theorem abides_tap {chain : Option Chain} (long : Bool) {d : TapData}
    (aimed : d.point? = none → chain ≠ none) : Abides Anything (g.tap chain long d) := by
  have pressFound (tree : List Node) (s : Selector) :
      Abides Anything (g.pressFound long d tree s) := by
    unfold pressFound
    split
    · exact abides_pure _
    · exact abides_perform_then trivial _
  unfold tap
  split
  · exact abides_perform_then trivial _
  · next free => exact absurd rfl (aimed free)
  · exact (abides_fetchTree trivial).bind fun tree =>
      abides_locate _ _ _ (pressFound tree) fun _ => abides_perform_then trivial _

theorem abides_inputText (chain : Option Chain) (d : InputTextData) :
    Abides Anything (g.inputText chain d) := by
  have typeFound (tree : List Node) (s : Selector) : Abides Anything (g.typeFound d tree s) := by
    unfold typeFound
    split
    · exact abides_pure _
    · split
      · exact abides_pure _
      · exact (abides_perform trivial).bind fun _ => abides_perform_then trivial _
  cases chain with
  | none => exact abides_perform_then trivial _
  | some c =>
      exact (abides_fetchTree trivial).bind fun tree => abides_locate _ _ _ (typeFound tree)
        fun _ => (abides_perform trivial).bind fun _ => abides_perform_then trivial _

/-- The looks for an element, by induction on the looks that are left. -/
theorem abides_lookUntil (c : Chain) (ms deadline left : Nat) :
    Abides Anything (g.lookUntil c ms deadline left) := by
  induction left with
  | zero => exact abides_throw rfl
  | succ left ih =>
      refine (abides_fetchTree trivial).bind fun tree => ?_
      split
      · exact abides_pure _
      · refine (abides_of_silent (sends_sure fun _ => rfl)).bind fun now => ?_
        split
        · exact abides_throw rfl
        · exact (abides_of_silent (sends_sleep _)).bind fun _ => ih

theorem abides_wait (chain : Option Chain) (d : WaitData) : Abides Anything (g.wait chain d) := by
  unfold wait
  split
  · exact (abides_of_silent (sends_sure fun _ => rfl)).bind fun _ => abides_lookUntil _ _ _ _
  · exact (abides_of_silent (sends_sleep _)).bind fun _ => abides_pure _

/-! ## Movements -/

/-- What a movement without any coordinates asks for. -/
inductive Unguided (g : Engine σ) : Action → Request → Prop
  /-- A swipe goes across a screen. -/
  | swipe {d : SwipeData} (screen : Rect) :
      Unguided g (.swipe d) (.perform (g.swipeAlong d (Path.across screen d.direction)))
  /-- A scroll looks for a node. -/
  | look {d : SwipeData} : Unguided g (.scroll d) .state
  /-- It scrolls the node. -/
  | node {d : SwipeData} (index : Int) :
      Unguided g (.scroll d) (.perform (.scroll index (.towards d.direction)))
  /-- Or the finger goes across a screen, against the content. -/
  | across {d : SwipeData} (screen : Rect) :
      Unguided g (.scroll d) (.perform (g.swipeAlong d (Path.across screen d.direction.opposite)))

/-- What a movement asks for. -/
inductive MayMove (g : Engine σ) (a : Action) (d : SwipeData) : Request → Prop
  /-- It goes along the way that all four coordinates tell. -/
  | along {p : Path} (tells : d.Tells p) : MayMove g a d (.perform (g.swipeAlong d p))
  /-- It has no coordinates. -/
  | free {r : Request} (free : d.IsFree) (unguided : g.Unguided a r) : MayMove g a d r

theorem abides_swipeAcross {d : SwipeData} {direction : Direction}
    (h : ∀ screen, allowed (.perform (g.swipeAlong d (Path.across screen direction)))) :
    Abides allowed (g.swipeAcross d direction) :=
  (abides_of_silent (sends_sure fun _ => rfl)).bind fun screen =>
    abides_perform_then (h screen) _

theorem abides_scrollChain (c : Chain) (d : SwipeData) :
    Abides (g.Unguided (.scroll d)) (g.scrollChain c d) := by
  have scrollFound (tree : List Node) (s : Selector) :
      Abides (g.Unguided (.scroll d)) (g.scrollFound (.towards d.direction) tree s) := by
    unfold scrollFound
    split
    · exact abides_pure _
    · exact abides_perform_then (.node _) _
  have search : Abides (g.Unguided (.scroll d)) (do
      let tree ← g.fetchTree
      c.firstHit (g.scrollFound (ScrollWay.towards d.direction) tree)) :=
    (abides_fetchTree .look).bind fun tree => abides_firstHit c (scrollFound tree)
  refine search.handle ?_
  intro outcome blameless
  cases outcome with
  | ok hit => exact abides_pure _
  | error e =>
      cases e with
      | cancelled => exact abides_throw rfl
      | _ =>
          exact (abides_of_silent (sends_note _)).bind fun _ =>
            (abides_swipeAcross .across).bind fun _ => abides_pure _

theorem abides_swipe {d : SwipeData} (whole : (∃ p, d.Tells p) ∨ d.IsFree) :
    Abides (g.MayMove (.swipe d) d) (g.swipe d) := by
  unfold swipe
  rcases whole with ⟨p, tells⟩ | free
  · rw [tells.path?]
    exact abides_perform_then (.along tells) _
  · rw [free.path?]
    exact (abides_swipeAcross fun screen => .free free (.swipe screen)).bind fun _ => abides_pure _

theorem abides_scroll (chain : Option Chain) {d : SwipeData}
    (whole : (∃ p, d.Tells p) ∨ d.IsFree) :
    Abides (g.MayMove (.scroll d) d) (g.scroll chain d) := by
  unfold scroll
  rcases whole with ⟨p, tells⟩ | free
  · rw [tells.path?]
    exact abides_perform_then (.along tells) _
  · rw [free.path?]
    cases chain with
    | none =>
        exact (abides_swipeAcross fun screen => .free free (.across screen)).bind fun _ =>
          abides_pure _
    | some c =>
        exact (abides_scrollChain c d).mono fun _ _ abiding =>
          ⟨abiding.blameless, fun x hx => .free free (abiding.sent x hx)⟩

/-! ## Steps -/

/-- What a step may ask for.  Only movements are looked at. -/
def MayAsk (g : Engine σ) (s : Step) (r : Request) : Prop :=
  ∀ d, s.action.movement? = some d → g.MayMove s.action d r

theorem abides_execute {s : Step} (valid : s.validate = .ok ()) :
    Abides (g.MayAsk s) (g.execute s) := by
  have anything {x : Attempt σ StepOutcome} (still : s.action.movement? = none)
      (h : Abides Anything x) : Abides (g.MayAsk s) x :=
    h.mono fun _ _ abiding => ⟨abiding.blameless, fun _ _ d hd => (nomatch still.symm.trans hd)⟩
  have movement {x : Attempt σ StepOutcome} {d : SwipeData} (moves : s.action.movement? = some d)
      (h : Abides (g.MayMove s.action d) x) : Abides (g.MayAsk s) x := by
    refine h.mono fun _ _ abiding => ⟨abiding.blameless, fun y hy d' hd => ?_⟩
    cases moves.symm.trans hd
    exact abiding.sent y hy
  have aimed {d : TapData} (press : s.action.press? = some d) := s.aimed_of_validate valid press
  have whole {d : SwipeData} (moves : s.action.movement? = some d) :=
    s.tells_or_isFree_of_validate valid moves
  rw [execute_of_validate valid, carryOut]
  cases h : s.action with
  | wait d => exact anything (by rw [h]; rfl) (abides_wait _ d)
  | tap d => exact anything (by rw [h]; rfl) (abides_tap false (aimed (by rw [h]; rfl)))
  | longTap d => exact anything (by rw [h]; rfl) (abides_tap true (aimed (by rw [h]; rfl)))
  | swipe d =>
      have moves : s.action.movement? = some d := by rw [h]; rfl
      refine movement moves ?_
      rw [h]
      exact abides_swipe (whole moves)
  | scroll d =>
      have moves : s.action.movement? = some d := by rw [h]; rfl
      refine movement moves ?_
      rw [h]
      exact abides_scroll s.selector (whole moves)
  | inputText d => exact anything (by rw [h]; rfl) (abides_inputText _ d)
  | unusable r => exact absurd h (Step.usable_of_validate valid r)

theorem run_execute_of_refused {s : Step} {problem : Problem}
    (refused : s.validate = .error problem) (run : Run σ) :
    (g.execute s).run run = (.error (.invalid problem), run) := by
  rw [execute, refused]
  rfl

/-- From a run to a result and the run after it, a step fails with the text of a problem.  It asks
for nothing, and no time passes. -/
structure FailsWith (problem : Problem) (run : Run σ) (x : Option StepResult × Run σ) : Prop where
  result : ∃ r, x.1 = some r ∧ r.status = .failed ∧
    r.error.map StepError.message = some problem.message ∧ r.durationMs = 0
  requests : x.2.requests = run.requests
  clock : x.2.clock = run.clock
  around : x.2.around = run.around

/-- All requests of a movement go along the way that its four coordinates tell, or it has no
coordinate and they do without. -/
inductive Guided (g : Engine σ) (a : Action) (d : SwipeData) (requests : List Request) : Prop
  | along (p : Path) (tells : d.Tells p)
      (only : ∀ r ∈ requests, r = .perform (g.swipeAlong d p)) : Guided g a d requests
  | free (free : d.IsFree) (only : ∀ r ∈ requests, g.Unguided a r) : Guided g a d requests

theorem guided_of_mayMove {a : Action} {d : SwipeData} {requests : List Request}
    (whole : (∃ p, d.Tells p) ∨ d.IsFree) (h : ∀ r ∈ requests, g.MayMove a d r) :
    g.Guided a d requests := by
  rcases whole with ⟨p, tells⟩ | free
  · refine .along p tells fun r hr => ?_
    cases h r hr with
    | along tells' => rw [Option.some.inj (tells.path?.symm.trans tells'.path?)]
    | free free _ => cases tells.path?.symm.trans free.path?
  · refine .free free fun r hr => ?_
    cases h r hr with
    | along tells => cases tells.path?.symm.trans free.path?
    | free _ unguided => exact unguided

/-- From a run to a result and the run after it, a step is carried out that has what it needs: its
record can be used, a press has a point or a chain, the result does not blame the step, and a
movement is guided by all four coordinates or by none. -/
structure Equipped (g : Engine σ) (s : Step) (run : Run σ) (x : Option StepResult × Run σ) :
    Prop where
  usable : ∀ r, s.action ≠ .unusable r
  aimed : ∀ d, s.action.press? = some d → d.point? = none → s.selector ≠ none
  blameless : ∀ r e, x.1 = some r → r.error = some e → e.blamesStep = false
  guided : ∃ sent, x.2.sent = run.sent ++ sent ∧
    ∀ d, s.action.movement? = some d → g.Guided s.action d (sent.map Suspension.request)

/-- A step that the check refuses fails with the problem that the check found, and asks for nothing.
One that passes is carried out with all that it needs. -/
theorem resultOf_checked (g : Engine σ) (total index : Nat) (name : String) {s : Step}
    (enabled : s.enabled = true) (run : Run σ) :
    (∀ problem, s.validate = .error problem →
      FailsWith problem run (g.resultOf total index name s run)) ∧
    (s.validate = .ok () → g.Equipped s run (g.resultOf total index name s run)) := by
  rw [resultOf_of_enabled enabled]
  constructor
  · intro problem refused
    rw [run_execute_of_refused refused]
    exact ⟨⟨_, rfl, rfl, rfl, Nat.sub_self _⟩, Run.requests_note _ _, rfl, rfl⟩
  · intro valid
    have noted : (Run.note (.step (index + 1) total name) run).2.sent = run.sent :=
      Run.sent_publish _ _
    obtain ⟨sent, hsent, abiding⟩ :=
      abides_execute (g := g) valid (Run.note (.step (index + 1) total name) run).2
    rw [noted] at hsent
    refine ⟨s.usable_of_validate valid, fun d => s.aimed_of_validate valid, ?_, sent, hsent, ?_⟩
    · intro r e hr he
      exact abiding.blameless e (StepResult.outcome_of_error hr he)
    · intro d movement
      refine guided_of_mayMove (s.tells_or_isFree_of_validate valid movement) fun r hr => ?_
      obtain ⟨x, hx, rfl⟩ := List.mem_map.mp hr
      exact abiding.sent x hx d movement

end Engine

/-- A swipe that has one of its coordinates. -/
def Step.halfSwipe : Step where
  id := ⟨1⟩
  action := .swipe { startX := some 5 }

/-- A scroll that has all of its coordinates. -/
def Step.wholeScroll : Step where
  id := ⟨2⟩
  action := .scroll { startX := some 540, startY := some 1800, endX := some 540, endY := some 600 }

theorem Engine.resultOf_checked_halfSwipe :
    (Step.halfSwipe.enabled = true ∧
      Step.halfSwipe.validate = .error (.incompleteCoordinates "#0") ∧
      FailsWith (.incompleteCoordinates "#0") .begun
        (Engine.confirming.resultOf 2 0 "Swipe" .halfSwipe .begun)) ∧
    Step.wholeScroll.enabled = true ∧ Step.wholeScroll.validate = .ok () ∧
      Engine.confirming.Equipped .wholeScroll .begun
        (Engine.confirming.resultOf 2 1 "Scroll" .wholeScroll .begun) := by
  have refused : Step.halfSwipe.validate = .error (.incompleteCoordinates "#0") := by decide +kernel
  exact ⟨⟨rfl, refused, (resultOf_checked _ 2 0 "Swipe" rfl .begun).1 _ refused⟩, rfl, rfl,
    (resultOf_checked _ 2 1 "Scroll" rfl .begun).2 rfl⟩

end UiReplay
