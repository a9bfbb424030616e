import UiReplay.Proofs.Replay.Keeping
import UiReplay.Proofs.Replay.Pausing
import UiReplay.Proofs.Screen.Extent

/-!
# The screen that a replay knows

A replay knows the screen by the last tree it fetched that tells one, else by the device that the
workflow was recorded on, else by its configuration (`ScreenIs`).  At every moment there is one such
screen, upright and with edges of 32 bits.  A finger that swipes for a step without a way of its
own goes across it and stays in it (`Engine.KnownAt`, `Engine.replay_crosses`).

The run remembers the last screen that was told, and a step may fetch trees and swipe several
times.  The invariant `Sighted` says that what the run remembers is what its journal tells, and
that every swipe was made for the step that started last (`GoesAcross`).  Within a step it also
holds that this step started last (`SightedIn`), and between the choice of a way and the swipe that
the screen is still the one that was chosen by (`SightedAt`): notes, sleeps and other attempts of
the same swipe bring no tree.  Each step keeps the invariant (`Engine.leads_resultOf`), so a whole
replay does (`Engine.invariant_sighted`).
-/

namespace UiReplay

/-! ## The screen in a journal -/

/-- The tree that a suspension brought. -/
def Suspension.tree? : Suspension → Option (List Node)
  | ⟨_, .state, i⟩ =>
      match i.answer with
      | .ok state => some state.tree
      | .error _ => none
  | ⟨_, .perform _, _⟩ | ⟨_, .sleep _, _⟩ | ⟨_, .gate, _⟩ => none

/-- The trees that were fetched in a journal, in order. -/
def treesIn (journal : List JournalEntry) : List (List Node) :=
  (Run.suspensionsOf journal).filterMap Suspension.tree?

/-- The screen that trees tell, which is that of the last one that tells any. -/
def toldBy (trees : List (List Node)) : Option Rect := (trees.filterMap Node.screen?).getLast?

theorem treesIn_append (journal own : List JournalEntry) :
    treesIn (journal ++ own) = treesIn journal ++ treesIn own := by
  rw [treesIn, Run.suspensionsOf_append, List.filterMap_append]
  rfl

theorem treesIn_published (journal : List JournalEntry) (e : ReplayEvent) :
    treesIn (journal ++ [.published e]) = treesIn journal := by
  rw [treesIn_append]
  exact List.append_nil _

theorem treesIn_ofCalls (journal : List JournalEntry) (c : Control) (xs : List ControlCall) :
    treesIn (journal ++ JournalEntry.ofCalls c xs) = treesIn journal := by
  have nothing : treesIn (JournalEntry.ofCalls c xs) = [] := by
    rw [treesIn, Run.suspensionsOf_ofCalls]
    rfl
  rw [treesIn_append, nothing, List.append_nil]

theorem treesIn_ask {σ : Type} (w : Surroundings σ) (r : Request) (run : Run σ) :
    treesIn (w.ask r run).2.journal = treesIn run.journal ++
      (Suspension.tree? ⟨run.clock, r, (w.respond r run.control run.around).1⟩).toList := by
  rw [treesIn, Run.suspensionsOf_ask, List.filterMap_append]
  rfl

theorem toldBy_append (trees : List (List Node)) (tree : List Node) :
    toldBy (trees ++ [tree]) = (Node.screen? tree).or (toldBy trees) := by
  rw [toldBy, List.filterMap_append, List.getLast?_append]
  cases h : Node.screen? tree <;> simp [h, toldBy]

/-- The screen that is known from trees that were fetched: that of the last tree that tells any,
else that on which the workflow was recorded, else the one that is assumed. -/
inductive ScreenIs (config : ReplayConfig) (w : Workflow) (trees : List (List Node)) : Rect → Prop
  | told {earlier : List (List Node)} {tree : List Node} {later : List (List Node)} {r : Rect}
      (split : trees = earlier ++ tree :: later) (screen : Node.IsScreenOf tree r)
      (silent : ∀ t ∈ later, t.filterMap Node.rect? = []) : ScreenIs config w trees r
  | recorded {r : Rect} (silent : ∀ t ∈ trees, t.filterMap Node.rect? = [])
      (recorded : w.screen? = some r) : ScreenIs config w trees r
  | assumed (silent : ∀ t ∈ trees, t.filterMap Node.rect? = []) (unrecorded : w.screen? = none) :
      ScreenIs config w trees config.defaultScreen

/-- The last tree that tells the screen is followed by trees that do not, by induction on the trees
from the last one on. -/
theorem toldBy_cases (trees : List (List Node)) :
    (∃ earlier tree later r, trees = earlier ++ tree :: later ∧ Node.screen? tree = some r ∧
      (∀ t ∈ later, Node.screen? t = none) ∧ toldBy trees = some r) ∨
    (∀ t ∈ trees, Node.screen? t = none) ∧ toldBy trees = none := by
  induction trees using List.reverseRecOn with
  | nil => exact .inr ⟨fun t h => absurd h List.not_mem_nil, rfl⟩
  | append_singleton trees tree ih =>
      rw [toldBy_append]
      cases screen : Node.screen? tree with
      | some r =>
          exact .inl ⟨trees, tree, [], r, rfl, screen, fun t h => absurd h List.not_mem_nil, rfl⟩
      | none =>
          have silence {ts : List (List Node)} (silent : ∀ t ∈ ts, Node.screen? t = none) :
              ∀ t ∈ ts ++ [tree], Node.screen? t = none := by
            intro t ht
            rcases List.mem_append.mp ht with ht | ht
            · exact silent t ht
            · rw [List.mem_singleton.mp ht, screen]
          refine ih.imp ?_ fun ⟨silent, untold⟩ => ⟨silence silent, untold⟩
          rintro ⟨earlier, last, later, r, rfl, hr, silent, told⟩
          exact ⟨earlier, last, later ++ [tree], r, by simp, hr, silence silent, told⟩

/-- There is one screen that is known. -/
theorem screenIs_iff {config : ReplayConfig} {w : Workflow} {trees : List (List Node)} {r : Rect} :
    ScreenIs config w trees r ↔
      r = (toldBy trees).getD (w.screen?.getD config.defaultScreen) := by
  have silent_iff (ts : List (List Node)) : (∀ t ∈ ts, t.filterMap Node.rect? = []) ↔
      ts.filterMap Node.screen? = [] := by
    simp only [List.filterMap_eq_nil_iff, Node.screen?_eq_none_iff]
  have untold (silent : ∀ t ∈ trees, t.filterMap Node.rect? = []) : toldBy trees = none := by
    rw [toldBy, (silent_iff trees).mp silent]
    rfl
  constructor
  · rintro (⟨split, screen, silent⟩ | ⟨silent, recorded⟩ | ⟨silent, unrecorded⟩)
    · rw [split, toldBy, List.filterMap_append,
        List.filterMap_cons_some (Node.isScreenOf_iff.mp screen), (silent_iff _).mp silent,
        List.getLast?_concat]
      rfl
    · rw [untold silent, recorded]
      rfl
    · rw [untold silent, unrecorded]
      rfl
  · rintro rfl
    rcases toldBy_cases trees with ⟨earlier, tree, later, r, split, screen, silent, told⟩ |
      ⟨silent, nothing⟩
    · rw [told]
      exact .told split (Node.isScreenOf_of_screen? screen) fun t ht =>
        Node.screen?_eq_none_iff.mp (silent t ht)
    · have silent (t) (ht : t ∈ trees) : t.filterMap Node.rect? = [] :=
        Node.screen?_eq_none_iff.mp (silent t ht)
      rw [nothing]
      cases recorded : w.screen? with
      | some r => exact .recorded silent recorded
      | none => exact .assumed silent recorded

theorem ScreenIs.isProper {config : ReplayConfig} {w : Workflow} {trees : List (List Node)}
    {r : Rect} (h : ScreenIs config w trees r) (assumed : config.defaultScreen.IsProper) :
    r.IsProper := by
  cases h with
  | told _ screen _ => exact screen.isProper
  | recorded _ recorded => exact Workflow.isProper_of_screen? recorded
  | assumed _ _ => exact assumed

/-! ## The step that started last -/

/-- The step that started last behind an entry. -/
def JournalEntry.startedAfter (step : Option Nat) : JournalEntry → Option Nat
  | .published (.stepStarted p) => p.currentStep
  | _ => step

/-- The step that started last in a journal. -/
def lastStarted (journal : List JournalEntry) : Option Nat :=
  journal.foldl JournalEntry.startedAfter none

theorem lastStarted_snoc (journal : List JournalEntry) (e : JournalEntry) :
    lastStarted (journal ++ [e]) = e.startedAfter (lastStarted journal) := by
  rw [lastStarted, List.foldl_append]
  rfl

/-- Calls start no step. -/
theorem lastStarted_ofCalls (journal : List JournalEntry) (c : Control) (xs : List ControlCall) :
    lastStarted (journal ++ JournalEntry.ofCalls c xs) = lastStarted journal := by
  induction xs generalizing journal c with
  | nil => rw [JournalEntry.ofCalls, List.append_nil]
  | cons x rest ih =>
      have called : lastStarted (journal ++ .called x (c.call x).accepted ::
          (c.call x).event.toList.map .published) = lastStarted journal := by
        rw [← List.singleton_append, ← List.append_assoc]
        cases event : (c.call x).event with
        | none =>
            rw [Option.toList_none, List.map_nil, List.append_nil]
            exact lastStarted_snoc _ _
        | some e =>
            obtain ⟨p, rfl⟩ := Control.event_call event
            exact (lastStarted_snoc _ _).trans (lastStarted_snoc _ _)
      have later := ih (journal ++ .called x (c.call x).accepted ::
        (c.call x).event.toList.map .published) (c.call x).control
      rw [called, List.append_assoc, List.cons_append] at later
      exact later

/-- The step in progress started last. -/
theorem lastStarted_of_stepInProgress {journal : List JournalEntry} {i : Nat}
    (h : stepInProgress journal = some i) : lastStarted journal = some i := by
  induction journal using List.reverseRecOn with
  | nil => cases h
  | append_singleton journal e ih =>
      rw [stepInProgress_snoc] at h
      rw [lastStarted_snoc]
      cases e with
      | published event =>
          cases event with
          | stepStarted p => exact h
          | stepCompleted p => cases h
          | statusChanged p =>
              dsimp only [JournalEntry.stepAfter] at h
              split at h
              · cases h
              · exact ih h
          | noted n => exact ih h
          | stepFailed f => exact ih h
      | called x accepted => exact ih h
      | suspended x => exact ih h

/-! ## The invariant -/

/-- The direction of the finger for a step that swipes or scrolls without a way of its own. -/
def Action.crossing? : Action → Option Direction
  | .swipe d => if d.path?.isNone then some d.direction else none
  | .scroll d => if d.path?.isNone then some d.direction.opposite else none
  | .tap _ | .longTap _ | .inputText _ | .wait _ | .unusable _ => none

/-- A suspension fits to what stands before it: when it asks for a swipe, a step was started, and if
that step has no way of its own, the swipe goes across the screen that is known.  Where no tree
tells the screen, it is the base. -/
def GoesAcross (steps : List Step) (base : Rect) (before : List JournalEntry) :
    JournalEntry → Prop
  | .suspended x => ∀ p ms, x.request = .perform (.swipe p ms) →
      ∃ i s, lastStarted before = some i ∧ steps[i]? = some s ∧
        ∀ d, s.action.crossing? = some d →
          p = Path.across ((toldBy (treesIn before)).getD base) d
  | .published _ | .called _ _ => True

/-- A run knows the screen as its journal tells it, and has used it so. -/
structure Sighted {σ : Type} (steps : List Step) (base : Rect) (run : Run σ) : Prop where
  screen : run.screen = base
  seen : run.seen = toldBy (treesIn run.journal)
  across : EachFits (GoesAcross steps base) run.journal

/-- Moreover the step at a position was started last. -/
structure SightedIn {σ : Type} (steps : List Step) (base : Rect) (i : Nat) (run : Run σ) : Prop
    extends Sighted steps base run where
  started : lastStarted run.journal = some i

/-- Moreover this is the screen that is known. -/
structure SightedAt {σ : Type} (steps : List Step) (base : Rect) (i : Nat) (r : Rect)
    (run : Run σ) : Prop extends SightedIn steps base i run where
  known : run.seen.getD run.screen = r

section
variable {σ : Type} {steps : List Step} {base r : Rect} {i : Nat} {run : Run σ}

theorem eachFits_ofCalls {journal : List JournalEntry} (h : EachFits (GoesAcross steps base) journal)
    (c : Control) (xs : List ControlCall) :
    EachFits (GoesAcross steps base) (journal ++ JournalEntry.ofCalls c xs) := by
  refine h.append fun before e he => ?_
  cases e with
  | published _ => trivial
  | called _ _ => trivial
  | suspended x =>
      have mem : x ∈ Run.suspensionsOf (JournalEntry.ofCalls c xs) :=
        List.mem_filterMap.mpr ⟨_, he, rfl⟩
      rw [Run.suspensionsOf_ofCalls] at mem
      exact absurd mem List.not_mem_nil

theorem Sighted.known_eq (h : Sighted steps base run) :
    run.seen.getD run.screen = (toldBy (treesIn run.journal)).getD base := by
  rw [h.seen, h.screen]

theorem Sighted.publish (h : Sighted steps base run) (e : ReplayEvent) :
    Sighted steps base (Run.publish e run).2 where
  screen := h.screen
  seen := h.seen.trans (congrArg toldBy (treesIn_published _ _).symm)
  across := h.across.snoc trivial

theorem Sighted.receive (h : Sighted steps base run) (elapsed : Nat) (calls : List ControlCall) :
    Sighted steps base (Run.receive elapsed calls run).2 where
  screen := h.screen
  seen := h.seen.trans (congrArg toldBy (treesIn_ofCalls _ _ _).symm)
  across := eachFits_ofCalls h.across _ _

theorem across_ask (h : EachFits (GoesAcross steps base) run.journal) (w : Surroundings σ)
    (q : Request)
    (fits : ∀ x : Suspension, x.request = q → GoesAcross steps base run.journal (.suspended x)) :
    EachFits (GoesAcross steps base) (w.ask q run).2.journal := by
  let i := (w.respond q run.control run.around).1
  have asked := eachFits_ofCalls (h.snoc (fits ⟨run.clock, q, i⟩ rfl)) run.control i.calls
  rw [List.append_assoc] at asked
  exact asked

theorem started_ask (w : Surroundings σ) (q : Request) :
    lastStarted (w.ask q run).2.journal = lastStarted run.journal := by
  let i := (w.respond q run.control run.around).1
  have asked := lastStarted_ofCalls (run.journal ++ [.suspended ⟨run.clock, q, i⟩]) run.control i.calls
  rw [List.append_assoc, lastStarted_snoc] at asked
  exact asked

/-- A suspension that brings no tree leaves the screen as it is known. -/
theorem Sighted.ask (h : Sighted steps base run) (w : Surroundings σ) {q : Request}
    (blind : q ≠ .state)
    (fits : ∀ x : Suspension, x.request = q → GoesAcross steps base run.journal (.suspended x)) :
    Sighted steps base (w.ask q run).2 where
  screen := h.screen
  seen := by
    rw [treesIn_ask]
    cases q with
    | state => exact absurd rfl blind
    | perform a => exact h.seen.trans (congrArg toldBy (List.append_nil _).symm)
    | sleep ms => exact h.seen.trans (congrArg toldBy (List.append_nil _).symm)
    | gate => exact h.seen.trans (congrArg toldBy (List.append_nil _).symm)
  across := across_ask h.across w q fits

theorem goesAcross_of_not_swipe {before : List JournalEntry} {q : Request}
    (other : ∀ p ms, q ≠ .perform (.swipe p ms)) (x : Suspension) (hx : x.request = q) :
    GoesAcross steps base before (.suspended x) := by
  intro p ms swipes
  exact absurd (hx.symm.trans swipes) (other p ms)

/-- An event that starts no step. -/
theorem SightedIn.note (h : SightedIn steps base i run) (n : Note) :
    SightedIn steps base i (Run.note n run).2 where
  toSighted := h.publish _
  started := (lastStarted_snoc _ _).trans h.started

theorem SightedIn.ask (h : SightedIn steps base i run) (w : Surroundings σ) {q : Request}
    (blind : q ≠ .state)
    (fits : ∀ x : Suspension, x.request = q → GoesAcross steps base run.journal (.suspended x)) :
    SightedIn steps base i (w.ask q run).2 where
  toSighted := h.toSighted.ask w blind fits
  started := (started_ask w q).trans h.started

/-- Fetching a tree and remembering the screen that it tells. -/
theorem SightedIn.brought (h : SightedIn steps base i run) (w : Surroundings σ) :
    Engine.Brought (SightedIn steps base i)
      (fun state run => SightedIn steps base i (Run.see state.tree run).2) (w.ask .state run) := by
  have across : EachFits (GoesAcross steps base) (w.ask .state run).2.journal :=
    across_ask h.across w .state (goesAcross_of_not_swipe fun _ _ same => by cases same)
  have started := (started_ask w .state).trans h.started
  have trees := treesIn_ask w .state run
  have answer : (w.ask .state run).1 = (w.respond .state run.control run.around).1.answer := rfl
  rw [Engine.Brought, answer]
  rw [Suspension.tree?] at trees
  cases got : (w.respond .state run.control run.around).1.answer with
  | error e =>
      rw [got] at trees
      have seen : run.seen = toldBy (treesIn (w.ask .state run).2.journal) := by
        rw [trees, h.seen]
        exact congrArg toldBy (List.append_nil _).symm
      exact { screen := h.screen, seen := seen, across := across, started := started }
  | ok state =>
      rw [got] at trees
      have seen : (Node.screen? state.tree).or run.seen =
          toldBy (treesIn (w.ask .state run).2.journal) := by
        rw [trees, h.seen]
        exact (toldBy_append _ _).symm
      exact { screen := h.screen, seen := seen, across := across, started := started }

end

namespace Engine

variable {σ : Type} {g : Engine σ} {steps : List Step} {base r : Rect} {i : Nat}

theorem keeps_note_at (n : Note) : Keeps (SightedAt steps base i r) (Run.note n : Act σ Unit) :=
  fun _ h => { toSightedIn := h.toSightedIn.note n, known := h.known }

theorem keeps_ask_at {q : Request} (blind : q ≠ .state)
    (fits : ∀ run : Run σ, SightedAt steps base i r run → ∀ x : Suspension, x.request = q →
      GoesAcross steps base run.journal (.suspended x)) :
    Keeps (SightedAt steps base i r) (g.surroundings.ask q) :=
  fun run h => { toSightedIn := h.toSightedIn.ask _ blind (fits run h), known := h.known }

/-- A swipe fits to the step at a position when that goes across the screen. -/
def Fitting (steps : List Step) (i : Nat) (r : Rect) (a : DeviceAction) : Prop :=
  ∀ p ms, a = .swipe p ms → ∃ s, steps[i]? = some s ∧
    ∀ d, s.action.crossing? = some d → p = Path.across r d

theorem keeps_perform_at {a : DeviceAction} (fitting : Fitting steps i r a) :
    Keeps (SightedAt steps base i r) (g.perform a).run := by
  refine keeps_perform (keeps_ask_at (by simp) ?_) keeps_note_at fun ms =>
    keeps_ask_at (by simp) fun run _ => goesAcross_of_not_swipe (by simp)
  rintro run h x hx p ms swipes
  cases hx.symm.trans swipes
  obtain ⟨s, hs, crosses⟩ := fitting p ms rfl
  rw [← h.known_eq, h.known]
  exact ⟨i, s, h.started, hs, crosses⟩

theorem keeps_perform_in {a : DeviceAction} (fitting : ∀ r, Fitting steps i r a) :
    Keeps (SightedIn steps base i) (g.perform a).run := by
  intro run h
  exact (keeps_perform_at (fitting _) run { toSightedIn := h, known := rfl }).toSightedIn

theorem keeps_sleep_in (ms : Nat) : Keeps (SightedIn steps base i) (g.sleep ms).run :=
  keeps_sleep (fun _ _ h => h.ask _ (by simp) (goesAcross_of_not_swipe (by simp))) ms

theorem keeps_fetchTree_in : Keeps (SightedIn steps base i) g.fetchTree.run := by
  intro run h
  have brought := leads_retry (g := g) (fun run h => h.brought g.surroundings)
    (fun n run h => h.note n)
    (fun ms run h => h.ask _ (by simp) (goesAcross_of_not_swipe (by simp)))
    DeviceState.endpoint (g.attempts - 1) run h
  rw [run_fetchTree]
  unfold Brought at brought
  dsimp only
  split
  · next answer => rw [answer] at brought; exact brought
  · next answer => rw [answer] at brought; exact brought

/-- A swipe across the screen fits to a step that goes so. -/
theorem keeps_swipeAcross {s : Step} (hs : steps[i]? = some s) {direction : Direction}
    (crosses : s.action.crossing? = some direction) (d : SwipeData) :
    Keeps (SightedIn steps base i) (g.swipeAcross d direction).run := by
  intro run h
  let screen := run.seen.getD run.screen
  have fitting : Fitting steps i screen (g.swipeAlong d (Path.across screen direction)) := by
    intro p ms same
    cases same
    refine ⟨s, hs, fun d' crosses' => ?_⟩
    cases crosses.symm.trans crosses'
    rfl
  exact ((keeps_perform_at fitting).andThen (fun _ => keeps_pure _) run
    { toSightedIn := h, known := rfl }).toSightedIn

theorem keeps_scrollBySwipe {s : Step} (hs : steps[i]? = some s) {d : SwipeData}
    (crosses : s.action.crossing? = some d.direction.opposite) (fallbackUsed : Bool) :
    Keeps (SightedIn steps base i) (g.scrollBySwipe d fallbackUsed).run :=
  (keeps_swipeAcross hs crosses d).andThen fun _ => keeps_pure _

theorem keeps_scrollFound (way : ScrollWay) (tree : List Node) (t : Selector) :
    Keeps (SightedIn steps base i) (g.scrollFound way tree t).run := by
  unfold scrollFound
  split
  · exact keeps_pure _
  · exact (keeps_perform_in fun _ _ _ same => by cases same).andThen fun _ => keeps_pure _

/-- Scrolling a node asks for no swipe, and when that fails the finger goes across the screen. -/
theorem keeps_scrollChain {s : Step} (hs : steps[i]? = some s) {d : SwipeData}
    (crosses : s.action.crossing? = some d.direction.opposite) (c : Chain) :
    Keeps (SightedIn steps base i) (g.scrollChain c d).run := by
  have search : Keeps (SightedIn steps base i) (do
      let tree ← g.fetchTree
      c.firstHit (g.scrollFound (ScrollWay.towards d.direction) tree) : Attempt σ (Hit Int)).run :=
    keeps_fetchTree_in.andThen fun tree => keeps_firstHitFrom c (keeps_scrollFound _ tree) _ _ _
  have instead (e : StepError) : Keeps (SightedIn steps base i) (do
      (Run.note (.swipingInstead e)).sure
      g.scrollBySwipe d true : Attempt σ StepOutcome).run :=
    (Leads.sure fun _ h => h.note _).andThen fun _ => keeps_scrollBySwipe hs crosses true
  refine Leads.bind search fun outcome => ?_
  cases outcome with
  | ok hit => exact keeps_pure _
  | error e =>
      cases e with
      | cancelled => exact keeps_pure _
      | _ => exact instead _

theorem keeps_carryOut {s : Step} (hs : steps[i]? = some s) :
    Keeps (SightedIn steps base i) (g.carryOut s).run := by
  cases crossing : s.action.crossing? with
  | none =>
      -- Any swipe fits to a step that does not go across the screen, so all its parts keep this.
      have fitting (a : DeviceAction) (r : Rect) : Fitting steps i r a := by
        intro p ms _
        refine ⟨s, hs, fun d crosses => ?_⟩
        cases crossing.symm.trans crosses
      exact (composed_carryOut s).keeps (fun n _ h => h.note n) keeps_sleep_in
        (fun a => keeps_perform_in (fitting a)) keeps_fetchTree_in
  | some direction =>
      unfold carryOut
      cases action : s.action with
      | swipe d =>
          rw [action] at crossing
          obtain ⟨way, same⟩ := Option.ite_none_right_eq_some.mp crossing
          cases same
          have crosses : s.action.crossing? = some d.direction := by rw [action]; exact crossing
          simp only [swipe, Option.isNone_iff_eq_none.mp way]
          exact (keeps_swipeAcross hs crosses d).andThen fun _ => keeps_pure _
      | scroll d =>
          rw [action] at crossing
          obtain ⟨way, same⟩ := Option.ite_none_right_eq_some.mp crossing
          cases same
          have crosses : s.action.crossing? = some d.direction.opposite := by
            rw [action]
            exact crossing
          simp only [scroll, Option.isNone_iff_eq_none.mp way]
          cases s.selector with
          | none => exact keeps_scrollBySwipe hs crosses false
          | some c => exact keeps_scrollChain hs crosses c
      | tap d => rw [action] at crossing; cases crossing
      | longTap d => rw [action] at crossing; cases crossing
      | inputText d => rw [action] at crossing; cases crossing
      | wait d => rw [action] at crossing; cases crossing
      | unusable r => rw [action] at crossing; cases crossing

/-- A step asks for no swipe that does not fit to it. -/
theorem keeps_execute {s : Step} (hs : steps[i]? = some s) :
    Keeps (SightedIn steps base i) (g.execute s).run := by
  unfold execute
  split
  · exact keeps_pure _
  · exact keeps_carryOut hs

theorem leads_resultOf {s : Step} (hs : steps[i]? = some s) (total : Nat) (name : String) :
    Leads (SightedIn steps base i) (Sighted steps base) (g.resultOf total i name s) := by
  intro run h
  cases enabled : s.enabled with
  | false =>
      rw [resultOf, enabled]
      exact h.toSighted.publish _
  | true =>
      rw [resultOf_of_enabled enabled]
      exact (keeps_execute hs _ (h.note _)).toSighted

theorem invariant_sighted (g : Engine σ) (steps : List Step) (base : Rect) :
    g.Invariant steps (Sighted steps base) (SightedIn steps base) where
  update _ _ h := ⟨h.screen, h.seen, h.across⟩
  publish e _ h := h.publish e
  receive elapsed calls _ h := h.receive elapsed calls
  ask r inside _ h := by
    refine h.ask g.surroundings ?_ (goesAcross_of_not_swipe ?_)
    · rintro rfl
      cases inside
    · rintro p ms rfl
      cases inside
  enter i name run h := by
    have updated : Sighted steps base (Run.update (fun p => p.enter i name) run).2 :=
      ⟨h.screen, h.seen, h.across⟩
    exact { toSighted := updated.publish _, started := lastStarted_snoc _ _ }
  step hs total name := leads_resultOf hs total name

/-! ## Whole replays -/

theorem replay_sighted {w : Workflow} {c : Control} {around : σ} {ending : Ending} {run : Run σ}
    (h : g.replay w c around = .ok (ending, run)) :
    Sighted w.steps (w.screen?.getD g.config.defaultScreen) run :=
  (invariant_sighted g w.steps _).replay h
    { screen := rfl, seen := rfl, across := .nil _ }

/-- A swipe belongs to the step in progress.  When that has no way of its own, the finger goes
across the screen and stays in it. -/
def SwipesFor (steps : List Step) (screen : Rect) (before : List JournalEntry) (p : Path) : Prop :=
  ∃ i s, stepInProgress before = some i ∧ steps[i]? = some s ∧
    ∀ d, s.action.crossing? = some d → p = Path.across screen d ∧ p.Within screen

/-- What is known of the screen at a moment of a replay, and how that is used. -/
structure KnownAt (g : Engine σ) (w : Workflow) (before after : List JournalEntry)
    (screen : Rect) : Prop where
  /-- This screen is known, and no other one. -/
  only : ∀ r, ScreenIs g.config w (treesIn before) r ↔ r = screen
  /-- It is upright and has edges of 32 bits. -/
  proper : screen.IsProper
  /-- No quarter is replaced by an edge. -/
  quarters : Path.QuartersFit screen
  /-- The next swipe goes across it. -/
  swipes : ∀ x rest p ms, after = .suspended x :: rest → x.request = .perform (.swipe p ms) →
    SwipesFor w.steps screen before p

/-- At every moment of a replay one screen is known, by the trees that were fetched until then,
and it is proper.  Every swipe without a way of its own goes across that screen and stays in it. -/
theorem replay_crosses {g : Engine σ} {w : Workflow} {c : Control} {around : σ} {ending : Ending}
    {run : Run σ} (assumed : g.config.defaultScreen.IsProper)
    (h : g.replay w c around = .ok (ending, run)) :
    ScreenIs g.config w (treesIn run.journal) (Run.knownScreen run).1 ∧
      ∀ before after, run.journal = before ++ after →
        ∃ screen, KnownAt g w before after screen := by
  have sighted := replay_sighted h
  refine ⟨screenIs_iff.mpr sighted.known_eq, fun before after hj => ?_⟩
  let screen := (toldBy (treesIn before)).getD (w.screen?.getD g.config.defaultScreen)
  have proper : screen.IsProper := (screenIs_iff.mpr rfl).isProper assumed
  refine ⟨screen, fun r => screenIs_iff, proper, Path.quartersFit proper, ?_⟩
  rintro x rest p ms rfl swipes
  obtain ⟨i, s, started, hs, crosses⟩ := sighted.across before _ rest hj p ms swipes
  refine ⟨i, s, ?_, hs, fun d crossing => ?_⟩
  · -- A step is in progress, since the device is asked, and it is the one that started last.
    have progress : (stepInProgress before).isSome = true := by
      refine allFit_of_replay h before _ rest hj ?_
      rw [swipes]
      rfl
    obtain ⟨j, hj⟩ := Option.isSome_iff_exists.mp progress
    rw [hj, ← lastStarted_of_stepInProgress hj, started]
  · rw [crosses d crossing]
    exact ⟨rfl, Path.across_within proper d⟩

/-! ## A narrow screen -/

/-- A device with a small screen on both sides of the axis. -/
def narrow : Engine Unit where
  surroundings := .steady { tree := [{ bounds := "[-100,0][101,40]" }] }

end Engine

/-- A workflow that scrolls a node down. -/
def Workflow.oneScroll : Workflow where
  id := ⟨9⟩
  steps := [{ id := ⟨1⟩, action := .scroll (.towards .down), selector := some .confirm }]

theorem Engine.replay_crosses_narrow :
    Engine.narrow.config.defaultScreen.IsProper ∧
      ∃ ending run, Engine.narrow.replay .oneScroll .fresh () = .ok (ending, run) ∧
        run.sent.map Suspension.request = [.state, .perform (.swipe ⟨⟨0, 30⟩, ⟨0, 10⟩⟩ 300)] ∧
        (ScreenIs Engine.narrow.config .oneScroll (treesIn run.journal) (Run.knownScreen run).1 ∧
          ∀ before after, run.journal = before ++ after →
            ∃ screen, Engine.KnownAt Engine.narrow .oneScroll before after screen) := by
  have proper : Engine.narrow.config.defaultScreen.IsProper := ⟨by decide, rfl, rfl, rfl, rfl⟩
  have replayed := Engine.replay_fresh_of_valid Engine.narrow (w := .oneScroll) rfl ()
  exact ⟨proper, _, _, replayed, by decide +kernel, Engine.replay_crosses proper replayed⟩

end UiReplay
