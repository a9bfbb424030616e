import Mathlib.Algebra.Order.Floor.Div
import Mathlib.Data.List.Sort
import UiReplay.Proofs.Control.Calls
import UiReplay.Proofs.Replay.Addressed
import UiReplay.Proofs.Replay.Tries

/-!
# Waiting for an element

A wait for an element looks for it again and again, and sleeps between two looks, the last time
only for what is left of its length.  So the looks are at every multiple of the interval below the
length of the wait, and at last when the length is over (`lookTimes`).  They are numbered from
zero, and the last number is the length divided by the interval, rounded up
(`lookTimes_eq_map_range`).

`Engine.resultOf_waits` says what comes of this on a device that answers at once with one tree after
the other (`Surroundings.Shows`): the first look whose tree has the element is the last one, and the
wait times out if and only if no look finds it.  One look that misses leads to the next one
(`Engine.AtLook.next`), and so from the start to any look behind looks that miss
(`Engine.exists_atLook`).

The number of looks is bounded in advance.  Where a wait ends before they are used up
(`Engine.EndsWithin`), more of them change nothing (`Engine.lookUntil_more`).  If it sleeps between
two looks it does end so, on any device whatsoever, since every sleep brings the end nearer
(`Engine.endsWithin_of_lt`).  With an interval of zero it never sleeps, and the bound may decide.
Then a larger one changes nothing in a step that does not use up the looks it has
(`Engine.execute_idleLooks`).
-/

namespace UiReplay

/-! ## The times of the looks -/

/-- When a wait looks, counted from its start: at every multiple of the interval below its length,
and when its length is over. -/
def lookTimes (poll ms : Nat) : List Nat := (List.range ms).filter (poll ∣ ·) ++ [ms]

/-- When the look with a number is made. -/
def lookTime (poll ms k : Nat) : Nat := min (k * poll) ms

section
variable {poll ms k : Nat}

theorem mul_lt_iff_lt_ceilDiv (pos : 0 < poll) : k * poll < ms ↔ k < ms ⌈/⌉ poll := by
  rw [Nat.mul_comm]
  exact lt_iff_lt_of_le_iff_le (ceilDiv_le_iff_le_mul pos).symm

theorem lookTime_of_lt (pos : 0 < poll) (h : k < ms ⌈/⌉ poll) :
    lookTime poll ms k = k * poll ∧ k * poll < ms := by
  have early := (mul_lt_iff_lt_ceilDiv pos).mpr h
  exact ⟨Nat.min_eq_left early.le, early⟩

theorem lookTime_last (pos : 0 < poll) : lookTime poll ms (ms ⌈/⌉ poll) = ms :=
  Nat.min_eq_right (not_lt.mp fun early => lt_irrefl _ ((mul_lt_iff_lt_ceilDiv pos).mp early))

/-- From one look to the next it is the interval, or what is left. -/
theorem lookTime_succ (pos : 0 < poll) (h : k < ms ⌈/⌉ poll) :
    lookTime poll ms (k + 1) = lookTime poll ms k + min poll (ms - lookTime poll ms k) := by
  obtain ⟨time, early⟩ := lookTime_of_lt pos h
  rw [time, lookTime, Nat.add_mul, Nat.one_mul]
  omega

theorem filter_dvd_range (pos : 0 < poll) (ms : Nat) :
    (List.range ms).filter (poll ∣ ·) = (List.range (ms ⌈/⌉ poll)).map (· * poll) := by
  apply List.Pairwise.eq_of_mem_iff (r := (· < ·))
  · exact List.pairwise_lt_range.filter _
  · refine List.pairwise_map.mpr (List.pairwise_lt_range.imp ?_)
    exact fun h => Nat.mul_lt_mul_of_pos_right h pos
  · intro t
    simp only [List.mem_filter, List.mem_range, decide_eq_true_eq, List.mem_map]
    constructor
    · rintro ⟨early, k, rfl⟩
      rw [Nat.mul_comm] at early ⊢
      exact ⟨k, (mul_lt_iff_lt_ceilDiv pos).mp early, rfl⟩
    · rintro ⟨k, hk, rfl⟩
      exact ⟨(mul_lt_iff_lt_ceilDiv pos).mpr hk, Nat.dvd_mul_left _ _⟩

/-- The looks are numbered from zero to the length divided by the interval, rounded up. -/
theorem lookTimes_eq_map_range (pos : 0 < poll) (ms : Nat) :
    lookTimes poll ms = (List.range (ms ⌈/⌉ poll + 1)).map (lookTime poll ms) := by
  rw [lookTimes, filter_dvd_range pos, List.range_succ, List.map_append, List.map_singleton,
    lookTime_last pos]
  refine congrArg (· ++ [ms]) (List.map_congr_left fun k hk => ?_)
  exact (lookTime_of_lt pos (List.mem_range.mp hk)).1.symm

theorem take_lookTimes (pos : 0 < poll) (h : k ≤ ms ⌈/⌉ poll) :
    (lookTimes poll ms).take (k + 1) = (List.range (k + 1)).map (lookTime poll ms) := by
  rw [lookTimes_eq_map_range pos, ← List.map_take, List.take_range,
    Nat.min_eq_left (Nat.succ_le_succ h)]

theorem ceilDiv_le_self (pos : 0 < poll) : ms ⌈/⌉ poll ≤ ms :=
  (ceilDiv_le_iff_le_mul pos).mpr (Nat.le_mul_of_pos_left ms pos)

end

example : lookTimes 250 600 = [0, 250, 500, 600] ∧ lookTimes 250 500 = [0, 250, 500] ∧
    lookTimes 250 0 = [0] ∧ lookTimes 600 250 = [0, 250] := by decide +kernel

/-! ## Devices that answer at once -/

/-- Calls without a cancel cancel nothing. -/
theorem Control.isCancelled_calls_of_not_mem {c : Control} {xs : List ControlCall}
    (h : .cancel ∉ xs) (going : c.isCancelled = false) : (c.calls xs).isCancelled = false := by
  induction xs generalizing c with
  | nil => exact going
  | cons x rest ih =>
      refine ih (fun later => h (List.mem_cons_of_mem _ later)) ?_
      refine Bool.eq_false_iff.mpr fun cancelled => ?_
      rcases (isCancelled_call_iff c x).mp cancelled with before | ⟨rfl, -⟩
      · exact Bool.false_ne_true (going.symm.trans before)
      · exact h List.mem_cons_self

/-- The device answers at once, with one tree after the other, and a sleep is no longer than it
should be.  Nothing is cancelled meanwhile. -/
structure Surroundings.Shows {σ : Type} (w : Surroundings σ) (asked : σ → Nat)
    (trees : Nat → List Node) : Prop where
  gives : ∀ c s, ∃ state : DeviceState,
    (w.respond .state c s).1.answer = .ok state ∧ state.tree = trees (asked s)
  atOnce : ∀ c s, (w.respond .state c s).1.elapsed = 0
  counts : ∀ c s, asked (w.respond .state c s).2 = asked s + 1
  onTime : ∀ ms c s, (w.respond (.sleep ms) c s).1.elapsed ≤ ms
  sleeps : ∀ ms c s, asked (w.respond (.sleep ms) c s).2 = asked s
  calm : ∀ c s, .cancel ∉ (w.respond .state c s).1.calls
  asleep : ∀ ms c s, .cancel ∉ (w.respond (.sleep ms) c s).1.calls

/-- When something was asked for, and what. -/
def Suspension.timed (x : Suspension) : Nat × Request := (x.start, x.request)

namespace Engine

variable {σ : Type} {g : Engine σ} {asked : σ → Nat} {trees : Nat → List Node} {c : Chain}
  {ms : Nat} {run run' run'' : Run σ}

/-- From a run to another, the tree was asked for at these times, and the device for nothing else.
Nothing was cancelled. -/
structure Looked (asked : σ → Nat) (times : List Nat) (run run' : Run σ) : Prop where
  sent : run'.sent.map Suspension.timed =
    run.sent.map Suspension.timed ++ times.map fun t => (t, .state)
  asked : asked run'.around = asked run.around + times.length
  going : run'.control.isCancelled = false

theorem Looked.refl (going : run.control.isCancelled = false) : Looked asked [] run run :=
  ⟨(List.append_nil _).symm, rfl, going⟩

theorem Looked.trans {times times' : List Nat} (h : Looked asked times run run')
    (h' : Looked asked times' run' run'') : Looked asked (times ++ times') run run'' where
  sent := by rw [h'.sent, h.sent, List.append_assoc, List.map_append]
  asked := by rw [h'.asked, h.asked, List.length_append, Nat.add_assoc]
  going := h'.going

theorem going_ask {r : Request} (going : run.control.isCancelled = false)
    (calm : .cancel ∉ (g.surroundings.respond r run.control run.around).1.calls) :
    (g.surroundings.ask r run).2.control.isCancelled = false :=
  Control.isCancelled_calls_of_not_mem calm going

/-- How long a sleep is that no cancel ends. -/
theorem clock_ask_sleep
    (awake : (g.surroundings.ask (.sleep ms) run).2.control.isCancelled = false) :
    (g.surroundings.ask (.sleep ms) run).2.clock = run.clock +
      max ms (g.surroundings.respond (.sleep ms) run.control run.around).1.elapsed := by
  show run.clock + (if (g.surroundings.ask (.sleep ms) run).2.control.isCancelled then _ else _) = _
  rw [awake, if_neg Bool.false_ne_true]

section
variable (shows : g.surroundings.Shows asked trees) (going : run.control.isCancelled = false)
include shows going

theorem looked_fetchTree :
    ∃ run', g.fetchTree.run run = (.ok (trees (asked run.around)), run') ∧
      Looked asked [run.clock] run run' ∧ run'.clock = run.clock := by
  obtain ⟨state, answer, tree⟩ := shows.gives run.control run.around
  have settles : ∀ e, (g.surroundings.ask .state run).1 = .error e →
      g.attempts - 1 = 0 ∨ e.isTransient = false := by
    intro e failed
    cases answer.symm.trans failed
  have settled_ok : settled (g.surroundings.ask .state run).1 = .ok state :=
    congrArg settled answer
  rw [run_fetchTree, run_retry_settled _ going settles, settled_ok, ← tree]
  refine ⟨_, rfl, ⟨?_, shows.counts _ _, going_ask going (shows.calm _ _)⟩, ?_⟩
  · rw [Run.sent_see, Run.sent_ask_eq, List.map_append]
    rfl
  · show run.clock + (g.surroundings.respond .state run.control run.around).1.elapsed = run.clock
    rw [shows.atOnce, Nat.add_zero]

theorem looked_sleep {α : Type} (ms : Nat) (f : Unit → Attempt σ α) :
    ∃ run', (g.sleep ms >>= f).run run = (f ()).run run' ∧ Looked asked [] run run' ∧
      run'.clock = run.clock + ms := by
  have awake : (g.surroundings.ask (.sleep ms) run).2.control.isCancelled = false :=
    going_ask going (shows.asleep _ _ _)
  rw [run_sleep_bind, going, awake, if_neg Bool.false_ne_true, if_neg Bool.false_ne_true]
  refine ⟨_, rfl, ⟨?_, shows.sleeps _ _ _, awake⟩, ?_⟩
  · rw [Run.sent_ask_eq, List.map_append]
    rfl
  · rw [clock_ask_sleep awake, Nat.max_eq_left (shows.onTime _ _ _)]

end

end Engine

/-! ## One look after the other -/

/-- What a wait reports when its search finds a node. -/
def Match.appeared (found : Match) : StepOutcome where
  deed := .appeared found.selector
  selector := some (found.selector, found.selectorIndex)
  fallbackUsed := found.fallbackUsed

namespace Engine

variable {σ : Type} {g : Engine σ} {asked : σ → Nat} {trees : Nat → List Node} {c : Chain}
  {ms : Nat} {run run' run'' : Run σ}

/-- One computation after the other. -/
theorem run_attempt_bind {α β : Type} (x : Attempt σ α) (f : α → Attempt σ β) (run : Run σ) :
    (x >>= f).run run =
      match x.run run with
      | (.error e, run') => (.error e, run')
      | (.ok a, run') => (f a).run run' := by
  show ExceptT.bindCont f (x.run run).1 (x.run run).2 = _
  rcases x.run run with ⟨e | a, run'⟩ <;> rfl

/-- One look, and what comes of it. -/
theorem run_lookUntil (c : Chain) (ms deadline left : Nat) (run : Run σ) :
    (g.lookUntil c ms deadline (left + 1)).run run =
      match g.fetchTree.run run with
      | (.error e, run') => (.error e, run')
      | (.ok tree, run') =>
          match g.matcher.find tree c with
          | some found => (.ok found.appeared, run')
          | none =>
              if deadline ≤ run'.clock then (.error (.timeout c ms), run')
              else (g.sleep (min g.config.waitPoll (deadline - run'.clock)) >>= fun _ =>
                g.lookUntil c ms deadline left).run run' := by
  rw [lookUntil, run_attempt_bind]
  rcases g.fetchTree.run run with ⟨e | tree, run'⟩
  · rfl
  · dsimp only
    cases g.matcher.find tree c with
    | some found => rfl
    | none =>
        rw [run_sure_bind]
        show (if deadline ≤ run'.clock then _ else _ : Attempt σ StepOutcome).run run' = _
        split <;> rfl

/-- A step that waits for an element looks for it until its time is over. -/
theorem run_execute_wait {step : Step} {d : WaitData} (chain : step.selector = some c)
    (action : step.action = .wait d) (awaits : d.waitForElement = true) (run : Run σ) :
    (g.execute step).run run = (g.lookUntil c d.durationMs (run.clock + d.durationMs)
      (g.looks d.durationMs)).run run := by
  have valid : step.validate = .ok () := by rw [Step.validate, action]
  rw [execute_of_validate valid, carryOut, action]
  simp only [wait, awaits, chain]
  rfl

/-- A wait that began in a run is about to make the look with a number, and made those before it in
time. -/
structure AtLook (g : Engine σ) (asked : σ → Nat) (ms : Nat) (run : Run σ) (k : Nat)
    (run' : Run σ) : Prop where
  looked : Looked asked
    ((List.range k).map fun j => run.clock + lookTime g.config.waitPoll ms j) run run'
  clock : run'.clock = run.clock + lookTime g.config.waitPoll ms k

/-- What the look with a number finds. -/
def found? (g : Engine σ) (asked : σ → Nat) (trees : Nat → List Node) (c : Chain) (run : Run σ)
    (k : Nat) : Option Match :=
  g.matcher.find (trees (asked run.around + k)) c

theorem atLook_zero (going : run.control.isCancelled = false) : g.AtLook asked ms run 0 run where
  looked := .refl going
  clock := by rw [lookTime, Nat.zero_mul, Nat.zero_min, Nat.add_zero]

section
variable (shows : g.surroundings.Shows asked trees) {k : Nat}
include shows

/-- The look with a number fetches the tree with this number. -/
theorem AtLook.fetches (h : g.AtLook asked ms run k run') :
    ∃ run'', g.fetchTree.run run' = (.ok (trees (asked run.around + k)), run'') ∧
      Looked asked ((List.range (k + 1)).map fun j => run.clock + lookTime g.config.waitPoll ms j)
        run run'' ∧
      run''.clock = run.clock + lookTime g.config.waitPoll ms k := by
  obtain ⟨run'', fetched, looked, clock⟩ := looked_fetchTree shows h.looked.going
  have number : asked run'.around = asked run.around + k := by
    rw [h.looked.asked, List.length_map, List.length_range]
  refine ⟨run'', number ▸ fetched, ?_, clock.trans h.clock⟩
  rw [List.range_succ, List.map_append, List.map_singleton, ← h.clock]
  exact h.looked.trans looked

/-- A look that finds the element is the last one. -/
theorem AtLook.finds (h : g.AtLook asked ms run k run') {found : Match}
    (hit : g.found? asked trees c run k = some found) (deadline left : Nat) :
    ∃ run'', (g.lookUntil c ms deadline (left + 1)).run run' = (.ok found.appeared, run'') ∧
      Looked asked ((List.range (k + 1)).map fun j => run.clock + lookTime g.config.waitPoll ms j)
        run run'' ∧
      run''.clock = run.clock + lookTime g.config.waitPoll ms k := by
  obtain ⟨run'', fetched, looked, clock⟩ := h.fetches shows
  rw [found?] at hit
  refine ⟨run'', ?_, looked, clock⟩
  rw [run_lookUntil, fetched]
  dsimp only
  rw [hit]

variable (poll : 0 < g.config.waitPoll)
include poll

/-- A look before the end that misses leads to the next one. -/
theorem AtLook.next (h : g.AtLook asked ms run k run') (early : k < ms ⌈/⌉ g.config.waitPoll)
    (miss : g.found? asked trees c run k = none) (left : Nat) :
    ∃ run'', (g.lookUntil c ms (run.clock + ms) (left + 1)).run run' =
        (g.lookUntil c ms (run.clock + ms) left).run run'' ∧
      g.AtLook asked ms run (k + 1) run'' := by
  obtain ⟨fetchedRun, fetched, looked, clock⟩ := h.fetches shows
  obtain ⟨time, below⟩ := lookTime_of_lt poll early
  obtain ⟨run'', slept, quiet, later⟩ := looked_sleep shows looked.going
    (min g.config.waitPoll (run.clock + ms - fetchedRun.clock))
    fun _ => g.lookUntil c ms (run.clock + ms) left
  have both := looked.trans quiet
  rw [List.append_nil] at both
  rw [found?] at miss
  refine ⟨run'', ?_, both, ?_⟩
  · have open' : ¬run.clock + ms ≤ fetchedRun.clock := by omega
    rw [run_lookUntil, fetched]
    dsimp only
    rw [miss]
    dsimp only
    rw [if_neg open', slept]
  · rw [later, clock, lookTime_succ poll early, Nat.add_sub_add_left, Nat.add_assoc]

/-- When the last look misses, the time is over. -/
theorem AtLook.ends (h : g.AtLook asked ms run (ms ⌈/⌉ g.config.waitPoll) run')
    (miss : g.found? asked trees c run (ms ⌈/⌉ g.config.waitPoll) = none) (left : Nat) :
    ∃ run'', (g.lookUntil c ms (run.clock + ms) (left + 1)).run run' =
        (.error (.timeout c ms), run'') ∧
      Looked asked ((lookTimes g.config.waitPoll ms).map (run.clock + ·)) run run'' ∧
      run''.clock = run.clock + ms := by
  obtain ⟨run'', fetched, looked, clock⟩ := h.fetches shows
  rw [lookTime_last poll] at clock
  rw [found?] at miss
  refine ⟨run'', ?_, ?_, clock⟩
  · rw [run_lookUntil, fetched]
    dsimp only
    rw [miss]
    dsimp only
    rw [if_pos clock.ge]
  · rw [lookTimes_eq_map_range poll, List.map_map]
    exact looked

/-- Behind looks that miss, a wait is about to make the next one, by induction on the looks. -/
theorem exists_atLook (going : run.control.isCancelled = false)
    (within : k ≤ ms ⌈/⌉ g.config.waitPoll)
    (misses : ∀ j < k, g.found? asked trees c run j = none) (left : Nat) :
    ∃ run', (g.lookUntil c ms (run.clock + ms) (left + k)).run run =
        (g.lookUntil c ms (run.clock + ms) left).run run' ∧ g.AtLook asked ms run k run' := by
  induction k generalizing left with
  | zero => exact ⟨run, rfl, atLook_zero going⟩
  | succ k ih =>
      obtain ⟨run', before, here⟩ := ih (Nat.le_of_succ_le within)
        (fun j hj => misses j (Nat.lt_succ_of_lt hj)) (left + 1)
      obtain ⟨run'', next, there⟩ := here.next shows poll within (misses k k.lt_succ_self) left
      refine ⟨run'', ?_, there⟩
      rw [← next, ← before, Nat.add_right_comm, Nat.add_assoc]

end

/-! ## Looks that are enough -/

theorem Move.clock_le (h : g.Move run run') : run.clock ≤ run'.clock := by
  cases h with
  | note n => exact le_rfl
  | see tree => exact le_rfl
  | ask r inside going => exact Nat.le_add_right _ _

theorem Moves.clock_le (h : g.Moves run run') : run.clock ≤ run'.clock := by
  induction h with
  | refl => exact le_rfl
  | tail _ move ih => exact ih.trans move.clock_le

/-- A sleep that no cancel ends lasts as long as it should. -/
theorem clock_sleep (slept : (g.sleep ms).run run = (.ok (), run')) :
    run.clock + ms ≤ run'.clock := by
  rw [← bind_pure (g.sleep ms), run_sleep_bind] at slept
  split at slept
  · cases slept
  · split at slept
    · cases slept
    · next awake =>
        cases slept
        rw [clock_ask_sleep (Bool.eq_false_iff.mpr awake)]
        omega

/-- A wait ends before it has used up its looks: a look gets no tree, or finds the element, or comes
when the time is over, or the sleep behind it is cancelled. -/
inductive EndsWithin (g : Engine σ) (c : Chain) (deadline : Nat) : Nat → Run σ → Prop
  | blind {left : Nat} {run run' : Run σ} {e : StepError}
      (fetched : g.fetchTree.run run = (.error e, run')) : EndsWithin g c deadline (left + 1) run
  | found {left : Nat} {run run' : Run σ} {tree : List Node} {found : Match}
      (fetched : g.fetchTree.run run = (.ok tree, run'))
      (hit : g.matcher.find tree c = some found) : EndsWithin g c deadline (left + 1) run
  | tooLate {left : Nat} {run run' : Run σ} {tree : List Node}
      (fetched : g.fetchTree.run run = (.ok tree, run'))
      (late : deadline ≤ run'.clock) : EndsWithin g c deadline (left + 1) run
  | cancelled {left : Nat} {run run' run'' : Run σ} {tree : List Node} {e : StepError}
      (fetched : g.fetchTree.run run = (.ok tree, run'))
      (stopped : (g.sleep (min g.config.waitPoll (deadline - run'.clock))).run run' =
        (.error e, run'')) : EndsWithin g c deadline (left + 1) run
  | again {left : Nat} {run run' run'' : Run σ} {tree : List Node}
      (fetched : g.fetchTree.run run = (.ok tree, run'))
      (slept : (g.sleep (min g.config.waitPoll (deadline - run'.clock))).run run' = (.ok (), run''))
      (later : EndsWithin g c deadline left run'') : EndsWithin g c deadline (left + 1) run

/-- A wait that ends before it has used up its looks does the same with more of them, by induction on
how it ends. -/
theorem lookUntil_more {deadline left : Nat} {run : Run σ}
    (ends : g.EndsWithin c deadline left run) (more : Nat) :
    (g.lookUntil c ms deadline (left + more)).run run =
      (g.lookUntil c ms deadline left).run run := by
  induction ends with
  | blind fetched => rw [Nat.add_right_comm, run_lookUntil, run_lookUntil, fetched]
  | found fetched hit =>
      rw [Nat.add_right_comm, run_lookUntil, run_lookUntil, fetched]
      dsimp only
      rw [hit]
  | tooLate fetched late =>
      rw [Nat.add_right_comm, run_lookUntil, run_lookUntil, fetched]
      dsimp only
      rw [if_pos late, if_pos late]
  | cancelled fetched stopped =>
      rw [Nat.add_right_comm, run_lookUntil, run_lookUntil, fetched]
      dsimp only
      rw [run_attempt_bind, run_attempt_bind, stopped]
  | again fetched slept _ ih =>
      rw [Nat.add_right_comm, run_lookUntil, run_lookUntil, fetched]
      dsimp only
      rw [run_attempt_bind, run_attempt_bind, slept]
      dsimp only
      rw [ih]

/-- A wait that sleeps between two looks, and has more of them than milliseconds left, ends before
they are used up, whatever the surroundings do, by induction on the looks. -/
theorem endsWithin_of_lt (poll : 0 < g.config.waitPoll) {deadline left : Nat} {run : Run σ}
    (enough : deadline - run.clock < left) : g.EndsWithin c deadline left run := by
  induction left generalizing run with
  | zero => exact absurd enough (Nat.not_lt_zero _)
  | succ left ih =>
      have looked : run.clock ≤ (g.fetchTree.run run).2.clock := (works_fetchTree run).moves.clock_le
      rcases fetched : g.fetchTree.run run with ⟨e | tree, run'⟩
      · exact .blind fetched
      rw [fetched] at looked
      dsimp only at looked
      by_cases late : deadline ≤ run'.clock
      · exact .tooLate fetched late
      rcases slept : (g.sleep (min g.config.waitPoll (deadline - run'.clock))).run run' with
        ⟨e | u, run''⟩
      · exact .cancelled fetched slept
      · have later := clock_sleep slept
        exact .again fetched slept (ih (by omega))

/-- The looks of a wait are enough: with more of them it does the same in every run. -/
def LooksEnough (g : Engine σ) (c : Chain) (ms : Nat) : Prop :=
  ∀ (run : Run σ) (more : Nat),
    (g.lookUntil c ms (run.clock + ms) (g.looks ms + more)).run run =
      (g.lookUntil c ms (run.clock + ms) (g.looks ms)).run run

theorem looks_eq (poll : 0 < g.config.waitPoll) (ms : Nat) : g.looks ms = ms + 1 := by
  rw [looks, if_neg poll.ne']

theorem looksEnough (poll : 0 < g.config.waitPoll) (c : Chain) (ms : Nat) :
    g.LooksEnough c ms := by
  intro run more
  refine lookUntil_more (endsWithin_of_lt poll ?_) more
  rw [looks_eq poll, Nat.add_sub_cancel_left]
  exact Nat.lt_succ_self ms

/-- A wait for no element only sleeps. -/
theorem wait_of_blind {chain : Option Chain} {d : WaitData}
    (blind : d.waitForElement = true → chain = none) :
    g.wait chain d = do
      g.sleep d.durationMs
      return { deed := .waited d.durationMs } := by
  cases awaits : d.waitForElement with
  | false => simp only [wait, awaits]
  | true => simp only [wait, awaits, blind awaits]

theorem exists_looks_idleLooks {m : Nat} (le : g.idleLooks ≤ m) (ms : Nat) :
    ∃ more, ({ g with idleLooks := m } : Engine σ).looks ms = g.looks ms + more := by
  simp only [looks]
  split
  · exact ⟨m - g.idleLooks, by omega⟩
  · exact ⟨0, rfl⟩

/-- A larger bound for the looks of waits that never sleep changes nothing in a step that does not
use up the looks that it has. -/
theorem execute_idleLooks {m : Nat} (le : g.idleLooks ≤ m) {s : Step} {run : Run σ}
    (ends : ∀ d c, s.action = .wait d → s.selector = some c → d.waitForElement = true →
      g.EndsWithin c (run.clock + d.durationMs) (g.looks d.durationMs) run) :
    (({ g with idleLooks := m } : Engine σ).execute s).run run = (g.execute s).run run := by
  by_cases looks : ∃ d c, s.action = .wait d ∧ s.selector = some c ∧ d.waitForElement = true
  · obtain ⟨d, c, action, chain, awaits⟩ := looks
    obtain ⟨more, enough⟩ := exists_looks_idleLooks le d.durationMs
    have same := lookUntil_tuned g g.config.stopOnError m c d.durationMs
      (run.clock + d.durationMs) (g.looks d.durationMs + more)
    rw [run_execute_wait chain action awaits, run_execute_wait chain action awaits, enough,
      ← lookUntil_more (ends d c action chain awaits) more, ← same]
    rfl
  · refine congrArg (fun x => x.run run) (execute_tuned g g.config.stopOnError m fun d action => ?_)
    have blind : d.waitForElement = true → s.selector = none := by
      intro awaits
      refine Option.eq_none_iff_forall_ne_some.mpr fun c chain => ?_
      exact looks ⟨d, c, action, chain, awaits⟩
    rw [wait_of_blind blind, wait_of_blind blind]
    rfl

/-! ## The result of a wait -/

/-- From a run to a result and the run after it, the element appears at the look with a number.
This look is the last one, and the result reports what its search found. -/
structure AppearsAt (g : Engine σ) (asked : σ → Nat) (ms k : Nat) (found : Match) (run : Run σ)
    (x : Option StepResult × Run σ) : Prop where
  result : ∃ r, x.1 = some r ∧ r.status = .success ∧
    r.selector = some (found.selector, found.selectorIndex) ∧
    r.fallbackUsed = found.fallbackUsed ∧ r.durationMs = lookTime g.config.waitPoll ms k
  looked : Looked asked (((lookTimes g.config.waitPoll ms).take (k + 1)).map (run.clock + ·))
    run x.2
  clock : x.2.clock = run.clock + lookTime g.config.waitPoll ms k

/-- From a run to a result and the run after it, all looks are made in vain, and the time is
over. -/
structure TimesOut (g : Engine σ) (asked : σ → Nat) (c : Chain) (ms : Nat) (run : Run σ)
    (x : Option StepResult × Run σ) : Prop where
  result : ∃ r, x.1 = some r ∧ r.status = .timeout ∧ r.error = some (.timeout c ms) ∧
    r.durationMs = ms
  looked : Looked asked ((lookTimes g.config.waitPoll ms).map (run.clock + ·)) run x.2
  clock : x.2.clock = run.clock + ms

/-- A search that does not always miss hits for the first time somewhere. -/
theorem exists_first_of_not_all_none {α : Type} {f : Nat → Option α} {n : Nat}
    (h : ¬∀ k ≤ n, f k = none) : ∃ k ≤ n, ∃ a, f k = some a ∧ ∀ j < k, f j = none := by
  have hit : ∃ k, f k ≠ none := by
    simp only [not_forall] at h
    exact h.imp fun k hk => hk.2
  classical
  refine ⟨Nat.find hit, ?_, ?_⟩
  · by_contra late
    exact h fun k hk => not_not.mp (Nat.find_min hit (hk.trans_lt (not_le.mp late)))
  · obtain ⟨a, ha⟩ := Option.ne_none_iff_exists'.mp (Nat.find_spec hit)
    exact ⟨a, ha, fun j hj => not_not.mp (Nat.find_min hit hj)⟩

theorem looked_note (asked : σ → Nat) (going : run.control.isCancelled = false) (n : Note) :
    Looked asked [] run (Run.note n run).2 where
  sent := (congrArg (List.map Suspension.timed) (Run.sent_publish _ _)).trans
    (List.append_nil _).symm
  asked := rfl
  going := going

section
variable {step : Step} {d : WaitData} (chain : step.selector = some c)
  (action : step.action = .wait d) (awaits : d.waitForElement = true)
include chain action awaits

variable (shows : g.surroundings.Shows asked trees) (poll : 0 < g.config.waitPoll)
  (going : run.control.isCancelled = false)
include shows poll going

/-- A wait comes to each of its looks behind looks that miss. -/
theorem execute_comes_to {k : Nat} (within : k ≤ d.durationMs ⌈/⌉ g.config.waitPoll)
    (misses : ∀ j < k, g.found? asked trees c run j = none) :
    ∃ left run', (g.execute step).run run =
        (g.lookUntil c d.durationMs (run.clock + d.durationMs) (left + 1)).run run' ∧
      g.AtLook asked d.durationMs run k run' := by
  obtain ⟨left, enough⟩ : ∃ left, d.durationMs + 1 = left + 1 + k := by
    have small := within.trans (ceilDiv_le_self poll)
    exact ⟨d.durationMs - k, by omega⟩
  obtain ⟨run', before, here⟩ := exists_atLook (c := c) shows poll going within misses (left + 1)
  refine ⟨left, run', ?_, here⟩
  rw [run_execute_wait chain action awaits, looks_eq poll, enough, before]

variable (enabled : step.enabled = true) (total index : Nat) (name : String)
include enabled

/-- The first look that finds the element is the last one. -/
theorem resultOf_appearsAt {k : Nat} {found : Match}
    (within : k ≤ d.durationMs ⌈/⌉ g.config.waitPoll)
    (hit : g.found? asked trees c run k = some found)
    (misses : ∀ j < k, g.found? asked trees c run j = none) :
    g.AppearsAt asked d.durationMs k found run (g.resultOf total index name step run) := by
  have noted := looked_note asked going (.step (index + 1) total name)
  obtain ⟨left, run', before, here⟩ :=
    execute_comes_to chain action awaits shows poll noted.going within misses
  obtain ⟨run'', last, looked, clock⟩ :=
    here.finds shows hit (run.clock + d.durationMs) left
  rw [resultOf_of_enabled enabled, before.trans last]
  refine ⟨⟨_, rfl, rfl, rfl, rfl, Nat.sub_eq_of_eq_add' clock⟩, ?_, clock⟩
  rw [take_lookTimes poll within, List.map_map]
  exact noted.trans looked

/-- When no look finds the element, all of them are made. -/
theorem resultOf_timesOut
    (misses : ∀ k ≤ d.durationMs ⌈/⌉ g.config.waitPoll, g.found? asked trees c run k = none) :
    g.TimesOut asked c d.durationMs run (g.resultOf total index name step run) := by
  have noted := looked_note asked going (.step (index + 1) total name)
  obtain ⟨left, run', before, here⟩ :=
    execute_comes_to chain action awaits shows poll noted.going le_rfl fun k hk => misses k hk.le
  obtain ⟨run'', ended, looked, clock⟩ := here.ends shows poll (misses _ le_rfl) left
  rw [resultOf_of_enabled enabled, before.trans ended]
  exact ⟨⟨_, rfl, rfl, rfl, Nat.sub_eq_of_eq_add' clock⟩, noted.trans looked, clock⟩

/-- A wait for an element is over at the first look that finds it.  It times out if and only if all
its looks miss, and then it has taken just its length.  That its looks are bounded in advance makes
no difference. -/
theorem resultOf_waits :
    g.LooksEnough c d.durationMs ∧
    (∀ k ≤ d.durationMs ⌈/⌉ g.config.waitPoll, ∀ found,
      g.found? asked trees c run k = some found →
      (∀ j < k, g.found? asked trees c run j = none) →
        g.AppearsAt asked d.durationMs k found run (g.resultOf total index name step run)) ∧
    ((∀ k ≤ d.durationMs ⌈/⌉ g.config.waitPoll, g.found? asked trees c run k = none) →
      g.TimesOut asked c d.durationMs run (g.resultOf total index name step run)) ∧
    ((∃ r, (g.resultOf total index name step run).1 = some r ∧ r.status = .timeout) ↔
      ∀ k ≤ d.durationMs ⌈/⌉ g.config.waitPoll, g.found? asked trees c run k = none) := by
  refine ⟨looksEnough poll c _, fun k within found => ?_, ?_, ?_, ?_⟩
  · exact resultOf_appearsAt chain action awaits shows poll going enabled total index name within
  · exact resultOf_timesOut chain action awaits shows poll going enabled total index name
  · rintro ⟨r, hr, timeout⟩
    by_contra some_hit
    obtain ⟨k, within, found, hit, misses⟩ := exists_first_of_not_all_none some_hit
    obtain ⟨r', hr', success, -⟩ := (resultOf_appearsAt chain action awaits shows poll going
      enabled total index name within hit misses).result
    obtain rfl := Option.some.inj (hr.symm.trans hr')
    cases success.symm.trans timeout
  · intro misses
    obtain ⟨r, hr, timeout, -⟩ := (resultOf_timesOut chain action awaits shows poll going
      enabled total index name misses).result
    exact ⟨r, hr, timeout⟩

end

end Engine

/-- A device that answers at once with one tree after the other, where the surroundings count how
often it was asked. -/
def Surroundings.unfolding (trees : Nat → List Node) : Surroundings Nat where
  respond
    | .state, _, n => ({ answer := .ok { tree := trees n } }, n + 1)
    | .perform _, _, n => ({ answer := .ok () }, n)
    | .sleep _, _, n => ({ answer := () }, n)
    | .gate, _, n => ({ answer := [] }, n)

theorem Surroundings.shows_unfolding (trees : Nat → List Node) :
    (unfolding trees).Shows id trees where
  gives _ n := ⟨{ tree := trees n }, rfl, rfl⟩
  atOnce _ _ := rfl
  counts _ _ := rfl
  onTime _ _ _ := Nat.zero_le _
  sleeps _ _ _ := rfl
  calm _ _ := List.not_mem_nil
  asleep _ _ _ := List.not_mem_nil

/-- A wait for the node that shows a text. -/
def Step.await (ms : Nat) : Step where
  id := ⟨1⟩
  action := .wait { durationMs := ms, waitForElement := true }
  selector := some .confirm

/-- Trees that have this node from the fourth on. -/
def treesOfConfirm (n : Nat) : List Node := if n < 3 then [] else [.confirm]

namespace Engine

/-- An engine on a device that shows these trees. -/
def awaiting : Engine Nat where
  surroundings := .unfolding treesOfConfirm

/-- A run in which the device was asked for nothing yet. -/
def unasked : Run Nat where
  control := .fresh
  screen := ⟨0, 0, 1080, 2400⟩
  around := 0

theorem found?_awaiting_early {j : Nat} (h : j < 3) :
    awaiting.found? id treesOfConfirm .confirm unasked j = none := by
  have empty : treesOfConfirm (id unasked.around + j) = [] :=
    if_pos (show 0 + j < 3 from (Nat.zero_add j).symm ▸ h)
  rw [found?, empty, Matcher.find, Node.flatten_eq_preorders]
  rfl

theorem found?_awaiting_three :
    awaiting.found? id treesOfConfirm .confirm unasked 3 = some ⟨0, .confirm, .confirm, 1⟩ := by
  rw [found?, Matcher.find, Node.flatten_eq_preorders]
  rfl

theorem resultOf_waits_awaiting :
    (awaiting.LooksEnough .confirm 600 ∧
      awaiting.AppearsAt id 600 3 ⟨0, .confirm, .confirm, 1⟩ unasked
        (awaiting.resultOf 1 0 "Wait" (.await 600) unasked)) ∧
    awaiting.TimesOut id .confirm 500 unasked
      (awaiting.resultOf 1 0 "Wait" (.await 500) unasked) := by
  have shows : awaiting.surroundings.Shows id treesOfConfirm := Surroundings.shows_unfolding _
  have poll : 0 < awaiting.config.waitPoll := by decide
  have going : unasked.control.isCancelled = false := rfl
  have element : ∀ ms, (Step.await ms).selector = some .confirm := fun _ => rfl
  have whole := resultOf_waits (element 600) rfl rfl shows poll going rfl 1 0 "Wait"
  have short := resultOf_waits (element 500) rfl rfl shows poll going rfl 1 0 "Wait"
  refine ⟨⟨whole.1, ?_⟩, short.2.2.1 fun k hk => ?_⟩
  · exact whole.2.1 3 (by decide) _ found?_awaiting_three fun j => found?_awaiting_early
  · exact found?_awaiting_early (Nat.lt_succ_of_le (hk.trans (by decide)))

end Engine

end UiReplay
