import Mathlib.Data.List.Nodup
import UiReplay.Proofs.Recording.Accepted
import UiReplay.Recording.Poller

/-!
# What polling a feed records

A poller takes the replies of its feed one after the other.  The batch of a reply is its events in
ascending order; a reply that is an error has none (`TimedReply.batch`).  What the session has at
the end is what it gets from the batches of the replies that were taken (`PollPlan.follow_course`),
so it appends the steps of their accepted events, and every question asks for the events after the
greatest number seen (`PollPlan.run_records`).

This goes on until the recorder breaks down over an accepted event.  Then the poller ends, and the
events after that one are lost, though they are accepted and have steps
(`PollPlan.run_loses_laterEvent`).

If the events that there are have growing numbers, and each answer has all of them above the number
asked for, then no event that was there when an answer came is passed over
(`PollPlan.mem_accepted_of_tellsAll`).
-/

namespace UiReplay

/-! ## Replies -/

namespace TimedReply

/-- The feed knows no more events. -/
def quiet : TimedReply := ⟨.answer (.ok []), 0⟩

/-- The replies of a feed by their places. -/
def nth (feed : List TimedReply) (k : Nat) : TimedReply := (feed[k]?).getD quiet

/-- The events of a reply in ascending order, none when it is an error. -/
def batch (r : TimedReply) : List RecordedEvent :=
  match r.reply with
  | .answer (.ok events) => Session.inOrder events
  | _ => []

/-- The events of the first replies of a feed, batch by batch. -/
def taken (feed : List TimedReply) (n : Nat) : List RecordedEvent :=
  (List.range n).flatMap fun k => (nth feed k).batch

variable {feed : List TimedReply}

theorem nth_zero (feed : List TimedReply) : nth feed 0 = feed.headD quiet := by
  cases feed <;> rfl

theorem nth_tail (feed : List TimedReply) (k : Nat) : nth feed.tail k = nth feed (k + 1) := by
  cases feed <;> rfl

theorem taken_succ (feed : List TimedReply) (n : Nat) :
    taken feed (n + 1) = taken feed n ++ (nth feed n).batch := by
  simp [taken, List.range_succ, List.flatMap_append]

theorem taken_tail (feed : List TimedReply) (n : Nat) :
    taken feed (n + 1) = (nth feed 0).batch ++ taken feed.tail n := by
  simp only [taken, List.range_succ_eq_map, List.flatMap_cons, List.flatMap_map, nth_tail]

end TimedReply

open RecordedEvent (waitNumbered)
open TimedReply (nth taken)

/-! ## The course of polling -/

namespace PollPlan

/-- When the feed is asked, polling from a time on. -/
def askTime (p : PollPlan) (now : Nat) (feed : List TimedReply) : Nat → Nat
  | 0 => now + p.interval
  | k + 1 => p.askTime now feed k + (nth feed k).delay + p.interval

/-- When the feed has replied. -/
def replyTime (p : PollPlan) (now : Nat) (feed : List TimedReply) (k : Nat) : Nat :=
  p.askTime now feed k + (nth feed k).delay

theorem askTime_tail (p : PollPlan) (now : Nat) (feed : List TimedReply) (k : Nat) :
    p.askTime (p.replyTime now feed 0) feed.tail k = p.askTime now feed (k + 1) := by
  induction k with
  | zero => rfl
  | succ k ih => rw [askTime, ih, TimedReply.nth_tail]; rfl

theorem replyTime_tail (p : PollPlan) (now : Nat) (feed : List TimedReply) (k : Nat) :
    p.replyTime (p.replyTime now feed 0) feed.tail k = p.replyTime now feed (k + 1) := by
  rw [replyTime, askTime_tail, TimedReply.nth_tail]
  rfl

/-- Why a poller does not take the reply to a question. -/
def Loses (p : PollPlan) (now : Nat) (feed : List TimedReply) (k : Nat) : Prop :=
  p.stopAt ≤ p.replyTime now feed k ∨ (nth feed k).reply = .breakdown ∨
    p.isGone (p.replyTime now feed k) = true

/-- Why a poller asks no question any more. -/
def Rests (p : PollPlan) (now : Nat) (feed : List TimedReply) (k : Nat) : Prop :=
  p.stopAt ≤ p.askTime now feed k ∨ p.isGone (p.askTime now feed k) = true

/-- A poller took some replies, all of them answers.  Either the recorder broke down over the last of
them, or the poller asked no more or lost the reply.  The numbers asked for are those that the
session remembered. -/
structure Course (p : PollPlan) (bound now : Nat) (feed : List TimedReply)
    (calls : List (Nat × Option Nat)) (s : Session) (ids : IdSupply) (report : PollReport)
    (n asked : Nat) : Prop where
  answers : ∀ k < n, ∃ result, (nth feed k).reply = .answer result
  whole : ∀ k < n, (s.recordAll (taken feed k) ids).1.broken = false
  session : report.session = (s.recordAll (taken feed n) ids).1.session
  calls : report.calls = calls ++ (List.range asked).map fun k =>
    (p.askTime now feed k, (s.recordAll (taken feed k) ids).1.session.last)
  ending : (s.recordAll (taken feed n) ids).1.broken = true ∧ asked = n ∨
    (s.recordAll (taken feed n) ids).1.broken = false ∧
      (asked = n ∧ (n = bound ∨ p.Rests now feed n) ∨ asked = n + 1 ∧ p.Loses now feed n)

variable {p : PollPlan} {bound now : Nat} {feed : List TimedReply}
  {calls : List (Nat × Option Nat)} {s s' : Session} {ids ids' : IdSupply} {report : PollReport}
  {n asked : Nat}

theorem recordAll_taken_succ
    (absorbed : s.recordAll (nth feed 0).batch ids = ({ session := s' }, ids')) (n : Nat) :
    s.recordAll (taken feed (n + 1)) ids = s'.recordAll (taken feed.tail n) ids' := by
  rw [TimedReply.taken_tail, Session.recordAll_append, absorbed]
  rfl

/-- A poller that took a first answer goes on with the others. -/
theorem Course.next {result : Except DeviceError (List RecordedEvent)}
    (reply : (nth feed 0).reply = .answer result)
    (absorbed : s.recordAll (nth feed 0).batch ids = ({ session := s' }, ids'))
    (h : p.Course bound (p.replyTime now feed 0) feed.tail
      (calls ++ [(p.askTime now feed 0, s.last)]) s' ids' report n asked) :
    p.Course (bound + 1) now feed calls s ids report (n + 1) (asked + 1) where
  answers := by
    intro k hk
    cases k with
    | zero => exact ⟨result, reply⟩
    | succ k => exact TimedReply.nth_tail feed k ▸ h.answers k (Nat.lt_of_succ_lt_succ hk)
  whole := by
    intro k hk
    cases k with
    | zero => rfl
    | succ k =>
        rw [recordAll_taken_succ absorbed]
        exact h.whole k (Nat.lt_of_succ_lt_succ hk)
  session := by
    rw [h.session, recordAll_taken_succ absorbed]
  calls := by
    rw [h.calls, List.range_succ_eq_map, List.map_cons, List.map_map, List.append_assoc,
      List.singleton_append]
    congr 2
    refine List.map_congr_left fun k _ => ?_
    rw [Function.comp, askTime_tail, recordAll_taken_succ absorbed]
  ending := by
    have ending := h.ending
    rw [Rests, Loses, askTime_tail, replyTime_tail, TimedReply.nth_tail] at ending
    rw [recordAll_taken_succ absorbed]
    rcases ending with ⟨broken, rfl⟩ | ⟨whole, ⟨rfl, ended⟩ | ⟨rfl, lost⟩⟩
    · exact .inl ⟨broken, rfl⟩
    · exact .inr ⟨whole, .inl ⟨rfl, ended.imp_left (congrArg (· + 1))⟩⟩
    · exact .inr ⟨whole, .inr ⟨rfl, lost⟩⟩

/-- A poller that takes no reply. -/
theorem Course.done (session : report.session = s) (asked : report.calls = calls)
    (ended : bound = 0 ∨ p.Rests now feed 0) : p.Course bound now feed calls s ids report 0 0 where
  answers := fun _ hk => absurd hk (Nat.not_lt_zero _)
  whole := fun _ hk => absurd hk (Nat.not_lt_zero _)
  session := session
  calls := by rw [asked, List.range_zero, List.map_nil, List.append_nil]
  ending := .inr ⟨rfl, .inl ⟨rfl, ended.imp_left Eq.symm⟩⟩

theorem Course.lost (session : report.session = s)
    (asked : report.calls = calls ++ [(p.askTime now feed 0, s.last)]) (lost : p.Loses now feed 0) :
    p.Course bound now feed calls s ids report 0 1 where
  answers := fun _ hk => absurd hk (Nat.not_lt_zero _)
  whole := fun _ hk => absurd hk (Nat.not_lt_zero _)
  session := session
  calls := asked
  ending := .inr ⟨rfl, .inr ⟨rfl, lost⟩⟩

/-- A poller that takes one answer, over which the recorder breaks down. -/
theorem Course.broke {result : Except DeviceError (List RecordedEvent)}
    (reply : (nth feed 0).reply = .answer result)
    (absorbed : s.recordAll (nth feed 0).batch ids = ({ session := s', broken := true }, ids'))
    (session : report.session = s')
    (asked : report.calls = calls ++ [(p.askTime now feed 0, s.last)]) :
    p.Course bound now feed calls s ids report 1 1 := by
  have all : taken feed 1 = (nth feed 0).batch := by
    rw [TimedReply.taken_succ]
    rfl
  refine ⟨fun k hk => ?_, fun k hk => ?_, ?_, asked, .inl ⟨?_, rfl⟩⟩
  · obtain rfl := Nat.lt_one_iff.mp hk
    exact ⟨result, reply⟩
  · obtain rfl := Nat.lt_one_iff.mp hk
    rfl
  · rw [all, absorbed, session]
  · rw [all, absorbed]

/-- The course of polling, by induction on the bound for the questions. -/
theorem follow_course (p : PollPlan) (bound now : Nat) (feed : List TimedReply)
    (calls : List (Nat × Option Nat)) (s : Session) (ids : IdSupply) :
    ∃ n asked, p.Course bound now feed calls s ids (p.follow bound now feed calls s ids).1 n
      asked := by
  induction bound generalizing now feed calls s ids with
  | zero => exact ⟨0, 0, .done rfl rfl (.inl rfl)⟩
  | succ bound ih =>
      have first : feed.headD ⟨.answer (.ok []), 0⟩ = nth feed 0 :=
        (TimedReply.nth_zero feed).symm
      have batch : ∀ {reply : FeedReply}, (nth feed 0).reply = reply →
          (nth feed 0).batch = TimedReply.batch ⟨reply, 0⟩ := by
        rintro _ rfl
        rfl
      unfold follow
      dsimp only
      rw [first]
      by_cases stopped : p.stopAt ≤ now + p.interval
      · rw [if_pos stopped]
        exact ⟨0, 0, .done rfl rfl (.inr (.inl stopped))⟩
      rw [if_neg stopped]
      by_cases gone : p.isGone (now + p.interval) = true
      · rw [if_pos gone]
        exact ⟨0, 0, .done rfl rfl (.inr (.inr gone))⟩
      rw [if_neg gone]
      by_cases late : p.stopAt ≤ now + p.interval + (nth feed 0).delay
      · rw [if_pos late]
        exact ⟨0, 1, .lost rfl rfl (.inl late)⟩
      rw [if_neg late]
      cases reply : (nth feed 0).reply with
      | breakdown => exact ⟨0, 1, .lost rfl rfl (.inr (.inl reply))⟩
      | answer result =>
          cases result with
          | error _ =>
              obtain ⟨n, asked, course⟩ := ih (p.replyTime now feed 0) feed.tail
                (calls ++ [(p.askTime now feed 0, s.last)]) s ids
              refine ⟨n + 1, asked + 1, .next reply ?_ course⟩
              rw [batch reply]
              rfl
          | ok events =>
              dsimp only
              by_cases gone : p.isGone (now + p.interval + (nth feed 0).delay) = true
              · rw [if_pos gone]
                exact ⟨0, 1, .lost rfl rfl (.inr (.inr gone))⟩
              rw [if_neg gone]
              have absorbed : s.recordAll (nth feed 0).batch ids =
                  s.absorb (.ok events) ids := by
                rw [batch reply]
                rfl
              simp only [bind, StateT.bind]
              generalize s.absorb (.ok events) ids = intake at absorbed ⊢
              obtain ⟨⟨s', broken⟩, ids'⟩ := intake
              cases broken with
              | true => exact ⟨1, 1, .broke reply absorbed rfl rfl⟩
              | false =>
                  obtain ⟨n, asked, course⟩ := ih (p.replyTime now feed 0) feed.tail
                    (calls ++ [(p.askTime now feed 0, s.last)]) s' ids'
                  exact ⟨n + 1, asked + 1, .next reply absorbed course⟩

theorem Course.le_asked (h : p.Course bound now feed calls s ids report n asked) : n ≤ asked := by
  rcases h.ending with ⟨-, rfl⟩ | ⟨-, ⟨rfl, -⟩ | ⟨rfl, -⟩⟩
  · exact Nat.le_refl _
  · exact Nat.le_refl _
  · exact Nat.le_succ _

/-- A poller asks only while the recorder has not broken down. -/
theorem Course.whole_of_lt_asked (h : p.Course bound now feed calls s ids report n asked) {k : Nat}
    (hk : k < asked) : (s.recordAll (taken feed k) ids).1.broken = false := by
  rcases h.ending with ⟨-, rfl⟩ | ⟨whole, ⟨rfl, -⟩ | ⟨rfl, -⟩⟩
  · exact h.whole k hk
  · exact h.whole k hk
  · rcases Nat.lt_or_eq_of_le (Nat.le_of_lt_succ hk) with hk | rfl
    · exact h.whole k hk
    · exact whole

/-- Every question asks for the events after the greatest number seen. -/
theorem Course.calls_eq (h : p.Course bound now feed [] s ids report n asked) :
    report.calls = (List.range asked).map fun k =>
      (p.askTime now feed k, (s.seen ++ (taken feed k).map RecordedEvent.id).max?) := by
  rw [h.calls, List.nil_append]
  refine List.map_congr_left fun k hk => ?_
  have accepts := Session.recordAll_accepts s.last_eq_max?_seen (taken feed k) ids
  rw [accepts.last (h.whole_of_lt_asked (List.mem_range.mp hk))]

/-- An interval that is not zero brings every question nearer to the end. -/
theorem lt_askTime (interval : 0 < p.interval) (now : Nat) (feed : List TimedReply) (k : Nat) :
    k < p.askTime now feed k := by
  induction k with
  | zero => exact Nat.lt_of_lt_of_le interval (Nat.le_add_left ..)
  | succ k ih =>
      rw [askTime]
      omega

/-! ## Feeds that tell all -/

/-- The feed answers from a log whose numbers grow.  When it answers a question, a part of the log
is written, and the answer has all events of this part above the number asked for. -/
structure TellsAll (log : List RecordedEvent) (written : Nat → Nat) (feed : List TimedReply)
    (calls : List (Nat × Option Nat)) : Prop where
  growing : log.Pairwise fun a b => a.id < b.id
  there : ∀ k events, (nth feed k).reply = .answer (.ok events) →
    ∀ e ∈ events, e ∈ log.take (written k)
  all : ∀ k time since events, calls[k]? = some (time, since) →
    (nth feed k).reply = .answer (.ok events) →
      ∀ e ∈ log.take (written k), (∀ id, since = some id → id < e.id) → e ∈ events

variable {log : List RecordedEvent} {written : Nat → Nat} {e f : RecordedEvent}

/-- An event with no greater number is written no later. -/
theorem mem_take_of_le (growing : log.Pairwise fun a b => a.id < b.id) {m : Nat}
    (hf : f ∈ log.take m) (he : e ∈ log) (le : e.id ≤ f.id) : e ∈ log.take m := by
  rw [← List.take_append_drop m log] at growing he
  rcases List.mem_append.mp he with early | late
  · exact early
  · exact absurd ((List.pairwise_append.mp growing).2.2 f hf e late) (Nat.not_lt_of_le le)

theorem eq_of_id_eq (growing : log.Pairwise fun a b => a.id < b.id) (he : e ∈ log) (hf : f ∈ log)
    (same : e.id = f.id) : e = f := by
  have nodup : (log.map RecordedEvent.id).Nodup :=
    List.pairwise_map.mpr (growing.imp Nat.ne_of_lt)
  exact List.inj_on_of_nodup_map nodup he hf same

/-- Every event that was taken came with an answer. -/
theorem exists_answer_of_mem_taken (h : e ∈ taken feed n) :
    ∃ k < n, ∃ events, (nth feed k).reply = .answer (.ok events) ∧ e ∈ events := by
  obtain ⟨k, hk, he⟩ := List.mem_flatMap.mp h
  refine ⟨k, List.mem_range.mp hk, ?_⟩
  unfold TimedReply.batch at he
  split at he
  · next events reply => exact ⟨events, reply, (Session.inOrder_perm events).mem_iff.mp he⟩
  · cases he

/-- No event is passed over that was written when an answer came, by induction on the answers.
Either a greater number was seen before, and then the event was written when that came, or the
event is part of the answer. -/
theorem mem_accepted_of_tellsAll {seen : List Nat} (tells : TellsAll log written feed calls)
    (sinces : ∀ k < n, ∃ time, calls[k]? =
      some (time, (seen ++ (taken feed k).map RecordedEvent.id).max?))
    {k : Nat} (hk : k < n) {events : List RecordedEvent}
    (reply : (nth feed k).reply = .answer (.ok events)) (he : e ∈ log.take (written k))
    (above : ∀ id ∈ seen, id < e.id) : e ∈ RecordedEvent.accepted seen (taken feed n) := by
  induction n generalizing k events e with
  | zero => exact absurd hk (Nat.not_lt_zero _)
  | succ n ih =>
      have before := fun k hk => sinces k (Nat.lt_succ_of_lt hk)
      rw [TimedReply.taken_succ, RecordedEvent.accepted_append]
      rcases Nat.lt_or_eq_of_le (Nat.le_of_lt_succ hk) with hk | rfl
      · exact List.mem_append_left _ (ih before hk reply he above)
      have elog := List.mem_of_mem_take he
      by_cases new : ∀ id ∈ seen ++ (taken feed k).map RecordedEvent.id, id < e.id
      · obtain ⟨time, call⟩ := sinces k (Nat.lt_succ_self k)
        have answered : e ∈ events := by
          refine tells.all k time _ events call reply e he fun id greatest => ?_
          exact new id (List.max?_mem greatest)
        have batch : (nth feed k).batch = Session.inOrder events := by
          rw [TimedReply.batch, reply]
        obtain ⟨f, hf, same⟩ := RecordedEvent.exists_mem_accepted (Session.pairwise_inOrder events)
          ((Session.inOrder_perm events).mem_iff.mpr answered) new
        have flog : f ∈ log := by
          have hf := (RecordedEvent.accepted_sublist _ _).mem hf
          exact List.mem_of_mem_take
            (tells.there k events reply f ((Session.inOrder_perm events).mem_iff.mp hf))
        rw [batch, eq_of_id_eq tells.growing elog flog same.symm]
        exact List.mem_append_right _ hf
      · obtain ⟨id, hid, le⟩ : ∃ id ∈ seen ++ (taken feed k).map RecordedEvent.id, e.id ≤ id := by
          simpa only [not_forall, Nat.not_lt, exists_prop] using new
        rcases List.mem_append.mp hid with hid | hid
        · exact absurd (above id hid) (Nat.not_lt_of_le le)
        · obtain ⟨f, hf, rfl⟩ := List.mem_map.mp hid
          obtain ⟨j, hj, earlier, reply, hf⟩ := exists_answer_of_mem_taken hf
          have written := mem_take_of_le tells.growing (tells.there j earlier reply f hf) elog le
          exact List.mem_append_left _ (ih before hj reply written above)

/-! ## Recording -/

/-- What a poller records that takes some replies of a feed. -/
structure Records (p : PollPlan) (feed : List TimedReply) (s : Session) (report : PollReport)
    (n asked : Nat) : Prop where
  /-- The replies that are taken are answers, among them errors. -/
  answers : ∀ k < n, ∃ result, (nth feed k).reply = .answer result
  /-- The recorder breaks down over none of them but the last. -/
  whole : ∀ k < n, ∀ e ∈ RecordedEvent.accepted s.seen (taken feed k), e.overflows = false
  /-- Every question asks for the events after the greatest number seen. -/
  calls : report.calls = (List.range asked).map fun k =>
    (p.askTime 0 feed k, (s.seen ++ (taken feed k).map RecordedEvent.id).max?)
  /-- The replies to all questions are taken, or to all but the last.  If the recorder breaks down,
  it ends the polling. -/
  ending : (∃ e ∈ RecordedEvent.accepted s.seen (taken feed n), e.overflows = true) ∧ asked = n ∨
    (∀ e ∈ RecordedEvent.accepted s.seen (taken feed n), e.overflows = false) ∧
      (asked = n ∧ (p.interval = 0 ∨ p.Rests 0 feed n) ∨ asked = n + 1 ∧ p.Loses 0 feed n)
  /-- The steps of the accepted events before a breakdown are appended, and nothing else. -/
  appends : s.Gains report.session
    (RecordedEvent.beforeBreakdown (RecordedEvent.accepted s.seen (taken feed n)))
  /-- The steps of all accepted events are appended exactly when those from a breakdown on have
  none. -/
  gains_iff : s.Gains report.session (RecordedEvent.accepted s.seen (taken feed n)) ↔
    ∀ e ∈ RecordedEvent.fromBreakdown (RecordedEvent.accepted s.seen (taken feed n)),
      s.recorder.describe? e = none
  /-- Without a breakdown the session remembers the greatest number seen. -/
  last : (∀ e ∈ RecordedEvent.accepted s.seen (taken feed n), e.overflows = false) →
    report.session.last = (s.seen ++ (taken feed n).map RecordedEvent.id).max?
  /-- The numbers of the accepted events strictly increase, from above those seen before. -/
  increasing : (s.seen ++ (RecordedEvent.accepted s.seen (taken feed n)).map
    RecordedEvent.id).Pairwise (· < ·)
  /-- A feed that tells all loses no event that was written when an answer came. -/
  complete : ∀ log written, TellsAll log written feed report.calls →
    ∀ k < n, ∀ events, (nth feed k).reply = .answer (.ok events) → ∀ e ∈ log.take (written k),
      (∀ id ∈ s.seen, id < e.id) → e ∈ RecordedEvent.accepted s.seen (taken feed n)

/-- Polling records just the accepted events, whatever the feed replies, until the recorder breaks
down over one. -/
theorem run_records (p : PollPlan) (feed : List TimedReply) (s : Session) (ids : IdSupply) :
    ∃ n asked, p.Records feed s (p.run feed s ids).1 n asked := by
  obtain ⟨n, asked, course⟩ := p.follow_course (p.stopAt + 1) 0 feed [] s ids
  have accepts := fun k => Session.recordAll_accepts s.last_eq_max?_seen (taken feed k) ids
  refine ⟨n, asked, course.answers, fun k hk => (accepts k).whole_iff.mp (course.whole k hk),
    course.calls_eq, ?_, ?_, ?_, ?_, ?_, ?_⟩
  · refine course.ending.imp (And.imp_left (accepts n).broken.mp)
      (And.imp (accepts n).whole_iff.mp ?_)
    refine Or.imp_left fun ⟨same, ended⟩ => ⟨same, ?_⟩
    rcases ended with rfl | rests
    · rcases Nat.eq_zero_or_pos p.interval with zero | interval
      · exact .inl zero
      · have := lt_askTime interval 0 feed (p.stopAt + 1)
        exact .inr (.inl (by omega))
    · exact .inr rests
  · rw [run, course.session]
    exact (accepts n).gains
  · rw [run, course.session]
    exact (accepts n).gains_iff
  · rw [run, course.session]
    exact fun unbroken => (accepts n).last ((accepts n).whole_iff.mpr unbroken)
  · refine List.pairwise_append.mpr ⟨?_, ?_, ?_⟩
    · rw [Session.seen]
      cases s.last with
      | none => exact .nil
      | some id => exact List.pairwise_singleton ..
    · exact List.pairwise_map.mpr (RecordedEvent.accepted_pairwise _ _)
    · intro id hid other hother
      obtain ⟨e, he, rfl⟩ := List.mem_map.mp hother
      exact RecordedEvent.above_of_mem_accepted he id hid
  · intro log written tells k hk events reply e he above
    refine mem_accepted_of_tellsAll tells (fun j hj => ?_) hk reply he above
    refine ⟨p.askTime 0 feed j, ?_⟩
    rw [run, course.calls_eq, List.getElem?_map,
      List.getElem?_range (Nat.lt_of_lt_of_le hj course.le_asked)]
    rfl

/-- Two events out of order, then one that was there before and a new one. -/
def unsortedFeed : List TimedReply :=
  [⟨.answer (.ok [waitNumbered 2, waitNumbered 1]), 0⟩,
    ⟨.answer (.ok [waitNumbered 3, waitNumbered 2]), 0⟩]

theorem run_records_unsortedFeed :
    ∃ n asked, let report := (run { stopAt := 1600 } unsortedFeed Session.blank ⟨0, 0⟩).1
      Records { stopAt := 1600 } unsortedFeed Session.blank report n asked ∧
        TellsAll [waitNumbered 1, waitNumbered 2, waitNumbered 3] (· + 2) unsortedFeed
          report.calls := by
  obtain ⟨n, asked, records⟩ := run_records { stopAt := 1600 } unsortedFeed Session.blank ⟨0, 0⟩
  have seen : ∀ {j k : Nat} {e : RecordedEvent}, j < k → e ∈ (nth unsortedFeed j).batch →
      e.id ∈ Session.blank.seen ++ (taken unsortedFeed k).map RecordedEvent.id := fun hj he =>
    List.mem_append_right _
      (List.mem_map.mpr ⟨_, List.mem_flatMap.mpr ⟨_, List.mem_range.mpr hj, he⟩, rfl⟩)
  have first : (nth unsortedFeed 0).reply = .answer (.ok [waitNumbered 2, waitNumbered 1]) := rfl
  have second : (nth unsortedFeed 1).reply = .answer (.ok [waitNumbered 3, waitNumbered 2]) := rfl
  have later : ∀ k, (nth unsortedFeed (k + 2)).reply = .answer (.ok []) := fun _ => rfl
  refine ⟨n, asked, records, by decide, ?_, ?_⟩
  · intro k events reply e he
    rcases k with _ | _ | k
    · cases first.symm.trans reply
      exact List.mem_reverse.mpr he
    · cases second.symm.trans reply
      exact List.mem_cons_of_mem _ (List.mem_reverse.mpr he)
    · cases (later k).symm.trans reply
      cases he
  · intro k time since events call reply e he above
    -- a question asks for no events below one that was in a batch before
    have below : ∀ {j : Nat} {f : RecordedEvent}, j < k → f ∈ (nth unsortedFeed j).batch →
        f.id < e.id := by
      intro j f hj hf
      obtain ⟨m, greatest, le⟩ := exists_max?_of_mem (seen hj hf)
      rw [records.calls, List.getElem?_map] at call
      obtain ⟨i, hi, same⟩ := Option.map_eq_some_iff.mp call
      obtain ⟨_, place⟩ := List.getElem?_eq_some_iff.mp hi
      rw [List.getElem_range] at place
      subst place
      exact Nat.lt_of_le_of_lt le (above m ((Prod.mk.inj same).2.symm.trans greatest))
    have inFirst : waitNumbered 2 ∈ (nth unsortedFeed 0).batch :=
      (Session.inOrder_perm _).mem_iff.mpr List.mem_cons_self
    have inSecond : waitNumbered 3 ∈ (nth unsortedFeed 1).batch :=
      (Session.inOrder_perm _).mem_iff.mpr List.mem_cons_self
    rcases k with _ | _ | k
    · cases first.symm.trans reply
      exact List.mem_reverse.mp he
    · cases second.symm.trans reply
      have : 2 < e.id := below Nat.zero_lt_one inFirst
      rcases he with _ | ⟨_, _ | ⟨_, _ | ⟨_, he⟩⟩⟩
      · exact absurd this (by decide)
      · exact absurd this (by decide)
      · exact List.mem_cons_self
      · cases he
    · have : 3 < e.id := below (Nat.lt_add_left k Nat.one_lt_two) inSecond
      rcases he with _ | ⟨_, _ | ⟨_, _ | ⟨_, he⟩⟩⟩
      · exact absurd this (by decide)
      · exact absurd this (by decide)
      · exact absurd this (by decide)
      · cases he

/-- An event that describes no action, of an element whose path asks for the last index counted from
one. -/
def shaken (id : Nat) : RecordedEvent where
  id := id
  action := "shake"
  element := .record [("className", .text "a.B"), ("childIndex", .integer 18446744073709551615)]

/-- An answer with an event over which the recorder breaks down, then a wait. -/
def spoiltFeed : List TimedReply := [⟨.answer (.ok [shaken 1, waitNumbered 2]), 0⟩]

/-- An event over which the recorder breaks down keeps a later one out of the recording, and the
poller asks no more. -/
theorem run_loses_laterEvent :
    let report := (run { stopAt := 1700 } spoiltFeed Session.blank ⟨0, 0⟩).1
    RecordedEvent.accepted Session.blank.seen (taken spoiltFeed 1) = [shaken 1, waitNumbered 2] ∧
      Session.blank.recorder.describe? (shaken 1) = none ∧
      (Session.blank.recorder.describe? (waitNumbered 2)).isSome = true ∧
      report.calls = [(500, none)] ∧ report.session.workflow.steps = [] ∧
      ¬ Session.blank.Gains report.session
        (RecordedEvent.accepted Session.blank.seen (taken spoiltFeed 1)) := by
  have sorted : Session.inOrder [shaken 1, waitNumbered 2] = [shaken 1, waitNumbered 2] :=
    List.mergeSort_of_pairwise (by decide)
  have absorbed : Session.blank.absorb (.ok [shaken 1, waitNumbered 2]) ⟨0, 0⟩ =
      ({ session := Session.blank.saw (shaken 1), broken := true }, ⟨0, 0⟩) := by
    rw [Session.absorb, sorted, Session.recordAll_cons]
    exact if_pos ⟨rfl, by decide +kernel⟩
  have ran : run { stopAt := 1700 } spoiltFeed Session.blank ⟨0, 0⟩ =
      (⟨[(500, none)], true, Session.blank.saw (shaken 1)⟩, ⟨0, 0⟩) := by
    rw [run, follow]
    simp only [spoiltFeed, isGone, List.headD_cons, Nat.reduceAdd, Nat.reduceLeDiff, if_false,
      Bool.false_eq_true, bind, StateT.bind, absorbed]
    rfl
  have taken : taken spoiltFeed 1 = [shaken 1, waitNumbered 2] := by
    rw [TimedReply.taken_succ]
    exact sorted
  have accepted : RecordedEvent.accepted Session.blank.seen [shaken 1, waitNumbered 2] =
      [shaken 1, waitNumbered 2] := rfl
  have described : (Session.blank.recorder.describe? (waitNumbered 2)).isSome = true := by
    decide +kernel
  rw [ran, taken, accepted]
  refine ⟨rfl, by decide +kernel, described, rfl, rfl, fun gains => ?_⟩
  have idle := (Session.blank.gains_saw (shaken 1)).append_iff.mp gains (waitNumbered 2) (by simp)
  rw [idle] at described
  cases described

end PollPlan

end UiReplay
