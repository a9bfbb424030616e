import UiReplay.Recording.Session

/-!
# Polling a feed

A poller waits for an interval, asks the feed for the events after the last one, lets
the session take the answer, and waits again.  Time is counted in milliseconds from
its start.

It ends in one of four ways.  It is stopped, while it waits or while the feed has
not answered.  It ends by itself when the session is gone, which it notices before it
asks and when it has events to record.  Or the feed breaks down, or the recorder does.
-/

namespace UiReplay

/-- What the feed does when it is asked. -/
inductive FeedReply where
  /-- It answers. -/
  | answer (result : Except DeviceError (List RecordedEvent))
  /-- It breaks down. -/
  | breakdown

/-- A reply of the feed and the time that it takes. -/
structure TimedReply where
  /-- The reply. -/
  reply : FeedReply
  /-- How long the feed takes. -/
  delay : Nat := 0

/-- How a feed is polled. -/
structure PollPlan where
  /-- The time between an answer and the next question. -/
  interval : Nat := 500
  /-- When the session is given up, if ever. -/
  dropAt : Option Nat := none
  /-- When the poller is stopped. -/
  stopAt : Nat

/-- What came of polling. -/
structure PollReport where
  /-- When the feed was asked, and for the events after which number. -/
  calls : List (Nat × Option Nat)
  /-- Whether the poller ended before it was stopped. -/
  ended : Bool
  /-- The session as it was left. -/
  session : Session

namespace PollPlan

/-- Whether the session is gone at a time. -/
def isGone (p : PollPlan) (time : Nat) : Bool :=
  match p.dropAt with
  | some drop => drop < time
  | none => false

/-- Polls from a time on.  The replies come one after the other, and after the last one
the feed knows no more events.  The first number bounds the number of questions. -/
def follow (p : PollPlan) :
    Nat → Nat → List TimedReply → List (Nat × Option Nat) → Session → IdSupply.With PollReport
  | 0, _, _, calls, s => pure ⟨calls, false, s⟩
  | fuel + 1, now, feed, calls, s => do
      let wake := now + p.interval
      if p.stopAt ≤ wake then return ⟨calls, false, s⟩
      if p.isGone wake then return ⟨calls, true, s⟩
      let calls := calls ++ [(wake, s.last)]
      let reply := feed.headD ⟨.answer (.ok []), 0⟩
      let arrival := wake + reply.delay
      if p.stopAt ≤ arrival then return ⟨calls, false, s⟩
      match reply.reply with
      | .breakdown => return ⟨calls, true, s⟩
      | .answer (.error _) => p.follow fuel arrival feed.tail calls s
      | .answer (.ok events) =>
          if p.isGone arrival then return ⟨calls, true, s⟩
          let intake ← s.absorb (.ok events)
          if intake.broken then return ⟨calls, true, intake.session⟩
          p.follow fuel arrival feed.tail calls intake.session

/-- Polls a feed for a session. -/
def run (p : PollPlan) (feed : List TimedReply) (s : Session) : IdSupply.With PollReport :=
  p.follow (p.stopAt + 1) 0 feed [] s

end PollPlan

end UiReplay
