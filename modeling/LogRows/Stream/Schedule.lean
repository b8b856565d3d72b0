import LogRows.Stream.Pipeline

/-!
# Running a stream

A schedule is an order of preference over actions: `run` keeps taking the first
action of the list that is possible, until an event stops it or none is
possible.  Worker and pump come before the consumer, so a request is answered
when everything that can happen without it has happened.

`effort` bounds the steps: every step of a party consumes a supply, a notice, a
row or a part of a request.
-/

namespace LogRows.Stream

namespace Pipeline

/-- The actions of worker and pump, those of a cancelled worker first. -/
def backgroundActions : List Action :=
  [.work .signal, .work .channel, .pump]

/-- The actions that answer a request when the background is at rest. -/
def requestActions : List Action :=
  [.consume .channel, .consume .signal, .consume .timeout]

/-- The rows that a worker has set out to deliver. -/
def Position.backlog : Position → Nat
  | .checking _ rest _ _ => rest.length + 1
  | .offering _ rest _ _ => rest.length + 1
  | _ => 0

/-- The bytes of a notice, and one for the notice itself. -/
def noticeSize : Notice → Nat
  | .piece content => content.length + 1
  | _ => 1

/-- The sizes of notices taken together. -/
def noticesSize (notices : List Notice) : Nat :=
  notices.foldr (fun notice size => noticeSize notice + size) 0

/-- A bound on the steps before all parties rest. -/
def effort (pipeline : Pipeline) : Nat :=
  let held :=
    match pipeline.pump with
    | .holding notice => noticeSize notice
    | _ => 0
  16 * (pipeline.source.size + noticesSize pipeline.notices + held +
    Position.backlog pipeline.position + pipeline.queue.length + 4)

/-- The first possible action of a list, taken. -/
def takeFirst (pipeline : Pipeline) (preference : List Action) :
    Option (Pipeline × Option Event) :=
  preference.findSome? pipeline.step

/-- Take actions until an event stops the run; the events come latest first. -/
def run (preference : List Action) (stops : Event → Bool) :
    (fuel : Nat) → Pipeline → List Event → Pipeline × List Event
  | 0, pipeline, events => (pipeline, events)
  | fuel + 1, pipeline, events =>
      match pipeline.takeFirst preference with
      | none => (pipeline, events)
      | some (next, none) => run preference stops fuel next events
      | some (next, some event) =>
          if stops event then
            (next, event :: events)
          else
            run preference stops fuel next (event :: events)

/-- Let worker and pump go on until both rest. -/
def settle (pipeline : Pipeline) : Pipeline :=
  (run backgroundActions (fun _ => false) pipeline.effort pipeline []).1

/-- Take one action, if it is possible, and let worker and pump go on. -/
def act (pipeline : Pipeline) (action : Action) : Pipeline :=
  match pipeline.step action with
  | some (next, _) => next.settle
  | none => pipeline

/-- Whether an event answers a request. -/
def isAnswer : Event → Bool
  | .answered _ => true
  | .enqueued _ => false

/-- Whether an event tells the consumer that the stream is over. -/
def isFinish : Event → Bool
  | .answered .finished => true
  | _ => false

/-- The answers among events that come latest first, in the order of time. -/
def answersOf (events : List Event) : List Answer :=
  events.reverse.filterMap fun
    | .answered answer => some answer
    | .enqueued _ => none

/-- Make a request and wait for its answer; none comes while the stream is idle. -/
def request (pipeline : Pipeline) (timed : Bool) : Pipeline × Option Answer :=
  match pipeline.step (.request timed) with
  | none => (pipeline, none)
  | some (next, _) =>
      let (after, events) :=
        run (backgroundActions ++ requestActions) isAnswer next.effort next []
      (after.settle, (answersOf events).head?)

/-- Take rows until the stream is over. -/
def drain (pipeline : Pipeline) : Pipeline × List Row :=
  let (after, events) :=
    run (backgroundActions ++ requestActions ++ [.request false]) isFinish
      pipeline.effort pipeline []
  (after.settle,
    (answersOf events).filterMap fun
      | .row row => some row
      | _ => none)

/-- Cancel the scope in one call that returns at once. -/
def cancelNow (pipeline : Pipeline) : Pipeline :=
  let index := pipeline.calls.length
  (((pipeline.act .cancel).act (.advanceCancel index)).act (.advanceCancel index)).settle

/-- Let the consumer go away and wait for the worker; the phase it ended in is the answer. -/
def join (pipeline : Pipeline) : Pipeline × Phase :=
  let after := pipeline.act .drop
  (after, after.phase)

/-- Bytes are appended to the file, and the notifier reports a change. -/
def append (pipeline : Pipeline) (content : List UInt8) : Pipeline :=
  ((pipeline.act (.grow (.bytes content))).act (.notify .changed)).settle

/-- The rows of a stream that nobody cancels, taken to its end. -/
def allRows (pipeline : Pipeline) : List Row :=
  pipeline.drain.2

end Pipeline

end LogRows.Stream
