import ScannerDiscovery.Proofs.Engine.Sessions.Stopping

/-!
# Queries at a started engine

Around a started engine, callers post events, ask questions and wait until nothing is left to be
done, while one handler after another is at work, and in the end the engine is stopped.  All this
interleaves wherever a handler or the stop waits for an answer; a reply to a query is given at once.
What a question asks for is left open: any function of the registry will do.

Main definitions:

- `turnBy`, `queryBy` : handling an event and asking a question, with any replies.
- `replies`, `afterReplies` : what a routine does before it waits for something or ends.
- `Desk` : an engine with those around it.
- `Desk.act` : what can happen at a desk.

Main results:

- `turnBy_answer`, `queryBy_answer` : with the replies of the registry these are the engine's own.
-/

namespace ScannerDiscovery.Engine

open Routine (get modify)

/-! ## Any replies -/

section Replies

variable (answer : Question → Registry → Except Fault Reply)

/-- Takes the first event from the mailbox and handles it, a query by any reply. -/
def turnBy : Work Unit := do
  match (← get).mailbox.bind Mailbox.take? with
  | some (.query ticket question, box) => do
    modify fun e => { e with mailbox := some box }
    ask (.settle ticket (answer question (← get).registry))
    finish
  | _ => turn

/-- Asks a question that has any reply. -/
def queryBy (ticket : Nat) (question : Question) : Work Unit := do
  let e ← get
  if e.failure.isNone && e.mailbox.isNone then
    ask (.settle ticket (answer question e.registry))
  else query ticket question

/-- With the replies of the registry the engine takes its turn. -/
theorem turnBy_answer : turnBy (fun question registry => question.answer registry) = turn := by
  funext e
  simp only [turnBy, bind_get]
  cases taken : e.mailbox.bind Mailbox.take? with
  | none => rfl
  | some next =>
      obtain ⟨event, box⟩ := next
      cases event with
      | query ticket question =>
          simp only [turn, bind_get, taken]
          rfl
      | _ => rfl

/-- With the replies of the registry the engine is asked. -/
theorem queryBy_answer :
    queryBy (fun question registry => question.answer registry) = query := by
  funext ticket question e
  cases failed : e.failure <;> cases box : e.mailbox <;>
    simp [queryBy, query, bind_get, failed, box]

end Replies

/-! ## Replies before a routine waits -/

/-- The replies that a routine gives before it waits for something else or ends, each with the
engine as it then is. -/
def replies {α : Type} :
    Outcome requests Engine Fault α → List (Nat × Except Fault Reply × Engine)
  | .paused e (.settle ticket outcome) resume => (ticket, outcome, e) :: replies (resume () e)
  | _ => []

/-- Where a routine stands when it has given them. -/
def afterReplies {α : Type} :
    Outcome requests Engine Fault α → Outcome requests Engine Fault α
  | .paused e (.settle _ _) resume => afterReplies (resume () e)
  | o => o

/-- The engine where a routine stands. -/
def standsAt {α : Type} : Outcome requests Engine Fault α → Engine
  | .returned _ e => e
  | .raised _ e => e
  | .paused e _ _ => e

/-! ## The desk -/

/-- What is at work on an engine: nothing, a handler or the stop, each with what it waits for; or
the engine has been stopped. -/
inductive Stage
  | idle
  | handling (event : Event) (request : Request)
      (resume : request.Answer → Engine → Outcome requests Engine Fault Unit)
  | stopping (request : Request)
      (resume : request.Answer → Engine → Outcome requests Engine Fault Unit)
  | stopped

/-- The event that is being handled. -/
def Stage.event? : Stage → Option Event
  | handling event _ _ => some event
  | _ => none

/-- A query that has been settled: how, by which call, with the engine as it was and the events that
had been handled. -/
structure Settlement where
  ticket : Nat
  outcome : Except Fault Reply
  call : Call
  engine : Engine
  handled : List Event

/-- An engine with those around it. -/
structure Desk where
  engine : Engine
  stage : Stage := .idle
  /-- The events that have been put into the mailbox, in order. -/
  posted : List Event
  /-- The events that have been handled, in order. -/
  handled : List Event := []
  /-- The tickets of all queries. -/
  issued : List Nat
  /-- The queries that have been settled, in order. -/
  settled : List Settlement := []
  /-- Those who wait until nothing is left to be done. -/
  drains : List Nat := []
  /-- What the surroundings have been asked for, replies apart, in order. -/
  asked : List Request := []

/-- The tickets of the queries among events. -/
def tickets (events : List Event) : List Nat :=
  events.filterMap Event.ticket?

@[simp]
theorem tickets_nil : tickets [] = [] :=
  rfl

namespace Desk

/-- The desk of an engine that has been started. -/
def opened (e : Engine) : Desk :=
  { engine := e, posted := e.waiting, issued := tickets e.waiting }

/-- The events that are not yet finished. -/
def left (d : Desk) : List Event :=
  d.stage.event?.toList ++ d.engine.waiting

/-- An event has been handed to the engine, which may have dropped it. -/
def received (d : Desk) (event : Event) : Desk :=
  if d.engine.mailbox.isSome && d.engine.failure.isNone then
    { d with posted := d.posted ++ [event] }
  else d

/-- Replies have been given in a call. -/
def noted (d : Desk) (call : Call) (given : List (Nat × Except Fault Reply × Engine)) : Desk :=
  { d with settled := d.settled ++ given.map fun (ticket, outcome, engine) =>
      { ticket, outcome, call, engine, handled := d.handled } }

/-- An event has been finished; nobody waits any longer if the mailbox counts no other one. -/
def finished (d : Desk) (event : Event) (e : Engine) : Desk :=
  { d with
    engine := e
    stage := .idle
    handled := d.handled ++ [event]
    drains := if e.mailbox.any Mailbox.isDrained then [] else d.drains }

/-- The handler of an event goes on until it waits or ends. -/
def serve (d : Desk) (event : Event) (o : Outcome requests Engine Fault Unit) : Desk :=
  match afterReplies o with
  | .paused e request resume =>
    { d.noted .turn (replies o) with
      engine := e
      stage := .handling event request resume
      asked := d.asked ++ [request] }
  | ended => (d.noted .turn (replies o)).finished event (standsAt ended)

/-- The stop goes on until it waits or ends. -/
def close (d : Desk) (o : Outcome requests Engine Fault Unit) : Desk :=
  match afterReplies o with
  | .paused e request resume =>
    { d.noted .stop (replies o) with
      engine := e
      stage := .stopping request resume
      asked := d.asked ++ [request] }
  | ended => { d.noted .stop (replies o) with engine := standsAt ended, stage := .stopped }

/-- What can happen at a desk. -/
inductive Deed
  | post (event : Event)
  | timer (generation : Nat)
  | listener (name : String)
  | query (ticket : Nat) (question : Question)
  | drain (caller : Nat)
  | take
  | answer (answers : (request : Request) → request.Answer)
  | stop

variable (answer : Question → Registry → Except Fault Reply)

/-- The desk after something has happened, if it can.  Every query has a ticket of its own.  The
first event is taken when nothing else is at work; what a handler or the stop waits for is answered
in any way, also by an interruption.  Whoever wants to wait for a mailbox that is drained, or for a
halted engine, does not wait.  The stop discards the mailbox, and those who wait for it wait no
longer if its count has then come down to nothing. -/
def act (d : Desk) : Deed → Option Desk
  | .post event =>
    if event.ticket?.isSome then none
    else some { d.received event with engine := d.engine.post event }
  | .timer generation =>
    some { d.received (.restartDue generation) with
      engine := d.engine.restartTimerFired generation }
  | .listener name => some { d with engine := d.engine.addListener name }
  | .query ticket question =>
    if ticket ∈ d.issued then none
    else
      let o := queryBy answer ticket question d.engine
      some { (d.received (.query ticket question)).noted (.query ticket question) (replies o) with
        engine := standsAt (afterReplies o)
        issued := d.issued ++ [ticket] }
  | .drain caller =>
    if d.engine.failure.isNone && d.engine.mailbox.any fun box => !box.isDrained then
      some { d with drains := d.drains ++ [caller] }
    else some d
  | .take =>
    match d.stage, d.engine.next? with
    | .idle, some event =>
      if d.engine.isConsuming then some (d.serve event (turnBy answer d.engine)) else none
    | _, _ => none
  | .answer answers =>
    match d.stage with
    | .handling event request resume =>
      some (d.serve event (resume (answers request) d.engine))
    | .stopping request resume => some (d.close (resume (answers request) d.engine))
    | _ => none
  | .stop =>
    match d.stage with
    | .idle =>
      let discarded := d.engine.mailbox.map fun box => box.unfinished - box.waiting.length
      some ({ d with drains := if discarded.all (· == 0) then [] else d.drains }.close
        (Engine.stop d.engine))
    | _ => none

/-- What can come about at a desk. -/
inductive Run (d : Desk) : Desk → Prop
  | none : Run d d
  | next {d' d'' : Desk} {deed : Deed} (before : Run d d') (acted : act answer d' deed = some d'') :
      Run d d''

end Desk

end ScannerDiscovery.Engine
