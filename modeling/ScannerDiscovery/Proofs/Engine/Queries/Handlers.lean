import ScannerDiscovery.Proofs.Engine.Frame.Spares
import ScannerDiscovery.Proofs.Engine.Queries.Desk

/-!
# What a call does to the mailbox

A handler leaves the mailbox alone until it ends.  Then it counts its event as finished or, if it
has violated an invariant, discards what waits and fails the queries among it.  The stop does so at
once and then leaves the mailbox alone.

Main definitions:

- `Serves` : what a handler does to the mailbox until its end.

Main results:

- `serves_handle` : handlers of events other than queries.
- `turnBy_query` : a query is replied to at once.
- `replies_stop`, `afterReplies_stop` : the stop.
-/

namespace ScannerDiscovery

/-- Whether a request gives a reply to a query. -/
def Request.Replies : Request → Prop
  | .settle .. => True
  | _ => False

namespace Engine

variable {α β : Type} {e : Engine}

/-! ## Replies -/

/-- A request that settles no query gives no reply. -/
theorem replies_of_silent {request : Request} (silent : ¬request.Replies)
    (resume : request.Answer → Engine → Outcome requests Engine Fault α) :
    replies (.paused e request resume) = [] := by
  cases request with
  | settle => exact absurd trivial silent
  | _ => rfl

theorem afterReplies_of_silent {request : Request} (silent : ¬request.Replies)
    (resume : request.Answer → Engine → Outcome requests Engine Fault α) :
    afterReplies (.paused e request resume) = .paused e request resume := by
  cases request with
  | settle => exact absurd trivial silent
  | _ => rfl

/-- Discarded events: the queries among them fail at once. -/
theorem replies_failEach (fault : Fault) (events : List Event) (next : Unit → Work α) (e : Engine) :
    replies ((failEach fault events >>= next) e) =
      ((tickets events).map fun ticket => (ticket, .error fault, e)) ++ replies (next () e) := by
  induction events with
  | nil => rfl
  | cons event rest ih =>
      cases event with
      | query ticket question => exact congrArg (List.cons _) ih
      | _ => exact ih

theorem afterReplies_failEach (fault : Fault) (events : List Event) (next : Unit → Work α)
    (e : Engine) :
    afterReplies ((failEach fault events >>= next) e) = afterReplies (next () e) := by
  induction events with
  | nil => rfl
  | cons event rest ih => cases event <;> exact ih

/-- What makes no replies stands where it stands. -/
theorem SparesFrom.replies_eq {V : Type} {view : Engine → V} {v : V}
    {o : Outcome requests Engine Fault α} (spares : SparesFrom (fun r => ¬r.Replies) view v o) :
    replies o = [] ∧ afterReplies o = o := by
  cases o with
  | returned value e => exact ⟨rfl, rfl⟩
  | raised fault e => exact ⟨rfl, rfl⟩
  | paused e request resume =>
      obtain ⟨-, silent, -⟩ := spares
      exact ⟨replies_of_silent silent resume, afterReplies_of_silent silent resume⟩

/-! ## Handlers -/

/-- What those around an engine see of it. -/
def front (e : Engine) : Option Mailbox × Option Violation × Bool :=
  (e.mailbox, e.failure, e.started)

theorem blind_front : Blind front where
  client _ _ := rfl
  timer _ _ _ := rfl
  gate _ _ := rfl
  resolving _ _ := rfl
  browsers _ _ := rfl
  browserRunning _ _ := rfl

/-- A restart timer that runs out shows as an event. -/
theorem front_restartTimerFired (e : Engine) (generation : Nat) :
    front (e.restartTimerFired generation) = front (e.post (.restartDue generation)) := by
  unfold restartTimerFired front post
  cases hbox : e.mailbox <;> cases hfailure : e.failure <;> split <;> simp [hbox, hfailure]

/-- How a handler goes on from a mailbox: it waits for something other than a reply and leaves the
mailbox alone; it counts its event as finished; or it halts the engine and discards what waits. -/
inductive Serves :
    Option Mailbox × Option Violation × Bool → Outcome requests Engine Fault Unit → Prop
  | waits {e : Engine} {request : Request}
      {resume : request.Answer → Engine → Outcome requests Engine Fault Unit}
      (silent : ¬request.Replies)
      (next : ∀ answer e', e'.mailbox.isSome → Serves (front e') (resume answer e')) :
      Serves (front e) (.paused e request resume)
  | finishes {o : Outcome requests Engine Fault Unit} {box : Mailbox}
      {failure : Option Violation} {started : Bool} {e : Engine}
      (ends : o = .returned () e ∨ ∃ fault, o = .raised fault e)
      (at_end : front e = (some box.finish, failure, started)) :
      Serves (some box, failure, started) o
  | halts {o : Outcome requests Engine Fault Unit} {box : Mailbox} {failure : Option Violation}
      {started : Bool} {broken : Violation} {e e' : Engine} (failed : e.failure = some broken)
      (given : replies o = (tickets box.waiting).map fun ticket =>
        (ticket, .error (.invariant broken), e))
      (ends : afterReplies o = .returned () e')
      (at_end : front e' =
        (some ⟨[], box.unfinished - box.waiting.length - 1⟩, some broken, started)) :
      Serves (some box, failure, started) o

/-- What is done at the end of a handler. -/
def conclusion : Except Fault Unit → Work Unit
  | .ok () => finish
  | .error (.invariant broken) => do
    halt broken
    finish
  | .error .interrupted => do
    finish
    Routine.raise .interrupted
  | .error _ => finish

/-- An event is handled by its handler, whose fault is caught. -/
theorem handle_eq (event : Event) :
    handle event = Routine.attempt (dispatch event) >>= conclusion := by
  rw [handle]
  congr

/-- A handler that ends counts its event as finished, or halts. -/
theorem serves_conclusion (result : Except Fault Unit) (e : Engine) {box : Mailbox}
    (hbox : e.mailbox = some box) : Serves (front e) (conclusion result e) := by
  have seen : front e = (some box, e.failure, e.started) := by rw [front, hbox]
  have finished : front { e with mailbox := e.mailbox.map Mailbox.finish } =
      (some box.finish, e.failure, e.started) := by rw [front, hbox]; rfl
  rw [seen]
  cases result with
  | ok value => exact .finishes (.inl rfl) finished
  | error fault =>
      cases fault with
      | invariant broken =>
          let discarded : Engine :=
            { e with
              failure := some broken
              mailbox := some ⟨[], box.unfinished - box.waiting.length⟩ }
          have discards : conclusion (.error (.invariant broken)) e =
              (failEach (.invariant broken) box.waiting >>= fun _ => finish) discarded := by
            simp only [conclusion, halt, bind_assoc, bind_modify, bind_get, hbox, discarded]
          have given : replies (conclusion (.error (.invariant broken)) e) =
              (tickets box.waiting).map fun ticket =>
                (ticket, .error (.invariant broken), discarded) := by
            rw [discards, replies_failEach]
            exact List.append_nil _
          have ends : afterReplies (conclusion (.error (.invariant broken)) e) =
              .returned () { discarded with mailbox := discarded.mailbox.map Mailbox.finish } := by
            rw [discards, afterReplies_failEach]
            rfl
          exact .halts (show discarded.failure = some broken from rfl) given ends rfl
      | interrupted => exact .finishes (.inr ⟨.interrupted, rfl⟩) finished
      | _ => exact .finishes (.inl rfl) finished

/-- A routine that leaves the mailbox alone serves as a handler. -/
theorem serves_attempt {o : Outcome requests Engine Fault Unit}
    {v : Option Mailbox × Option Violation × Bool}
    (spares : SparesFrom (fun r => ¬r.Replies) front v o) (waits : v.1.isSome) :
    Serves v (o.attempt.bind conclusion) := by
  have ended (result : Except Fault Unit) (e : Engine) (waits : (front e).1.isSome) :
      Serves (front e) (conclusion result e) := by
    obtain ⟨box, hbox⟩ := Option.isSome_iff_exists.1 waits
    exact serves_conclusion result e hbox
  induction o generalizing v with
  | returned value e =>
      obtain rfl : front e = v := spares
      exact ended _ e waits
  | raised fault e =>
      obtain rfl : front e = v := spares
      exact ended _ e waits
  | paused e request resume ih =>
      obtain ⟨rfl, silent, rest⟩ := spares
      exact .waits silent fun answer e' waits => ih answer e' (rest answer e') waits

theorem not_replies_of_plain (request : Request) (plain : request.IsPlain) : ¬request.Replies := by
  cases request with
  | settle => exact fun _ => plain
  | _ => exact id

/-- Handling an event that is no query. -/
theorem serves_handle {event : Event} (other : event.ticket? = none) {e : Engine}
    (waits : e.mailbox.isSome) : Serves (front e) (handle event e) := by
  have notQuery : ∀ ticket question, event ≠ .query ticket question := by
    rintro ticket question rfl
    cases other
  rw [handle_eq]
  exact serves_attempt (spares_dispatch blind_front (fun _ _ => rfl) not_replies_of_plain
    (fun _ => id) (fun _ => id) event notQuery e) waits

/-! ## Turns -/

section Turns

variable (answer : Question → Registry → Except Fault Reply) {event : Event} {waiting : List Event}
  {box : Mailbox}

/-- The event that is taken is the first one. -/
theorem exists_take? (next : e.next? = some event) :
    ∃ rest unfinished, e.mailbox = some ⟨event :: rest, unfinished⟩ := by
  cases hbox : e.mailbox with
  | none => simp [next?, hbox] at next
  | some box =>
      obtain ⟨waiting, unfinished⟩ := box
      cases waiting with
      | nil => simp [next?, hbox, Mailbox.take?] at next
      | cons first rest =>
          obtain rfl : first = event := by simpa [next?, hbox, Mailbox.take?] using next
          exact ⟨rest, unfinished, rfl⟩

/-- An event that is no query is handled. -/
theorem serves_turnBy {unfinished : Nat} (other : event.ticket? = none)
    (hbox : e.mailbox = some ⟨event :: waiting, unfinished⟩) :
    Serves (some ⟨waiting, unfinished⟩, e.failure, e.started) (turnBy answer e) := by
  have taken : e.mailbox.bind Mailbox.take? = some (event, ⟨waiting, unfinished⟩) := by
    rw [hbox]
    rfl
  have handles : turnBy answer e =
      handle event { e with mailbox := some ⟨waiting, unfinished⟩ } := by
    simp only [turnBy, turn, bind_get, taken]
    cases event with
    | query => cases other
    | _ => simp only [bind_get, taken, bind_modify]
  rw [handles]
  exact serves_handle (e := { e with mailbox := some ⟨waiting, unfinished⟩ }) other rfl

/-- A query is replied to at once, and finished. -/
theorem turnBy_query {ticket : Nat} {question : Question} {unfinished : Nat}
    (hbox : e.mailbox = some ⟨.query ticket question :: waiting, unfinished⟩) :
    replies (turnBy answer e) = [(ticket, answer question e.registry,
      { e with mailbox := some ⟨waiting, unfinished⟩ })] ∧
    afterReplies (turnBy answer e) =
      .returned () { e with mailbox := some ⟨waiting, unfinished - 1⟩ } := by
  have taken : e.mailbox.bind Mailbox.take? =
      some (.query ticket question, ⟨waiting, unfinished⟩) := by
    rw [hbox]
    rfl
  simp only [turnBy, bind_get, taken]
  exact ⟨rfl, rfl⟩

end Turns

/-! ## Asking -/

/-- A halted engine refuses. -/
theorem queryBy_of_failure (answer : Question → Registry → Except Fault Reply) (ticket : Nat)
    (question : Question) (failed : e.failure.isSome) :
    replies (queryBy answer ticket question e) =
      [(ticket, .error (.invariant .halted), e)] ∧
    afterReplies (queryBy answer ticket question e) = .returned () e := by
  have refuses : queryBy answer ticket question e =
      ask (.settle ticket (.error (.invariant .halted))) e := by
    obtain ⟨broken, hfailure⟩ := Option.isSome_iff_exists.1 failed
    simp [queryBy, query, bind_get, hfailure]
  rw [refuses]
  exact ⟨rfl, rfl⟩

/-- Without a mailbox there is a reply at once. -/
theorem queryBy_of_closed (answer : Question → Registry → Except Fault Reply) (ticket : Nat)
    (question : Question) (sound : e.failure = none) (closed : e.mailbox = none) :
    replies (queryBy answer ticket question e) = [(ticket, answer question e.registry, e)] ∧
    afterReplies (queryBy answer ticket question e) = .returned () e := by
  simp only [queryBy, bind_get, sound, closed]
  exact ⟨rfl, rfl⟩

/-- Otherwise the query is put into the mailbox. -/
theorem queryBy_of_open (answer : Question → Registry → Except Fault Reply) (ticket : Nat)
    (question : Question) (sound : e.failure = none) (opened : e.mailbox.isSome) :
    queryBy answer ticket question e = .returned () (e.post (.query ticket question)) := by
  obtain ⟨box, hbox⟩ := Option.isSome_iff_exists.1 opened
  simp [queryBy, query, bind_get, sound, hbox, Routine.modify]

/-! ## The stop -/

/-- What the stop shows of an engine to those who wait. -/
def back (e : Engine) : Option Mailbox × Option Violation :=
  (e.mailbox, e.failure)

theorem blind_back : Blind back where
  client _ _ := rfl
  timer _ _ _ := rfl
  gate _ _ := rfl
  resolving _ _ := rfl
  browsers _ _ := rfl
  browserRunning _ _ := rfl

/-- The release of what is held leaves the mailbox alone. -/
theorem spares_back_release : Spares (fun r => ¬r.Replies) back release :=
  spares_release blind_back (fun _ _ => rfl) not_replies_of_plain (fun _ => id) fun _ _ => rfl

/-- The stop fails the queries that wait, and goes on with the release. -/
theorem replies_stop (started : e.started = true) :
    replies (stop e) = (tickets e.waiting).map fun ticket =>
      (ticket, .error .stopped, { e with stopping := true, mailbox := none }) := by
  rw [stop_of_started started, replies_failEach, (spares_back_release _).replies_eq.1,
    List.append_nil]

/-- After the queries have failed, a stop releases what is held. -/
theorem afterReplies_stop (started : e.started = true) :
    afterReplies (stop e) = release { e with stopping := true, mailbox := none } := by
  rw [stop_of_started started, afterReplies_failEach, (spares_back_release _).replies_eq.2]

end Engine

end ScannerDiscovery
