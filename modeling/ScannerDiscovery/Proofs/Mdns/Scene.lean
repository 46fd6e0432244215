import Mathlib.Algebra.Order.Field.Rat
import Mathlib.Logic.Function.Basic
import ScannerDiscovery.Mdns.Client
import ScannerDiscovery.Simulation.Schedule

/-!
# The multicast client in its surroundings

Around a multicast client, callers open and close sessions, start and stop browses, and start and
cancel resolves; watchers see instances come and go, quiet timers ring, and lookups begin and end in
tasks of their own.  All this interleaves in any order, also while a call waits until a watcher or
the client of the network library is closed.  Time is exact: it passes to any later time, but never
past a timer that is due.

Main definitions:

- `Activity` : what the client is called for, and the routine it then runs.
- `Entry`, `History` : what is seen of the client from outside, with the times.
- `Moment` : a client with its timers, its tasks and the calls that wait.
- `Moment.run` : a routine goes on until it ends or waits.
- `Moment.act` : what can happen at a moment.
- `Reached` : the moments of all runs of a new client.
-/

namespace ScannerDiscovery.Mdns

open Simulation (Schedule Alarm)

/-! ## Activities -/

/-- What the client is called for: by its callers, by a watcher, by a quiet timer that rings, and by
the task of a resolve, at its first step and at the end of its lookup. -/
inductive Activity
  | openSession
  | closeSession
  | startBrowse (service : Service)
  | stopBrowse (browse : Nat)
  | resolve (service : Service) (name : String) (family : Ip.Family)
  | cancelResolve (op : Nat)
  | notify (browse : Nat) (fullName : String) (change : Change)
  | quiet (browse : Nat)
  | beginLookup (op : Nat)
  | endLookup (op : Nat) (result : LookupResult)

/-- What the client does in an activity, and the handle it gives. -/
def Activity.routine : Activity → Client.Work (Option Ticket)
  | openSession => do
    Client.openSession
    return none
  | closeSession => do
    Client.closeSession
    return none
  | startBrowse service => do
    return some (Browse.handle (← Client.startBrowse service))
  | stopBrowse browse => do
    Client.stopBrowse browse
    return none
  | resolve service name family => do
    return some (← Client.resolve service name family).handle
  | cancelResolve op => do
    Client.cancelResolve op
    return none
  | notify browse fullName change => do
    Client.onChange browse fullName change
    return none
  | quiet browse => do
    Client.onQuiet browse
    return none
  | beginLookup op => do
    Client.beginLookup op
    return none
  | endLookup op result => do
    Client.endLookup op result
    return none

/-! ## What is seen from outside -/

/-- What is seen of an activity: that it begins, what it reports, that it waits, and its end. -/
inductive Entry
  | begun (activity : Activity)
  | reported (activity : Activity) (notice : Notice)
  | waits (activity : Activity) (request : Request)
  | ended (activity : Activity) (result : Except Fault (Option Ticket))

/-- An entry with the time it was made. -/
structure Line where
  time : ℚ
  entry : Entry

/-- What has been seen, latest first. -/
abbrev History := List Line

/-- The handle that a report is of.  A resolve report carries it; a browse report is of the browse
that has been called for it. -/
def Entry.handle? : Entry → Option Ticket
  | reported _ (.resolve event) => some event.op
  | reported (.notify browse ..) (.browse _) => some (Browse.handle browse)
  | reported (.quiet browse) (.browse _) => some (Browse.handle browse)
  | _ => none

/-- Whether an entry reports what a browse or a resolve has found. -/
def Entry.isReport : Entry → Bool
  | reported _ (.browse _) => true
  | reported _ (.resolve _) => true
  | _ => false

/-- Only reports are of a handle. -/
theorem Entry.handle?_of_not_isReport {entry : Entry} (silent : entry.isReport = false) :
    entry.handle? = none := by
  unfold isReport at silent
  unfold handle?
  repeat' split at silent
  all_goals simp_all

/-- The handle that a call has returned. -/
def Entry.given? : Entry → Option Ticket
  | ended _ (.ok given) => given
  | _ => none

/-! ## Tasks -/

/-- How far the task of a resolve has come: it is ready for its first step, it waits for a lookup,
or it is over, with the result of its lookup if there was one. -/
inductive Stage
  | ready
  | looking
  | finished (result : Option LookupResult)

/-- The task of a resolve. -/
structure Task where
  stage : Stage := .ready
  isCancelled : Bool := false

/-- Whether a task can take its first step. -/
def Task.isReady : Task → Bool
  | ⟨.ready, false⟩ => true
  | _ => false

/-- Whether a task waits for a lookup. -/
def Task.isLooking : Task → Bool
  | ⟨.looking, _⟩ => true
  | _ => false

/-- Whether a task is over. -/
def Task.isOver : Task → Bool
  | ⟨.finished _, _⟩ => true
  | _ => false

/-! ## Answers -/

/-- Whether the addresses of an answer are of the version they are listed under. -/
def Answer.isSorted (answer : Answer) : Bool :=
  answer.v4.all (fun text => (Ip.readAddress? text.toList).any (·.family == .ipv4)) &&
    answer.v6.all fun text => (Ip.readV6 (text.toList.takeWhile (· != '%'))).toOption.isSome

/-- Whether the answer that a lookup brings, if it brings one, is sorted. -/
def LookupResult.isSorted : LookupResult → Bool
  | answered answer => answer.isSorted
  | _ => true

/-- What a watcher sees. -/
structure Sighting where
  browse : Nat
  fullName : String
  change : Change

/-- How the network library answers in an activity: whether it opens what it is asked to open, what
watchers see while one is being opened, and what a lookup brings that takes no time. -/
structure Answers where
  opened : Except Fault Unit := .ok ()
  seen : List Sighting := []
  found : Option LookupResult := none

/-- The answer to a request that the client waits for. -/
def Request.reply? : (request : Request) → Except Fault Unit → Option request.Answer
  | .closeClient, reply => some reply
  | .closeWatcher _, reply => some reply
  | _, _ => none

/-! ## Moments -/

/-- A call that waits: what it was made for, what it waits for, and how it goes on. -/
structure Call where
  activity : Activity
  request : Request
  resume : request.Answer → Client.Work (Option Ticket)

/-- Whether the call closes the session. -/
def Call.isClosing (call : Call) : Bool :=
  match call.activity with
  | .closeSession => true
  | _ => false

/-- A client with its quiet timers, the tasks of its resolves, the calls that wait and what has been
seen. -/
structure Moment where
  client : Client
  schedule : Schedule ℚ Nat := ⟨0, []⟩
  tasks : Nat → Option Task := fun _ => none
  waiting : List Call := []
  history : History := []

namespace Moment

/-- A new client. -/
def new (ipVersion : IpVersion) (resolveTimeout : Binary64) : Moment :=
  { client := .new ipVersion resolveTimeout }

/-- The time. -/
def now (m : Moment) : ℚ :=
  m.schedule.now

/-- Something is seen. -/
def record (m : Moment) (entry : Entry) : Moment :=
  { m with history := ⟨m.now, entry⟩ :: m.history }

/-- The moment with a changed client. -/
def withClient (m : Moment) (change : Client → Client) : Moment :=
  { m with client := change m.client }

/-- The moment with a changed task. -/
def withTask (m : Moment) (op : Nat) (change : Task → Task) : Moment :=
  { m with tasks := Function.update m.tasks op ((m.tasks op).map change) }

/-- The task of a resolve comes to a stage. -/
def reaches (m : Moment) (op : Nat) (stage : Stage) : Moment :=
  m.withTask op fun task => { task with stage }

/-- The quiet timer of a browse is taken away. -/
def disarmed (m : Moment) (browse : Nat) : Moment :=
  { m with schedule := m.schedule.disarm (· == browse) }

/-! ## Routines in their surroundings -/

section

variable (quietPeriod : ℚ)

/-- Answers a request of the client.  What happens while a watcher is being opened is given. -/
def answer (seeing : Moment → Moment) (activity : Activity) (answers : Answers)
    (request : Request) (m : Moment) : request.Answer × Moment :=
  match request with
  | .openClient _ => (answers.opened, m)
  | .openWatcher .. => (answers.opened, seeing m)
  | .closeClient | .closeWatcher _ => (.ok (), m)
  | .startTask op => ((), { m with tasks := Function.update m.tasks op (some {}) })
  | .cancelTask op => ((), m.withTask op fun task => { task with isCancelled := true })
  | .lookUp op .. =>
    match answers.found with
    | none => (none, m.reaches op .looking)
    | some result => (some result, m.reaches op (.finished (some result)))
  | .armQuiet browse => ((), { m with schedule := m.schedule.arm quietPeriod browse })
  | .disarmQuiet browse => ((), m.disarmed browse)
  | .report notice => ((), m.record (.reported activity notice))

variable (seeing : Moment → Moment) (activity : Activity) (answers : Answers)

/-- A routine goes on until it ends or waits. -/
def goOn : Outcome requests Client Fault (Option Ticket) → Moment → Moment
  | .returned given client, m => { m with client }.record (.ended activity (.ok given))
  | .raised fault client, m => { m with client }.record (.ended activity (.error fault))
  | .paused client request resume, m =>
    if request.suspends then
      { m with client, waiting := m.waiting ++ [Call.mk activity request resume] }.record
        (.waits activity request)
    else
      let answered := answer quietPeriod seeing activity answers request { m with client }
      goOn (resume answered.1 answered.2.client) answered.2

/-- A routine is run on the client until it ends or waits. -/
def run (work : Client.Work (Option Ticket)) (m : Moment) : Moment :=
  m.goOn quietPeriod seeing activity answers (work m.client)

end

/-- A watcher sees something. -/
def see (quietPeriod : ℚ) (m : Moment) (sighting : Sighting) : Moment :=
  let activity := .notify sighting.browse sighting.fullName sighting.change
  (m.record (.begun activity)).run quietPeriod id activity {} activity.routine

/-- Watchers see one thing after another. -/
def seeAll (quietPeriod : ℚ) (sightings : List Sighting) (m : Moment) : Moment :=
  sightings.foldl (see quietPeriod) m

/-! ## What can happen -/

/-- Whether a call that closes the session waits. -/
def isClosing (m : Moment) : Bool :=
  m.waiting.any Call.isClosing

/-- Whether an activity can begin.  Nothing is started while the session is being closed.  A timer
rings when it is due, a task takes its first step when it is ready and has not been cancelled, and a
lookup ends that is under way; that of a cancelled task may still do so. -/
def permits (m : Moment) (answers : Answers) : Activity → Bool
  | .openSession | .startBrowse _ | .resolve .. => !m.isClosing
  | .quiet browse => m.schedule.alarms.any fun alarm => alarm.about == browse && alarm.due ≤ m.now
  | .beginLookup op => (m.tasks op).any Task.isReady && answers.found.all LookupResult.isSorted
  | .endLookup op result => (m.tasks op).any Task.isLooking && result.isSorted
  | _ => true

/-- What changes around the client before it is called: the timer has rung, and the task is over if
it does not wait for a lookup. -/
def entered (m : Moment) : Activity → Moment
  | .quiet browse =>
    { m with schedule := { m.schedule with alarms := m.schedule.alarms.eraseP fun alarm =>
        alarm.about == browse && alarm.due ≤ m.now } }
  | .beginLookup op => m.reaches op (.finished none)
  | .endLookup op result => m.reaches op (.finished (some result))
  | _ => m

/-- What can happen: an activity begins, a call that waits is answered, a task that has been
cancelled is abandoned, or time passes. -/
inductive Deed
  | begin (activity : Activity) (answers : Answers)
  | reply (call : Nat) (reply : Except Fault Unit)
  | abandon (op : Nat)
  | pass (time : ℚ)

/-- The moment after something has happened, if it can. -/
def act (quietPeriod : ℚ) (m : Moment) : Deed → Option Moment
  | .begin activity answers =>
    if m.permits answers activity then
      some (((m.entered activity).record (.begun activity)).run quietPeriod
        (seeAll quietPeriod answers.seen) activity answers activity.routine)
    else none
  | .reply call reply => do
    let waiting ← m.waiting[call]?
    let answer ← waiting.request.reply? reply
    return { m with waiting := m.waiting.eraseIdx call }.run quietPeriod id waiting.activity {}
      (waiting.resume answer)
  | .abandon op =>
    if (m.tasks op).any fun task => task.isCancelled && !task.isOver then
      some (m.reaches op (.finished none))
    else none
  | .pass time =>
    if m.now ≤ time ∧ ∀ alarm ∈ m.schedule.alarms, time ≤ alarm.due then
      some { m with schedule := { m.schedule with now := time } }
    else none

end Moment

/-- The moments of all runs of a new client. -/
inductive Reached (quietPeriod : ℚ) : Moment → Prop
  | new (ipVersion : IpVersion) (resolveTimeout : Binary64) :
      Reached quietPeriod (.new ipVersion resolveTimeout)
  | act {m m' : Moment} {deed : Moment.Deed} (before : Reached quietPeriod m)
      (acted : m.act quietPeriod deed = some m') : Reached quietPeriod m'

/-- One thing after another can happen in a run. -/
theorem Reached.acts {quietPeriod : ℚ} {m m' : Moment} (reached : Reached quietPeriod m)
    {deeds : List Moment.Deed} (acted : deeds.foldlM (Moment.act quietPeriod) m = some m') :
    Reached quietPeriod m' := by
  induction deeds generalizing m with
  | nil =>
      obtain rfl := Option.some.inj acted
      exact reached
  | cons deed rest ih =>
      rw [List.foldlM_cons] at acted
      obtain ⟨next, first, acted⟩ := Option.bind_eq_some_iff.1 acted
      exact ih (.act reached first) acted

end ScannerDiscovery.Mdns
