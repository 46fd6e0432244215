import ScannerDiscovery.Proofs.Mdns.Scene

/-!
# Rules for running the routines of the multicast client

One rule for each way in which a routine goes on: it reads or changes the client, makes a request
that is answered at once, waits, or ends.  From these rules follows one for each routine that others
are made of.

Main definitions:

- `Client.changing`, `Client.without`, `Client.withoutResolve` : changes of the client.
- `Moment.rearmed`, `Moment.dropped`, `Moment.cancelled` : what the inner routines do to a moment.

Main results:

- `run_get`, `run_modify`, `run_ask`, `run_wait` : the rules.
- `run_armQuiet`, `run_dropBrowse`, `run_cancelEach` : the rules of the inner routines, and so on
  for stopping a browse and for the end of a lookup.
-/

namespace ScannerDiscovery.Mdns

open Client (Work ask passed)
open Routine (get modify)

/-! ## Changes of the client -/

namespace Browse

/-- A browse with a quiet timer. -/
def armed (browse : Browse) : Browse :=
  { browse with isArmed := true }

/-- A browse with a watcher. -/
def watched (browse : Browse) : Browse :=
  { browse with isWatched := true }

/-- A browse that has reported that it has seen everything. -/
def reported (browse : Browse) : Browse :=
  { browse with hasReported := true }

/-- Arming its alarm leaves a browse its number. -/
theorem number_armed (browse : Browse) : browse.armed.number = browse.number :=
  rfl

/-- Getting a watcher leaves a browse its number. -/
theorem number_watched (browse : Browse) : browse.watched.number = browse.number :=
  rfl

/-- Reporting leaves a browse its number. -/
theorem number_reported (browse : Browse) : browse.reported.number = browse.number :=
  rfl

end Browse

namespace Client

/-- The client with a changed browse. -/
def changing (c : Client) (number : Nat) (change : Browse → Browse) : Client :=
  { c with browses := c.browses.map fun b => if b.number = number then change b else b }

/-- The client without a browse. -/
def without (c : Client) (number : Nat) : Client :=
  { c with browses := c.browses.filter (·.number ≠ number) }

/-- The client without a resolve. -/
def withoutResolve (c : Client) (op : Nat) : Client :=
  { c with resolves := c.resolves.filter (·.number ≠ op) }

variable {c : Client} {number : Nat}

/-- A browse is found under its own number. -/
theorem number_of_browse? {browse : Browse} (found : c.browse? number = some browse) :
    browse.number = number := by
  simpa using List.find?_some found

/-- A resolve is found under its own number. -/
theorem number_of_resolve? {resolve : Resolve} (found : c.resolve? number = some resolve) :
    resolve.number = number := by
  simpa using List.find?_some found

/-- A change of one browse changes no other one. -/
theorem browse?_changing {change : Browse → Browse} (keeps : ∀ b, (change b).number = b.number)
    (k : Nat) :
    (c.changing number change).browse? k =
      (c.browse? k).map fun b => if k = number then change b else b := by
  unfold changing browse?
  induction c.browses with
  | nil => rfl
  | cons b rest ih =>
      have same : (if b.number = number then change b else b).number = b.number := by
        split
        · exact keeps b
        · rfl
      rw [List.map_cons, List.find?_cons, List.find?_cons, same]
      by_cases h : b.number = k
      · simp [h]
      · simpa [h] using ih

/-- Dropping a browse leaves all other browses. -/
theorem browse?_without (k : Nat) :
    (c.without number).browse? k = if k = number then none else c.browse? k := by
  unfold without browse?
  rw [List.find?_filter]
  split
  · subst k
    simp
  · congr 1
    funext b
    by_cases h : b.number = k <;> simp_all

/-- Taking a resolve out leaves all others. -/
theorem resolve?_withoutResolve (k : Nat) :
    (c.withoutResolve number).resolve? k = if k = number then none else c.resolve? k := by
  unfold withoutResolve resolve?
  rw [List.find?_filter]
  split
  · subst k
    simp
  · congr 1
    funext r
    by_cases h : r.number = k <;> simp_all

end Client

/-- What a resolve reports about the result of its lookup, or about a lookup that has not been
made. -/
def Resolve.event (resolve : Resolve) : Option LookupResult → ResolveEvent
  | some (.answered answer) => Client.resolvedBy resolve answer
  | _ => { op := resolve.handle, kind := .failure }

/-- A resolve reports under its own handle. -/
theorem Resolve.op_event (resolve : Resolve) (result : Option LookupResult) :
    (resolve.event result).op = resolve.handle := by
  unfold Resolve.event Client.resolvedBy
  repeat' split
  all_goals rfl

/-! ## What the inner routines do -/

namespace Moment

/-- The quiet period of a browse starts afresh. -/
def rearmed (quietPeriod : ℚ) (m : Moment) (browse : Browse) : Moment :=
  let m := if browse.isArmed then m.disarmed browse.number else m
  { m.withClient (·.changing browse.number Browse.armed) with
    schedule := m.schedule.arm quietPeriod browse.number }

/-- The quiet period of an open browse starts afresh, unless it has reported. -/
def refreshed (quietPeriod : ℚ) (m : Moment) (number : Nat) : Moment :=
  match m.client.browse? number with
  | none => m
  | some browse => if browse.hasReported then m else m.rearmed quietPeriod browse

/-- A browse is dropped with its quiet timer. -/
def dropped (m : Moment) (browse : Browse) : Moment :=
  let m := m.withClient (·.without browse.number)
  if browse.isArmed then m.disarmed browse.number else m

/-- A resolve is cancelled, if it is under way. -/
def cancelled (m : Moment) (op : Nat) : Moment :=
  if (m.client.resolve? op).isSome then
    (m.withClient (·.withoutResolve op)).withTask op fun task => { task with isCancelled := true }
  else m

/-! ## The rules -/

section

variable {quietPeriod : ℚ} {seeing : Moment → Moment} {activity : Activity} {answers : Answers}
  {m : Moment}

/-- What a routine does depends on where it stands, not on the client it has been run on. -/
theorem goOn_withClient (o : Outcome requests Client Fault (Option Ticket)) (client : Client) :
    ({ m with client } : Moment).goOn quietPeriod seeing activity answers o =
      m.goOn quietPeriod seeing activity answers o := by
  cases o <;> rfl

/-- A routine that looks at the client goes on with the client as it is. -/
theorem run_get (next : Client → Work (Option Ticket)) :
    m.run quietPeriod seeing activity answers (get >>= next) =
      m.run quietPeriod seeing activity answers (next m.client) :=
  rfl

/-- A routine that changes the client goes on with the changed client. -/
theorem run_modify (change : Client → Client) (next : Unit → Work (Option Ticket)) :
    m.run quietPeriod seeing activity answers (modify change >>= next) =
      (m.withClient change).run quietPeriod seeing activity answers (next ()) :=
  (goOn_withClient _ _).symm

/-- A request that is answered at once. -/
theorem run_ask {request : Request} (atOnce : request.suspends = false)
    (next : request.Answer → Work (Option Ticket)) :
    m.run quietPeriod seeing activity answers (ask request >>= next) =
      let answered := answer quietPeriod seeing activity answers request m
      answered.2.run quietPeriod seeing activity answers (next answered.1) := by
  change m.goOn _ _ _ _ (.paused m.client request fun answer client => next answer client) = _
  rw [goOn, if_neg (by simp [atOnce])]
  rfl

/-- A request that the routine waits for. -/
theorem run_wait {request : Request} (suspends : request.suspends = true)
    (next : request.Answer → Work (Option Ticket)) :
    m.run quietPeriod seeing activity answers (ask request >>= next) =
      { m with waiting := m.waiting ++ [Call.mk activity request next] }.record
        (.waits activity request) := by
  change m.goOn _ _ _ _ (.paused m.client request fun answer client => next answer client) = _
  rw [goOn, if_pos suspends]

/-! ## The rules of the inner routines -/

/-- Dropping a browse disarms its alarm, and the routine goes on. -/
theorem run_dropBrowse (browse : Browse) (next : Unit → Work (Option Ticket)) :
    m.run quietPeriod seeing activity answers (Client.dropBrowse browse >>= next) =
      (m.dropped browse).run quietPeriod seeing activity answers (next ()) := by
  rw [Client.dropBrowse, bind_assoc, run_modify, dropped]
  cases browse.isArmed with
  | false => rfl
  | true => exact run_ask rfl _

/-- Arming the alarm of a browse starts a new quiet period, and the routine goes on. -/
theorem run_armQuiet (number : Nat) (next : Unit → Work (Option Ticket)) :
    m.run quietPeriod seeing activity answers (Client.armQuiet number >>= next) =
      (m.refreshed quietPeriod number).run quietPeriod seeing activity answers (next ()) := by
  rw [Client.armQuiet, bind_assoc, run_get, refreshed]
  cases found : m.client.browse? number with
  | none => rfl
  | some browse =>
      obtain rfl := Client.number_of_browse? found
      have arms (m : Moment) :
          m.run quietPeriod seeing activity answers
            ((Client.modifyBrowse browse.number fun b => { b with isArmed := true }) >>= fun _ =>
              ask (.armQuiet browse.number) >>= next) =
          Moment.run quietPeriod seeing activity answers (next ())
            { m.withClient (·.changing browse.number Browse.armed) with
              schedule := m.schedule.arm quietPeriod browse.number } := by
        rw [Client.modifyBrowse, run_modify]
        exact run_ask rfl _
      simp only [rearmed]
      cases browse.hasReported with
      | true => rfl
      | false =>
          cases browse.isArmed with
          | false => exact arms m
          | true =>
              simp only [Bool.not_false, if_true, bind_assoc]
              rw [run_ask rfl]
              exact arms _

/-- A browse that is not open is not stopped. -/
theorem run_stopBrowse_of_none {number : Nat} (absent : m.client.browse? number = none)
    (next : Unit → Work (Option Ticket)) :
    m.run quietPeriod seeing activity answers (Client.stopBrowse number >>= next) =
      m.run quietPeriod seeing activity answers (next ()) := by
  rw [Client.stopBrowse, bind_assoc, run_get, absent]
  rfl

/-- An open browse is dropped; if it has a watcher, the call waits until that is closed. -/
theorem run_stopBrowse_of_some {number : Nat} {browse : Browse}
    (found : m.client.browse? number = some browse) (next : Unit → Work (Option Ticket)) :
    m.run quietPeriod seeing activity answers (Client.stopBrowse number >>= next) =
      if browse.isWatched then
        { m.dropped browse with
          waiting := (m.dropped browse).waiting ++ [Call.mk activity (.closeWatcher number)
            fun reply => passed reply >>= next] }.record (.waits activity (.closeWatcher number))
      else (m.dropped browse).run quietPeriod seeing activity answers (next ()) := by
  rw [Client.stopBrowse, bind_assoc, run_get, found]
  simp only [bind_assoc]
  rw [run_dropBrowse]
  cases browse.isWatched with
  | false => rfl
  | true =>
      simp only [if_true, bind_assoc]
      rw [run_wait rfl]

/-- Cancelling a resolve stops its task, and the routine goes on. -/
theorem run_cancelResolve (op : Nat) (next : Unit → Work (Option Ticket)) :
    m.run quietPeriod seeing activity answers (Client.cancelResolve op >>= next) =
      (m.cancelled op).run quietPeriod seeing activity answers (next ()) := by
  rw [Client.cancelResolve, bind_assoc, run_get, cancelled]
  cases (m.client.resolve? op).isSome with
  | false => rfl
  | true =>
      simp only [if_true, bind_assoc]
      rw [run_modify]
      exact run_ask rfl _

/-- Resolves are cancelled one after another. -/
theorem run_cancelEach (resolves : List Resolve) (next : Unit → Work (Option Ticket)) :
    m.run quietPeriod seeing activity answers (Client.cancelEach resolves >>= next) =
      (resolves.foldl (fun m resolve => m.cancelled resolve.number) m).run quietPeriod seeing
        activity answers (next ()) := by
  induction resolves generalizing m with
  | nil => rfl
  | cons resolve rest ih =>
      rw [Client.cancelEach, bind_assoc, run_cancelResolve, ih]
      rfl

/-- A lookup whose resolve is no longer under way ends unnoticed. -/
theorem run_endLookup_of_none {op : Nat} (absent : m.client.resolve? op = none)
    (result : LookupResult) (next : Unit → Work (Option Ticket)) :
    m.run quietPeriod seeing activity answers (Client.endLookup op result >>= next) =
      m.run quietPeriod seeing activity answers (next ()) := by
  rw [Client.endLookup, bind_assoc, run_get, absent]
  rfl

/-- A lookup whose resolve is under way is reported, if a session is open. -/
theorem run_endLookup_of_some {op : Nat} {resolve : Resolve}
    (found : m.client.resolve? op = some resolve) (opened : m.client.isOpen = true)
    (result : LookupResult) (next : Unit → Work (Option Ticket)) :
    m.run quietPeriod seeing activity answers (Client.endLookup op result >>= next) =
      ((m.withClient (·.withoutResolve op)).record
        (.reported activity (.resolve (resolve.event (some result))))).run quietPeriod seeing
        activity answers (next ()) := by
  rw [Client.endLookup, bind_assoc, run_get, found]
  simp only [bind_assoc]
  rw [run_modify, run_get, if_pos]
  · cases result <;> exact run_ask rfl _
  · exact opened

end

end Moment

end ScannerDiscovery.Mdns
