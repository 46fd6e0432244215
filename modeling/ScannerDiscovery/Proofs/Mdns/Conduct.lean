import ScannerDiscovery.Proofs.Mdns.Moves

/-!
# Everything that happens is a chain of moves

Each activity of the client, from its beginning until it ends or waits, is taken apart into moves,
and so is the way a call goes on that has been waiting.

Main definitions:

- `Moves` : a chain of moves.

Main results:

- `moves_seeAll`, `moves_closing` : the activities that repeat themselves, by induction.
- `moves_of_act` : whatever happens is a chain of moves.
- `Reached.orderly` : the client is always in order.
- `Reached.preserves` : what moves preserve holds at every moment of every run.
-/

namespace ScannerDiscovery.Mdns

open Client (Work ask passed)
open Routine (get modify)

/-- Whether a browse is the latest one, and has neither got a watcher nor reported that it has seen
everything. -/
def Client.IsPending (c : Client) (number : Nat) : Prop :=
  ∃ browse, c.browse? number = some browse ∧ browse.isWatched = false ∧
    browse.hasReported = false ∧ c.nextBrowse = number + 1

/-- A chain of moves. -/
abbrev Moves (quietPeriod : ℚ) : Moment → Moment → Prop :=
  Relation.ReflTransGen (Move quietPeriod)

variable {quietPeriod : ℚ} {seeing : Moment → Moment} {activity : Activity} {answers : Answers}
  {m m' : Moment}

/-- A chain of moves keeps the order. -/
theorem Moves.orderly (moves : Moves quietPeriod m m') (orderly : Orderly m) : Orderly m' := by
  induction moves with
  | refl => exact orderly
  | tail _ move ih => exact move.orderly ih

namespace Moment

/-- An activity begins that closes nothing open. -/
theorem moves_begun
    (closes : ∀ handle, (Entry.begun activity).Closes handle → ¬m.client.Holds handle) :
    Moves quietPeriod m (m.record (.begun activity)) :=
  .single (.note rfl rfl closes)

/-- An activity ends without a handle.  If it closes the session then nothing is left open. -/
theorem moves_done (closes : activity = .closeSession → m.client.IsEmpty) :
    Moves quietPeriod m (m.record (.ended activity (.ok none))) := by
  refine .single (.note rfl rfl fun handle closed => ?_)
  cases activity with
  | closeSession => exact (closes rfl).not_holds handle
  | _ => cases closed

/-- An activity fails. -/
theorem moves_failed (fault : Fault) :
    Moves quietPeriod m (m.record (.ended activity (.error fault))) := by
  refine .single (.note rfl rfl fun handle closed => ?_)
  cases activity <;> cases closed

/-! ## Watchers -/

/-- What an open browse does with a change that its watcher has seen. -/
def told (quietPeriod : ℚ) (m : Moment) (number : Nat) (fullName : String) (change : Change) :
    Moment :=
  match m.client.browse? number, change with
  | some browse, .added =>
    (m.record (.reported (.notify number fullName change) (.browse {
      service := browse.service, kind := .new, name := some (instanceName fullName browse.service)
      ifindex := unspecifiedInterface, families := m.client.ipVersion.families }))).refreshed
        quietPeriod number
  | some browse, .removed =>
    m.record (.reported (.notify number fullName change) (.browse {
      service := browse.service, kind := .remove
      name := some (instanceName fullName browse.service), ifindex := unspecifiedInterface }))
  | _, _ => m

/-- A watcher that reports a change tells of it, and is done. -/
theorem run_notify (orderly : Orderly m) (number : Nat) (fullName : String) (change : Change) :
    m.run quietPeriod seeing (.notify number fullName change) answers
      (Activity.notify number fullName change).routine =
      (m.told quietPeriod number fullName change).record
        (.ended (.notify number fullName change) (.ok none)) := by
  rw [Activity.routine, Client.onChange, bind_assoc, run_get]
  unfold told
  cases found : m.client.browse? number with
  | none => rfl
  | some browse =>
      cases opened : m.client.isOpen with
      | false =>
          have absent := (orderly.shut opened).1 number
          cases found.symm.trans absent
      | true =>
          cases change with
          | added =>
              simp only [if_true, bind_assoc]
              rw [run_ask rfl, run_armQuiet]
              rfl
          | removed =>
              simp only [if_true]
              rw [run_ask rfl]
              rfl
          | updated => rfl

/-- What a watcher tells is one move at most. -/
theorem moves_told (number : Nat) (fullName : String) (change : Change) :
    Moves quietPeriod m (m.told quietPeriod number fullName change) := by
  unfold told
  split
  · next found => exact .single (.tellNew found fullName rfl)
  · next found => exact .single (.tellGone found fullName rfl)
  · exact .refl

/-- A watcher sees something. -/
theorem moves_notify (orderly : Orderly m) (number : Nat) (fullName : String) (change : Change) :
    Moves quietPeriod m (m.run quietPeriod seeing (.notify number fullName change) answers
      (Activity.notify number fullName change).routine) := by
  rw [run_notify orderly]
  exact (moves_told number fullName change).trans (moves_done fun closing => by cases closing)

/-- A sighting is a chain of moves. -/
theorem moves_see (orderly : Orderly m) (sighting : Sighting) :
    Moves quietPeriod m (m.see quietPeriod sighting) := by
  have begun : Moves quietPeriod m (m.record (.begun
      (.notify sighting.browse sighting.fullName sighting.change))) :=
    moves_begun fun _ closed => closed.elim
  exact begun.trans (moves_notify (orderly.record _) _ _ _)

/-- Watchers see one thing after another. -/
theorem moves_seeAll (orderly : Orderly m) (sightings : List Sighting) :
    Moves quietPeriod m (m.seeAll quietPeriod sightings) := by
  induction sightings generalizing m with
  | nil => exact .refl
  | cons sighting rest ih =>
      have first : Moves quietPeriod m (m.see quietPeriod sighting) := moves_see orderly sighting
      exact first.trans (ih (first.orderly orderly))

/-- A quiet timer rings that is due. -/
theorem moves_quiet (orderly : Orderly m) (number : Nat)
    (due : ∃ alarm ∈ m.schedule.alarms, alarm.about = number ∧ alarm.due ≤ m.now) :
    Moves quietPeriod m ((m.entered (.quiet number)).run quietPeriod seeing (.quiet number) answers
      (Activity.quiet number).routine) := by
  have done (m : Moment) : Moves quietPeriod m (m.record (.ended (.quiet number) (.ok none))) :=
    moves_done fun closing => by cases closing
  rw [Activity.routine, Client.onQuiet, bind_assoc, run_get, entered_client]
  cases found : m.client.browse? number with
  | none => exact .head (.ring found) (done _)
  | some browse =>
      cases opened : m.client.isOpen with
      | false =>
          have absent := (orderly.shut opened).1 number
          cases found.symm.trans absent
      | true =>
          simp only [if_true, bind_assoc, Client.modifyBrowse]
          rw [run_modify, run_ask rfl]
          exact .head (.tellAll found due rfl) (done _)

/-! ## Stopping -/

/-- It does not matter whether a browse is dropped before or after an entry is made. -/
theorem dropped_record (browse : Browse) (entry : Entry) :
    (m.record entry).dropped browse = (m.dropped browse).record entry := by
  unfold dropped
  cases browse.isArmed <;> rfl

/-- One more call waits. -/
theorem moves_waits (orderly : Orderly m) {call : Call} (proper : call.Proper m.client) :
    Moves quietPeriod m { m with waiting := m.waiting ++ [call] } := by
  refine .single (.await _ fun other waits => ?_)
  obtain before | same := List.mem_append.1 waits
  · exact orderly.calls other before
  · rw [List.mem_singleton.1 same]
    exact proper

/-- A browse is stopped for itself. -/
theorem moves_stopBrowse (orderly : Orderly m) (number : Nat) :
    Moves quietPeriod m ((m.record (.begun (.stopBrowse number))).run quietPeriod seeing
      (.stopBrowse number) answers (Activity.stopBrowse number).routine) := by
  have done (m : Moment) :
      Moves quietPeriod m (m.record (.ended (.stopBrowse number) (.ok none))) :=
    moves_done fun closing => by cases closing
  cases found : (m.record (.begun (.stopBrowse number))).client.browse? number with
  | none =>
      rw [Activity.routine, run_stopBrowse_of_none found]
      refine .trans (moves_begun fun handle closed => ?_) (done _)
      rw [show handle = Browse.handle number from closed]
      exact Client.not_holds_of_browse? found
  | some browse =>
      rw [Activity.routine, run_stopBrowse_of_some found, dropped_record]
      replace found : m.client.browse? number = some browse := found
      cases watched : browse.isWatched with
      | false =>
          have stopped : Move quietPeriod m
              ((m.dropped browse).record (.begun (.stopBrowse number))) :=
            .stop found [.begun (.stopBrowse number)] (by simp [Entry.isReport])
              (by simp [Entry.given?]) (by simp [Entry.Closes]) (by simp [watched])
          exact .head stopped (done _)
      | true =>
          have stopped : Move quietPeriod m
              (((m.dropped browse).record (.begun (.stopBrowse number))).record
                (.waits (.stopBrowse number) (.closeWatcher number))) :=
            .stop found
              [.waits (.stopBrowse number) (.closeWatcher number), .begun (.stopBrowse number)]
              (by simp [Entry.isReport]) (by simp [Entry.given?]) (by simp [Entry.Closes]) (by simp)
          exact .head stopped (moves_waits (stopped.orderly orderly) (.stopping number))

/-! ## Closing the session -/

/-- The session is closed when all browses have been stopped. -/
theorem moves_shutDown (orderly : Orderly m) (stopped : ∀ number, m.client.browse? number = none) :
    Moves quietPeriod m (m.run quietPeriod seeing .closeSession answers
      (Client.shutDown >>= fun _ => pure none)) := by
  rw [Client.shutDown, bind_assoc, run_get, bind_assoc, run_cancelEach, bind_assoc, run_get]
  rw [← allCancelled, isOpen_allCancelled]
  cases opened : m.client.isOpen with
  | false =>
      have empty := orderly.shut opened
      rw [allCancelled, Client.resolves_eq_nil empty.2]
      exact moves_done fun _ => empty
  | true =>
      have shut : Move quietPeriod m
          ((m.allCancelled.withClient fun c => { c with isOpen := false }).record
            (.waits .closeSession .closeClient)) :=
        .shut stopped
      have empty : (m.allCancelled.withClient fun c => { c with isOpen := false }).client.IsEmpty :=
        ⟨fun number => (browse?_allCancelled number).trans (stopped number), resolve?_allCancelled⟩
      simp only [if_true, bind_assoc]
      rw [run_modify, run_wait rfl]
      exact .head shut (moves_waits (shut.orderly orderly) (.closed rfl empty))

/-- The session is closed once the remaining browses have been stopped. -/
theorem moves_closing (orderly : Orderly m) {rest : List Browse}
    (covers : ∀ number, (m.client.browse? number).isSome → number ∈ rest.map (·.number)) :
    Moves quietPeriod m
      (m.run quietPeriod seeing .closeSession answers (Client.closing rest)) := by
  induction rest generalizing m with
  | nil =>
      refine moves_shutDown orderly fun number => ?_
      simpa using covers number
  | cons browse rest ih =>
      have others {c : Client} (shrinks : m.client.Shrinks c)
          (absent : c.browse? browse.number = none) (number : Nat)
          (open' : (c.browse? number).isSome) : number ∈ rest.map (·.number) := by
        obtain rfl | remains := List.mem_cons.1 (covers number (shrinks.isSome_browse? open'))
        · rw [absent] at open'
          cases open'
        · exact remains
      rw [Client.closing, Client.stopEach, bind_assoc]
      cases found : m.client.browse? browse.number with
      | none =>
          rw [run_stopBrowse_of_none found]
          exact ih orderly (others (.refl _) found)
      | some opened =>
          have same := Client.number_of_browse? found
          have dropped := Client.shrinks_without (c := m.client) browse.number
          have absent : (m.client.without browse.number).browse? browse.number = none := by
            simp [Client.browse?_without]
          rw [run_stopBrowse_of_some found]
          cases watched : opened.isWatched with
          | false =>
              have stopped : Move quietPeriod m (m.dropped opened) :=
                .stop found [] (by simp) (by simp) (by simp) (by simp [watched])
              refine .head stopped (ih (stopped.orderly orderly) ?_)
              rw [dropped_client, same]
              exact others dropped absent
          | true =>
              have stopped : Move quietPeriod m ((m.dropped opened).record
                  (.waits .closeSession (.closeWatcher browse.number))) :=
                .stop found [.waits .closeSession (.closeWatcher browse.number)]
                  (by simp [Entry.isReport]) (by simp [Entry.given?]) (by simp [Entry.Closes])
                  (by simp)
              refine .head stopped (moves_waits (stopped.orderly orderly)
                (.closing browse.number rest ?_))
              change ∀ number, (((m.dropped opened).client).browse? number).isSome → _
              rw [dropped_client, same]
              exact others dropped absent

/-- A call begins to close the session. -/
theorem moves_closeSession (orderly : Orderly m) :
    Moves quietPeriod m
      (m.run quietPeriod seeing .closeSession answers Activity.closeSession.routine) := by
  have covers (number : Nat) (open' : (m.client.browse? number).isSome) :
      number ∈ m.client.browses.map (·.number) := by
    obtain ⟨browse, found⟩ := Option.isSome_iff_exists.1 open'
    exact List.mem_map.2 ⟨browse, List.mem_of_find?_eq_some found, Client.number_of_browse? found⟩
  rw [Activity.routine, Client.closeSession, bind_assoc, run_get, bind_assoc]
  exact moves_closing orderly covers

/-! ## Starting browses -/

/-- What watchers see leaves the latest browse pending. -/
theorem isPending_refreshed {number : Nat} (pending : m.client.IsPending number) (k : Nat) :
    (m.refreshed quietPeriod k).client.IsPending number := by
  unfold refreshed
  split
  · exact pending
  · split
    · exact pending
    · obtain ⟨browse, found, unwatched, unreported, last⟩ := pending
      rw [rearmed_client]
      refine ⟨_, (Client.browse?_changing Browse.number_armed _).trans (congrArg _ found), ?_, ?_,
        last⟩
      · split <;> exact unwatched
      · split <;> exact unreported

/-- What one watcher tells leaves the latest browse pending. -/
theorem isPending_told {number : Nat} (pending : m.client.IsPending number) (k : Nat)
    (fullName : String) (change : Change) :
    (m.told quietPeriod k fullName change).client.IsPending number := by
  unfold told
  split
  · exact isPending_refreshed (m := m.record _) pending k
  · exact pending
  · exact pending

/-- What watchers see, one thing after another, leaves the latest browse pending. -/
theorem isPending_seeAll {number : Nat} (orderly : Orderly m) (pending : m.client.IsPending number)
    (sightings : List Sighting) :
    (m.seeAll quietPeriod sightings).client.IsPending number := by
  induction sightings generalizing m with
  | nil => exact pending
  | cons sighting rest ih =>
      have first : Moves quietPeriod m (m.see quietPeriod sighting) := moves_see orderly sighting
      refine ih (first.orderly orderly) ?_
      rw [see, run_notify (orderly.record _)]
      exact isPending_told (m := m.record _) pending _ _ _

/-- A browse is started. -/
theorem moves_startBrowse (orderly : Orderly m) (calm : m.isClosing = false) (service : Service) :
    Moves quietPeriod m (m.run quietPeriod (seeAll quietPeriod answers.seen) (.startBrowse service)
      answers (Activity.startBrowse service).routine) := by
  rw [Activity.routine, Client.startBrowse, bind_assoc, run_get]
  cases opened : m.client.isOpen with
  | false => exact moves_failed _
  | true =>
      have attached : Move quietPeriod m (m.withClient (·.attached service)) :=
        .attach opened calm service
      have fresh : m.client.browse? m.client.nextBrowse = none := by
        by_contra held
        exact Nat.lt_irrefl _ (orderly.browses _ (Option.isSome_iff_ne_none.2 held))
      have pending : (m.withClient (·.attached service)).client.IsPending m.client.nextBrowse := by
        refine ⟨{ number := m.client.nextBrowse, service }, ?_, rfl, rfl, rfl⟩
        exact (Client.browse?_attached service _).trans (by simp [fresh])
      replace orderly := attached.orderly orderly
      have seen : Moves quietPeriod (m.withClient (·.attached service))
          ((m.withClient (·.attached service)).seeAll quietPeriod answers.seen) :=
        moves_seeAll orderly answers.seen
      replace pending : ((m.withClient (·.attached service)).seeAll quietPeriod
          answers.seen).client.IsPending m.client.nextBrowse :=
        isPending_seeAll orderly pending answers.seen
      simp only [Bool.not_true, Bool.false_eq_true, if_false, bind_assoc]
      rw [run_modify, run_ask rfl]
      refine (Relation.ReflTransGen.single attached).trans (seen.trans ?_)
      replace orderly := seen.orderly orderly
      change Moves quietPeriod _ (((m.withClient (·.attached service)).seeAll quietPeriod
        answers.seen).run _ _ _ _ _)
      generalize (m.withClient (·.attached service)).seeAll quietPeriod answers.seen = m' at *
      obtain ⟨browse, found, unwatched, unreported, last⟩ := pending
      simp only [answer]
      cases answers.opened with
      | ok =>
          simp only [bind_assoc, Client.modifyBrowse]
          rw [run_modify, run_armQuiet]
          exact .single (.watch found last unwatched unreported service)
      | error fault =>
          have withdrawn : Move quietPeriod m' ((m'.dropped browse).withClient fun c =>
              { c with nextBrowse := m.client.nextBrowse }) :=
            .withdraw found last unwatched unreported
          cases fault with
          | interrupted => exact moves_failed _
          | _ =>
              simp only [bind_assoc, Client.withdrawBrowse]
              rw [run_get, found]
              simp only [bind_assoc]
              rw [run_dropBrowse, run_modify]
              exact .head withdrawn (moves_failed _)

/-! ## Sessions and resolves -/

/-- A session is opened. -/
theorem moves_openSession (calm : m.isClosing = false) :
    Moves quietPeriod m
      (m.run quietPeriod seeing .openSession answers Activity.openSession.routine) := by
  rw [Activity.routine, Client.openSession, bind_assoc, run_get]
  cases opened : m.client.isOpen with
  | true => exact moves_failed _
  | false =>
      simp only [Bool.false_eq_true, if_false, bind_assoc]
      rw [run_ask rfl]
      simp only [answer]
      cases answers.opened with
      | ok =>
          have told (m : Moment) : Move quietPeriod m
              (m.record (.reported .openSession (.client .running))) :=
            .note rfl rfl fun _ closed => closed.elim
          simp only [Client.accepted, pure_bind]
          rw [run_modify, run_ask rfl]
          exact .head (.openUp calm) (.head (told _) (moves_done fun closing => by cases closing))
      | error fault => cases fault <;> exact moves_failed _

/-- A resolve is begun. -/
theorem moves_resolve (calm : m.isClosing = false) (service : Service) (name : String)
    (family : Ip.Family) :
    Moves quietPeriod m (m.run quietPeriod seeing (.resolve service name family) answers
      (Activity.resolve service name family).routine) := by
  rw [Activity.routine, Client.resolve, bind_assoc, run_get]
  cases opened : m.client.isOpen with
  | false => exact moves_failed _
  | true =>
      by_cases enabled : family ∈ m.client.ipVersion.families
      · simp only [Bool.not_true, Bool.false_eq_true, if_false, enabled, not_true, bind_assoc]
        rw [run_modify, run_ask rfl]
        have number : (Resolve.mk m.client.nextResolve service name family).number =
            m.client.nextResolve := rfl
        exact .single (.resolve opened calm number)
      · simp only [Bool.not_true, Bool.false_eq_true, if_false, enabled, not_false_eq_true, if_true]
        exact moves_failed _

/-- A resolve is cancelled. -/
theorem moves_cancelResolve (op : Nat) :
    Moves quietPeriod m ((m.record (.begun (.cancelResolve op))).run quietPeriod seeing
      (.cancelResolve op) answers (Activity.cancelResolve op).routine) := by
  rw [Activity.routine, run_cancelResolve]
  have done (m : Moment) : Moves quietPeriod m (m.record (.ended (.cancelResolve op) (.ok none))) :=
    moves_done fun closing => by cases closing
  cases found : m.client.resolve? op with
  | some resolve => exact .head (.cancel found) (done _)
  | none =>
      have absent : ¬((m.record (.begun (.cancelResolve op))).client.resolve? op).isSome := by
        change ¬(m.client.resolve? op).isSome
        simp [found]
      rw [cancelled, if_neg absent]
      refine .trans (moves_begun fun handle closed => ?_) (done _)
      exact Client.not_holds_of_resolve? found closed

/-! ## Lookups -/

/-- A task that reaches one stage and then another has reached the latter. -/
theorem reaches_reaches (op : Nat) (first second : Stage) :
    (m.reaches op first).reaches op second = m.reaches op second := by
  simp [reaches, withTask, Function.comp_def]

/-- The lookup of a resolve under way is over. -/
theorem moves_conclude (orderly : Orderly m) {op : Nat} {resolve : Resolve}
    (found : m.client.resolve? op = some resolve) {stage : Option LookupResult}
    (sorted : stage.all LookupResult.isSorted) {result : LookupResult}
    (same : resolve.event stage = resolve.event (some result))
    (other : activity ≠ .closeSession) :
    Moves quietPeriod m ((m.reaches op (.finished stage)).run quietPeriod seeing activity answers
      (Client.endLookup op result >>= fun _ => pure none)) := by
  have opened : m.client.isOpen = true := by
    by_contra shut
    cases found.symm.trans ((orderly.shut (by simpa using shut)).2 op)
  have found' : (m.reaches op (.finished stage)).client.resolve? op = some resolve := found
  rw [run_endLookup_of_some found' opened, ← same]
  exact .head (.conclude found activity sorted) (moves_done fun closing => (other closing).elim)

/-- A task that is ready, or waits for a lookup, is not over. -/
theorem running_of_any {op : Nat} {stage : Task → Bool} (reached : (m.tasks op).any stage = true)
    (before : ∀ task, stage task = true → task.isOver = false) :
    (m.tasks op).any fun task => !task.isOver := by
  cases task : m.tasks op with
  | none => simp [task] at reached
  | some task => simp_all

/-- A task that is ready for its lookup is not over. -/
theorem isOver_of_isReady (task : Task) (ready : task.isReady = true) : task.isOver = false := by
  obtain ⟨stage, isCancelled⟩ := task
  cases stage <;> simp_all [Task.isReady, Task.isOver]

/-- A task that waits for its lookup is not over. -/
theorem isOver_of_isLooking (task : Task) (looking : task.isLooking = true) :
    task.isOver = false := by
  obtain ⟨stage, isCancelled⟩ := task
  cases stage <;> simp_all [Task.isLooking, Task.isOver]

/-- A lookup ends. -/
theorem moves_endLookup (orderly : Orderly m) (op : Nat) {result : LookupResult}
    (looking : (m.tasks op).any Task.isLooking) (sorted : result.isSorted) :
    Moves quietPeriod m ((m.reaches op (.finished (some result))).run quietPeriod seeing
      (.endLookup op result) answers (Activity.endLookup op result).routine) := by
  cases found : m.client.resolve? op with
  | none =>
      have absent : (m.reaches op (.finished (some result))).client.resolve? op = none := found
      rw [Activity.routine, run_endLookup_of_none absent]
      exact .head (.lose (some result) (.inl found) (running_of_any looking isOver_of_isLooking))
        (moves_done fun closing => by cases closing)
  | some resolve =>
      have brought : (some result).all LookupResult.isSorted := sorted
      exact moves_conclude orderly found brought rfl (by simp)

/-- A task takes its first step. -/
theorem moves_beginLookup (orderly : Orderly m) (op : Nat)
    (ready : (m.tasks op).any Task.isReady) (sorted : answers.found.all LookupResult.isSorted) :
    Moves quietPeriod m ((m.reaches op (.finished none)).run quietPeriod seeing (.beginLookup op)
      answers (Activity.beginLookup op).routine) := by
  have done (m : Moment) : Moves quietPeriod m (m.record (.ended (.beginLookup op) (.ok none))) :=
    moves_done fun closing => by cases closing
  rw [Activity.routine, Client.beginLookup, bind_assoc, run_get]
  have client : (m.reaches op (.finished none)).client = m.client := rfl
  rw [client]
  cases found : m.client.resolve? op with
  | none =>
      exact .head (.lose none (.inl found) (running_of_any ready isOver_of_isReady)) (done _)
  | some resolve =>
      have opened : m.client.isOpen = true := by
        by_contra shut
        cases found.symm.trans ((orderly.shut (by simpa using shut)).2 op)
      simp only [opened, if_true]
      cases m.client.timeout with
      | none => exact moves_conclude orderly found rfl rfl (by simp)
      | some timeout =>
          simp only [bind_assoc]
          rw [run_ask rfl]
          simp only [answer]
          cases brings : answers.found with
          | none =>
              simp only [reaches_reaches]
              exact .head (.look found) (done _)
          | some result =>
              have brought : (some result).all LookupResult.isSorted := brings ▸ sorted
              simp only [reaches_reaches]
              exact moves_conclude orderly found brought rfl (by simp)

/-! ## All that happens -/

/-- A call that has been waiting goes on. -/
theorem moves_resume (orderly : Orderly m) {call : Call} (proper : call.Proper m.client)
    {reply : Except Fault Unit} {answer : call.request.Answer}
    (replied : call.request.reply? reply = some answer) :
    Moves quietPeriod m (m.run quietPeriod seeing call.activity answers (call.resume answer)) := by
  cases proper with
  | stopping browse =>
      obtain rfl : reply = answer := Option.some.inj replied
      cases reply with
      | ok => exact moves_done fun closing => by cases closing
      | error fault => exact moves_failed fault
  | closing browse rest covers =>
      obtain rfl : reply = answer := Option.some.inj replied
      cases reply with
      | ok => exact moves_closing orderly covers
      | error fault => exact moves_failed fault
  | closed shut empty =>
      obtain rfl : reply = answer := Option.some.inj replied
      cases reply with
      | ok => exact moves_done fun _ => empty
      | error fault => exact moves_failed fault

/-- An activity begins that can. -/
theorem moves_begin (orderly : Orderly m) (permitted : m.permits answers activity = true) :
    Moves quietPeriod m (((m.entered activity).record (.begun activity)).run quietPeriod
      (seeAll quietPeriod answers.seen) activity answers activity.routine) := by
  -- those that close a handle when they begin do so in one move with what follows
  have after_begun {m' : Moment}
      (closes : ∀ handle, (Entry.begun activity).Closes handle → ¬m.client.Holds handle)
      (rest : Moves quietPeriod (m.record (.begun activity)) m') : Moves quietPeriod m m' :=
    (moves_begun closes).trans rest
  have orderly' := orderly.record (.begun activity)
  cases activity with
  | openSession =>
      have calm : m.isClosing = false := by simpa [permits] using permitted
      exact after_begun (fun _ closed => closed.elim) (moves_openSession calm)
  | closeSession =>
      exact after_begun (fun _ closed => closed.elim) (moves_closeSession orderly')
  | startBrowse service =>
      have calm : m.isClosing = false := by simpa [permits] using permitted
      exact after_begun (fun _ closed => closed.elim) (moves_startBrowse orderly' calm service)
  | stopBrowse browse => exact moves_stopBrowse orderly browse
  | resolve service name family =>
      have calm : m.isClosing = false := by simpa [permits] using permitted
      exact after_begun (fun _ closed => closed.elim)
        (moves_resolve (m := m.record _) calm service name family)
  | cancelResolve op => exact moves_cancelResolve op
  | notify browse fullName change =>
      exact after_begun (fun _ closed => closed.elim) (moves_notify orderly' browse fullName change)
  | quiet browse =>
      have due : ∃ alarm ∈ m.schedule.alarms, alarm.about = browse ∧ alarm.due ≤ m.now := by
        simpa [permits] using permitted
      exact after_begun (fun _ closed => closed.elim) (moves_quiet orderly' browse due)
  | beginLookup op =>
      obtain ⟨ready, sorted⟩ := Bool.and_eq_true_iff.1 permitted
      exact after_begun (fun _ closed => closed.elim) (moves_beginLookup orderly' op ready sorted)
  | endLookup op result =>
      obtain ⟨looking, sorted⟩ := Bool.and_eq_true_iff.1 permitted
      exact after_begun (fun _ closed => closed.elim)
        (moves_endLookup orderly' op looking sorted)

/-- Whatever happens is a chain of moves. -/
theorem moves_of_act (orderly : Orderly m) {deed : Deed}
    (acted : m.act quietPeriod deed = some m') : Moves quietPeriod m m' := by
  cases deed with
  | begin activity answers =>
      obtain ⟨permitted, same⟩ := Option.ite_none_right_eq_some.1 acted
      obtain rfl := Option.some.inj same
      exact moves_begin orderly permitted
  | reply call reply =>
      obtain ⟨waiting, waits, rest⟩ := Option.bind_eq_some_iff.1 acted
      obtain ⟨answer, replied, same⟩ := Option.bind_eq_some_iff.1 rest
      obtain rfl := Option.some.inj same
      have left : Move quietPeriod m { m with waiting := m.waiting.eraseIdx call } :=
        .await _ fun other remains => orderly.calls other (List.mem_of_mem_eraseIdx remains)
      have proper := orderly.calls waiting (List.mem_of_getElem? waits)
      exact .head left (moves_resume (left.orderly orderly) proper replied)
  | abandon op =>
      obtain ⟨abandoned, same⟩ := Option.ite_none_right_eq_some.1 acted
      obtain rfl := Option.some.inj same
      cases task : m.tasks op with
      | none => simp [task] at abandoned
      | some task => exact .single (.lose none (.inr (by simp_all)) (by simp_all))
  | pass time =>
      obtain ⟨⟨later, punctual⟩, same⟩ := Option.ite_none_right_eq_some.1 acted
      obtain rfl := Option.some.inj same
      exact .single (.pass later punctual)

end Moment

/-- The client is always in order. -/
theorem Reached.orderly (reached : Reached quietPeriod m) : Orderly m := by
  induction reached with
  | new ipVersion resolveTimeout => exact .new ipVersion resolveTimeout
  | act before acted ih => exact (Moment.moves_of_act ih acted).orderly ih

/-- What moves preserve in order, a chain of moves preserves. -/
theorem Moves.preserves {holds : Moment → Prop}
    (move : ∀ {m m'}, Orderly m → Move quietPeriod m m' → holds m → holds m')
    (orderly : Orderly m) (moves : Moves quietPeriod m m') (before : holds m) : holds m' := by
  induction moves with
  | refl => exact before
  | tail moves last ih => exact move (Moves.orderly moves orderly) last ih

/-- What moves preserve holds at all moments of all runs, if it holds of new clients. -/
theorem Reached.preserves {holds : Moment → Prop}
    (new : ∀ ipVersion resolveTimeout, holds (.new ipVersion resolveTimeout))
    (move : ∀ {m m'}, Orderly m → Move quietPeriod m m' → holds m → holds m')
    (reached : Reached quietPeriod m) : holds m := by
  induction reached with
  | new ipVersion resolveTimeout => exact new ipVersion resolveTimeout
  | act before acted ih =>
      exact Moves.preserves move before.orderly (Moment.moves_of_act before.orderly acted) ih

end ScannerDiscovery.Mdns
