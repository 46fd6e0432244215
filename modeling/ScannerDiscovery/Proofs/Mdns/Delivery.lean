import ScannerDiscovery.Proofs.Mdns.Silence

/-!
# Every resolve is delivered once

A resolve is under way until it is cancelled, by itself or with the session, or its lookup is over.
If it is not cancelled before, the end of its lookup is reported under its handle, once; and a
cancelled resolve is never reported, although its lookup may still come to an end.

Main definitions:

- `Resolve.Accepts` : the answers that a resolve can use.
- `reportsOf` : the reports of a handle.
- `Accounted` : the stages of a resolve, and what has been reported in each.
- `Delivered` : what is promised of a resolve.

Main results:

- `Resolve.kind_event` : a resolve reports success if and only if it can use the answer.
- `Accounted.move` : a move brings a resolve from one stage to another.
- `resolve_delivered_once` : every resolve is delivered once.
-/

namespace ScannerDiscovery.Mdns

variable {quietPeriod : ℚ} {m m' : Moment} {r : Resolve}

/-! ## What a resolve reports -/

/-- The addresses that an answer lists for a family. -/
def Answer.addresses (answer : Answer) : Ip.Family → List String
  | .ipv4 => answer.v4
  | .ipv6 => answer.v6

/-- Whether a resolve can use an answer: it lists an address of the family and a port that is not
zero, and it can be decoded. -/
structure Resolve.Accepts (r : Resolve) (answer : Answer) : Prop where
  address : answer.addresses r.family ≠ []
  port : ∃ port, answer.port = some port ∧ port ≠ 0
  decodes : ∃ picked, pickAddress answer.v4 answer.v6 r.family = .ok picked

/-- An address is picked if one is listed for the family; that of a sorted answer is of the
family. -/
theorem pickAddress_spec {answer : Answer} {family : Ip.Family} {picked : Option Ip.Address}
    {ifindex : Option Int}
    (decoded : pickAddress answer.v4 answer.v6 family = .ok (picked, ifindex)) :
    (answer.addresses family = [] ∧ picked = none) ∨
      answer.addresses family ≠ [] ∧ ∃ address, picked = some address ∧
        (answer.isSorted = true → address.family = family) := by
  cases family with
  | ipv4 =>
      unfold pickAddress at decoded
      cases listed : answer.v4 with
      | nil =>
          simp only [listed, Except.ok.injEq, Prod.mk.injEq] at decoded
          exact .inl ⟨listed, decoded.1.symm⟩
      | cons text rest =>
          simp only [listed] at decoded
          split at decoded
          · next address read =>
              simp only [Except.ok.injEq, Prod.mk.injEq] at decoded
              refine .inr ⟨by simp [Answer.addresses, listed], address, decoded.1.symm, ?_⟩
              intro sorted
              simp only [Answer.isSorted, listed, List.all_cons, Bool.and_eq_true] at sorted
              simpa [read] using sorted.1.1
          · cases decoded
  | ipv6 =>
      unfold pickAddress at decoded
      cases listed : answer.v6 with
      | nil =>
          simp only [listed, Except.ok.injEq, Prod.mk.injEq] at decoded
          exact .inl ⟨listed, decoded.1.symm⟩
      | cons text rest =>
          simp only [listed, bind, Except.bind] at decoded
          split at decoded
          · cases decoded
          · split at decoded
            · cases decoded
            · next groups _ =>
                cases decoded
                exact .inr ⟨by simp [Answer.addresses, listed], _, rfl, fun _ => rfl⟩

/-- A resolve reports that it has found something exactly if it accepts the answer. -/
theorem Resolve.kind_resolvedBy (r : Resolve) (answer : Answer) :
    (Client.resolvedBy r answer).kind = .found ↔ r.Accepts answer := by
  unfold Client.resolvedBy
  cases decoded : pickAddress answer.v4 answer.v6 r.family with
  | error error =>
      refine iff_of_false (by simp) fun accepts => ?_
      obtain ⟨picked, decoded'⟩ := accepts.decodes
      cases decoded.symm.trans decoded'
  | ok result =>
      obtain ⟨picked, ifindex⟩ := result
      obtain ⟨unlisted, rfl⟩ | ⟨listed, address, rfl, -⟩ := pickAddress_spec decoded
      · exact iff_of_false (by simp) fun accepts => accepts.address unlisted
      · cases port : answer.port with
        | none =>
            refine iff_of_false (by simp) fun accepts => ?_
            obtain ⟨port', same, -⟩ := accepts.port
            cases port.symm.trans same
        | some port' =>
            by_cases zero : port' = 0
            · refine iff_of_false (by simp [zero]) fun accepts => ?_
              obtain ⟨other, same, nonzero⟩ := accepts.port
              exact nonzero (Option.some.inj (same.symm.trans port) ▸ zero)
            · exact iff_of_true (by simp [zero]) ⟨listed, ⟨port', port, zero⟩, _, decoded⟩

/-- A resolve reports success if and only if its lookup has brought an answer that it can use. -/
theorem Resolve.kind_event (r : Resolve) (result : Option LookupResult) :
    (r.event result).kind = .found ↔
      ∃ answer, result = some (.answered answer) ∧ r.Accepts answer := by
  match result with
  | none | some .unanswered | some (.failed _) => simp [Resolve.event]
  | some (.answered answer) =>
      simp only [Resolve.event, kind_resolvedBy, Option.some.injEq, LookupResult.answered.injEq]
      constructor
      · intro accepts
        exact ⟨answer, rfl, accepts⟩
      · rintro ⟨other, rfl, accepts⟩
        exact accepts

/-- The address that a resolve reports is of its family. -/
theorem Resolve.address_event (r : Resolve) {result : Option LookupResult}
    (sorted : result.all LookupResult.isSorted) (found : (r.event result).kind = .found) :
    ∃ address, (r.event result).address = some address ∧ address.family = r.family := by
  obtain ⟨answer, rfl, accepts⟩ := (r.kind_event result).1 found
  obtain ⟨⟨picked, ifindex⟩, decoded⟩ := accepts.decodes
  obtain ⟨port, hport, nonzero⟩ := accepts.port
  obtain ⟨unlisted, -⟩ | ⟨-, address, rfl, family⟩ := pickAddress_spec decoded
  · exact (accepts.address unlisted).elim
  · refine ⟨address, ?_, family sorted⟩
    simp [Resolve.event, Client.resolvedBy, decoded, hport, nonzero]

/-! ## The stages of a resolve -/

/-- The reports of a handle, latest first. -/
def reportsOf (handle : Ticket) (h : History) : List Line :=
  h.filter fun line => line.entry.handle? = some handle

/-- Whether a resolve has been given. -/
def Resolve.IsGiven (r : Resolve) (h : History) : Prop :=
  ∃ line ∈ h, line.entry = .ended (.resolve r.service r.name r.family) (.ok (some r.handle))

/-- The stages of a resolve that has been given: it is under way and not reported; it has been
cancelled and is not reported; or its lookup is over, and that has been reported once. -/
inductive Accounted (r : Resolve) (m : Moment) : Prop
  | underWay (task : Task) (found : m.tasks r.number = some task) (live : task.isCancelled = false)
      (running : task.isOver = false) (held : m.client.resolve? r.number = some r)
      (unreported : reportsOf r.handle m.history = [])
  | cancelled (task : Task) (found : m.tasks r.number = some task)
      (cancelled : task.isCancelled = true) (dropped : m.client.resolve? r.number = none)
      (unreported : reportsOf r.handle m.history = []) (closed : ClosedIn r.handle m.history)
  | finished (result : Option LookupResult)
      (found : m.tasks r.number = some ⟨.finished result, false⟩)
      (dropped : m.client.resolve? r.number = none) (sorted : result.all LookupResult.isSorted)
      (time : ℚ) (activity : Activity)
      (reported : reportsOf r.handle m.history =
        [⟨time, .reported activity (.resolve (r.event result))⟩])

/-- The reports of two stretches of history are those of the later and those of the earlier one. -/
theorem reportsOf_append (handle : Ticket) (later h : History) :
    reportsOf handle (later ++ h) = reportsOf handle later ++ reportsOf handle h :=
  List.filter_append ..

/-- A handle has no reports exactly if no entry is about it. -/
theorem reportsOf_eq_nil {handle : Ticket} {h : History} :
    reportsOf handle h = [] ↔ ∀ line ∈ h, line.entry.handle? ≠ some handle := by
  simp [reportsOf, List.filter_eq_nil_iff]

/-- Whatever concerns other handles leaves the account of a resolve as it is. -/
theorem Accounted.aside (accounted : Accounted r m) (recent : History)
    (history : m'.history = recent ++ m.history)
    (unheard : ∀ line ∈ recent, line.entry.handle? ≠ some r.handle)
    (task : m'.tasks r.number = m.tasks r.number)
    (client : m'.client.resolve? r.number = m.client.resolve? r.number) : Accounted r m' := by
  have reports : reportsOf r.handle m'.history = reportsOf r.handle m.history := by
    rw [history, reportsOf_append, reportsOf_eq_nil.2 unheard, List.nil_append]
  cases accounted with
  | underWay task' found live running held unreported =>
      exact .underWay task' (task.trans found) live running (client.trans held)
        (reports.trans unreported)
  | cancelled task' found cancelled dropped unreported closed =>
      exact .cancelled task' (task.trans found) cancelled (client.trans dropped)
        (reports.trans unreported) (history ▸ closed.append recent)
  | finished result found dropped sorted time activity reported =>
      exact .finished result (task.trans found) (client.trans dropped) sorted time activity
        (reports.trans reported)

/-! ## What moves do to resolves -/

/-- Whether an entry is about no resolve: it is no report of one, and no end of a call that gives
one. -/
structure Entry.IsForeign (entry : Entry) : Prop where
  unheard : ∀ r : Resolve, entry.handle? ≠ some r.handle
  ungiven : ∀ service name family handle,
    entry ≠ .ended (.resolve service name family) (.ok (some handle))

/-- What a move does to resolves: nothing; it cancels all of them; or one of them is begun,
cancelled, waits for its lookup, is concluded, or has its task come to an end after it has been
cancelled. -/
inductive Moment.Attends (m m' : Moment) : Prop
  | aside (recent : History) (history : m'.history = recent ++ m.history)
      (foreign : ∀ line ∈ recent, line.entry.IsForeign) (tasks : m'.tasks = m.tasks)
      (resolves : m'.client.resolves = m.client.resolves)
  | shut (history : m'.history = ⟨m.now, .waits .closeSession .closeClient⟩ :: m.history)
      (tasks : ∀ op, m'.tasks op = if (m.client.resolve? op).isSome then
        (m.tasks op).map fun task => { task with isCancelled := true } else m.tasks op)
      (dropped : ∀ op, m'.client.resolve? op = none)
  | begins (resolve : Resolve) (number : resolve.number = m.client.nextResolve)
      (history : m'.history = ⟨m.now, .ended (.resolve resolve.service resolve.name resolve.family)
        (.ok (some resolve.handle))⟩ :: m.history)
      (tasks : m'.tasks = Function.update m.tasks resolve.number (some {}))
      (client : m'.client = m.client.given resolve)
  | cancels (op : Nat) (resolve : Resolve) (found : m.client.resolve? op = some resolve)
      (same : m' = (m.record (.begun (.cancelResolve op))).cancelled op)
  | looks (op : Nat) (resolve : Resolve) (found : m.client.resolve? op = some resolve)
      (same : m' = m.reaches op .looking)
  | concludes (op : Nat) (resolve : Resolve) (found : m.client.resolve? op = some resolve)
      (activity : Activity) (result : Option LookupResult)
      (sorted : result.all LookupResult.isSorted)
      (same : m' = ((m.reaches op (.finished result)).withClient (·.withoutResolve op)).record
        (.reported activity (.resolve (resolve.event result))))
  | loses (op : Nat) (result : Option LookupResult)
      (lost : m.client.resolve? op = none ∨ (m.tasks op).any (·.isCancelled))
      (running : (m.tasks op).any fun task => !task.isOver)
      (same : m' = m.reaches op (.finished result))

/-- An entry that neither reports nor gives a handle is foreign to all resolves. -/
theorem Entry.isForeign_of_none {entry : Entry} (unheard : entry.handle? = none)
    (ungiven : entry.given? = none) : entry.IsForeign where
  unheard := fun r heard => by cases unheard.symm.trans heard
  ungiven := by
    rintro service name family handle rfl
    cases ungiven

/-- A browse report is about no resolve. -/
theorem Entry.isForeign_of_browse {activity : Activity} {event : BrowseEvent} :
    (Entry.reported activity (.browse event)).IsForeign where
  unheard := fun r heard => by
    cases activity <;> cases heard
  ungiven := fun service name family handle same => by cases same

/-- Every move does one of these things to resolves. -/
theorem Move.attends (move : Move quietPeriod m m') : m.Attends m' := by
  cases move with
  | @note entry unheard ungiven =>
      refine .aside [⟨m.now, entry⟩] rfl ?_ rfl rfl
      simpa using Entry.isForeign_of_none (Entry.handle?_of_not_isReport unheard) ungiven
  | await | pass | openUp | attach | ring => exact .aside [] rfl (by simp) rfl rfl
  | shut stopped =>
      exact .shut (Moment.history_record_allCancelled _ _) Moment.tasks_allCancelled
        Moment.resolve?_allCancelled
  | @withdraw number browse =>
      refine .aside [] (Moment.dropped_history browse) (by simp) (Moment.dropped_tasks browse) ?_
      change (m.dropped browse).client.resolves = _
      rw [Moment.dropped_client]
      rfl
  | @watch number browse found last unwatched unreported service =>
      refine .aside [⟨m.now, .ended (.startBrowse service) (.ok (some (Browse.handle number)))⟩] ?_
        ?_ (Moment.refreshed_tasks number) (Moment.refreshed_resolves number)
      · exact Moment.history_record_refreshed _ _
      · simp only [List.mem_singleton, forall_eq]
        exact {
          unheard := fun r heard => by cases heard
          ungiven := fun _ _ _ _ same => by cases same }
  | @tellNew number browse found fullName event =>
      refine .aside [⟨m.now, .reported (.notify number fullName .added) (.browse event)⟩]
        (Moment.refreshed_history number) ?_ (Moment.refreshed_tasks number)
        (Moment.refreshed_resolves number)
      simpa using Entry.isForeign_of_browse
  | @tellGone number browse found fullName event =>
      refine .aside [⟨m.now, .reported (.notify number fullName .removed) (.browse event)⟩] rfl ?_
        rfl rfl
      simpa using Entry.isForeign_of_browse
  | @tellAll number browse found due event =>
      refine .aside [⟨m.now, .reported (.quiet number) (.browse event)⟩] rfl ?_ rfl rfl
      simpa using Entry.isForeign_of_browse
  | @stop number browse found recent unheard ungiven =>
      rw [Moment.foldr_record]
      refine .aside (recent.map (Line.mk (m.dropped browse).now ·)) ?_ ?_
        (Moment.dropped_tasks browse) ?_
      · change _ ++ (m.dropped browse).history = _
        rw [Moment.dropped_history]
      · intro line hmem
        obtain ⟨entry, listed, rfl⟩ := List.mem_map.1 hmem
        exact Entry.isForeign_of_none (Entry.handle?_of_not_isReport (unheard entry listed))
          (ungiven entry listed)
      · change (m.dropped browse).client.resolves = _
        rw [Moment.dropped_client]
        rfl
  | @resolve opened calm resolve number => exact .begins resolve number rfl rfl rfl
  | @cancel op resolve found => exact .cancels op resolve found rfl
  | @look op resolve found => exact .looks op resolve found rfl
  | @conclude op resolve found activity result sorted =>
      exact .concludes op resolve found activity result sorted rfl
  | @lose op result lost running => exact .loses op result lost running rfl

/-! ## From stage to stage -/

/-- The handle of a resolve that has been given has been given out. -/
theorem Resolve.IsGiven.givenIn {h : History} (given : r.IsGiven h) : GivenIn r.handle h := by
  obtain ⟨line, hmem, same⟩ := given
  exact ⟨line, hmem, by rw [same]; rfl⟩

/-- The number of a resolve is used up exactly if it is below that of the next one. -/
theorem hasIssued_handle {c : Client} : c.HasIssued r.handle ↔ r.number < c.nextResolve := by
  constructor
  · rintro (⟨number, same, -⟩ | ⟨op, same, below⟩)
    · cases same
    · rw [Client.resolveNumber?_handle] at same
      exact Option.some.inj same ▸ below
  · intro below
    exact .inr ⟨r.number, Client.resolveNumber?_handle r, below⟩

/-- A stage that a task reaches is the stage of this task alone. -/
theorem tasks_reaches (op k : Nat) (stage : Stage) :
    (m.reaches op stage).tasks k =
      if k = op then (m.tasks k).map fun task => { task with stage } else m.tasks k := by
  by_cases same : k = op
  · subst same
    simp [Moment.reaches, Moment.withTask]
  · simp [Moment.reaches, Moment.withTask, same]

/-- An entry about another handle adds no report. -/
theorem reportsOf_cons_of_ne {handle : Ticket} {line : Line} {h : History}
    (other : line.entry.handle? ≠ some handle) :
    reportsOf handle (line :: h) = reportsOf handle h := by
  simp [reportsOf, other]

/-- A report of a handle is the latest of its reports. -/
theorem reportsOf_cons_of_eq {handle : Ticket} {line : Line} {h : History}
    (heard : line.entry.handle? = some handle) :
    reportsOf handle (line :: h) = line :: reportsOf handle h := by
  simp [reportsOf, heard]

/-- An entry that closes a resolve leaves it cancelled, unless its lookup is over. -/
theorem Accounted.close (accounted : Accounted r m) (given : GivenIn r.handle m.history)
    {line : Line} (history : m'.history = line :: m.history)
    (unheard : line.entry.handle? = none) (closes : line.entry.Closes r.handle)
    (tasks : m'.tasks r.number = if (m.client.resolve? r.number).isSome then
      (m.tasks r.number).map fun task => { task with isCancelled := true } else m.tasks r.number)
    (dropped : m'.client.resolve? r.number = none) : Accounted r m' := by
  have aside (accounted : Accounted r m) (absent : m.client.resolve? r.number = none) :
      Accounted r m' := by
    refine accounted.aside [line] history (by simp [unheard]) ?_ (dropped.trans absent.symm)
    rw [tasks, absent]
    rfl
  cases accounted with
  | underWay task found live running held unreported =>
      refine .cancelled { task with isCancelled := true } ?_ rfl dropped ?_ ?_
      · rw [tasks, held, found]
        rfl
      · rw [history, reportsOf_cons_of_ne (by simp [unheard]), unreported]
      · rw [history]
        exact .inl ⟨closes, given⟩
  | cancelled task found cancelled absent unreported closed =>
      exact aside (.cancelled task found cancelled absent unreported closed) absent
  | finished result found absent sorted time activity reported =>
      exact aside (.finished result found absent sorted time activity reported) absent

/-- A move brings a resolve that has been given from one stage to another. -/
theorem Accounted.move (silent : Silent m) (given : r.IsGiven m.history)
    (move : Move quietPeriod m m') (accounted : Accounted r m) : Accounted r m' := by
  have known := hasIssued_handle.1 (silent.issued r.handle given.givenIn)
  cases move.attends with
  | aside recent history foreign tasks resolves =>
      refine accounted.aside recent history (fun line hmem => (foreign line hmem).unheard r)
        (by rw [tasks]) ?_
      rw [Client.resolve?, resolves]
      rfl
  | shut history tasks dropped =>
      exact accounted.close given.givenIn history rfl trivial (tasks r.number) (dropped r.number)
  | begins resolve number history tasks client =>
      have other : r.number ≠ resolve.number := by omega
      refine accounted.aside [_] history (by simp [Entry.handle?]) ?_ ?_
      · rw [tasks, Function.update_of_ne other]
      · rw [client, Client.resolve?_given, if_neg other.symm, Option.or_none]
  | cancels op resolve found same =>
      subst same
      by_cases this : r.number = op
      · subst this
        refine accounted.close given.givenIn (Moment.cancelled_history r.number) rfl
          (Client.resolveNumber?_handle r) ?_ ?_
        · rw [Moment.tasks_cancelled]
          simp only [true_and]
          rfl
        · rw [Moment.resolve?_cancelled, if_pos rfl]
      · refine accounted.aside [_] (Moment.cancelled_history op) (by simp [Entry.handle?]) ?_ ?_
        · rw [Moment.tasks_cancelled, if_neg fun both => this both.1]
          rfl
        · rw [Moment.resolve?_cancelled, if_neg this]
          rfl
  | looks op resolve found same =>
      subst same
      by_cases this : r.number = op
      · subst this
        cases accounted with
        | underWay task running live before held unreported =>
            refine .underWay { task with stage := .looking } ?_ live rfl held unreported
            rw [tasks_reaches, if_pos rfl, running]
            rfl
        | cancelled _ _ _ dropped | finished _ _ dropped => cases found.symm.trans dropped
      · refine accounted.aside [] rfl (by simp) ?_ rfl
        rw [tasks_reaches, if_neg this]
  | concludes op resolve found activity result sorted same =>
      subst same
      have heard : (Entry.reported activity (.resolve (resolve.event result))).handle? =
          some resolve.handle :=
        congrArg some (resolve.op_event result)
      by_cases this : r.number = op
      · subst this
        cases accounted with
        | underWay task running live before held unreported =>
            obtain rfl : r = resolve := Option.some.inj (held.symm.trans found)
            refine .finished result ?_ ?_ sorted m.now activity ?_
            · change (m.reaches r.number (.finished result)).tasks r.number = _
              rw [tasks_reaches, if_pos rfl, running, Option.map_some, live]
            · exact (Client.resolve?_withoutResolve r.number).trans (if_pos rfl)
            · exact (reportsOf_cons_of_eq heard).trans (congrArg _ unreported)
        | cancelled _ _ _ dropped | finished _ _ dropped => cases found.symm.trans dropped
      · have other : resolve.handle ≠ r.handle := by
          intro same
          refine this ?_
          rw [← Client.number_of_resolve? found]
          have number := congrArg Client.resolveNumber? same
          exact (Option.some.inj number).symm
        refine accounted.aside [_] rfl ?_ ?_ ?_
        · simpa [heard] using other
        · change (m.reaches op (.finished result)).tasks r.number = _
          rw [tasks_reaches, if_neg this]
        · exact (Client.resolve?_withoutResolve r.number).trans (if_neg this)
  | loses op result lost running same =>
      subst same
      by_cases this : r.number = op
      · subst this
        cases accounted with
        | underWay task found live before held unreported =>
            obtain absent | cancelled := lost
            · cases held.symm.trans absent
            · simp [found, live] at cancelled
        | cancelled task found cancelled dropped unreported closed =>
            refine .cancelled { task with stage := .finished result } ?_ cancelled dropped
              unreported closed
            rw [tasks_reaches, if_pos rfl, found]
            rfl
        | finished _ found => simp [found, Task.isOver] at running
      · refine accounted.aside [] rfl (by simp) ?_ rfl
        rw [tasks_reaches, if_neg this]

/-! ## All resolves -/

/-- Whether all resolves that have been given are accounted for, under the handles that have been
returned, and only resolves with numbers that are used up have been reported. -/
structure AllAccounted (m : Moment) : Prop where
  known : ∀ line ∈ m.history, ∀ r : Resolve, line.entry.handle? = some r.handle →
    m.client.HasIssued r.handle
  returned : ∀ line ∈ m.history, ∀ service name family handle,
    line.entry = .ended (.resolve service name family) (.ok (some handle)) →
      ∃ number, handle = (Resolve.mk number service name family).handle
  accounted : ∀ r : Resolve, r.IsGiven m.history → Accounted r m

/-- A call that returns the handle of a resolve has done so before, or begins the resolve now. -/
theorem Move.given_or_begins (move : Move quietPeriod m m') {line : Line} {service : Service}
    {name : String} {family : Ip.Family} {handle : Ticket} (hmem : line ∈ m'.history)
    (gives : line.entry = .ended (.resolve service name family) (.ok (some handle))) :
    line ∈ m.history ∨ ∃ r : Resolve, r = ⟨m.client.nextResolve, service, name, family⟩ ∧
      handle = r.handle ∧ m'.history = line :: m.history ∧
      m'.tasks = Function.update m.tasks r.number (some {}) ∧ m'.client = m.client.given r := by
  have earlier {other : Line} (history : m'.history = other :: m.history)
      (foreign : ∀ service name family handle,
        other.entry ≠ .ended (.resolve service name family) (.ok (some handle))) :
      line ∈ m.history := by
    obtain rfl | before := List.mem_cons.1 (history ▸ hmem)
    · exact (foreign _ _ _ _ gives).elim
    · exact before
  cases move.attends with
  | aside recent history foreign =>
      obtain recent | before := List.mem_append.1 (history ▸ hmem)
      · exact ((foreign line recent).ungiven _ _ _ _ gives).elim
      · exact .inl before
  | shut history => exact .inl (earlier history fun _ _ _ _ same => by cases same)
  | begins resolve number history tasks client =>
      obtain rfl | before := List.mem_cons.1 (history ▸ hmem)
      · refine .inr ⟨resolve, ?_, ?_, history, tasks, client⟩ <;> cases gives
        · rw [← number]
        · rfl
      · exact .inl before
  | cancels op resolve found same =>
      subst same
      exact .inl (earlier (Moment.cancelled_history op) fun _ _ _ _ same => by cases same)
  | looks op resolve found same =>
      subst same
      exact .inl hmem
  | concludes op resolve found activity result sorted same =>
      subst same
      exact .inl (earlier rfl fun _ _ _ _ same => by cases same)
  | loses op result lost running same =>
      subst same
      exact .inl hmem

/-- The number of a resolve under way is used up. -/
theorem Orderly.hasIssued (orderly : Orderly m) (held : m.client.Holds r.handle) :
    m.client.HasIssued r.handle := by
  obtain ⟨number, browse, -, same⟩ | ⟨op, resolve, found, same⟩ := held
  · cases same
  · rw [same, hasIssued_handle, Client.number_of_resolve? found]
    exact orderly.resolves op (Option.isSome_of_eq_some found)

/-- A resolve that is begun now is under way, and has not been reported. -/
theorem AllAccounted.begun (accounts : AllAccounted m) (orderly : Orderly m)
    (number : r.number = m.client.nextResolve) {line : Line} (unheard : line.entry.handle? = none)
    (history : m'.history = line :: m.history)
    (tasks : m'.tasks = Function.update m.tasks r.number (some {}))
    (client : m'.client = m.client.given r) : Accounted r m' := by
  refine .underWay {} ?_ rfl rfl ?_ ?_
  · rw [tasks, Function.update_self]
  · have absent : m.client.resolve? r.number = none := by
      by_contra held
      have below := orderly.resolves r.number (Option.isSome_iff_ne_none.2 held)
      omega
    rw [client, Client.resolve?_given, absent, if_pos rfl]
    rfl
  · rw [history, reportsOf_cons_of_ne (by simp [unheard]), reportsOf_eq_nil]
    intro line hmem heard
    have below := hasIssued_handle.1 (accounts.known line hmem r heard)
    omega

/-- A move keeps the account of all resolves. -/
theorem Move.allAccounted (orderly : Orderly m) (silent : Silent m)
    (move : Move quietPeriod m m') (accounts : AllAccounted m) : AllAccounted m' where
  known := by
    intro line hmem r heard
    cases move.adds with
    | report entry history held =>
        obtain rfl | before := List.mem_cons.1 (history ▸ hmem)
        · exact move.hasIssued (orderly.hasIssued (held _ heard))
        · exact move.hasIssued (accounts.known line before r heard)
    | entries recent history unheard =>
        obtain recent | before := List.mem_append.1 (history ▸ hmem)
        · obtain ⟨entry, listed, rfl⟩ := List.mem_map.1 recent
          cases (unheard entry listed).symm.trans heard
        · exact move.hasIssued (accounts.known line before r heard)
  returned := by
    intro line hmem service name family handle gives
    obtain before | ⟨r, rfl, same, -⟩ := move.given_or_begins hmem gives
    · exact accounts.returned line before service name family handle gives
    · exact ⟨_, same⟩
  accounted := by
    rintro r ⟨line, hmem, gives⟩
    obtain before | ⟨begun, fresh, same, history, tasks, client⟩ := move.given_or_begins hmem gives
    · have given : r.IsGiven m.history := ⟨line, before, gives⟩
      exact (accounts.accounted r given).move silent given move
    · have same : r.number = begun.number :=
        Option.some.inj (congrArg Client.resolveNumber? same)
      have number : r.number = m.client.nextResolve := same.trans (congrArg Resolve.number fresh)
      obtain rfl : begun = r := by
        rw [fresh, ← number]
      exact accounts.begun orderly number (by simp [gives, Entry.handle?]) history tasks client

/-- Every resolve is accounted for at every moment of every run. -/
theorem Reached.allAccounted (reached : Reached quietPeriod m) : AllAccounted m := by
  have new (ipVersion : IpVersion) (resolveTimeout : Binary64) :
      AllAccounted (.new ipVersion resolveTimeout) := {
    known := fun line hmem => by cases hmem
    returned := fun line hmem => by cases hmem
    accounted := by
      rintro r ⟨line, hmem, -⟩
      cases hmem }
  have move {m m' : Moment} (orderly : Orderly m) (move : Move quietPeriod m m')
      (before : Silent m ∧ AllAccounted m) : Silent m' ∧ AllAccounted m' :=
    ⟨move.silent before.1, move.allAccounted orderly before.1 before.2⟩
  have both : Silent m ∧ AllAccounted m :=
    reached.preserves (fun v t => ⟨(Reached.new v t : Reached quietPeriod _).isSilent, new v t⟩)
      move
  exact both.2

/-! ## Delivery -/

/-- What is promised of a resolve that has been given. -/
structure Delivered (r : Resolve) (m : Moment) : Prop where
  /-- It is reported once at most. -/
  once : (reportsOf r.handle m.history).length ≤ 1
  /-- Once it has been cancelled, or the session has been closed, no report of it is seen, in that
  session or a later one. -/
  silent : ∀ {later earlier : History} {line : Line}, m.history = later ++ line :: earlier →
    r.IsGiven earlier → line.entry.Closes r.handle → reportsOf r.handle later = []
  /-- Until then its task is not cancelled. -/
  live : ¬ClosedIn r.handle m.history →
    ∃ task, m.tasks r.number = some task ∧ task.isCancelled = false
  /-- If its task comes to an end by then, that is reported, once: with success, and an address of
  the family, if and only if the lookup has brought an answer that the resolve can use. -/
  concluded : ∀ {result : Option LookupResult} {isCancelled : Bool},
    m.tasks r.number = some ⟨.finished result, isCancelled⟩ → ¬ClosedIn r.handle m.history →
      ∃ time activity event,
        reportsOf r.handle m.history = [⟨time, .reported activity (.resolve event)⟩] ∧
        (event.kind = .found ↔ ∃ answer, result = some (.answered answer) ∧ r.Accepts answer) ∧
        (event.kind = .found → ∃ address, event.address = some address ∧ address.family = r.family)
  /-- When the session has been closed it is no longer under way: its task has been cancelled, or is
  over. -/
  closed : ∀ {later earlier : History} {line : Line} {given : Option Ticket},
    m.history = later ++ line :: earlier → r.IsGiven earlier →
      line.entry = .ended .closeSession (.ok given) →
        m.client.resolve? r.number = none ∧
          ∃ task, m.tasks r.number = some task ∧ (task.isCancelled = true ∨ task.isOver = true)

/-- A resolve that is accounted for has been reported once at most. -/
theorem Accounted.once (accounted : Accounted r m) : (reportsOf r.handle m.history).length ≤ 1 := by
  cases accounted with
  | underWay _ _ _ _ _ unreported | cancelled _ _ _ _ unreported => simp [unreported]
  | finished _ _ _ _ _ _ reported => simp [reported]

/-- If it has not been closed then its task has not been cancelled. -/
theorem Accounted.live (accounted : Accounted r m) (unclosed : ¬ClosedIn r.handle m.history) :
    ∃ task, m.tasks r.number = some task ∧ task.isCancelled = false := by
  cases accounted with
  | underWay task found live => exact ⟨task, found, live⟩
  | cancelled _ _ _ _ _ closed => exact (unclosed closed).elim
  | finished _ found => exact ⟨_, found, rfl⟩

/-- If it has not been closed then the end of its task has been reported. -/
theorem Accounted.concluded (accounted : Accounted r m) {result : Option LookupResult}
    {isCancelled : Bool} (found : m.tasks r.number = some ⟨.finished result, isCancelled⟩)
    (unclosed : ¬ClosedIn r.handle m.history) :
    result.all LookupResult.isSorted ∧ ∃ time activity, reportsOf r.handle m.history =
      [⟨time, .reported activity (.resolve (r.event result))⟩] := by
  cases accounted with
  | underWay task found' _ running =>
      obtain rfl := Option.some.inj (found.symm.trans found')
      cases running
  | cancelled _ _ _ _ _ closed => exact (unclosed closed).elim
  | finished result' found' _ sorted time activity reported =>
      cases found.symm.trans found'
      exact ⟨sorted, time, activity, reported⟩

/-- If the client no longer holds it then its task has been cancelled, or is over. -/
theorem Accounted.closed (accounted : Accounted r m) (dropped : ¬m.client.Holds r.handle) :
    m.client.resolve? r.number = none ∧
      ∃ task, m.tasks r.number = some task ∧ (task.isCancelled = true ∨ task.isOver = true) := by
  cases accounted with
  | underWay _ _ _ _ held => exact (dropped (.inr ⟨r.number, r, held, rfl⟩)).elim
  | cancelled task found cancelled absent => exact ⟨absent, task, found, .inl cancelled⟩
  | finished result found absent => exact ⟨absent, _, found, .inr rfl⟩

/-- Every resolve is delivered once. -/
theorem resolve_delivered_once (reached : Reached quietPeriod m) {line : Line} {service : Service}
    {name : String} {family : Ip.Family} {handle : Ticket} (given : line ∈ m.history)
    (gives : line.entry = .ended (.resolve service name family) (.ok (some handle))) :
    ∃ r : Resolve, r.service = service ∧ r.name = name ∧ r.family = family ∧ r.handle = handle ∧
      Delivered r m := by
  obtain ⟨number, rfl⟩ := reached.allAccounted.returned line given service name family handle gives
  refine ⟨⟨number, service, name, family⟩, rfl, rfl, rfl, rfl, ?_⟩
  have accounted := reached.allAccounted.accounted ⟨number, service, name, family⟩
    ⟨line, given, gives⟩
  generalize Resolve.mk number service name family = r at accounted ⊢
  refine ⟨accounted.once, ?silent, accounted.live, ?concluded, ?closed⟩
  case silent =>
    intro later earlier line history given closes
    exact reportsOf_eq_nil.2 (reached.silent history closes given.givenIn)
  case concluded =>
    intro result isCancelled found unclosed
    obtain ⟨sorted, time, activity, reported⟩ := accounted.concluded found unclosed
    exact ⟨time, activity, _, reported, r.kind_event result, r.address_event sorted⟩
  case closed =>
    intro later earlier line returned history given closes
    have closed : line.entry.Closes r.handle := by
      rw [closes]
      exact trivial
    have before : ClosedIn r.handle (line :: earlier) := Or.inl ⟨closed, given.givenIn⟩
    exact accounted.closed (reached.isSilent.closed r.handle (history ▸ before.append later))

/-- An instance is looked up: a session is opened, the lookup begins and brings an answer. -/
def lookingUp : List Moment.Deed :=
  [.begin .openSession {}, .begin (.resolve .uscan "Office" .ipv4) {}, .begin (.beginLookup 0) {},
    .pass 1, .begin (.endLookup 0 (.answered ⟨["192.0.2.7"], [], some 8080, .empty⟩)) {}]

/-- The resolve of that lookup is delivered. -/
theorem lookingUp_delivered :
    ∃ m line, lookingUp.foldlM (Moment.act 1) (.new .all 3) = some m ∧
      (reportsOf (.lookup 0 "Office" .ipv4) m.history).map (·.time) = [1] ∧ line ∈ m.history ∧
      line.entry = .ended (.resolve .uscan "Office" .ipv4)
        (.ok (some (.lookup 0 "Office" .ipv4))) ∧
      ∃ r : Resolve, r.service = .uscan ∧ r.name = "Office" ∧ r.family = .ipv4 ∧
        r.handle = .lookup 0 "Office" .ipv4 ∧ Delivered r m := by
  obtain ⟨m, acted, reported, given⟩ :
      ∃ m, lookingUp.foldlM (Moment.act 1) (.new .all 3) = some m ∧
        (reportsOf (.lookup 0 "Office" .ipv4) m.history).map (·.time) = [1] ∧
        m.history[5]? = some ⟨0, .ended (.resolve .uscan "Office" .ipv4)
          (.ok (some (.lookup 0 "Office" .ipv4)))⟩ :=
    by with_unfolding_all exact ⟨_, rfl, rfl, rfl⟩
  have reached : Reached 1 m := (Reached.new .all 3).acts acted
  have hmem := List.mem_of_getElem? given
  exact ⟨m, _, acted, reported, hmem, rfl, resolve_delivered_once reached hmem rfl⟩

end ScannerDiscovery.Mdns
