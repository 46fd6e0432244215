import ScannerDiscovery.Proofs.Simulation.Deadline
import ScannerDiscovery.Simulation.Run

/-!
# Runs read no deadlines

A run and the same run with a deadline put off do the same work: whatever is done reads the work
that is ready and the clock, and it never reads the alarms.  While work is done no time passes, and
methods that are done stay so.

Main definitions:

- `Agree` : results that are the same but for the surroundings, which are related.
- `Loop.TrailedBy`, `Site.TrailedBy`, `Surroundings.TrailedBy`, `Run.TrailedBy` : the same with a
  deadline put off.

Main results:

- `run_agree` : a routine does the same in related surroundings that answer alike.
- `Run.TrailedBy.work` : ready work is done alike.
- `Run.now_work`, `Run.isDone_work` : what ready work leaves as it is.
- `Run.TrailedBy.ring` : the same alarms ring, apart from the deadline.
-/

namespace ScannerDiscovery.Simulation

/-! ## Routines in related surroundings -/

section Routines

variable {I : Interface} {σ ε α ω : Type} {R : ω → ω → Prop}

/-- Results that are the same but for the surroundings, which are related. -/
structure Agree (R : ω → ω → Prop) (x y : α × σ × ω) : Prop where
  value : y.1 = x.1
  state : y.2.1 = x.2.1
  world : R x.2.2 y.2.2

/-- A routine does the same in related surroundings that answer alike. -/
theorem run_agree {answer : (request : I.Request) → σ → ω → I.Answer request × σ × ω}
    (alike : ∀ request state {w w'}, R w w' →
      Agree R (answer request state w) (answer request state w'))
    (o : Outcome I σ ε α) {w w' : ω} (related : R w w') :
    Agree R (o.run answer w) (o.run answer w') := by
  induction o generalizing w w' with
  | returned value state => exact ⟨rfl, rfl, related⟩
  | raised fault state => exact ⟨rfl, rfl, related⟩
  | paused state request resume ih =>
      obtain ⟨hvalue, hstate, world⟩ := alike request state related
      simp only [Outcome.run]
      rw [hvalue, hstate]
      exact ih _ _ world

end Routines

section Steps

variable {σ : Type} {R : σ → σ → Prop}

/-- Steps that are taken alike lead to related states. -/
theorem keepOn_related {step? : σ → Option σ}
    (alike : ∀ {s t}, R s t → Option.Rel R (step? s) (step? t)) (n : Nat) {s t : σ}
    (related : R s t) : R (keepOn step? n s) (keepOn step? n t) := by
  induction n generalizing s t with
  | zero => exact related
  | succ n ih =>
      have next := alike related
      unfold keepOn
      generalize step? s = x, step? t = y at next
      cases next with
      | none => exact related
      | some related => exact ih related

end Steps

/-! ## Loops -/

namespace Loop

variable {now : Binary64} {l l' : Loop}

/-- A loop at a time, and the same loop with a deadline put off. -/
structure TrailedBy (now : Binary64) (l l' : Loop) : Prop where
  now : l.now = now
  ready : l'.ready = l.ready
  schedule : l.schedule.TrailedBy .deadline l'.schedule

namespace TrailedBy

/-- A loop with a deadline put off by nothing. -/
theorem refl (l : Loop) : TrailedBy l.now l l :=
  ⟨rfl, rfl, rfl, .same _⟩

/-- Work may be made ready in both loops. -/
theorem enqueue (trailed : TrailedBy now l l') (job : Job) :
    TrailedBy now (l.enqueue job) (l'.enqueue job) :=
  ⟨trailed.now, congrArg (· ++ [job]) trailed.ready, trailed.schedule⟩

/-- Ready work may be dropped in both loops. -/
theorem drop (trailed : TrailedBy now l l') (job : Job) :
    TrailedBy now (l.drop job) (l'.drop job) :=
  ⟨trailed.now, congrArg (List.filter (· ≠ job)) trailed.ready, trailed.schedule⟩

/-- An alarm may be armed in both loops. -/
theorem arm (trailed : TrailedBy now l l') (delay : Binary64) (bell : Bell) :
    TrailedBy now (l.arm delay bell) (l'.arm delay bell) := by
  obtain ⟨hnow, hready, clock, alarms⟩ := trailed
  have due : l'.schedule.due? delay = l.schedule.due? delay := by
    rw [Schedule.due?, clock, Schedule.due?]
  refine ⟨hnow, hready, clock, ?_⟩
  change Trails _ (l.schedule.arm delay bell).alarms (l'.schedule.arm delay bell).alarms
  rw [Schedule.arm, Schedule.arm, due]
  exact alarms.append _

/-- Alarms other than the deadline may be disarmed in both loops. -/
theorem disarm (trailed : TrailedBy now l l') {cancelled : Bell → Bool}
    (stays : cancelled .deadline = false) :
    TrailedBy now (l.disarm cancelled) (l'.disarm cancelled) :=
  ⟨trailed.now, trailed.ready, trailed.schedule.now,
    trailed.schedule.alarms.filter fun _ => by simp [stays]⟩

/-- A restart may be cancelled in both loops. -/
theorem cancelRestart (trailed : TrailedBy now l l') (generation : Nat) :
    TrailedBy now (l.cancelRestart generation) (l'.cancelRestart generation) :=
  (trailed.drop _).disarm rfl

/-- A lookup may be cancelled in both loops. -/
theorem cancelLookup (trailed : TrailedBy now l l') (op : Nat) :
    TrailedBy now (l.cancelLookup op) (l'.cancelLookup op) :=
  ((trailed.drop _).drop _).disarm rfl

/-- A quiet timer may be cancelled in both loops. -/
theorem cancelQuiet (trailed : TrailedBy now l l') (browse : Nat) :
    TrailedBy now (l.cancelQuiet browse) (l'.cancelQuiet browse) :=
  trailed.disarm rfl

/-- Any number of alarms may be armed one after another. -/
theorem armEach (trailed : TrailedBy now l l') (armed : List (Binary64 × Announcement)) :
    TrailedBy now
      (armed.foldl (fun l (delay, announcement) => l.arm delay (.announcement announcement)) l)
      (armed.foldl (fun l (delay, announcement) => l.arm delay (.announcement announcement)) l') := by
  induction armed generalizing l l' with
  | nil => exact trailed
  | cons first rest ih => exact ih (trailed.arm first.1 (.announcement first.2))

/-- Without deadlines the loops are the same. -/
theorem disarm_eq (trailed : TrailedBy now l l') {cancelled : Bell → Bool}
    (goes : cancelled .deadline = true) : l.disarm cancelled = l'.disarm cancelled := by
  obtain ⟨ready, ⟨clock, alarms⟩⟩ := l
  obtain ⟨ready', ⟨clock', alarms'⟩⟩ := l'
  obtain ⟨-, rfl, rfl, trails⟩ := trailed
  simp only [Loop.disarm, Schedule.disarm, Loop.mk.injEq, Schedule.mk.injEq, true_and]
  exact trails.filter_eq fun _ => by simp [goes]

/-- The same alarms ring, apart from the deadline. -/
theorem ring {bell : Bell} {l₁ : Loop} (trailed : TrailedBy now l l')
    (rings : l.ring? none = some (bell, l₁)) (other : bell ≠ .deadline) :
    ∃ l₁', l'.ring? none = some (bell, l₁') ∧ TrailedBy l₁.now l₁ l₁' := by
  unfold Loop.ring? at rings ⊢
  rw [Option.map_eq_some_iff] at rings
  obtain ⟨⟨bell, schedule⟩, hring, heq⟩ := rings
  cases heq
  obtain ⟨schedule', hring', after⟩ := trailed.schedule.ring hring other
  exact ⟨⟨l'.ready, schedule'⟩, by rw [hring']; rfl, rfl, trailed.ready, after⟩

end TrailedBy

end Loop

/-! ## Sites -/

namespace Site

variable {now : Binary64} {s s' : Site}

/-- A site at a time, and the same site with a deadline put off. -/
def TrailedBy (now : Binary64) (s s' : Site) : Prop :=
  ∃ l, s.loop.TrailedBy now l ∧ s' = { s with loop := l }

/-- A client is opened alike at sites with a deadline put off. -/
theorem TrailedBy.openClient (trailed : TrailedBy now s s') (version : IpVersion) :
    (s'.openClient version).1 = (s.openClient version).1 ∧
      TrailedBy now (s.openClient version).2 (s'.openClient version).2 := by
  obtain ⟨l, trailed, rfl⟩ := trailed
  cases interrupted : s.network.interrupt with
  | true =>
      simp only [Site.openClient, note, interrupted, if_true]
      exact ⟨trivial, l, trailed, rfl⟩
  | false =>
      cases failing : s.network.failClient with
      | some message =>
          simp only [Site.openClient, note, interrupted, failing, Bool.false_eq_true, if_false]
          exact ⟨trivial, l, trailed, rfl⟩
      | none =>
          simp only [Site.openClient, note, interrupted, failing, Bool.false_eq_true, if_false]
          exact ⟨trivial, _, trailed.armEach _, rfl⟩

/-- A watcher is opened alike at sites with a deadline put off. -/
theorem TrailedBy.openWatcher (trailed : TrailedBy now s s') (browse : Nat) (service : Service) :
    (s'.openWatcher browse service).1 = (s.openWatcher browse service).1 ∧
      TrailedBy now (s.openWatcher browse service).2 (s'.openWatcher browse service).2 := by
  obtain ⟨l, trailed, rfl⟩ := trailed
  cases refused : s.network.failWatcher.contains service.domainName with
  | true =>
      simp only [Site.openWatcher, note, refused, if_true]
      exact ⟨trivial, l, trailed, rfl⟩
  | false =>
      simp only [Site.openWatcher, note, refused, Bool.false_eq_true, if_false]
      exact ⟨trivial, l, trailed, rfl⟩

/-- Sites with a deadline put off answer the client alike. -/
theorem TrailedBy.answer (request : Mdns.Request) (client : Mdns.Client)
    (trailed : TrailedBy now s s') :
    Agree (TrailedBy now) (answer request client s) (answer request client s') := by
  have opened := trailed.openClient
  have watched := trailed.openWatcher
  obtain ⟨l, trailed, rfl⟩ := trailed
  cases request with
  | openClient version => exact ⟨(opened version).1, rfl, (opened version).2⟩
  | closeClient => exact ⟨rfl, rfl, l, trailed, rfl⟩
  | openWatcher browse service =>
      exact ⟨(watched browse service).1, rfl, (watched browse service).2⟩
  | closeWatcher browse =>
      simp only [answer, closeWatcher, note]
      split <;> exact ⟨rfl, rfl, l, trailed, rfl⟩
  | startTask op => exact ⟨rfl, rfl, _, trailed.enqueue _, rfl⟩
  | cancelTask op => exact ⟨rfl, rfl, _, trailed.cancelLookup _, rfl⟩
  | lookUp op service fullName timeout =>
      simp only [answer, note]
      split
      · exact ⟨rfl, rfl, l, trailed, rfl⟩
      · exact ⟨rfl, rfl, _, trailed.enqueue _, rfl⟩
      · exact ⟨rfl, rfl, _, trailed.arm _ _, rfl⟩
  | armQuiet browse => exact ⟨rfl, rfl, _, trailed.arm _ _, rfl⟩
  | disarmQuiet browse => exact ⟨rfl, rfl, _, trailed.cancelQuiet _, rfl⟩
  | report notice => exact ⟨rfl, rfl, l, trailed, rfl⟩

/-- The client does the same at sites with a deadline put off. -/
theorem TrailedBy.perform {α : Type} (trailed : TrailedBy now s s') (client : Mdns.Client)
    (work : Mdns.Client.Work α) :
    Agree (TrailedBy now) (s.perform client work) (s'.perform client work) :=
  run_agree (fun request client _ _ => TrailedBy.answer request client) _ trailed

end Site

/-! ## Surroundings -/

namespace Surroundings

variable {α : Type} {past : Catalog} {now : Binary64} {w w' : Surroundings}

/-- Surroundings at a time, and the same surroundings with a deadline put off. The methods that
have been done at some point in the past are done. -/
structure TrailedBy (past : Catalog) (now : Binary64) (w w' : Surroundings) : Prop where
  done : ∀ m, past.isDone m = true → w.catalog.isDone m = true
  site : ∃ s, w.site.TrailedBy now s ∧ w' = { w with site := s }

/-- Lines may be noted in both surroundings. -/
theorem TrailedBy.note (trailed : TrailedBy past now w w') (lines : List Line) :
    TrailedBy past now (w.note lines) (w'.note lines) := by
  obtain ⟨done, s, ⟨l, trailed, rfl⟩, rfl⟩ := trailed
  exact ⟨done, _, ⟨l, trailed, rfl⟩, rfl⟩

/-- Loops may be changed alike in both surroundings. -/
theorem TrailedBy.withLoop (trailed : TrailedBy past now w w') {change : Loop → Loop}
    (changed : ∀ {l l' : Loop}, l.TrailedBy now l' → (change l).TrailedBy now (change l')) :
    TrailedBy past now (w.withLoop change) (w'.withLoop change) := by
  obtain ⟨done, s, ⟨l, trailed, rfl⟩, rfl⟩ := trailed
  exact ⟨done, _, ⟨_, changed trailed, rfl⟩, rfl⟩

/-- The client does the same for surroundings with a deadline put off. -/
theorem TrailedBy.perform (trailed : TrailedBy past now w w') (client : Mdns.Client)
    (engine : Engine) (work : Mdns.Client.Work α) :
    Agree (TrailedBy past now) (w.perform client engine work) (w'.perform client engine work) := by
  obtain ⟨done, s, trailed, rfl⟩ := trailed
  obtain ⟨hvalue, hstate, l, trailed, hsite⟩ := trailed.perform client work
  unfold Surroundings.perform
  dsimp only
  rw [hvalue, hstate, hsite]
  exact ⟨rfl, rfl, done, _, ⟨l, trailed, rfl⟩, rfl⟩

/-- Surroundings with a deadline put off start the client alike. -/
theorem TrailedBy.startClient (trailed : TrailedBy past now w w') (engine : Engine) :
    Agree (TrailedBy past now) (w.startClient engine) (w'.startClient engine) := by
  have performed := trailed.perform (α := Unit)
  obtain ⟨done, s, ⟨l, trailed, rfl⟩, rfl⟩ := trailed
  unfold Surroundings.startClient
  dsimp only
  split
  · exact ⟨rfl, rfl, done, _, ⟨l, trailed, rfl⟩, rfl⟩
  · exact performed _ _ _

/-- Surroundings with a deadline put off stop the client alike. -/
theorem TrailedBy.stopClient (trailed : TrailedBy past now w w') (engine : Engine) :
    Agree (TrailedBy past now) (w.stopClient engine) (w'.stopClient engine) := by
  have performed := trailed.perform (α := Unit)
  have noted := trailed.note
  obtain ⟨done, s, ⟨l, trailed, rfl⟩, rfl⟩ := trailed
  unfold Surroundings.stopClient
  dsimp only
  split
  · exact ⟨rfl, rfl, noted _⟩
  · exact performed _ _ _

/-- Surroundings with a deadline put off start a browse alike. -/
theorem TrailedBy.startBrowse (trailed : TrailedBy past now w w') (engine : Engine)
    (service : Service) :
    Agree (TrailedBy past now) (w.startBrowse engine service) (w'.startBrowse engine service) := by
  have performed := trailed.perform (α := Nat)
  have noted := trailed.note
  obtain ⟨done, s, ⟨l, trailed, rfl⟩, rfl⟩ := trailed
  unfold Surroundings.startBrowse
  dsimp only
  split
  · exact ⟨rfl, rfl, noted _⟩
  · rename_i client _
    have begun := performed client engine (Mdns.Client.startBrowse service)
    exact ⟨congrArg (Except.map Mdns.Browse.handle) begun.value, begun.state, begun.world⟩

/-- Surroundings with a deadline put off stop a browse alike. -/
theorem TrailedBy.stopBrowse (trailed : TrailedBy past now w w') (engine : Engine)
    (handle : Ticket) :
    Agree (TrailedBy past now) (w.stopBrowse engine handle) (w'.stopBrowse engine handle) := by
  have performed := trailed.perform (α := Unit)
  have noted := trailed.note
  have unchanged := trailed
  obtain ⟨done, s, ⟨l, trailed, rfl⟩, rfl⟩ := trailed
  unfold Surroundings.stopBrowse
  dsimp only
  split
  · exact ⟨rfl, rfl, noted _⟩
  · split
    · exact performed _ _ _
    · exact ⟨rfl, rfl, unchanged⟩

/-- Surroundings with a deadline put off begin a resolve alike. -/
theorem TrailedBy.resolve (trailed : TrailedBy past now w w') (engine : Engine)
    (service : Service) (name : String) (ifindex : Int) (family : Ip.Family) :
    Agree (TrailedBy past now) (w.resolve engine service name ifindex family)
      (w'.resolve engine service name ifindex family) := by
  have performed := trailed.perform (α := Mdns.Resolve)
  obtain ⟨done, s, ⟨l, trailed, rfl⟩, rfl⟩ := trailed
  unfold Surroundings.resolve
  dsimp only
  split
  · split
    · exact ⟨rfl, rfl, done, _, ⟨l, trailed, rfl⟩, rfl⟩
    · exact ⟨rfl, rfl, done, _, ⟨l, trailed, rfl⟩, rfl⟩
  · rename_i client _
    have begun := performed client engine (Mdns.Client.resolve service name family)
    exact ⟨congrArg (Except.map Mdns.Resolve.handle) begun.value, begun.state, begun.world⟩

/-- Surroundings with a deadline put off cancel a resolve alike. -/
theorem TrailedBy.cancelResolve (trailed : TrailedBy past now w w') (engine : Engine)
    (op : Ticket) :
    (w'.cancelResolve engine op).1 = (w.cancelResolve engine op).1 ∧
      TrailedBy past now (w.cancelResolve engine op).2 (w'.cancelResolve engine op).2 := by
  have performed := trailed.perform (α := Unit)
  have noted := trailed.note
  have unchanged := trailed
  obtain ⟨done, s, ⟨l, trailed, rfl⟩, rfl⟩ := trailed
  unfold Surroundings.cancelResolve
  dsimp only
  split
  · exact ⟨rfl, noted _⟩
  · split
    · exact ⟨(performed _ _ _).state, (performed _ _ _).world⟩
    · exact ⟨rfl, unchanged⟩

/-- A withdrawal leaves all methods as they are. -/
theorem isDone_withdraw (c : Catalog) (snapshot : Snapshot) (m : Method) :
    (c.withdraw snapshot).1.isDone m = c.isDone m := by
  unfold Catalog.withdraw
  split <;> rfl

/-- A method that is done stays so when another one is. -/
theorem isDone_scanDone (c : Catalog) (m m' : Method) (h : c.isDone m' = true) :
    (c.scanDone m).isDone m' = true := by
  rw [Catalog.isDone, Catalog.scanDone, PerMethod.get_set]
  split
  · rfl
  · exact h

/-- Surroundings with a deadline put off publish alike. -/
theorem TrailedBy.publish (trailed : TrailedBy past now w w') (snapshot : Snapshot) :
    (w'.publish snapshot).1 = (w.publish snapshot).1 ∧
      TrailedBy past now (w.publish snapshot).2 (w'.publish snapshot).2 := by
  obtain ⟨done, s, ⟨l, trailed, rfl⟩, rfl⟩ := trailed
  unfold Surroundings.publish
  dsimp only [Surroundings.note]
  cases w.refusesPublish with
  | true => exact ⟨rfl, done, _, ⟨l, trailed, rfl⟩, rfl⟩
  | false => exact ⟨rfl, done, _, ⟨l, trailed, rfl⟩, rfl⟩

/-- Surroundings with a deadline put off withdraw alike. -/
theorem TrailedBy.withdraw (trailed : TrailedBy past now w w') (snapshot : Snapshot) :
    (w'.withdraw snapshot).1 = (w.withdraw snapshot).1 ∧
      TrailedBy past now (w.withdraw snapshot).2 (w'.withdraw snapshot).2 := by
  obtain ⟨done, s, ⟨l, trailed, rfl⟩, rfl⟩ := trailed
  unfold Surroundings.withdraw
  dsimp only [Surroundings.note]
  cases w.refusesWithdraw with
  | true => exact ⟨rfl, done, _, ⟨l, trailed, rfl⟩, rfl⟩
  | false =>
      refine ⟨rfl, fun m hm => ?_, _, ⟨l, trailed, rfl⟩, rfl⟩
      exact (isDone_withdraw _ _ _).trans (done m hm)

/-- A method is done alike in surroundings with a deadline put off. -/
theorem TrailedBy.scanDone (trailed : TrailedBy past now w w') (m : Method) :
    TrailedBy past now (w.scanDone m) (w'.scanDone m) := by
  obtain ⟨done, s, ⟨l, trailed, rfl⟩, rfl⟩ := trailed
  exact ⟨fun m' hm => isDone_scanDone _ _ _ (done m' hm), _, ⟨l, trailed, rfl⟩, rfl⟩

/-- Surroundings with a deadline put off answer the engine alike. -/
theorem TrailedBy.answer (request : Request) (engine : Engine) (trailed : TrailedBy past now w w') :
    Agree (TrailedBy past now) (answer request engine w) (answer request engine w') := by
  cases request with
  | startClient => exact trailed.startClient engine
  | stopClient => exact trailed.stopClient engine
  | startBrowse service => exact trailed.startBrowse engine service
  | stopBrowse handle => exact trailed.stopBrowse engine handle
  | resolve service name ifindex family => exact trailed.resolve engine service name ifindex family
  | cancelResolve op =>
      obtain ⟨state, world⟩ := trailed.cancelResolve engine op
      exact ⟨rfl, state, world⟩
  | publish snapshot =>
      obtain ⟨value, world⟩ := trailed.publish snapshot
      exact ⟨value, rfl, world⟩
  | withdraw snapshot =>
      obtain ⟨value, world⟩ := trailed.withdraw snapshot
      exact ⟨value, rfl, world⟩
  | scanDone m => exact ⟨rfl, rfl, trailed.scanDone m⟩
  | hear listener ifindex address => exact ⟨rfl, rfl, trailed.note _⟩
  | armRestart generation => exact ⟨rfl, rfl, trailed.withLoop (·.enqueue _)⟩
  | disarmRestart generation => exact ⟨rfl, rfl, trailed.withLoop (·.cancelRestart _)⟩
  | settle ticket outcome =>
      obtain ⟨done, s, trailed, rfl⟩ := trailed
      exact ⟨rfl, rfl, done, s, trailed, rfl⟩

end Surroundings

/-! ## Runs -/

namespace Run

variable {past : Catalog} {now : Binary64} {r r' : Run}

/-- A run at a time, and the same run with a deadline put off. The methods that have been done at
some point in the past are done. -/
structure TrailedBy (past : Catalog) (now : Binary64) (r r' : Run) : Prop where
  surroundings : r.surroundings.TrailedBy past now r'.surroundings
  rest : r' = { r with surroundings := r'.surroundings }

namespace TrailedBy

/-- A run with a deadline put off by nothing. -/
theorem refl (r : Run) : TrailedBy r.catalog r.now r r :=
  ⟨⟨fun _ hm => hm, _, ⟨_, .refl r.loop, rfl⟩, rfl⟩, rfl⟩

/-- Runs with a deadline put off have the same catalog. -/
theorem catalog (trailed : TrailedBy past now r r') : r'.catalog = r.catalog := by
  obtain ⟨⟨-, s, -, hw⟩, -⟩ := trailed
  exact congrArg (·.catalog) hw

/-- The first of two such runs stands at the time that is named. -/
theorem clock (trailed : TrailedBy past now r r') : r.now = now := by
  obtain ⟨⟨-, s, ⟨l, trailed, -⟩, -⟩, -⟩ := trailed
  exact trailed.now

/-- Runs with a deadline put off have such loops. -/
theorem loop (trailed : TrailedBy past now r r') : r.loop.TrailedBy now r'.loop := by
  obtain ⟨⟨-, s, ⟨l, trailed, rfl⟩, hw⟩, -⟩ := trailed
  have : r'.loop = l := congrArg (·.site.loop) hw
  rwa [this]

/-- Loops may be changed alike in both runs. -/
theorem withLoop (trailed : TrailedBy past now r r') {change : Loop → Loop}
    (changed : ∀ {l l' : Loop}, l.TrailedBy now l' → (change l).TrailedBy now (change l')) :
    TrailedBy past now (r.withLoop change) (r'.withLoop change) := by
  obtain ⟨surroundings, rest⟩ := trailed
  rw [rest]
  exact ⟨surroundings.withLoop changed, rfl⟩

/-- The consumer may be woken in both runs. -/
theorem wake (trailed : TrailedBy past now r r') : TrailedBy past now r.wake r'.wake := by
  have ready : r'.loop.ready = r.loop.ready := trailed.loop.ready
  have events : r'.hasEvents = r.hasEvents := by rw [trailed.rest]; rfl
  unfold Run.wake
  rw [ready, events]
  split
  · exact trailed.withLoop (·.enqueue _)
  · exact trailed

/-- The engine does the same in runs with a deadline put off. -/
theorem perform {α : Type} (trailed : TrailedBy past now r r') (work : Engine.Work α) :
    (r'.perform work).1 = (r.perform work).1 ∧
      TrailedBy past now (r.perform work).2 (r'.perform work).2 := by
  obtain ⟨surroundings, rest⟩ := trailed
  have ran := run_agree (fun request engine _ _ => Surroundings.TrailedBy.answer request engine)
    (work r.engine) surroundings
  have engine : r'.engine = r.engine := congrArg (·.engine) rest
  unfold Run.perform
  rw [engine]
  refine ⟨ran.value, wake ⟨ran.world, ?_⟩⟩
  rw [ran.state, rest]

/-- The client does the same in runs with a deadline put off. -/
theorem performClient (trailed : TrailedBy past now r r') (work : Mdns.Client.Work Unit) :
    TrailedBy past now (r.performClient work) (r'.performClient work) := by
  have unchanged := trailed
  obtain ⟨surroundings, rest⟩ := trailed
  have carrier : r'.surroundings.carrier = r.surroundings.carrier := by
    obtain ⟨-, s, -, hw⟩ := surroundings
    exact congrArg (·.carrier) hw
  have engine : r'.engine = r.engine := congrArg (·.engine) rest
  unfold Run.performClient
  rw [carrier]
  split
  · exact unchanged
  · rename_i client _
    have ran := surroundings.perform client r.engine work
    dsimp only
    rw [engine]
    refine wake ⟨ran.world, ?_⟩
    rw [ran.state, rest]

/-- Announcements are heard alike. -/
theorem announce (trailed : TrailedBy past now r r') (a : Announcement) :
    TrailedBy past now (r.announce a) (r'.announce a) := by
  have watching : r'.surroundings.site.watching a.service =
      r.surroundings.site.watching a.service := by
    obtain ⟨⟨-, s, ⟨l, -, rfl⟩, hw⟩, -⟩ := trailed
    rw [hw]
    rfl
  unfold Run.announce
  rw [watching]
  generalize r.surroundings.site.watching a.service = browses
  clear watching
  induction browses generalizing r r' with
  | nil => exact trailed
  | cons browse rest ih => exact ih (trailed.performClient _)

/-- What is first among the ready work is done alike. -/
theorem step (trailed : TrailedBy past now r r') :
    Option.Rel (TrailedBy past now) r.step? r'.step? := by
  have ready : r'.loop.ready = r.loop.ready := trailed.loop.ready
  unfold Run.step?
  rw [ready]
  split
  · exact .none
  · have turned := (trailed.perform Engine.turn).2
    have events : ((r'.perform Engine.turn).2).hasEvents = ((r.perform Engine.turn).2).hasEvents := by
      rw [turned.rest]; rfl
    dsimp only
    rw [events]
    split
    · exact .some turned
    · exact .some (turned.withLoop (·.drop _))
  · refine .some ?_
    have settings : r'.settings = r.settings := congrArg (·.settings) trailed.rest
    rename_i generation _ _
    have slept := trailed.withLoop (·.drop (.sleepUntilRestart generation))
    change TrailedBy past now (Run.withLoop _ (·.arm r.settings.restartDelay _))
      (Run.withLoop _ (·.arm r'.settings.restartDelay _))
    rw [settings]
    exact slept.withLoop (·.arm _ _)
  · exact .some ((trailed.withLoop (·.drop _)).performClient _)
  · exact .some ((trailed.withLoop (·.drop _)).performClient _)

/-- Ready work is done alike. -/
theorem work (trailed : TrailedBy past now r r') : TrailedBy past now r.work r'.work := by
  have remaining : r'.remaining = r.remaining := by
    have engine : r'.engine = r.engine := congrArg (·.engine) trailed.rest
    unfold Run.remaining
    rw [engine, trailed.loop.ready]
  unfold Run.work
  rw [remaining]
  exact keepOn_related (fun trailed => step trailed) _ trailed

/-- What an alarm is for is done alike. -/
theorem onBell (trailed : TrailedBy past now r r') (bell : Bell) :
    TrailedBy past now (r.onBell bell) (r'.onBell bell) := by
  refine work ?_
  cases bell with
  | restart generation =>
      obtain ⟨surroundings, rest⟩ := trailed
      refine wake ⟨surroundings, ?_⟩
      rw [rest]
  | quiet browse => exact trailed.performClient _
  | lookup op result => exact trailed.performClient _
  | announcement a => exact trailed.announce a
  | deadline => exact trailed

end TrailedBy

/-- No time passes while ready work is done. -/
theorem now_work (r : Run) : r.work.now = r.now :=
  (TrailedBy.refl r).work.clock

/-- Methods that are done stay so while ready work is done. -/
theorem isDone_work {m : Method} (h : r.catalog.isDone m = true) :
    r.work.catalog.isDone m = true :=
  (TrailedBy.refl r).work.surroundings.done m h

/-- What rings is the deadline, or something is done for it. -/
theorem ring?_eq_some {bell : Bell} {l : Loop} (rings : r.loop.ring? none = some (bell, l)) :
    (bell = .deadline ∧ r.ring? = some (true, r.withLoop fun _ => l)) ∨
    (bell ≠ .deadline ∧ r.ring? = some (false, (r.withLoop fun _ => l).onBell bell)) := by
  unfold Run.ring?
  rw [rings]
  cases bell with
  | deadline => exact .inl ⟨rfl, rfl⟩
  | _ => exact .inr ⟨nofun, rfl⟩

/-- The same alarms ring, apart from the deadline. -/
theorem TrailedBy.ring {r₁ : Run} (trailed : TrailedBy past now r r')
    (rings : r.ring? = some (false, r₁)) :
    ∃ r₁', r'.ring? = some (false, r₁') ∧ ∃ later, TrailedBy past later r₁ r₁' := by
  cases next : r.loop.ring? none with
  | none => simp [Run.ring?, next] at rings
  | some found =>
      obtain ⟨bell, l⟩ := found
      rcases ring?_eq_some next with ⟨-, rung⟩ | ⟨other, rung⟩
      · simp [rung] at rings
      · obtain ⟨l', next', after⟩ := trailed.loop.ring next other
        rcases ring?_eq_some next' with ⟨rfl, -⟩ | ⟨-, rung'⟩
        · exact absurd rfl other
        · have heard : TrailedBy past l.now (r.withLoop fun _ => l) (r'.withLoop fun _ => l') := by
            obtain ⟨⟨done, s, ⟨_, -, rfl⟩, hw⟩, rest⟩ := trailed
            rw [rest, hw]
            exact ⟨⟨done, _, ⟨l', after, rfl⟩, rfl⟩, rfl⟩
          rw [rung] at rings
          cases rings
          exact ⟨_, rung', _, heard.onBell bell⟩

end Run

end ScannerDiscovery.Simulation
