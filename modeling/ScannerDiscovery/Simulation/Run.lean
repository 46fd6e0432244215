import ScannerDiscovery.Settings
import ScannerDiscovery.Simulation.Progress
import ScannerDiscovery.Simulation.Surroundings

/-!
# Simulated runs of discovery

An engine with its catalog and its transport, in virtual time. Work that is ready is done before
any alarm rings, and alarms ring one at a time. After each action the run settles: everything is
done that can be done without time passing, which includes what alarms are for that are due.

Main definitions:

- `Run.perform` : runs a routine of the engine.
- `Run.settle`, `Run.advance`, `Run.wait` : the passing of time.
- `Run.start`, `Run.stop` : the service that owns the engine.
-/

namespace ScannerDiscovery.Simulation

/-- The number of steps that handling an event can lead to, at most: for each family of a new
instance a lookup begins, may be given up, and its end is handled. -/
def effort : Event → Nat
  | .notice (.browse event) => 10 + 3 * event.families.length
  | _ => 10

/-- A simulated run: the settings, the engine, its surroundings, whether the service that owns
them is running, and the number of the next question. -/
structure Run where
  settings : DiscoverySettings
  engine : Engine
  surroundings : Surroundings
  isRunning : Bool := false
  nextTicket : Nat := 0

namespace Run

/-! ## New runs -/

/-- A run of given settings, carried by a transport on a network. -/
def new (settings : DiscoverySettings) (carrier : Carrier) (network : Network) : Run where
  settings
  engine := { enabled := settings.enabled, ipVersion := settings.ipVersion }
  surroundings := { carrier, site := { network, quietPeriod := settings.quietPeriod } }

/-- A run over a transport that follows a script. -/
def scripted (settings : DiscoverySettings) (script : ScriptedTransport) : Run :=
  new settings (.scripted script) {}

/-- A run over the multicast client. -/
def multicast (settings : DiscoverySettings) (network : Network) : Run :=
  new settings (.multicast (.new settings.ipVersion settings.resolveTimeout)) network

/-! ## Parts -/

/-- The catalog. -/
def catalog (r : Run) : Catalog := r.surroundings.catalog

/-- The loop. -/
def loop (r : Run) : Loop := r.surroundings.site.loop

/-- The time. -/
def now (r : Run) : Binary64 := r.loop.now

/-- What has been done to the outside so far. -/
def trace (r : Run) : List Line := r.surroundings.site.trace

/-- The run with another loop. -/
def withLoop (r : Run) (change : Loop → Loop) : Run :=
  { r with surroundings := r.surroundings.withLoop change }

/-- The run with its transport's script changed, if it follows one. -/
def modifyScript (r : Run) (change : ScriptedTransport → ScriptedTransport) : Run :=
  match r.surroundings.carrier with
  | .scripted script =>
    { r with surroundings := { r.surroundings with carrier := .scripted (change script) } }
  | .multicast _ => r

/-- The run with its network changed. -/
def modifyNetwork (r : Run) (change : Network → Network) : Run :=
  let site := r.surroundings.site
  { r with surroundings :=
    { r.surroundings with site := { site with network := change site.network } } }

/-- The run with its catalog changed. -/
def modifyCatalog (r : Run) (change : Catalog → Catalog) : Run :=
  { r with surroundings := { r.surroundings with catalog := change r.surroundings.catalog } }

/-- The run with its engine's books changed. -/
def modifyBooks (r : Run) (change : Books → Books) : Run :=
  { r with engine := { r.engine with books := change r.engine.books } }

/-! ## Work -/

/-- Whether there are events that are going to be handled. -/
def hasEvents (r : Run) : Bool :=
  r.engine.isConsuming && r.engine.mailbox.any (!·.waiting.isEmpty)

/-- Makes the handling of events ready if there are any, unless it is ready. -/
def wake (r : Run) : Run :=
  if r.hasEvents && !r.loop.ready.contains .consume then r.withLoop (·.enqueue .consume) else r

/-- Runs a routine of the engine. -/
def perform {α : Type} (r : Run) (work : Engine.Work α) : Except Fault α × Run :=
  let (result, engine, surroundings) := (work r.engine).run Surroundings.answer r.surroundings
  (result, { r with engine, surroundings }.wake)

/-- Runs a routine of the multicast client, if the run has one. -/
def performClient (r : Run) (work : Mdns.Client.Work Unit) : Run :=
  match r.surroundings.carrier with
  | .scripted _ => r
  | .multicast client =>
    let (_, engine, surroundings) := r.surroundings.perform client r.engine work
    { r with engine, surroundings }.wake

/-- Hands an event to the engine. -/
def deliver (r : Run) (event : Event) : Run :=
  { r with engine := r.engine.post event }.wake

/-- Makes an announcement on the network: every browse of the service hears it. -/
def announce (r : Run) (a : Announcement) : Run :=
  (r.surroundings.site.watching a.service).foldl
    (fun r browse => r.performClient (Mdns.Client.onChange browse a.fullName a.change)) r

/-! ## Settling -/

/-- Does what is first among the work that is ready. Events are handled one after another before
anything else is done. -/
def step? (r : Run) : Option Run :=
  match r.loop.ready with
  | [] => none
  | .consume :: _ =>
    let r := (r.perform Engine.turn).2
    some (if r.hasEvents then r else r.withLoop (·.drop .consume))
  | .sleepUntilRestart generation :: _ =>
    let r := r.withLoop (·.drop (.sleepUntilRestart generation))
    some (r.withLoop (·.arm r.settings.restartDelay (.restart generation)))
  | .beginLookup op :: _ =>
    some ((r.withLoop (·.drop (.beginLookup op))).performClient (Mdns.Client.beginLookup op))
  | .giveUpLookup op :: _ =>
    some ((r.withLoop (·.drop (.giveUpLookup op))).performClient
      (Mdns.Client.endLookup op .unanswered))

/-- The number of steps that the ready work takes at most. -/
def remaining (r : Run) : Nat :=
  let waiting := r.engine.mailbox.elim [] (·.waiting)
  10 * (r.loop.ready.length + 1) + waiting.foldr (fun event sum => effort event + sum) 0

/-- Does the work that is ready, and the work that becomes ready by that. -/
def work (r : Run) : Run :=
  keepOn step? r.remaining r

/-- Does what an alarm is for. -/
def onBell (r : Run) (bell : Bell) : Run :=
  work <| match bell with
    | .restart generation =>
      { r with engine := r.engine.restartTimerFired generation }.wake
    | .quiet browse => r.performClient (Mdns.Client.onQuiet browse)
    | .lookup op result => r.performClient (Mdns.Client.endLookup op result)
    | .announcement announcement => r.announce announcement
    | .deadline => r

/-- Lets the next alarm ring that is due by a limit. -/
def ringBy? (limit : Binary64) (r : Run) : Option Run :=
  (r.loop.ring? (some limit)).map fun (bell, loop) => (r.withLoop fun _ => loop).onBell bell

/-- Lets all alarms ring that are due by a limit. -/
def ringAllBy (r : Run) (limit : Binary64) : Run :=
  keepOn (ringBy? limit) alarmLimit r

/-- Does everything that can be done without time passing. -/
def settle (r : Run) : Run :=
  let r := r.work
  r.ringAllBy r.now

/-! ## The passing of time -/

/-- Lets time pass, and all alarms ring that are due by then. -/
def advance (r : Run) (seconds : Binary64) : Run :=
  let limit := r.now + seconds
  (r.ringAllBy limit).withLoop (·.setClock limit)

/-- Lets the next alarm ring, and says whether it was the deadline. -/
def ring? (r : Run) : Option (Bool × Run) :=
  (r.loop.ring? none).map fun (bell, loop) =>
    let r := r.withLoop fun _ => loop
    match bell with
    | .deadline => (true, r)
    | bell => (false, r.onBell bell)

/-- Waits until the catalog is ready, and says whether that was before the timeout was over. The
waiting begins before the work that is ready is done. A timeout that is over at once is not waited
for at all. There is no result if the waiting never ends. -/
def wait (r : Run) (timeout : Option Binary64) : Option (Bool × Run) :=
  if isOver timeout then some (false, r.work)
  else
    let r := match timeout with
      | some t => r.withLoop (·.arm t .deadline)
      | none => r
    (ringUntil (·.catalog.isReady) ring? alarmLimit r.work).map fun (result, r) =>
      (result, r.withLoop (·.disarm (· matches .deadline)))

/-- Waits for the initial scan, as long as the settings say if no timeout is given. -/
def waitReady (r : Run) (timeout : Option Binary64) : Option (Bool × Run) :=
  r.wait (some (timeout.getD r.settings.readyTimeout))

/-! ## Questions -/

/-- Asks a question, after all events that are waiting, and gives the number by which its reply
is found. -/
def ask (r : Run) (question : Question) : Nat × Run :=
  let ticket := r.nextTicket
  (ticket, ({ r with nextTicket := ticket + 1 }.perform (Engine.query ticket question)).2)

/-- The reply to a question, if it has been given. -/
def reply? (r : Run) (ticket : Nat) : Option (Except Fault Reply) :=
  r.surroundings.replies.lookup ticket

/-! ## Start and stop -/

/-- Starts the engine. -/
def startEngine (r : Run) : Except Fault Unit × Run :=
  r.perform Engine.start

/-- Stops the engine. Events that are waiting are no longer handled. -/
def stopEngine (r : Run) : Except Fault Unit × Run :=
  (r.withLoop (·.drop .consume)).perform Engine.stop

/-- Starts the service, if it is not running. -/
def start (r : Run) : Except Fault Unit × Run :=
  if r.isRunning then (.ok (), r)
  else match r.startEngine with
    | (.ok (), r) => (.ok (), { r with isRunning := true })
    | failed => failed

/-- Stops the service, if it is running. -/
def stop (r : Run) : Except Fault Unit × Run :=
  if r.isRunning then
    match r.stopEngine with
    | (.ok (), r) => (.ok (), { r with isRunning := false })
    | failed => failed
  else (.ok (), r)

/-! ## Several actions at once -/

/-- What may happen between two moments at which the run settles. -/
inductive Occurrence
  | event (event : Event)
  | question (question : Question)
  | start
  | stop

/-- What is known of an occurrence that has a result: the number of a question, or a fault. -/
inductive Outlook
  | awaits (ticket : Nat)
  | failed (fault : Fault)

/-- The outlook on a start or a stop, if it has failed. -/
def Outlook.ofResult : Except Fault Unit → List Outlook
  | .ok () => []
  | .error fault => [failed fault]

/-- What has become of an occurrence: it has ended, or it is a question that has not been settled
and that somebody still waits for. -/
inductive Status
  | ended (result : Except Fault Reply)
  | pending

/-- One occurrence, before the run settles. -/
def occur (r : Run) : Occurrence → List Outlook × Run
  | .event event => ([], r.deliver event)
  | .question question =>
    let (ticket, r) := r.ask question
    ([.awaits ticket], r)
  | .start =>
    let (result, r) := r.startEngine
    (Outlook.ofResult result, r)
  | .stop =>
    let (result, r) := r.stopEngine
    (Outlook.ofResult result, r)

/-- Occurrences back to back, before the run settles. -/
def occurEach (r : Run) : List Occurrence → List Outlook × Run
  | [] => ([], r)
  | occurrence :: rest =>
    let (first, r) := r.occur occurrence
    let (others, r) := r.occurEach rest
    (first ++ others, r)

/-- What has become of an outlook by now. -/
def status (r : Run) : Outlook → Status
  | .awaits ticket =>
    match r.reply? ticket with
    | some result => .ended result
    | none => .pending
  | .failed fault => .ended (.error fault)

/-- Lets occurrences happen back to back, settles, and says in order what has become of them. -/
def post (r : Run) (occurrences : List Occurrence) : List Status × Run :=
  let (outlooks, r) := r.occurEach occurrences
  let r := r.settle
  (outlooks.map r.status, r)

end Run

end ScannerDiscovery.Simulation
