import ScannerDiscovery.Mdns.Client
import ScannerDiscovery.Simulation.Loop
import ScannerDiscovery.Simulation.Trace

/-!
# A network that follows a script

A stand-in for the network library under the multicast client: it knows instances by full name,
lets lookups take their time, and makes announcements at given times.

Main definitions:

- `Site` : the scripted network together with what a client has opened on it.
- `Site.perform` : runs a routine of the client.
- `Site.watching` : who hears an announcement.
-/

namespace ScannerDiscovery.Simulation

/-- An instance: what a lookup brings back, how long that takes, and whether it succeeds. -/
structure Instance where
  answer : Mdns.Answer
  delay : Binary64
  succeeds : Bool
  failure : Option String

/-- The script of a network. -/
structure Network where
  instances : List (String × Instance) := []
  failClient : Option String := none
  failWatcher : List String := []
  interrupt : Bool := false
  announcements : List (Binary64 × Announcement) := []

/-- The course of a lookup: it ends at once, or after the work that is ready without an answer, or
after a time. -/
inductive Course
  | atOnce (result : Mdns.LookupResult)
  | inTurn
  | after (delay : Binary64) (result : Mdns.LookupResult)

namespace Network

/-- The course of a lookup that is not answered in time. Without any time it still waits its
turn behind the work that is ready. -/
def course (timeout : Int) : Course :=
  if timeout ≤ 0 then .inTurn else .after ((Binary64.ofInt timeout).divNat 1000) .unanswered

/-- The course that a lookup takes. An instance that does not answer in time, or does not exist,
takes the whole timeout. -/
def lookUp (n : Network) (fullName : String) (timeout : Int) : Course :=
  match n.instances.lookup fullName with
  | none => course timeout
  | some inst =>
    match inst.failure with
    | some message => .atOnce (.failed message)
    | none =>
      if Binary64.ofInt timeout < inst.delay * 1000 then course timeout
      else
        let result := if inst.succeeds then .answered inst.answer else .unanswered
        if 0 < inst.delay then .after inst.delay result else .atOnce result

end Network

/-! ## What is open on the network -/

/-- A network, the watchers that are open on it in order of creation, and what has been done and
reported. -/
structure Site where
  network : Network
  quietPeriod : Binary64
  watchers : List (Nat × Service) := []
  loop : Loop := .initial
  trace : List Line := []
  outbox : List Notice := []

namespace Site

/-- The site with one more action in its trace. -/
def note (s : Site) (line : Line) : Site :=
  { s with trace := s.trace ++ [line] }

/-- Opens the client, and arms the announcements of the script. -/
def openClient (s : Site) (version : IpVersion) : Except Fault Unit × Site :=
  let s := s.note (.clientOpened version)
  if s.network.interrupt then (.error .interrupted, s)
  else match s.network.failClient with
    | some message => (.error (.foreign message), s)
    | none =>
      let loop := s.network.announcements.foldl
        (fun loop (delay, announcement) => loop.arm delay (.announcement announcement)) s.loop
      (.ok (), { s with loop })

/-- Opens a watcher of a service. -/
def openWatcher (s : Site) (browse : Nat) (service : Service) : Except Fault Unit × Site :=
  let s := s.note (.watcherOpened service)
  if s.network.failWatcher.contains service.domainName then
    (.error (.foreign "browser refused"), s)
  else (.ok (), { s with watchers := s.watchers ++ [(browse, service)] })

/-- Closes a watcher. -/
def closeWatcher (s : Site) (browse : Nat) : Site :=
  let s := match s.watchers.lookup browse with
    | some service => s.note (.watcherClosed service)
    | none => s
  { s with watchers := s.watchers.filter (·.1 ≠ browse) }

/-- Answers a request of the client. What it reports goes into the outbox. -/
def answer (request : Mdns.Request) (client : Mdns.Client) (s : Site) :
    request.Answer × Mdns.Client × Site :=
  match request with
  | .openClient version =>
    let (result, s) := s.openClient version
    (result, client, s)
  | .closeClient => (.ok (), client, s.note .clientClosed)
  | .openWatcher browse service =>
    let (result, s) := s.openWatcher browse service
    (result, client, s)
  | .closeWatcher browse => (.ok (), client, s.closeWatcher browse)
  | .startTask op => ((), client, { s with loop := s.loop.enqueue (.beginLookup op) })
  | .cancelTask op => ((), client, { s with loop := s.loop.cancelLookup op })
  | .lookUp op service fullName timeout =>
    let course := s.network.lookUp fullName timeout
    let s := s.note (.lookedUp service fullName timeout)
    match course with
    | .atOnce result => (some result, client, s)
    | .inTurn => (none, client, { s with loop := s.loop.enqueue (.giveUpLookup op) })
    | .after delay result => (none, client, { s with loop := s.loop.arm delay (.lookup op result) })
  | .armQuiet browse => ((), client, { s with loop := s.loop.arm s.quietPeriod (.quiet browse) })
  | .disarmQuiet browse => ((), client, { s with loop := s.loop.cancelQuiet browse })
  | .report notice => ((), client, { s with outbox := s.outbox ++ [notice] })

/-- Runs a routine of the client. -/
def perform {α : Type} (s : Site) (client : Mdns.Client) (work : Mdns.Client.Work α) :
    Except Fault α × Mdns.Client × Site :=
  (work client).run answer s

/-- The open browses that hear announcements of a service, in order of creation. -/
def watching (s : Site) (service : Service) : List Nat :=
  (s.watchers.filter (·.2 = service)).map (·.1)

end Site

end ScannerDiscovery.Simulation
