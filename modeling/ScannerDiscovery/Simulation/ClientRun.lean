import ScannerDiscovery.Settings
import ScannerDiscovery.Simulation.Network
import ScannerDiscovery.Simulation.Progress

/-!
# Simulated runs of the multicast client

The multicast client by itself on a network that follows a script, in virtual time. What it
reports goes into the trace.

Main definitions:

- `ClientRun.perform` : runs a routine of the client.
- `ClientRun.settle`, `ClientRun.advance` : the passing of time.
-/

namespace ScannerDiscovery.Simulation

/-- A multicast client and the network it works on. -/
structure ClientRun where
  client : Mdns.Client
  site : Site

namespace ClientRun

/-- A run of given settings on a network. -/
def new (settings : DiscoverySettings) (network : Network) : ClientRun where
  client := .new settings.ipVersion settings.resolveTimeout
  site := { network, quietPeriod := settings.quietPeriod }

/-- The run with another loop. -/
def withLoop (r : ClientRun) (change : Loop → Loop) : ClientRun :=
  { r with site := { r.site with loop := change r.site.loop } }

/-! ## Work -/

/-- Answers a request of the client. Reports go into the trace. -/
def answer (request : Mdns.Request) (client : Mdns.Client) (site : Site) :
    request.Answer × Mdns.Client × Site :=
  let (reply, client, site) := Site.answer request client site
  (reply, client,
    { site with trace := site.trace ++ site.outbox.map Line.reported, outbox := [] })

/-- Runs a routine of the client. -/
def perform {α : Type} (r : ClientRun) (work : Mdns.Client.Work α) :
    Except Fault α × ClientRun :=
  let (result, client, site) := (work r.client).run answer r.site
  (result, { r with client, site })

/-- Makes an announcement on the network: every browse of the service hears it. -/
def announce (r : ClientRun) (a : Announcement) : ClientRun :=
  (r.site.watching a.service).foldl
    (fun r browse => (r.perform (Mdns.Client.onChange browse a.fullName a.change)).2) r

/-! ## Settling -/

/-- Does what is first among the work that is ready. -/
def step? (r : ClientRun) : Option ClientRun :=
  match r.site.loop.ready with
  | [] => none
  | job :: _ =>
    let r := r.withLoop (·.drop job)
    match job with
    | .beginLookup op => some (r.perform (Mdns.Client.beginLookup op)).2
    | .giveUpLookup op => some (r.perform (Mdns.Client.endLookup op .unanswered)).2
    | _ => some r

/-- Does the work that is ready. -/
def work (r : ClientRun) : ClientRun :=
  keepOn step? (2 * r.site.loop.ready.length) r

/-- Does what an alarm is for. -/
def onBell (r : ClientRun) (bell : Bell) : ClientRun :=
  work <| match bell with
    | .quiet browse => (r.perform (Mdns.Client.onQuiet browse)).2
    | .lookup op result => (r.perform (Mdns.Client.endLookup op result)).2
    | .announcement announcement => r.announce announcement
    | _ => r

/-- Lets the next alarm ring that is due by a limit. -/
def ringBy? (limit : Binary64) (r : ClientRun) : Option ClientRun :=
  (r.site.loop.ring? (some limit)).map fun (bell, loop) =>
    (r.withLoop fun _ => loop).onBell bell

/-- Lets all alarms ring that are due by a limit. -/
def ringAllBy (r : ClientRun) (limit : Binary64) : ClientRun :=
  keepOn (ringBy? limit) alarmLimit r

/-- Does everything that can be done without time passing. -/
def settle (r : ClientRun) : ClientRun :=
  let r := r.work
  r.ringAllBy r.site.loop.now

/-! ## The passing of time -/

/-- Lets time pass, and all alarms ring that are due by then. -/
def advance (r : ClientRun) (seconds : Binary64) : ClientRun :=
  let limit := r.site.loop.now + seconds
  (r.ringAllBy limit).withLoop (·.setClock limit)

end ClientRun

end ScannerDiscovery.Simulation
