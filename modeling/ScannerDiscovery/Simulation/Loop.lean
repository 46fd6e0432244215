import ScannerDiscovery.Mdns.Request
import ScannerDiscovery.Number.Binary64
import ScannerDiscovery.Simulation.Schedule

/-!
# The loop of a simulated run

A run has work that is ready, done first come first served, and alarms that make more work ready
as virtual time passes.
-/

namespace ScannerDiscovery.Simulation

/-- An announcement on the network: what happens to an instance of a service, by full name. -/
structure Announcement where
  service : Service
  fullName : String
  change : Mdns.Change

/-- Work that is ready. -/
inductive Job
  | consume
  | sleepUntilRestart (generation : Nat)
  | beginLookup (op : Nat)
  | giveUpLookup (op : Nat)
  deriving DecidableEq

/-- What an alarm is about. -/
inductive Bell
  | restart (generation : Nat)
  | quiet (browse : Nat)
  | lookup (op : Nat) (result : Mdns.LookupResult)
  | announcement (announcement : Announcement)
  | deadline

/-- Work that is ready, and alarms in virtual time. -/
structure Loop where
  ready : List Job
  schedule : Schedule Binary64 Bell

namespace Loop

/-- The loop at the beginning of a run, its clock at zero. -/
def initial : Loop := ⟨[], ⟨0, []⟩⟩

/-- The time. -/
def now (l : Loop) : Binary64 := l.schedule.now

/-- The loop with one more job ready. -/
def enqueue (l : Loop) (job : Job) : Loop :=
  { l with ready := l.ready ++ [job] }

/-- The loop without a job. -/
def drop (l : Loop) (job : Job) : Loop :=
  { l with ready := l.ready.filter (· ≠ job) }

/-- The loop with an alarm armed. -/
def arm (l : Loop) (delay : Binary64) (bell : Bell) : Loop :=
  { l with schedule := l.schedule.arm delay bell }

/-- The loop without the alarms about certain things. -/
def disarm (l : Loop) (cancelled : Bell → Bool) : Loop :=
  { l with schedule := l.schedule.disarm cancelled }

/-- What the next alarm is about that is due by a limit, and the loop after it has rung. -/
def ring? (l : Loop) (limit : Option Binary64) : Option (Bell × Loop) :=
  (l.schedule.ring? limit).map fun (bell, schedule) => (bell, { l with schedule })

/-- The loop with its clock set. -/
def setClock (l : Loop) (now : Binary64) : Loop :=
  { l with schedule := { l.schedule with now } }

/-- The loop without a restart timer, whether it has begun to sleep or not. -/
def cancelRestart (l : Loop) (generation : Nat) : Loop :=
  (l.drop (.sleepUntilRestart generation)).disarm fun
    | .restart g => g == generation
    | _ => false

/-- The loop without a lookup, whether it has begun or not. -/
def cancelLookup (l : Loop) (op : Nat) : Loop :=
  ((l.drop (.beginLookup op)).drop (.giveUpLookup op)).disarm fun
    | .lookup o _ => o == op
    | _ => false

/-- The loop without the quiet timer of a browse. -/
def cancelQuiet (l : Loop) (browse : Nat) : Loop :=
  l.disarm fun
    | .quiet b => b == browse
    | _ => false

end Loop

/-- The most alarms that ring in one stretch of virtual time. -/
def alarmLimit : Nat := 1000000

end ScannerDiscovery.Simulation
