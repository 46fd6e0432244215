import ScannerDiscovery.Engine.Books

/-!
# The state of the engine

The engine consumes the events in its mailbox one after another. Its state holds the books, the
operations under way, and where it stands in the life of its client and of itself.

Main definitions:

- `Mailbox` : events waiting, with a count of those not yet finished.
- `Engine` : the state, and `Engine.post`, which hands it an event.

Main results:

- `take?_put` : events come out in the order they were put in.
- `post_of_failure` : a halted engine takes no events.
-/

namespace ScannerDiscovery

/-! ## Internet protocol versions -/

/-- The address families that discovery is limited to. -/
inductive IpVersion
  | all
  | v4
  | v6
  deriving DecidableEq, Repr

namespace IpVersion

/-- The name of a limitation. -/
def text : IpVersion → String
  | all => "all"
  | v4 => "v4"
  | v6 => "v6"

/-- The limitation with a given name. -/
def ofText? (name : String) : Option IpVersion :=
  [all, v4, v6].find? fun v => v.text == name

/-- The families that are allowed. -/
def families : IpVersion → List Ip.Family
  | all => [.ipv4, .ipv6]
  | v4 => [.ipv4]
  | v6 => [.ipv6]

end IpVersion

/-! ## The mailbox -/

/-- Events waiting to be handled, first come first served, and the number of events that have
been put in and are not yet finished. -/
structure Mailbox where
  waiting : List Event
  unfinished : Nat

namespace Mailbox

/-- The mailbox without events. -/
def empty : Mailbox := ⟨[], 0⟩

/-- The mailbox with one more event. -/
def put (box : Mailbox) (event : Event) : Mailbox :=
  ⟨box.waiting ++ [event], box.unfinished + 1⟩

/-- The first event, and the mailbox without it. It stays unfinished until it is handled. -/
def take? (box : Mailbox) : Option (Event × Mailbox) :=
  match box.waiting with
  | [] => none
  | event :: rest => some (event, { box with waiting := rest })

/-- The mailbox after an event taken has been handled. -/
def finish (box : Mailbox) : Mailbox :=
  { box with unfinished := box.unfinished - 1 }

/-- Whether nothing is waiting and nothing is being handled. -/
def isDrained (box : Mailbox) : Bool :=
  box.unfinished == 0

/-- Events come out in the order they were put in. -/
theorem take?_put (box : Mailbox) (event : Event) :
    (box.put event).take? =
      match box.take? with
      | some (first, rest) => some (first, rest.put event)
      | none => some (event, { box with unfinished := box.unfinished + 1 }) := by
  obtain ⟨waiting, unfinished⟩ := box
  cases waiting with
  | nil => rfl
  | cons first rest => rfl

/-- Taking an event and handling it leaves one event fewer unfinished. -/
theorem unfinished_finish_of_take? {box rest : Mailbox} {event : Event}
    (h : box.take? = some (event, rest)) : rest.finish.unfinished = box.unfinished - 1 := by
  unfold take? at h
  split at h
  · simp at h
  · simp only [Option.some.injEq, Prod.mk.injEq] at h
    rw [← h.2]
    rfl

end Mailbox

/-! ## The engine -/

/-- The state of the engine. -/
structure Engine where
  /-- Whether discovery is enabled at all. -/
  enabled : Bool
  /-- The families to resolve if a browse names none. -/
  ipVersion : IpVersion
  /-- Findings and outstanding tasks of the initial scan. -/
  books : Books := .initial
  /-- The finding that each outstanding resolve belongs to. -/
  resolving : OrderedMap Ticket Nat := .empty
  /-- The open browse of each service. -/
  browsers : OrderedMap Service Ticket := .empty
  /-- Whether browsing has been started, if only in part. -/
  browserRunning : Bool := false
  /-- Whether the transport's client has been started. -/
  clientRunning : Bool := false
  /-- The mailbox; none while events are dropped. -/
  mailbox : Option Mailbox := none
  /-- The restart timer that is known to be running. -/
  restart : Option Nat := none
  /-- The number of restart timers armed so far. -/
  generation : Nat := 0
  /-- Whether the engine has been started and not yet stopped. -/
  started : Bool := false
  /-- Whether the engine has been told to stop since it was last started. -/
  stopping : Bool := false
  /-- The violation that stopped the handling of events. -/
  failure : Option Violation := none
  /-- Those who want to hear of resolved addresses. -/
  listeners : List String := []

namespace Engine

instance : KeepsBooks Engine where
  books := Engine.books
  withBooks engine books := { engine with books }

/-- A routine of the engine. -/
abbrev Work (α : Type) := Routine requests Engine Fault α

/-- The registry of findings. -/
def registry (e : Engine) : Registry := e.books.registry

/-- The gate of the initial scan. -/
def gate (e : Engine) : Gate := e.books.gate

/-- Whether the engine has been started and handles events. -/
def isRunning (e : Engine) : Bool :=
  e.started && e.failure.isNone

/-- Whether events in the mailbox are going to be handled. -/
def isConsuming (e : Engine) : Bool :=
  e.isRunning && e.mailbox.isSome

/-- The engine with an event handed to it. Without a mailbox, and after a violation, events are
dropped. -/
def post (e : Engine) (event : Event) : Engine :=
  match e.mailbox, e.failure with
  | some box, none => { e with mailbox := some (box.put event) }
  | _, _ => e

/-- A halted engine takes no events. -/
theorem post_of_failure {e : Engine} {broken : Violation} (h : e.failure = some broken)
    (event : Event) : e.post event = e := by
  unfold post
  split
  · simp_all
  · rfl

/-- The engine with what a transport reports handed to it. -/
def deliver (e : Engine) (notices : List Notice) : Engine :=
  notices.foldl (fun e notice => e.post (.notice notice)) e

/-- The engine after the restart timer of a generation has run out. -/
def restartTimerFired (e : Engine) (generation : Nat) : Engine :=
  let e := if e.restart = some generation then { e with restart := none } else e
  e.post (.restartDue generation)

/-- The engine with one more listener for addresses. -/
def addListener (e : Engine) (listener : String) : Engine :=
  { e with listeners := e.listeners ++ [listener] }

end Engine

/-- The answer to a question about the findings. -/
def Question.answer (registry : Registry) : Question → Except Fault Reply
  | size => .ok (.size registry.live.length)
  | names => .ok (.names (registry.live.map (·.name)))
  | published => .ok (.names (registry.published.map (·.name)))
  | snapshots => .ok (.snapshots (registry.live.map (·.snapshot)))
  | missing key => .error (.missing key)

end ScannerDiscovery
