import Mathlib.Logic.Relation
import ScannerDiscovery.Proofs.Engine.Runs
import ScannerDiscovery.Proofs.Registry

/-!
# The moves of the engine

Whatever the engine does with its findings, resolves, browses and client is a sequence of a few
moves.  A move changes what the engine holds, or asks for something, and may leave a debt that a
later move of the same call settles: a task that has ended is still to be counted off, the
resolves of a removed finding are still to be cancelled.  Invariants of the engine are shown for
each move; that every call is a sequence of moves is shown once.

Main definitions:

- `Holdings` : what the engine holds, apart from its mailbox, timer and flags.
- `Debt` : what has been begun and is not finished at a point within a call.
- `Move`, `Path` : one move, and any number of them.
-/

namespace ScannerDiscovery.Engine

/-! ## Holdings and debts -/

/-- What the engine holds: gate and registry, resolves, browses and client. -/
structure Holdings where
  gate : Gate
  registry : Registry
  resolving : OrderedMap Ticket Nat
  browsers : OrderedMap Service Ticket
  clientRunning : Bool

/-- What an engine holds. -/
def holdings (e : Engine) : Holdings :=
  ⟨e.books.gate, e.books.registry, e.resolving, e.browsers, e.clientRunning⟩

/-- Disturbances leave what the engine holds alone. -/
theorem Disturbed.holdings {e e' : Engine} (h : Disturbed e e') : e'.holdings = e.holdings := by
  rw [h.eq]
  rfl

/-- What has been begun and is not finished at a point within a call: a task of a method that
has ended and is not counted off, methods that are to be reported done, resolves of a removed
finding that are not cancelled, and a live finding that is being resolved or completed. -/
structure Debt where
  task : Option Method := none
  signals : List Method := []
  ops : List Ticket := []
  subject : Option Nat := none

/-- A point within a call. -/
structure Point where
  debt : Debt
  holdings : Holdings
  history : History

/-! ## Events that are acted on -/

/-- The event that is handled next. -/
def next? (e : Engine) : Option Event :=
  (e.mailbox.bind Mailbox.take?).map Prod.fst

/-- The resolve whose completion is handled next, if a finding waits for it. -/
def acceptable? (e : Engine) : Option Ticket :=
  match e.next? with
  | some (.notice (.resolve event)) =>
    match (e.resolving.get? event.op).bind e.registry.get? with
    | some f => if event.op ∈ f.tracker.pending then some event.op else none
    | none => none
  | _ => none

/-- The resolve whose completion a call acts on. -/
def Call.accepted? (e : Engine) : Call → Option Ticket
  | turn => e.acceptable?
  | _ => none

/-! ## Moves -/

/-- How a finding may be revised while its resolves are completed. -/
inductive Revision (f : Finding) : Finding → Prop
  | collected (event : ResolveEvent) : Revision f (collect event f)
  | endpoint (endpoint : Endpoint) :
      Revision f { f with endpoints := endpoint :: f.endpoints, isPublishable := true }
  | publishable : Revision f { f with isPublishable := true }
  | completed : Revision f (completed f)
  | unpublished : Revision f { f with state := .unpublished }

/-- A revision leaves alone what a finding is known by, whether it is counted and published, and
what it waits for. -/
theorem Revision.standing {f f' : Finding} (h : Revision f f') :
    f' = { f' with
      number := f.number
      service := f.service
      ifindex := f.ifindex
      name := f.name
      inInitialScan := f.inInitialScan
      isPublished := f.isPublished
      tracker := f.tracker } := by
  cases h <;> rfl

/-- Whether a request with its answer changes nothing of what the engine holds. -/
def IsMinor : (request : Request) → request.Answer → Prop
  | .startClient, .error _ => True
  | .startBrowse _, .error _ => True
  | .resolve .., .error _ => True
  | .hear .., _ => True
  | .armRestart _, _ => True
  | .disarmRestart _, _ => True
  | .settle .., _ => True
  | _, _ => False

/-- One move of the engine. -/
inductive Move : Point → Point → Prop
  /-- A request is made that changes nothing. -/
  | noted {d : Debt} {w : Holdings} {h : History} {e : Engine} {request : Request}
      {answer : request.Answer} (at_e : e.holdings = w) (minor : IsMinor request answer) :
      Move ⟨d, w, h⟩ ⟨d, w, .asked e request answer :: h⟩
  /-- A call begins that acts on no completion of a resolve. -/
  | called {w : Holdings} {h : History} {e : Engine} {call : Call} (at_e : e.holdings = w)
      (stale : call.accepted? e = none) : Move ⟨{}, w, h⟩ ⟨{}, w, .called e call :: h⟩
  /-- A completion is handled that a finding waits for. -/
  | accepted {w : Holdings} {h : History} {e : Engine} {op : Ticket} {f : Finding} {r : Registry}
      (at_e : e.holdings = w) (next : e.acceptable? = some op)
      (resolving : w.resolving.get? op = some f.number) (pending : op ∈ f.tracker.pending)
      (replaces : w.registry.Replaces f { f with tracker := (f.tracker.complete op).1 } r) :
      Move ⟨{}, w, h⟩ ⟨{ subject := some f.number },
        { w with registry := r, resolving := w.resolving.erase op }, .called e .turn :: h⟩
  /-- A finding is created for an instance that has none. -/
  | created {w : Holdings} {h : History} (service : Service) (ifindex : Int) (name : String)
      (new : w.registry.find? (.of service ifindex name) = none) :
      Move ⟨{}, w, h⟩ ⟨{ subject := some w.registry.made },
        { w with
          gate := if w.gate.inInitialScan service then w.gate.inc service.method else w.gate
          registry :=
            (w.registry.create service ifindex name (w.gate.inInitialScan service)).1 }, h⟩
  /-- A resolve of the new finding begins. -/
  | begun {w : Holdings} {h : History} {e : Engine} {f : Finding} {family : Ip.Family}
      {op : Ticket} {r : Registry} (at_e : e.holdings = w)
      (replaces : w.registry.Replaces f { f with tracker := f.tracker.begin op } r) :
      Move ⟨{ subject := some f.number }, w, h⟩ ⟨{ subject := some f.number },
        { w with registry := r, resolving := w.resolving.insert op f.number },
        .asked e (.resolve f.service f.name f.ifindex family) (.ok op) :: h⟩
  /-- The finding at hand is revised. -/
  | revised {w : Holdings} {h : History} {f f' : Finding} {r : Registry}
      (revision : Revision f f') (replaces : w.registry.Replaces f f' r) :
      Move ⟨{ subject := some f.number }, w, h⟩
        ⟨{ subject := some f.number }, { w with registry := r }, h⟩
  /-- The finding at hand is left as it is. -/
  | left {w : Holdings} {h : History} {number : Nat} :
      Move ⟨{ subject := some number }, w, h⟩ ⟨{}, w, h⟩
  /-- The finding at hand is published. -/
  | published {w : Holdings} {h : History} {e : Engine} {f f' : Finding} {r : Registry}
      (idle : f.tracker.pending = [])
      (form : f' = { f with isPublished := true, state := .published })
      (replaces : w.registry.Replaces f f' r) (at_e : e.holdings = { w with registry := r }) :
      Move ⟨{ subject := some f.number }, w, h⟩ ⟨{}, { w with registry := r },
        .asked e (.publish f'.snapshot) (.ok ()) :: h⟩
  /-- A finalized finding is taken out of the initial scan. -/
  | uncounted {w : Holdings} {h : History} {f : Finding} {r : Registry}
      (counted : f.inInitialScan = true)
      (replaces : w.registry.Replaces f { f with inInitialScan := false } r) :
      Move ⟨{}, w, h⟩ ⟨{ task := some f.method }, { w with registry := r }, h⟩
  /-- A published finding is withdrawn. -/
  | withdrawn {w : Holdings} {h : History} {e : Engine} {f : Finding} {r : Registry}
      (at_e : e.holdings = w) (published : f.isPublished = true)
      (replaces : w.registry.Replaces f { f with isPublished := false } r) :
      Move ⟨{}, w, h⟩ ⟨{}, { w with registry := r },
        .asked e (.withdraw f.snapshot) (.ok ()) :: h⟩
  /-- A finding is removed and no longer counted. -/
  | removed {w : Holdings} {h : History} {f f' : Finding} {r : Registry}
      (unpublished : f.isPublished = false)
      (form : f' = { f with state := .deleted, tracker := .empty, inInitialScan := false })
      (drops : w.registry.Drops f f' r) :
      Move ⟨{}, w, h⟩
        ⟨{ task := if f.inInitialScan then some f.method else none, ops := f.tracker.pending },
          { w with registry := r }, h⟩
  /-- A task that has ended is counted off. -/
  | countedOff {w : Holdings} {h : History} {m : Method} {ops : List Ticket} {gate : Gate}
      {fired : List Method} (dec : w.gate.dec m = some (gate, fired)) :
      Move ⟨{ task := some m, ops }, w, h⟩
        ⟨{ signals := fired, ops }, { w with gate := gate }, h⟩
  /-- A method is reported done. -/
  | signalled {w : Holdings} {h : History} {e : Engine} {m : Method} {rest : List Method}
      {ops : List Ticket} (at_e : e.holdings = w) :
      Move ⟨{ signals := m :: rest, ops }, w, h⟩
        ⟨{ signals := rest, ops }, w, .asked e (.scanDone m) () :: h⟩
  /-- A resolve of a removed finding is cancelled. -/
  | cancelled {w : Holdings} {h : History} {e : Engine} {op : Ticket} {rest : List Ticket}
      (at_e : e.holdings = { w with resolving := w.resolving.erase op }) :
      Move ⟨{ ops := op :: rest }, w, h⟩ ⟨{ ops := rest },
        { w with resolving := w.resolving.erase op }, .asked e (.cancelResolve op) () :: h⟩
  /-- The initial phase of a service ends. -/
  | phaseEnded {w : Holdings} {h : History} {service : Service}
      (initial : w.gate.inInitialScan service = true)
      (browsing : (w.browsers.get? service).isSome = true) :
      Move ⟨{}, w, h⟩
        ⟨{ task := some service.method }, { w with gate := w.gate.endPhase service }, h⟩
  /-- All initial phases end, nothing being under way. -/
  | phasesEnded {w : Holdings} {h : History} (browsers : w.browsers = .empty)
      (live : w.registry.live = []) :
      Move ⟨{}, w, h⟩ ⟨{ signals := w.gate.fireAll.2 },
        { w with gate := w.gate.fireAll.1 }, h⟩
  /-- A browse is opened. -/
  | opened {w : Holdings} {h : History} {e : Engine} {service : Service} {handle : Ticket}
      (at_e : e.holdings = w) (client : w.clientRunning = true)
      (new : w.browsers.get? service = none) :
      Move ⟨{}, w, h⟩ ⟨{},
        { w with
          browsers := w.browsers.insert service handle
          gate := if w.gate.inInitialScan service then w.gate.inc service.method
            else w.gate },
        .asked e (.startBrowse service) (.ok handle) :: h⟩
  /-- A browse is closed. -/
  | closed {w : Holdings} {h : History} {e : Engine} {service : Service} {handle : Ticket}
      {answer : Except Fault Unit} (current : w.browsers.get? service = some handle)
      (at_e : e.holdings = { w with browsers := w.browsers.erase service }) :
      Move ⟨{}, w, h⟩
        ⟨{ task := if w.gate.inInitialScan service then some service.method else none },
          { w with browsers := w.browsers.erase service },
          .asked e (.stopBrowse handle) answer :: h⟩
  /-- The client is started. -/
  | clientStarted {w : Holdings} {h : History} {e : Engine} (at_e : e.holdings = w)
      (down : w.clientRunning = false) :
      Move ⟨{}, w, h⟩ ⟨{}, { w with clientRunning := true }, .asked e .startClient (.ok ()) :: h⟩
  /-- The client is stopped. -/
  | clientStopped {w : Holdings} {h : History} {e : Engine} {answer : Except Fault Unit}
      (up : w.clientRunning = true) (browsers : w.browsers = .empty)
      (at_e : e.holdings = { w with clientRunning := false }) :
      Move ⟨{}, w, h⟩ ⟨{}, { w with clientRunning := false }, .asked e .stopClient answer :: h⟩
  /-- Without findings there is nothing to resolve. -/
  | forgotten {w : Holdings} {h : History} (live : w.registry.live = []) :
      Move ⟨{}, w, h⟩ ⟨{}, { w with resolving := .empty }, h⟩

/-- A history only grows by moves. -/
theorem Move.suffix {p q : Point} (move : Move p q) : p.history <:+ q.history := by
  cases move <;> first | exact List.suffix_refl _ | exact List.suffix_cons _ _

/-- Any number of moves. -/
abbrev Path : Point → Point → Prop :=
  Relation.ReflTransGen Move

/-- What every move keeps, every path keeps. -/
theorem Path.keeps {I : Point → Prop} (keeps : ∀ {p q}, Move p q → I p → I q) {p q : Point}
    (path : Path p q) (hp : I p) : I q := by
  induction path with
  | refl => exact hp
  | tail _ move ih => exact keeps move ih

end ScannerDiscovery.Engine
