import ScannerDiscovery.Simulation.Run

/-!
# The service of a process

A process has at most one current service. It is made when it is first asked for, and after it
has been shut down the next one is a new one. All services work on the same network in the same
virtual time.

Main definitions:

- `Pool.get`, `Pool.start`, `Pool.shutdown` : the current service.
-/

namespace ScannerDiscovery.Simulation

/-- All services made, which of them have been handed out, and the current one. The first service
begins on the loop of origin, on which time passes until there is one. -/
structure Pool where
  settings : DiscoverySettings
  network : Network
  origin : Loop := .initial
  services : List Run := []
  handedOut : List Nat := []
  current : Option Nat := none

namespace Pool

/-- The pool with one service replaced. -/
def setService (p : Pool) (index : Nat) (service : Run) : Pool :=
  { p with services := p.services.set index service }

/-- The loop that a new service goes on with: that of the service made last, or the loop of
origin. -/
def loop (p : Pool) : Loop :=
  (p.services.getLast?.map (·.loop)).getD p.origin

/-- The place of the current service, which is made if there is none. A new service goes on in
the time of the one before. -/
def currentIndex (p : Pool) : Nat × Pool :=
  match p.current with
  | some index => (index, p)
  | none =>
    let service := (Run.multicast p.settings p.network).withLoop fun _ => p.loop
    let index := p.services.length
    (index, { p with services := p.services ++ [service], current := some index })

/-- The number of a service among those handed out, which it joins if it is not one of them. -/
def handOut (p : Pool) (index : Nat) : Nat × Pool :=
  if p.handedOut.contains index then (p.handedOut.idxOf index, p)
  else (p.handedOut.length, { p with handedOut := p.handedOut ++ [index] })

/-- Hands out the current service. -/
def get (p : Pool) : Nat × Pool :=
  let (index, p) := p.currentIndex
  p.handOut index

/-- Does something with a service, and settles. -/
def perform (p : Pool) (index : Nat) (action : Run → Except Fault Unit × Run) :
    Except Fault Unit × Pool :=
  match p.services[index]? with
  | none => (.ok (), p)
  | some service =>
    let (result, service) := action service
    (result, p.setService index service.settle)

/-- Starts the current service and hands it out. -/
def start (p : Pool) : Except Fault Nat × Pool :=
  let (index, p) := p.currentIndex
  match p.perform index Run.start with
  | (.ok (), p) =>
    let (number, p) := p.handOut index
    (.ok number, p)
  | (.error fault, p) => (.error fault, p)

/-- Stops the current service, if there is one, and lets go of it. -/
def shutdown (p : Pool) : Except Fault Unit × Pool :=
  match p.current with
  | none => (.ok (), p)
  | some index =>
    match p.perform index Run.stop with
    | (.ok (), p) => (.ok (), { p with current := none })
    | failed => failed

/-- Lets time pass for the service made last. The others have been stopped. Without a service only
the clock moves. -/
def advance (p : Pool) (seconds : Binary64) : Pool :=
  match p.services.getLast? with
  | none => { p with origin := p.origin.setClock (p.origin.now + seconds) }
  | some service => p.setService (p.services.length - 1) (service.advance seconds)

/-- The services handed out, in order. -/
def known (p : Pool) : List Run :=
  p.handedOut.filterMap (p.services[·]?)

/-- What the services have done to the outside, in order. -/
def trace (p : Pool) : List Line :=
  p.services.flatMap (·.trace)

end Pool

end ScannerDiscovery.Simulation
