import ScannerDiscovery.Proofs.Engine.Runs

/-!
# Runs that follow a script

A script says what happens one after another, and a plan how every request is answered.  Carrying
a script out gives one run of the engine; it is among the runs of which the other modules speak.

Main definitions:

- `Plan`, `Plan.carryOut` : answers to requests, and the moment a script leads to with them.
- `Plan.willing` : the plan by which everything succeeds and every handle is new.
- `office` : a moment of a run with findings in all conditions.

Main results:

- `Plan.reached` : a script leads to a moment of a run.
- `Plan.admissible` : with admissible answers its history is admissible.
-/

namespace ScannerDiscovery.Engine

/-- How requests are answered, knowing what has happened so far. -/
abbrev Plan := (request : Request) → History → request.Answer

/-- One thing that happens in a script. -/
inductive Act
  | call (call : Call)
  | beside (disturbance : Disturbance)

instance (e : Engine) : (call : Call) → Decidable (call.IsPossible e)
  | .turn => inferInstanceAs (Decidable (e.isConsuming = true))
  | .start => inferInstanceAs (Decidable True)
  | .stop => inferInstanceAs (Decidable True)
  | .query .. => inferInstanceAs (Decidable True)

namespace Plan

/-- The surroundings that answer by a plan and record each request. -/
def surroundings (plan : Plan) (request : Request) (e : Engine) (h : History) :
    request.Answer × Engine × History :=
  (plan request h, e, .asked e request (plan request h) :: h)

/-- The moment after an act.  A call that cannot be made is left out. -/
def perform (plan : Plan) (m : Moment) : Act → Moment
  | .call call =>
    if call.IsPossible m.engine then
      let called := .called m.engine call :: m.history
      let ended := (call.routine m.engine).run plan.surroundings called
      ⟨ended.2.1, ended.2.2⟩
    else m
  | .beside d => ⟨d.apply m.engine, m.history⟩

/-- The moment that a script leads to from a new engine. -/
def carryOut (plan : Plan) (script : List Act) : Moment :=
  script.foldl plan.perform ⟨{ enabled := true, ipVersion := .all }, []⟩

/-! ## Scripts and runs -/

variable {α : Type} {plan : Plan}

/-- A routine that is answered by a plan goes one of its ways. -/
theorem runs (plan : Plan) (o : Outcome requests Engine Fault α) (h : History) :
    Runs o h (o.run plan.surroundings h).1 (o.run plan.surroundings h).2.1
      (o.run plan.surroundings h).2.2 := by
  induction o generalizing h with
  | returned value e => exact .returned value e h
  | raised fault e => exact .raised fault e h
  | paused e request resume ih => exact .paused (.refl e) (ih _ e _)

/-- A script leads to a moment of a run. -/
theorem reached (plan : Plan) (script : List Act) : Reached (plan.carryOut script) := by
  have one : ∀ m act, Reached m → Reached (plan.perform m act) := by
    intro m act before
    cases act with
    | beside d => exact before.step (.beside _ _ d)
    | call call =>
        rw [perform]
        split
        · rename_i possible
          exact before.step (.call call possible (plan.runs _ _))
        · exact before
  have all : ∀ (script : List Act) m, Reached m → Reached (script.foldl plan.perform m) := by
    intro script
    induction script with
    | nil => exact fun m before => before
    | cons act rest ih => exact fun m before => ih _ (one m act before)
  exact all script _ (.new _ _)

/-- Recording admissible answers keeps a history admissible. -/
theorem admissible_run (admits : ∀ (request : Request) h, request.Admits (plan request h))
    (o : Outcome requests Engine Fault α) {h : History} (ha : Admissible h) :
    Admissible (o.run plan.surroundings h).2.2 := by
  induction o generalizing h with
  | returned value e => exact ha
  | raised fault e => exact ha
  | paused e request resume ih =>
      apply ih
      exact ha.cons (admits request h)

/-- With admissible answers the history of a script is admissible. -/
theorem admissible (admits : ∀ (request : Request) h, request.Admits (plan request h))
    (script : List Act) : Admissible (plan.carryOut script).history := by
  have one : ∀ m act, Admissible m.history → Admissible (plan.perform m act).history := by
    intro m act ha
    cases act with
    | beside d => exact ha
    | call call =>
        rw [perform]
        split
        · apply admissible_run admits
          exact ha.cons trivial
        · exact ha
  have all : ∀ (script : List Act) m, Admissible m.history →
      Admissible (script.foldl plan.perform m).history := by
    intro script
    induction script with
    | nil => exact fun m ha => ha
    | cons act rest ih => exact fun m ha => ih _ (one m act ha)
  exact all script _ (by intro entry hentry; simp at hentry)

/-! ## Willing surroundings -/

/-- The plan by which everything succeeds and every handle is new. -/
def willing : Plan
  | .startClient, _ => .ok ()
  | .stopClient, _ => .ok ()
  | .startBrowse _, h => .ok (.number h.length)
  | .stopBrowse _, _ => .ok ()
  | .resolve .., h => .ok (.number h.length)
  | .cancelResolve _, _ => ()
  | .publish _, _ => .ok ()
  | .withdraw _, _ => .ok ()
  | .scanDone _, _ => ()
  | .hear .., _ => .ok ()
  | .armRestart _, _ => ()
  | .disarmRestart _, _ => ()
  | .settle .., _ => ()

/-- By this plan every answer is admissible. -/
theorem willing_admits (request : Request) (h : History) : request.Admits (willing request h) := by
  cases request <;> first | exact rfl | trivial

end Plan

/-! ## A script -/

/-- An event is posted and handled. -/
def told (event : Event) : List Act :=
  [.beside (.post event), .call .turn]

/-- A new instance, seen on one interface with the older address family. -/
def seen (service : Service) (name : String) : List Act :=
  told (.notice (.browse
    { service, kind := .new, name := some name, ifindex := 2, families := [.ipv4] }))

/-- An instance has been found at an address, with a port. -/
def foundAt (op : Ticket) (address : Ip.Address) (port : Int) : Event :=
  .notice (.resolve { op, kind := .found, address := some address, port })

/-- A day at an office.  Of three scanners one is found at once, one after the initial scan of its
service has ended, and one goes away; a printer is still being resolved, but its completion has
been posted. -/
def office : Moment :=
  Plan.willing.carryOut <|
    [.call .start] ++ told (.notice (.client .running)) ++
    seen .scanner "Reception" ++ seen .uscan "Library" ++ seen .uscans "Workshop" ++
    told (foundAt (.number 9) (.v4 ⟨192, 0, 2, 7⟩) 9100) ++
    told (.notice (.browse { service := .uscan, kind := .allForNow })) ++
    told (foundAt (.number 11) (.v4 ⟨192, 0, 2, 8⟩) 80) ++
    told (.notice (.browse
      { service := .uscans, kind := .remove, name := some "WORKSHOP", ifindex := 2 })) ++
    seen .ipp "Archive" ++ [.beside (.post (foundAt (.number 23) (.v4 ⟨192, 0, 2, 9⟩) 631))]

theorem office_reached : Reached office :=
  Plan.willing.reached _

theorem office_admissible : Admissible office.history :=
  Plan.admissible Plan.willing_admits _

end ScannerDiscovery.Engine
