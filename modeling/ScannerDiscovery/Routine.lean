/-!
# Routines that ask their surroundings

A routine works on a state, may fail with a fault, and pauses whenever it needs something from
its surroundings: it shows its state and a request, and goes on with the answer and with the
state as it then is. So a routine can be run to its end, suspended between two requests, or
abandoned at one, and what it has done to the state by then remains.

Main results:

- `Routine` is a lawful monad.
- `run_bind`, `run_attempt` : running routines one after another, and running one whose fault is
  caught, in given surroundings.
-/

namespace ScannerDiscovery

/-- The requests that a routine may make, and the answers it expects. -/
structure Interface where
  Request : Type
  Answer : Request → Type

/-- Where a routine stands: at its end, with a value or a fault, or paused at a request. -/
inductive Outcome (I : Interface) (σ ε α : Type)
  | returned (value : α) (state : σ)
  | raised (fault : ε) (state : σ)
  | paused (state : σ) (request : I.Request)
      (resume : I.Answer request → σ → Outcome I σ ε α)

/-- A routine, by where it stands when started in a state. -/
def Routine (I : Interface) (σ ε α : Type) := σ → Outcome I σ ε α

variable {I : Interface} {σ ε α β ω : Type}

namespace Outcome

/-- Goes on with another routine after the first has returned. -/
def bind : Outcome I σ ε α → (α → Routine I σ ε β) → Outcome I σ ε β
  | returned value state, next => next value state
  | raised fault state, _ => raised fault state
  | paused state request resume, next =>
    paused state request fun answer state => (resume answer state).bind next

/-- Turns the end of a routine into a value, whether it failed or not. -/
def attempt : Outcome I σ ε α → Outcome I σ ε (Except ε α)
  | returned value state => returned (.ok value) state
  | raised fault state => returned (.error fault) state
  | paused state request resume =>
    paused state request fun answer state => (resume answer state).attempt

/-- Runs a routine to its end. The surroundings `ω` answer every request, and may change the
routine's state while they do. -/
def run (answer : (request : I.Request) → σ → ω → I.Answer request × σ × ω) :
    Outcome I σ ε α → ω → Except ε α × σ × ω
  | returned value state, world => (.ok value, state, world)
  | raised fault state, world => (.error fault, state, world)
  | paused state request resume, world =>
    let (reply, state, world) := answer request state world
    (resume reply state).run answer world

/-- To return a value in the end changes nothing. -/
theorem bind_returned (o : Outcome I σ ε α) : o.bind (fun value state => returned value state) = o := by
  induction o with
  | returned value state => rfl
  | raised fault state => rfl
  | paused state request resume ih =>
    simp only [bind]
    congr
    funext answer state
    exact ih answer state

/-- Of three routines in a row it does not matter which two are put together first. -/
theorem bind_bind (o : Outcome I σ ε α) (f : α → Routine I σ ε β) {γ : Type}
    (g : β → Routine I σ ε γ) :
    (o.bind f).bind g = o.bind fun value state => (f value state).bind g := by
  induction o with
  | returned value state => rfl
  | raised fault state => rfl
  | paused state request resume ih =>
    simp only [bind]
    congr
    funext answer state
    exact ih answer state

/-- A second routine runs in the surroundings that the first has left behind, unless that has
failed. -/
theorem run_bind (answer : (request : I.Request) → σ → ω → I.Answer request × σ × ω)
    (o : Outcome I σ ε α) (next : α → Routine I σ ε β) (world : ω) :
    (o.bind next).run answer world =
      match o.run answer world with
      | (.ok value, state, world) => (next value state).run answer world
      | (.error fault, state, world) => (.error fault, state, world) := by
  induction o generalizing world with
  | returned value state => rfl
  | raised fault state => rfl
  | paused state request resume ih => exact ih _ _ _

/-- A routine whose fault is caught does what it does otherwise, and always returns. -/
theorem run_attempt (answer : (request : I.Request) → σ → ω → I.Answer request × σ × ω)
    (o : Outcome I σ ε α) (world : ω) :
    o.attempt.run answer world =
      (.ok (o.run answer world).1, (o.run answer world).2) := by
  induction o generalizing world with
  | returned value state => rfl
  | raised fault state => rfl
  | paused state request resume ih => exact ih _ _ _

end Outcome

namespace Routine

instance : Monad (Routine I σ ε) where
  pure value := fun state => .returned value state
  bind routine next := fun state => (routine state).bind next

instance : LawfulMonad (Routine I σ ε) :=
  LawfulMonad.mk' (Routine I σ ε)
    (fun routine => funext fun state => Outcome.bind_returned (routine state))
    (fun _ _ => rfl)
    (fun routine f g => funext fun state => Outcome.bind_bind (routine state) f g)

/-- The state. -/
def get : Routine I σ ε σ := fun state => .returned state state

/-- Changes the state. -/
def modify (change : σ → σ) : Routine I σ ε Unit := fun state => .returned () (change state)

/-- Fails. -/
def raise (fault : ε) : Routine I σ ε α := fun state => .raised fault state

/-- Pauses for the answer to a request. -/
def ask (request : I.Request) : Routine I σ ε (I.Answer request) :=
  fun state => .paused state request fun answer state => .returned answer state

/-- Runs a routine and gives its end as a value, whether it failed or not. -/
def attempt (routine : Routine I σ ε α) : Routine I σ ε (Except ε α) :=
  fun state => (routine state).attempt

/-- Goes on with the value of an answer, or fails with its fault. -/
def ofExcept : Except ε α → Routine I σ ε α
  | .ok value => pure value
  | .error fault => raise fault

end Routine

end ScannerDiscovery
