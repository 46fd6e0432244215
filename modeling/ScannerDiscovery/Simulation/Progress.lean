import ScannerDiscovery.Number.Binary64

/-!
# Progress in steps

A simulated system goes on in steps: it does what is ready, or lets an alarm ring. Whoever waits
lets alarms ring, one after another, until something holds or the deadline rings. The deadline is
an alarm like the others, armed when the waiting begins.

Main results:

- `step?_keepOn` : a system that has kept on with enough steps has none left.
- `holds_of_ringUntil` : what is waited for holds when the waiting ends.
-/

namespace ScannerDiscovery.Simulation

variable {σ : Type}

/-! ## Taking steps -/

/-- Takes steps as long as there are any, up to a number. -/
def keepOn (step? : σ → Option σ) : Nat → σ → σ
  | 0, s => s
  | n + 1, s =>
    match step? s with
    | none => s
    | some s => keepOn step? n s

/-- A system whose remaining work falls with each step has no step left after as many steps. -/
theorem step?_keepOn {step? : σ → Option σ} {work : σ → Nat}
    (falls : ∀ s t, step? s = some t → work t < work s) {n : Nat} {s : σ} (h : work s ≤ n) :
    step? (keepOn step? n s) = none := by
  induction n generalizing s with
  | zero =>
    unfold keepOn
    cases hs : step? s with
    | none => rfl
    | some t => exact absurd (falls s t hs) (by omega)
  | succ n ih =>
    unfold keepOn
    split
    · assumption
    · rename_i t hs
      exact ih (by have := falls s t hs; omega)

/-! ## Waiting -/

/-- Lets alarms ring until something holds, which is true, or the deadline rings, which is false.
The function `ring?` lets one alarm ring and says whether it was the deadline. There is no result
if nothing rings any more, or after a number of alarms. -/
def ringUntil (holds : σ → Bool) (ring? : σ → Option (Bool × σ)) :
    Nat → σ → Option (Bool × σ)
  | 0, _ => none
  | n + 1, s =>
    if holds s then some (true, s)
    else match ring? s with
      | none => none
      | some (true, s) => some (false, s)
      | some (false, s) => ringUntil holds ring? n s

/-- Whether a timeout is over before the waiting begins. -/
def isOver (timeout : Option Binary64) : Bool :=
  match timeout with
  | some t => t ≤ 0
  | none => false

/-- What is waited for holds when the waiting ends before the deadline. -/
theorem holds_of_ringUntil {holds : σ → Bool} {ring? : σ → Option (Bool × σ)}
    {n : Nat} {s t : σ} (h : ringUntil holds ring? n s = some (true, t)) : holds t = true := by
  induction n generalizing s with
  | zero => simp [ringUntil] at h
  | succ n ih =>
    unfold ringUntil at h
    split at h
    · rename_i hs
      simp only [Option.some.injEq, Prod.mk.injEq, true_and] at h
      exact h ▸ hs
    · split at h
      · simp at h
      · simp at h
      · exact ih h

end ScannerDiscovery.Simulation
