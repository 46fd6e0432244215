import ScannerDiscovery.Proofs.Engine.Frame.Spares

/-!
# What a routine keeps in any case

An invariant that holds whenever a routine has come to its end, whatever it has been answered and
whether or not it has failed, is kept by the routine.  It need not hold while the routine waits.

Main definitions:

- `Keeps` : invariants at the ends of a routine.

Main results:

- `Keeps.of_runs` : what is kept holds at the end of every run.
- `Keeps.bind`, `Keeps.attempt_bind` : routines one after another.
- `SparesFrom.keeps` : what depends on a view alone is kept by routines that spare it.
- `Reached.invariant` : what every call keeps holds at every moment of a run.
-/

namespace ScannerDiscovery.Engine

variable {α β V : Type} {R : Request → Prop} {view : Engine → V} {I J : Engine → History → Prop}
  {e : Engine} {h : History}

/-- Whether an invariant holds at all ends of a routine, from where it stands and with a history. -/
def Keeps (I : Engine → History → Prop) : Outcome requests Engine Fault α → History → Prop
  | .returned _ e, h => I e h
  | .raised _ e, h => I e h
  | .paused e request resume, h => ∀ answer e', Disturbed e e' →
    Keeps I (resume answer e') (.asked e request answer :: h)

/-- What is kept holds at the end of every run. -/
theorem Keeps.of_runs {o : Outcome requests Engine Fault α} {h' : History} {r : Except Fault α}
    {e' : Engine} (runs : Runs o h r e' h') (keeps : Keeps I o h) : I e' h' := by
  induction runs with
  | returned => exact keeps
  | raised => exact keeps
  | paused disturbed rest ih => exact ih (keeps _ _ disturbed)

/-- A second routine starts where the first has ended. -/
theorem Keeps.outcome_bind {o : Outcome requests Engine Fault α} {next : α → Work β}
    (first : Keeps I o h) (raised : ∀ e h, I e h → J e h)
    (others : ∀ value e h, I e h → Keeps J (next value e) h) : Keeps J (o.bind next) h := by
  induction o generalizing h with
  | returned value e => exact others value e h first
  | raised fault e => exact raised e h first
  | paused e request resume ih =>
      exact fun answer e' disturbed => ih _ _ (first answer e' disturbed)

theorem Keeps.bind {first : Work α} {next : α → Work β} (keeps : Keeps I (first e) h)
    (others : ∀ value e h, I e h → Keeps I (next value e) h) :
    Keeps I ((first >>= next) e) h :=
  keeps.outcome_bind (fun _ _ => id) others

/-- A routine whose fault is caught, and what follows on its end. -/
theorem Keeps.attempt_bind {o : Outcome requests Engine Fault α} {next : Except Fault α → Work β}
    (keeps : Keeps I o h) (others : ∀ result e h, I e h → Keeps I (next result e) h) :
    Keeps I (o.attempt.bind next) h := by
  induction o generalizing h with
  | returned value e => exact others _ e h keeps
  | raised fault e => exact others _ e h keeps
  | paused e request resume ih =>
      exact fun answer e' disturbed => ih _ _ (keeps answer e' disturbed)

/-- A weaker invariant is kept as well. -/
theorem Keeps.mono {o : Outcome requests Engine Fault α} (keeps : Keeps I o h)
    (weaker : ∀ e h, I e h → J e h) : Keeps J o h := by
  induction o generalizing h with
  | returned value e => exact weaker e h keeps
  | raised fault e => exact weaker e h keeps
  | paused e request resume ih =>
      exact fun answer e' disturbed => ih _ _ (keeps answer e' disturbed)

/-- What depends on a view alone, and is kept by what happens during a permitted request, is kept
by a routine that spares the view. -/
theorem SparesFrom.keeps {o : Outcome requests Engine Fault α}
    (spares : SparesFrom R view (view e) o)
    (depends : ∀ {e e' h}, view e' = view e → I e h → I e' h)
    (asked : ∀ {e e' request answer h}, R request → Disturbed e e' → I e h →
      I e' (.asked e request answer :: h)) (hI : I e h) : Keeps I o h := by
  induction o generalizing e h with
  | returned value e' => exact depends spares hI
  | raised fault e' => exact depends spares hI
  | paused e₁ request resume ih =>
      obtain ⟨hview, permitted, rest⟩ := spares
      exact fun answer e' disturbed =>
        ih answer e' (rest answer e') (asked permitted disturbed (depends hview hI))

/-- What every call keeps, and nothing beside the engine disturbs, holds at every moment of a
run. -/
theorem Reached.invariant {m : Moment} (reached : Reached m)
    (new : ∀ enabled ipVersion, I { enabled, ipVersion } [])
    (called : ∀ e h (call : Call), I e h → Keeps I (call.routine e) (.called e call :: h))
    (beside : ∀ e h d, I e h → I (Disturbance.apply e d) h) : I m.engine m.history := by
  induction reached with
  | new enabled ipVersion => exact new enabled ipVersion
  | step before step ih =>
      cases step with
      | call call possible runs => exact (called _ _ call ih).of_runs runs
      | beside e h d => exact beside e h d ih

end ScannerDiscovery.Engine
