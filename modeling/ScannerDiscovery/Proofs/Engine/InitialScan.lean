import ScannerDiscovery.Proofs.Engine.Conduct.Calls
import ScannerDiscovery.Proofs.Engine.Scripts

/-!
# The tasks of the initial scan

Between two calls the gate counts for each method the open browses that are in their initial phase
and the live findings of that time, and nothing else.  So a method is reported done only when
none of these is left.

Main results:

- `gate_counts_tasks` : what the gate counts, and what is left when a method is reported done.
-/

namespace ScannerDiscovery.Engine

/-- The open browses of a method that are in their initial phase. -/
def browseTasks (e : Engine) (m : Method) : Nat :=
  e.browsers.keys.countP fun s => s.method == m && e.gate.inInitialScan s

/-- The live findings of a method that are attributed to the initial scan. -/
def findingTasks (e : Engine) (m : Method) : Nat :=
  e.registry.live.countP fun f => f.method == m && f.inInitialScan

/-- Whether every method that has been reported done had no task left at that moment. -/
def DoneWithoutTasks (h : History) : Prop :=
  ∀ e m answer, .asked e (.scanDone m) answer ∈ h → e.browseTasks m = 0 ∧ e.findingTasks m = 0

/-- A method is reported done only when it has no task left. -/
theorem DoneWithoutTasks.move {p q : Point} (move : Move p q) (balanced : Balanced p)
    (done : DoneWithoutTasks p.history) : DoneWithoutTasks q.history := by
  intro e m answer hentry
  cases move with
  | @signalled w h e₁ m₁ rest ops at_e =>
      rcases List.mem_cons.1 hentry with heq | hentry
      · simp only [Entry.asked.injEq, Request.scanDone.injEq] at heq
        obtain ⟨rfl, rfl, -⟩ := heq
        have none := balanced.signals m List.mem_cons_self
        rw [← at_e] at none
        exact none
      · exact done e m answer hentry
  | @noted d w h e₁ request answer₁ at_e minor =>
      rcases List.mem_cons.1 hentry with heq | hentry
      · simp only [Entry.asked.injEq] at heq
        obtain ⟨rfl, rfl, -⟩ := heq
        exact minor.elim
      · exact done e m answer hentry
  | _ => exact done e m answer (by simpa using hentry)

/-- At every moment of a run, each method that has been reported done had no task left then. -/
theorem Reached.doneWithoutTasks {m : Moment} (reached : Reached m)
    (admissible : Admissible m.history) : DoneWithoutTasks m.history := by
  have both : Balanced ⟨{}, m.engine.holdings, m.history⟩ ∧ DoneWithoutTasks m.history := by
    refine reached.keeps (I := fun p => Balanced p ∧ DoneWithoutTasks p.history) ?_ ?_ admissible
    · refine ⟨Sound.initial.balanced, ?_⟩
      intro e method answer hentry
      exact absurd hentry List.not_mem_nil
    · rintro p q move ⟨balanced, done⟩
      exact ⟨balanced.move move, done.move move balanced⟩
  exact both.2

/-- The gate counts open browses in their initial phase and live findings of that time, at every
moment of a run; and when a method is reported done there are none of its own. -/
theorem gate_counts_tasks {m : Moment} (reached : Reached m) (admissible : Admissible m.history) :
    (∀ method, m.engine.gate.count method =
      m.engine.browseTasks method + m.engine.findingTasks method) ∧
    DoneWithoutTasks m.history :=
  ⟨(reached.sound admissible).balanced.count, reached.doneWithoutTasks admissible⟩

/-- At the office the browses of three services and the printer are left of one method, and nothing
is left of the method that has been reported done. -/
theorem office_gate_counts :
    office.engine.gate.count .mdnsHint = 3 + 1 ∧ office.engine.gate.count .uscanTcp = 0 + 0 ∧
    (∀ method, office.engine.gate.count method =
      office.engine.browseTasks method + office.engine.findingTasks method) ∧
    DoneWithoutTasks office.history :=
  ⟨by decide +kernel, by decide +kernel, gate_counts_tasks office_reached office_admissible⟩

end ScannerDiscovery.Engine
