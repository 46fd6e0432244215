import ScannerDiscovery.Proofs.Engine.CatalogAgreement
import ScannerDiscovery.Proofs.Engine.Sessions.Conduct
import ScannerDiscovery.Proofs.Engine.Sessions.Scripts
import ScannerDiscovery.Proofs.Engine.Stages.Handlers

/-!
# The engine can always recover

While a started engine is not halted, its client runs, or a restart timer sleeps, or the end of the
current restart timer waits to be handled; never two of these, and never two timers.  So no failure
of the transport leaves the engine dead, and none has it restart a client that runs.

Main results:

- `InPhase.one_way` : the engine is running, or there is one way for it to be restarted.
- `Reached.idle` : an engine that does not browse holds nothing.
- `recovers_in_one_way` : recovery at every moment of a run.
-/

namespace ScannerDiscovery.Engine

variable {e : Engine} {s : Scene} {h : History}

/-! ## One way to recover -/

/-- Among posts that are no ends of timers there is none of a certain timer. -/
theorem count_restartDue_eq_zero {posts : List (Event × Option Nat)}
    (undue : ∀ post ∈ posts, ¬post.1.IsDue) (generation : Int) :
    (posts.map Prod.fst).count (.restartDue generation) = 0 := by
  rw [List.count_eq_zero]
  intro hmem
  obtain ⟨post, hpost, hevent⟩ := List.mem_map.1 hmem
  apply undue post hpost
  rw [hevent]
  trivial

/-- An engine in one of its phases is running, or there is one way for it to be restarted. -/
theorem InPhase.one_way (phase : InPhase e.pulse s) :
    e.clientRunning.toNat + s.asleep.length + e.waiting.count (.restartDue e.generation) = 1 := by
  rcases phase with up | sleeping | due
  · obtain ⟨queue, untimed, -⟩ := up.untimed
    have client : e.clientRunning = true := up.client
    rw [client, untimed.asleep, untimed.queued.waiting_eq, count_restartDue_eq_zero untimed.undue]
    rfl
  · obtain ⟨queue, queued, undue⟩ := sleeping.queued
    have down : e.clientRunning = false := sleeping.down
    rw [down, sleeping.asleep, queued.waiting_eq, count_restartDue_eq_zero undue]
    rfl
  · obtain ⟨before, after, queued, undue, aside⟩ := due.queued
    have down : e.clientRunning = false := due.down
    have undue' : ∀ post ∈ after, ¬post.1.IsDue := fun post hpost => (aside post hpost).1
    rw [down, due.asleep, queued.waiting_eq, List.map_append, List.map_cons, List.count_append,
      count_restartDue_eq_zero undue]
    change 0 + 0 + (0 + (Event.restartDue e.generation :: _).count (.restartDue e.generation)) = 1
    rw [List.count_cons_self, count_restartDue_eq_zero undue']

/-! ## Nothing is left -/

/-- Without live findings a catalog that agrees with the registry is empty. -/
theorem findings_eq_empty {catalog : Catalog} {r : Registry}
    (agrees : ∀ key snapshot, catalog.findings.get? key = some snapshot ↔
      r.Publishes key snapshot) (live : r.live = []) : catalog.findings = .empty := by
  apply OrderedMap.eq_empty_of_get?
  intro key
  cases hget : catalog.findings.get? key with
  | none => rfl
  | some snapshot =>
      obtain ⟨f, hf, -⟩ := (agrees key snapshot).1 hget
      simp [live] at hf

/-- An engine that does not browse holds nothing, and neither does the catalog. -/
theorem Reached.idle {m : Moment} (reached : Reached m) (admissible : Admissible m.history)
    (idle : m.engine.browserRunning = false) :
    m.engine.browsers = .empty ∧ m.engine.registry.live = [] ∧ m.engine.resolving = .empty ∧
      (catalogAfter m.history).findings = .empty := by
  have orderly := (reached.conducted admissible).2
  have live : m.engine.registry.live = [] := orderly.findings idle
  refine ⟨orderly.browsers idle, live, ?_, ?_⟩
  · apply OrderedMap.eq_empty_of_get?
    intro op
    cases hget : m.engine.resolving.get? op with
    | none => rfl
    | some number =>
        -- a resolve is one that a live finding waits for
        rcases (reached.sound admissible).linked op number hget with hop | ⟨f, hf, -⟩
        · exact absurd hop List.not_mem_nil
        · have hf' : f ∈ m.engine.registry.live := hf
          simp [live] at hf'
  · exact findings_eq_empty (reached.agrees admissible).1.findings live

/-- Whenever a session was ended, nothing was left in registry and catalog. -/
theorem Reached.torn {m : Moment} (reached : Reached m) (admissible : Admissible m.history)
    {e : Engine} {request : Request} {answer : request.Answer} {before : History}
    (asked : .asked e request answer :: before <:+ m.history) (ends : request.EndsSession) :
    e.registry.live = [] ∧ (catalogAfter before).findings = .empty := by
  obtain ⟨now, hand, staged, -⟩ := reached.accounted admissible
  have live : e.registry.live = [] :=
    staged.torn e request answer (asked.subset List.mem_cons_self) ends
  refine ⟨live, findings_eq_empty ?_ live⟩
  refine (reached.agrees admissible).2 e request answer before asked ?_
  rintro snapshot rfl
  exact ends.elim

/-! ## Recovery at every moment -/

/-- Recovery at every moment of a run at which the engine is started and not halted.  Just one of
these holds, and one time only: the client runs, a restart timer sleeps, or the end of the current
restart timer waits; and the engine knows of the timer that sleeps.  While browses run, the client
does, and all services are browsed; otherwise nothing is browsed, found, resolved or in the catalog.
Whenever the client was stopped or a timer armed, everything had been withdrawn.  And the end of a
timer that has been replaced changes nothing. -/
theorem recovers_in_one_way {m : Moment} {s : Scene} (played : Played m s)
    (admissible : Admissible m.history) (enabled : m.engine.enabled = true)
    (started : m.engine.started = true) (unfailed : m.engine.failure = none) :
    m.engine.clientRunning.toNat + s.asleep.length +
      m.engine.waiting.count (.restartDue m.engine.generation) = 1 ∧
    s.asleep = m.engine.restart.toList ∧
    (m.engine.browserRunning = true → m.engine.clientRunning = true ∧
      ∀ service, (m.engine.browsers.get? service).isSome = true) ∧
    (m.engine.browserRunning = false → m.engine.browsers = .empty ∧ m.engine.registry.live = [] ∧
      m.engine.resolving = .empty ∧ (catalogAfter m.history).findings = .empty) ∧
    (∀ e request answer before, .asked e request answer :: before <:+ m.history →
      request.EndsSession → e.registry.live = [] ∧ (catalogAfter before).findings = .empty) ∧
    ∀ generation : Int, generation ≠ m.engine.generation →
      dispatch (.restartDue generation) m.engine = .returned () m.engine := by
  have reached := played.reached
  have orderly := (reached.conducted admissible).2
  have between := played.betweenCalls admissible
  have phase := between.phase started (between.open_of started enabled) unfailed
  refine ⟨phase.one_way, between.timer, fun browsing => ?_, reached.idle admissible, ?_, ?_⟩
  · exact ⟨orderly.client browsing, orderly.browsed browsing⟩
  · exact fun e request answer before => reached.torn admissible
  · intro generation stale
    simp only [dispatch, onRestartDue, bind_get]
    exact congrFun (if_neg (by simp [stale])) _

/-- In the relapse the restart timer has rung. -/
theorem relapse_recovers :
    relapse.engine.waiting.count (.restartDue 1) = 1 ∧
    relapse.engine.clientRunning.toNat + relapseScene.asleep.length +
      relapse.engine.waiting.count (.restartDue relapse.engine.generation) = 1 ∧
    relapseScene.asleep = relapse.engine.restart.toList ∧
    (relapse.engine.browserRunning = true → relapse.engine.clientRunning = true ∧
      ∀ service, (relapse.engine.browsers.get? service).isSome = true) ∧
    (relapse.engine.browserRunning = false → relapse.engine.browsers = .empty ∧
      relapse.engine.registry.live = [] ∧ relapse.engine.resolving = .empty ∧
      (catalogAfter relapse.history).findings = .empty) ∧
    (∀ e request answer before, .asked e request answer :: before <:+ relapse.history →
      request.EndsSession → e.registry.live = [] ∧ (catalogAfter before).findings = .empty) ∧
    ∀ generation : Int, generation ≠ relapse.engine.generation →
      dispatch (.restartDue generation) relapse.engine = .returned () relapse.engine :=
  ⟨by decide +kernel, recovers_in_one_way relapse_played relapse_admissible (by decide +kernel)
    (by decide +kernel) (by decide +kernel)⟩

end ScannerDiscovery.Engine
