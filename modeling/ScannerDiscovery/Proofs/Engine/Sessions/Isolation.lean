import ScannerDiscovery.Proofs.Engine.Sessions.Recovery

/-!
# Old sessions do not act on new ones

Reports carry no number of their session.  Still, a report is handled while the session that has
posted it is open, or handling it changes nothing: when a new session begins, all that earlier ones
have posted has been handled or discarded, since the end of the restart timer waits behind it; and
until then there are no browses, no resolves and no client that a report could act on.

Main results:

- `dispatch_notice_of_idle` : handling a report without client, browses and resolves.
- `BetweenCalls.queue_map`, `BetweenCalls.first` : where the events that wait come from.
- `old_sessions_change_nothing` : the reports of sessions at every moment of a run.
-/

namespace ScannerDiscovery.Engine

variable {e : Engine} {s : Scene}

/-! ## Handling a report while the engine is down -/

/-- Without client, browses and resolves a report changes nothing. -/
theorem dispatch_notice_of_idle (notice : Notice) (down : e.clientRunning = false)
    (idle : e.browserRunning = false) (none : e.resolving = .empty) :
    dispatch (.notice notice) e = .returned () e := by
  cases notice with
  | browse event =>
      simp only [dispatch, onBrowse, bind_get, idle]
      rfl
  | resolve event =>
      simp only [dispatch, onResolve, bind_get, none]
      rfl
  | client state =>
      simp only [dispatch, onClientState, bind_get, down]
      rfl

/-- A turn whose handler changes nothing just takes the event. -/
theorem turn_of_unchanged {event : Event} {box : Mailbox}
    (htake : e.mailbox.bind Mailbox.take? = some (event, box))
    (unchanged : dispatch event { e with mailbox := some box } =
      .returned () { e with mailbox := some box }) :
    turn e = .returned () { e with mailbox := some box.finish } := by
  simp only [turn, bind_get, htake, bind_modify, handle]
  change (dispatch event { e with mailbox := some box }).attempt.bind _ = _
  rw [unchanged]
  rfl

/-! ## Where events come from -/

/-- Of all events that wait it is known who has posted them. -/
theorem BetweenCalls.queue_map (between : BetweenCalls e.pulse s)
    (consuming : e.isConsuming = true) :
    (s.queue e).map Prod.fst = e.waiting := by
  obtain ⟨queue, queued⟩ := (between.inPhase consuming).queued
  rw [queued.queue_eq, queued.waiting_eq]

/-- What a session has posted waits while that session is open, or while the engine is down. -/
theorem BetweenCalls.first {event : Event} {k : Nat} {rest : List (Event × Option Nat)}
    (between : BetweenCalls e.pulse s) (consuming : e.isConsuming = true)
    (first : s.queue e = (event, some k) :: rest) :
    (∃ box, e.mailbox.bind Mailbox.take? = some (event, box)) ∧
      (s.current? = some k ∧ e.clientRunning = true ∨ e.clientRunning = false) := by
  have phase := between.inPhase consuming
  obtain ⟨queue, queued⟩ := phase.queued
  rw [queued.queue_eq] at first
  subst first
  obtain ⟨⟨waiting, unfinished⟩, hmailbox, hwaiting⟩ := Option.map_eq_some_iff.1 queued.waiting
  obtain rfl : waiting = _ := hwaiting
  refine ⟨⟨_, by rw [hmailbox]; rfl⟩, ?_⟩
  rcases phase with up | down
  · obtain ⟨queue', untimed, origin⟩ := up.untimed
    have hqueue := untimed.queued.queue_eq.symm.trans queued.queue_eq
    rw [hqueue] at origin
    obtain rfl : k = s.sessions := (List.forall_mem_cons.1 origin).1 k rfl
    exact .inl ⟨if_pos up.isOpen, up.client⟩
  · exact .inr down.closed.down

/-! ## Reports of sessions at every moment -/

/-- What becomes of the reports of sessions at every moment of a run.  Those that are not put into
the mailbox change nothing.  Of those that are, it is known who has posted them while they wait.
The first that waits is the next to be taken; and it has been posted by the session that is open,
its client being running, or handling it changes nothing: nothing is asked for, and only the mailbox
has become another, which it has been taken from. -/
theorem old_sessions_change_nothing {m : Moment} {s : Scene} (played : Played m s)
    (admissible : Admissible m.history) :
    (m.engine.takesPosts = false → ∀ event, m.engine.post event = m.engine) ∧
    (m.engine.isConsuming = true → (s.queue m.engine).map Prod.fst = m.engine.waiting) ∧
    ∀ notice k rest, m.engine.isConsuming = true →
      s.queue m.engine = (.notice notice, some k) :: rest →
      ∃ box, m.engine.mailbox.bind Mailbox.take? = some (.notice notice, box) ∧
        (s.current? = some k ∧ m.engine.clientRunning = true ∨
          turn m.engine = .returned () { m.engine with mailbox := some box.finish }) := by
  have between := played.betweenCalls admissible
  refine ⟨post_of_not_takesPosts, between.queue_map, fun notice k rest consuming first => ?_⟩
  obtain ⟨⟨box, htake⟩, current | down⟩ := between.first consuming first
  · exact ⟨box, htake, .inl current⟩
  · have reached := played.reached
    obtain ⟨idle, -⟩ := (reached.conducted admissible).2.of_down down
    obtain ⟨-, -, none, -⟩ := reached.idle admissible idle
    refine ⟨box, htake, .inr (turn_of_unchanged htake ?_)⟩
    exact dispatch_notice_of_idle notice down idle none

/-- In the relapse the late report of the first session is the next to be handled, no session being
open. -/
theorem relapse_unchanged :
    relapseScene.queue relapse.engine =
      [(.notice (.browse { service := .uscan, kind := .new, name := some "Attic" }), some 1),
        (.restartDue 1, none)] ∧
    relapse.engine.isConsuming = true ∧ relapseScene.current? = none ∧
    (relapse.engine.takesPosts = false → ∀ event, relapse.engine.post event = relapse.engine) ∧
    (relapse.engine.isConsuming = true →
      (relapseScene.queue relapse.engine).map Prod.fst = relapse.engine.waiting) ∧
    ∀ notice k rest, relapse.engine.isConsuming = true →
      relapseScene.queue relapse.engine = (.notice notice, some k) :: rest →
      ∃ box, relapse.engine.mailbox.bind Mailbox.take? = some (.notice notice, box) ∧
        (relapseScene.current? = some k ∧ relapse.engine.clientRunning = true ∨
          turn relapse.engine =
            .returned () { relapse.engine with mailbox := some box.finish }) :=
  ⟨by decide +kernel, by decide +kernel, by decide +kernel,
    old_sessions_change_nothing relapse_played relapse_admissible⟩

end ScannerDiscovery.Engine
