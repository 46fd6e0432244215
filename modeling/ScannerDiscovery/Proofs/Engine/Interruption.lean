import ScannerDiscovery.Proofs.Engine.Remains

/-!
# Stopping the engine while it handles an event

A handler that waits for the transport can be interrupted there, so that the engine may be stopped
at once.  The stop goes on with what the handler has left: it closes the other browses, deletes the
findings and stops the client if that has not been tried.  But the task of the browse that was just
being stopped has been forgotten, and a client whose stop was interrupted is not stopped again.

Main definitions:

- `Interruption` : a stop that interrupts the handling of an event.
- `stopsInFull` : how often the client was stopped without being interrupted.
- `Interruption.Complete` : stops that leave nothing behind.

Main results:

- `stop_after_interruption` : what a stop leaves that interrupts the handling of an event.
- `interruption_incomplete` : one that leaves a task behind.
-/

namespace ScannerDiscovery.Engine

variable {h base : History}

/-! ## Stops in full -/

/-- Whether an entry is a stop of the client that was not interrupted. -/
def Entry.isFullStop : Entry → Bool
  | .asked _ .stopClient (.error .interrupted) => false
  | .asked _ .stopClient _ => true
  | _ => false

/-- How often the client was stopped without being interrupted. -/
def stopsInFull (h : History) : Nat :=
  h.countP Entry.isFullStop

theorem count_clientCalls_cons (call : ClientCall) (entry : Entry) (h : History) :
    (clientCalls (entry :: h)).count call =
      (clientCalls h).count call + if entry.clientCall? = some call then 1 else 0 := by
  simp only [clientCalls, List.count_reverse]
  cases hcall : entry.clientCall? with
  | none => simp [hcall]
  | some other => simp [hcall, List.count_cons]

/-- Whatever is admissible interrupts no stop of the client, -/
theorem Entry.Admitted.isFullStop {entry : Entry} (admitted : entry.Admitted) :
    entry.clientCall? = some .stop ↔ entry.isFullStop = true := by
  cases entry with
  | called e call => simp [Entry.clientCall?, Entry.isFullStop]
  | asked e request answer =>
      cases request with
      | stopClient =>
          rcases FailsAsTransport.cases admitted with ⟨value, rfl⟩ | ⟨fault, rfl⟩
          · simp [Entry.clientCall?, Entry.isFullStop]
          · simp [Entry.clientCall?, Entry.isFullStop]
      | startClient =>
          cases answer with
          | ok value => simp [Entry.clientCall?, Entry.isFullStop]
          | error fault => simp [Entry.clientCall?, Entry.isFullStop]
      | _ => simp [Entry.clientCall?, Entry.isFullStop]

/-- so that all stops since are stops in full. -/
theorem count_stop_add (since : Since Entry.Admitted base h) :
    (clientCalls h).count .stop + stopsInFull base =
      (clientCalls base).count .stop + stopsInFull h := by
  obtain ⟨entries, rfl, admitted⟩ := since
  induction entries with
  | nil => rfl
  | cons entry rest ih =>
      obtain ⟨admits, others⟩ := List.forall_mem_cons.1 admitted
      have same := admits.isFullStop
      have before := ih others
      rw [List.cons_append, count_clientCalls_cons, stopsInFull, stopsInFull, List.countP_cons]
      simp only [same, stopsInFull] at before ⊢
      omega

/-- A stop that is interrupted is none in full. -/
theorem BreaksOff.isFullStop {request : Request} {answer : request.Answer}
    (interrupted : BreaksOff .interrupted request answer) (e : Engine) :
    (Entry.asked e request answer).isFullStop = false ∧
    ((Entry.asked e request answer).clientCall? = some .stop ↔ request = .stopClient) := by
  cases request with
  | startClient =>
      obtain rfl : answer = .error .interrupted := interrupted
      exact ⟨rfl, by simp [Entry.clientCall?]⟩
  | stopClient =>
      obtain rfl : answer = .error .interrupted := interrupted
      exact ⟨rfl, by simp [Entry.clientCall?]⟩
  | stopBrowse handle => exact ⟨rfl, by simp [Entry.clientCall?]⟩
  | _ => exact interrupted.elim

/-! ## Interruptions -/

/-- A stop that interrupts the handling of an event.  At a moment of a run the next event is
handled, up to a request that keeps the engine waiting.  There the handling is interrupted, and when
it has ended the engine is stopped. -/
structure Interruption (m : Moment) where
  /-- The engine as it waits, what it waits for, and what has happened before. -/
  waiting : Engine
  request : Request
  answer : request.Answer
  before : History
  /-- How the handling of the event ends. -/
  handled : Except Fault Unit
  ended : Moment
  /-- The engine when it is stopped, and how that ends. -/
  found : Engine
  stopped : Except Fault Unit
  final : Moment
  consuming : m.engine.isConsuming = true
  turn : Runs (turn m.engine) (.called m.engine .turn :: m.history) handled ended.engine
    ended.history
  begun : .called m.engine .turn :: m.history <:+ before
  admissible : Admissible before
  interrupted : BreaksOff .interrupted request answer
  unwound : Since Entry.Admitted (.asked waiting request answer :: before) ended.history
  disturbed : Disturbed ended.engine found
  stop : Runs (stop found) (.called found .stop :: ended.history) stopped final.engine final.history
  released : Since Entry.Admitted (.called found .stop :: ended.history) final.history

namespace Interruption

variable {m : Moment} (i : Interruption m)

/-- Nothing else happens in the turn that would break it off. -/
theorem admittedOrBreaksOff :
    Since Entry.AdmittedOrBreaksOff (.called m.engine .turn :: m.history) i.ended.history := by
  have before : Since Entry.AdmittedOrBreaksOff (.called m.engine .turn :: m.history) i.before :=
    (i.admissible.since i.begun).mono fun _ => Entry.Admitted.admittedOrBreaksOff
  have asked : Since Entry.AdmittedOrBreaksOff i.before
      (.asked i.waiting i.request i.answer :: i.before) :=
    (Since.refl Entry.AdmittedOrBreaksOff i.before).cons
      (.inr ⟨.interrupted, trivial, i.interrupted⟩)
  have after : Since Entry.AdmittedOrBreaksOff (.asked i.waiting i.request i.answer :: i.before)
      i.ended.history := i.unwound.mono fun _ => Entry.Admitted.admittedOrBreaksOff
  exact (before.trans asked).trans after

/-- Nothing is asked for once the handling has been interrupted, and what the engine holds is what
it held then. -/
theorem cut : i.ended.history = .asked i.waiting i.request i.answer :: i.before ∧
    ∃ e, Disturbed i.waiting e ∧ i.ended.engine = e.finished := by
  have alien : Fault.IsAlien .interrupted := trivial
  have recorded := i.unwound.suffix
  rcases turn_broken_off i.turn i.admittedOrBreaksOff with admitted | ⟨fault, e, broken, hended, -⟩
  · exact absurd (admitted.of_recorded recorded i.begun) (i.interrupted.not_admits alien)
  · obtain ⟨hhistory, disturbed⟩ := broken.at_last recorded i.begun alien i.interrupted
    exact ⟨hhistory, e, disturbed, hended⟩

/-- The engine is still started when it is stopped. -/
theorem started : i.found.started = true := by
  obtain ⟨hhistory, e, disturbed, hended⟩ := i.cut
  have consuming := i.consuming
  simp only [isConsuming, isRunning, Bool.and_eq_true] at consuming
  have turned : Abides (fun _ => True) Engine.started m.engine.started (Engine.turn m.engine) :=
    abides_turn remote_started fun _ _ _ _ _ => rfl
  have waiting := turned.at_request Disturbed.started i.turn i.unwound.suffix i.begun
    (i.admissible.since i.begun)
  calc i.found.started = i.ended.engine.started := i.disturbed.started
    _ = e.started := by rw [hended, finished]
    _ = i.waiting.started := disturbed.started
    _ = true := waiting.1.trans consuming.1.1

/-- What the engine holds when it is stopped is what it held when it was interrupted. -/
theorem holdings_found : i.found.holdings = i.waiting.holdings := by
  obtain ⟨hhistory, e, disturbed, hended⟩ := i.cut
  calc i.found.holdings = i.ended.engine.holdings := i.disturbed.holdings
    _ = e.holdings := by rw [hended]; rfl
    _ = i.waiting.holdings := disturbed.holdings

/-- All stops of the client are stops in full, but for one that is interrupted. -/
theorem count_stop :
    (i.request = .stopClient →
      (clientCalls i.final.history).count .stop = stopsInFull i.final.history + 1) ∧
    (i.request ≠ .stopClient →
      (clientCalls i.final.history).count .stop = stopsInFull i.final.history) := by
  have before : (clientCalls i.before).count .stop = stopsInFull i.before := by
    have added := count_stop_add (i.admissible.since List.nil_suffix)
    rwa [show stopsInFull [] = 0 from rfl, show (clientCalls []).count .stop = 0 from rfl,
      Nat.add_zero, Nat.zero_add] at added
  have after := count_stop_add i.released
  obtain ⟨partly, stopping⟩ := i.interrupted.isFullStop i.waiting
  have called : (Entry.called i.found .stop).clientCall? ≠ some .stop := by simp [Entry.clientCall?]
  have uncalled : (Entry.called i.found .stop).isFullStop = false := rfl
  rw [i.cut.1, count_clientCalls_cons, count_clientCalls_cons, if_neg called, stopsInFull,
    List.countP_cons, List.countP_cons, uncalled, partly] at after
  simp only [Bool.false_eq_true, if_false, Nat.add_zero] at after
  unfold stopsInFull at before after ⊢
  refine ⟨fun hstop => ?_, fun hother => ?_⟩
  · rw [if_pos (stopping.2 hstop)] at after
    omega
  · rw [if_neg (mt stopping.1 hother)] at after
    omega

/-- When the engine is stopped, at most the task of the browse that was being stopped is lost. -/
theorem accountedExcept (reached : Reached m) : ∃ task, Abandons i.waiting i.before i.request task ∧
    AccountedExcept task ⟨{}, i.found.holdings, .called i.found .stop :: i.ended.history⟩ := by
  have turned : Runs (Call.turn.routine m.engine) (.called m.engine .turn :: m.history) i.handled
      i.ended.engine (.asked i.waiting i.request i.answer :: i.before) := i.cut.1 ▸ i.turn
  have possible : Call.turn.IsPossible m.engine := i.consuming
  obtain ⟨task, path, remains⟩ :=
    reached.remains possible turned i.begun i.admissible i.interrupted
  have interrupted : AccountedExcept task ⟨{}, i.found.holdings, i.ended.history⟩ := by
    rw [i.holdings_found, i.cut.1]
    exact .of_path path
  exact ⟨task, remains.abandons, interrupted.path (.single (.called rfl rfl))⟩

/-- Whether nothing is left behind: no task of the initial scan is counted, every browse has been
given back, and so has every client, by a stop that was not interrupted. -/
structure Complete : Prop where
  counts : ∀ method, i.final.engine.gate.count method = 0
  closed : ∀ service handle, (service, handle) ∈ opened i.final.history →
    handle ∈ closed i.final.history
  client : (clientCalls i.final.history).count .start = stopsInFull i.final.history

/-- What a stop leaves that interrupts the handling of an event.  It returns, with nothing browsed,
resolved or live, and with the client down.  If the handler was stopping a browse in its initial
phase, one task of its method is counted for good, and nothing else is.  All browses have been given
back.  And so has every client by a stop that was not interrupted, but for the last one if its stop
was. -/
structure Aftermath : Prop where
  returned : i.stopped = .ok ()
  unstarted : i.final.engine.started = false
  client : i.final.engine.clientRunning = false
  browsing : i.final.engine.browserRunning = false
  browsers : i.final.engine.browsers = .empty
  live : i.final.engine.registry.live = []
  resolving : i.final.engine.resolving = .empty
  counts : ∃ task, Abandons i.waiting i.before i.request task ∧
    ∀ method, i.final.engine.gate.count method = if task = some method then 1 else 0
  closed : ∀ service handle, (service, handle) ∈ opened i.final.history →
    handle ∈ closed i.final.history
  cutShort : i.request = .stopClient →
    (clientCalls i.final.history).count .start = stopsInFull i.final.history + 1
  inFull : i.request ≠ .stopClient →
    (clientCalls i.final.history).count .start = stopsInFull i.final.history

end Interruption

/-- Whenever a stop interrupts the handling of an event, at most the task of one browse is left
behind, and at most one client whose stop was cut short. -/
theorem stop_after_interruption {m : Moment} (reached : Reached m) (i : Interruption m) :
    i.Aftermath := by
  obtain ⟨task, abandons, accounted⟩ := i.accountedExcept reached
  have ends := (ensures_stop_emptied i.started accounted.soundUpToLosses .refl).of_runs_since
    (E := fun _ _ _ => False) i.stop i.released
  obtain ⟨value, hstopped⟩ : ∃ value, i.stopped = .ok value := by
    cases hstopped : i.stopped with
    | ok value => exact ⟨value, rfl⟩
    | error fault =>
        rw [hstopped] at ends
        exact ends.elim
  rw [hstopped] at ends
  have emptied : Emptied _ i.found i.final.engine i.final.history := ends
  have final : AccountedExcept task ⟨{}, i.final.engine.holdings, i.final.history⟩ :=
    accounted.path emptied.path
  have clients := final.client.count
  have down : i.final.engine.holdings.clientRunning = false := emptied.client
  rw [down] at clients
  have none : i.final.engine.holdings.browsers = .empty := emptied.browsers
  exact {
    returned := hstopped
    unstarted := emptied.unstarted
    client := emptied.client
    browsing := emptied.idle
    browsers := emptied.browsers
    live := emptied.live
    resolving := emptied.resolving
    counts := ⟨task, abandons, final.tallied.count_of_idle none emptied.live⟩
    closed := by
      intro service handle hopened
      have given := final.browses.past service handle hopened
      rw [none] at given
      exact given.resolve_left (by simp)
    cutShort := fun stopping => clients.trans (i.count_stop.1 stopping)
    inFull := fun other => clients.trans (i.count_stop.2 other) }

/-- Handling the failure is interrupted where the first browse is being stopped. -/
def interruptedTurn : Except Fault Unit × Engine × History :=
  (turn faltering.engine).run (Plan.failing .interrupted).surroundings
    (.called faltering.engine .turn :: faltering.history)

/-- The engine is stopped then. -/
def interruptingStop : Except Fault Unit × Engine × History :=
  (stop interruptedTurn.2.1).run Plan.willing.surroundings
    (.called interruptedTurn.2.1 .stop :: interruptedTurn.2.2)

/-- The failure of the client, interrupted by a stop. -/
theorem exists_interruption : ∃ i : Interruption faltering,
    i.final = ⟨interruptingStop.2.1, interruptingStop.2.2⟩ := by
  have turned : Runs (turn faltering.engine) (.called faltering.engine .turn :: faltering.history)
      interruptedTurn.1 interruptedTurn.2.1 interruptedTurn.2.2 := by
    unfold interruptedTurn
    exact Plan.runs _ _ _
  have stopped : Runs (stop interruptedTurn.2.1)
      (.called interruptedTurn.2.1 .stop :: interruptedTurn.2.2)
      interruptingStop.1 interruptingStop.2.1 interruptingStop.2.2 := by
    unfold interruptingStop
    exact Plan.runs _ _ _
  have answered : Since Entry.AdmittedOrBreaksOff
      (.called faltering.engine .turn :: faltering.history)
      interruptedTurn.2.2 := by
    have alien : Fault.IsAlien .interrupted := trivial
    unfold interruptedTurn
    exact Plan.since_run (Plan.failing_admittedOrBreaksOff alien) _ _
  have released : Since Entry.Admitted (.called interruptedTurn.2.1 .stop :: interruptedTurn.2.2)
      interruptingStop.2.2 := by
    unfold interruptingStop
    exact Plan.since_run (fun _ => Plan.willing_admits) _ _
  have passed : interruptedTurn.1 = .error .interrupted := by decide +kernel
  have possible : Call.turn.IsPossible faltering.engine := by decide +kernel
  have called : Admissible (.called faltering.engine .turn :: faltering.history) :=
    faltering_admissible.cons trivial
  rcases turn_broken_off turned answered with admitted | ⟨fault, e, broken, -, result⟩
  · -- a turn that is not broken off does not fail
    rw [passed] at turned
    have admissible := called.of_since admitted
    have failing := faltering_reached.call_eq_start possible turned admissible
    exact absurd failing.1 (by simp)
  · have interrupted : fault = .interrupted := by
      by_contra other
      rw [passed, if_neg other] at result
      cases result
    rw [interrupted] at broken
    generalize hhistory : interruptedTurn.2.2 = h at broken
    cases broken with
    | @last e₁ _ request answer before alien breaks disturbed admitted =>
        exact ⟨{
          waiting := e₁
          request := request
          answer := answer
          before := before
          handled := interruptedTurn.1
          ended := ⟨interruptedTurn.2.1, interruptedTurn.2.2⟩
          found := interruptedTurn.2.1
          stopped := interruptingStop.1
          final := ⟨interruptingStop.2.1, interruptingStop.2.2⟩
          consuming := possible
          turn := turned
          begun := admitted.suffix
          admissible := called.of_since admitted
          interrupted := breaks
          unwound := hhistory ▸ .refl _ _
          disturbed := .refl _
          stop := stopped
          released := released }, rfl⟩

/-- The task of the browse that was being stopped is left then. -/
theorem faltering_interrupted :
    interruptedTurn.1 = .error .interrupted ∧ interruptingStop.2.1.gate.count .mdnsHint = 1 ∧
    ∃ i : Interruption faltering, i.final = ⟨interruptingStop.2.1, interruptingStop.2.2⟩ ∧
      i.Aftermath := by
  obtain ⟨i, hfinal⟩ := exists_interruption
  have aftermath := stop_after_interruption faltering_reached i
  exact ⟨by decide +kernel, by decide +kernel, i, hfinal, aftermath⟩

/-- A stop that interrupts the handling of an event can leave a task of the initial scan behind. -/
theorem interruption_incomplete :
    ¬∀ (m : Moment) (i : Interruption m), Reached m → i.Complete := by
  intro always
  obtain ⟨i, hfinal⟩ := exists_interruption
  have none := (always faltering i faltering_reached).counts .mdnsHint
  rw [hfinal] at none
  have left : interruptingStop.2.1.gate.count .mdnsHint = 1 := by decide +kernel
  rw [left] at none
  cases none

end ScannerDiscovery.Engine
