import ScannerDiscovery.Proofs.Engine.Remains

/-!
# Exceptions from below the transport

A transport that lets the exceptions of the code below it through, where a browse or the client is
stopped, breaks off the teardown of a session.  If it does not, the session is torn down as it
should be: nothing is left, and the restart timer is armed.  If it does, the engine has handled the
event all the same, but no timer is armed.  Then it goes on with what is left of the session, or
with none and no prospect of another; and a stop that is broken off fails.

Main definitions:

- `Entry.Leaky`, `LeakyCall` : calls in which releases may let exceptions through.
- `Deferred` : how the teardown of a session ends.
- `HoldsNothing` : engines with nothing left.
- `LeakyCall.CutShort` : how a teardown is cut short.

Main results:

- `Reached.turn_defers` : a turn gives nothing back and arms no timer, or the session is torn down.
- `teardown_with_foreign_faults` : what becomes of a turn or a stop.
- `foreign_fault_cuts_short` : a turn that leaves the client running, and a task behind.
-/

namespace ScannerDiscovery

/-- Whether a request arms the restart timer. -/
def Request.ArmsRestart : Request → Prop
  | .armRestart _ => True
  | _ => False

/-- What is given back keeps the engine waiting. -/
theorem Request.IsRelease.suspends {request : Request} (release : request.IsRelease) :
    request.suspends = true := by
  cases request with
  | stopBrowse handle => rfl
  | stopClient => rfl
  | _ => exact release.elim

/-- Whether a request gives something back to the transport, or arms the restart timer. -/
def Request.isRetreat : Request → Bool
  | .stopBrowse _ | .stopClient | .armRestart _ => true
  | _ => false

theorem Request.IsRelease.isRetreat {request : Request} (release : request.IsRelease) :
    request.isRetreat = true := by
  cases request with
  | stopBrowse handle => rfl
  | stopClient => rfl
  | _ => exact release.elim

theorem Request.IsQuiet.not_isRetreat {request : Request} (quiet : request.IsQuiet) :
    request.isRetreat = false := by
  cases request with
  | stopBrowse handle => exact quiet.elim
  | stopClient => exact quiet.elim
  | armRestart generation => exact quiet.elim
  | _ => rfl

theorem Request.IsQuiet.not_armsRestart {request : Request} (quiet : request.IsQuiet) :
    ¬request.ArmsRestart := by
  cases request with
  | armRestart generation => exact quiet.elim
  | _ => exact id

namespace Engine

variable {α V : Type} {R R' : Request → Prop} {view : Engine → V} {e e' : Engine}
  {h h' base : History} {o : Outcome requests Engine Fault α} {r : Except Fault α}

/-! ## What is asked for in a run -/

/-- Whether an entry is a request of one kind. -/
def Entry.Asks (R : Request → Prop) : Entry → Prop
  | .called .. => False
  | .asked _ request _ => R request

theorem Entry.Asks.mono {entry : Entry} (asks : entry.Asks R)
    (wider : ∀ request, R request → R' request) : entry.Asks R' := by
  cases entry with
  | called e call => exact asks
  | asked e request answer => exact wider request asks

/-- A routine that abides by a view asks for what it may. -/
theorem Abides.asks {v : V} (abides : Abides R view v o) (runs : Runs o h r e' h')
    (admitted : Since Entry.Admitted h h') : Since (Entry.Asks R) h h' := by
  induction runs generalizing v with
  | returned value e h => exact .refl _ h
  | raised fault e h => exact .refl _ h
  | @paused e₁ e₂ e₃ request answer resume h₁ h₂ r disturbed rest ih =>
      obtain ⟨-, permitted, others⟩ := abides
      obtain ⟨first, later⟩ := admitted.divide (List.suffix_cons _ h₁) rest.suffix
      have admits := first.of_cons (List.suffix_refl h₁)
      have asked : Since (Entry.Asks R) h₁ (.asked e₁ request answer :: h₁) :=
        (Since.refl _ h₁).cons permitted
      exact asked.trans (ih (others answer e₂ admits.1) later)

/-- So does one that may tear the session down, until it does. -/
theorem AbidesOrDefers.runs {v : V} {o : Outcome requests Engine Fault Unit}
    {r : Except Fault Unit} (abides : AbidesOrDefers R view v o) (runs : Runs o h r e' h')
    (admitted : Since Entry.Admitted h h') :
    Since (Entry.Asks R) h h' ∨ ∃ e₁ h₁, Since (Entry.Asks R) h h₁ ∧ Since Entry.Admitted h₁ h' ∧
      Runs (restartDefer e₁) h₁ r e' h' := by
  induction abides generalizing h with
  | abides abides => exact .inl (abides.asks runs admitted)
  | @asks e request resume permitted rest ih =>
      cases runs with
      | @paused _ e₂ _ _ answer _ _ _ _ disturbed runs =>
          obtain ⟨first, later⟩ := admitted.divide (List.suffix_cons _ h) runs.suffix
          have admits := first.of_cons (List.suffix_refl h)
          have asked : Since (Entry.Asks R) h (.asked e request answer :: h) :=
            (Since.refl _ h).cons permitted
          rcases ih answer e₂ admits.1 runs later with quiet | ⟨e₁, h₁, quiet, admitted₁, deferred⟩
          · exact .inl (asked.trans quiet)
          · exact .inr ⟨e₁, h₁, asked.trans quiet, admitted₁, deferred⟩
  | defers e => exact .inr ⟨e, h, .refl _ h, admitted, runs⟩

/-! ## How the teardown of a session ends -/

/-- How the teardown of a session ends: the client is down, and the restart timer has been armed
last, after everything that keeps the engine waiting. -/
structure Deferred (base : History) (e : Engine) (h : History) : Prop where
  down : e.clientRunning = false
  armed : ∃ e₁ before released, h = .asked e₁ (.armRestart e.generation) () :: before ∧
    Since (Entry.Asks fun request => ¬request.ArmsRestart) base released ∧
    Since (Entry.Asks fun request => request.suspends = false) released before

/-- The client is down after it has been stopped. -/
theorem ensures_clientStop_down
    (untimed : Since (Entry.Asks fun request => ¬request.ArmsRestart) base h) :
    Ensures (fun _ e' h' => e'.clientRunning = false ∧
      Since (Entry.Asks fun request => ¬request.ArmsRestart) base h') (fun _ _ _ => True)
      (clientStop e) h := by
  simp only [clientStop, ensures_bind, ensures_get, ensures_ite, ensures_modify, ensures_pure]
  constructor
  · intro up
    refine ensures_ask fun answer e₁ admits disturbed => ?_
    rw [ensures_succeeded admits]
    refine ⟨?_, untimed.cons id⟩
    rw [disturbed.eq]
  · intro down
    exact ⟨by simpa using down, untimed⟩

/-- The restart timer is armed last. -/
theorem ensures_armRestartTimer_deferred (down : e.clientRunning = false)
    (untimed : Since (Entry.Asks fun request => ¬request.ArmsRestart) base h) :
    Ensures (fun _ e' h' => Deferred base e' h') (fun _ _ _ => True) (armRestartTimer e) h := by
  have arm (e : Engine) (before : History) (down : e.clientRunning = false)
      (waitless : Since (Entry.Asks fun request => request.suspends = false) h before) :
      Ensures (fun _ e' h' => Deferred base e' h') (fun _ _ _ => True)
        (ask (.armRestart (e.generation + 1))
          { e with generation := e.generation + 1, restart := some (e.generation + 1) })
        before := by
    refine ensures_ask fun answer e₁ admits disturbed => ?_
    rw [disturbed.eq]
    exact ⟨down, _, before, h, rfl, untimed, waitless⟩
  simp only [armRestartTimer, ensures_bind, ensures_get]
  cases e.restart with
  | none =>
      simp only [ensures_bind, ensures_get, ensures_modify]
      exact arm e h down (.refl _ h)
  | some running =>
      simp only [ensures_bind]
      refine ensures_ask fun answer e₁ admits disturbed => ?_
      simp only [ensures_get, ensures_modify]
      have down₁ : e₁.clientRunning = false := by
        rw [disturbed.eq]
        exact down
      exact arm e₁ _ down₁ ((Since.refl _ h).cons rfl)

/-- Tearing the session down arms the restart timer last. -/
theorem ensures_restartDefer_deferred
    (untimed : Since (Entry.Asks fun request => ¬request.ArmsRestart) base h) :
    Ensures (fun _ e' h' => Deferred base e' h') (fun _ _ _ => True) (restartDefer e) h := by
  have apart : Apart (fun request : Request => ¬request.ArmsRestart) (fun _ : Engine => ()) :=
    remote_nothing.apart fun _ => Request.IsQuiet.not_armsRestart
  have stopped : Ensures
      (fun _ _ h' => Since (Entry.Asks fun request => ¬request.ArmsRestart) base h')
      (fun _ _ _ => True) (browserStop e) h := by
    apply ((leaves_browserStop apart fun _ => id).ensures
      (I := fun _ h => Since (Entry.Asks fun request => ¬request.ArmsRestart) base h)
      (fun _ => id) (fun permitted _ _ since => since.cons permitted) untimed).mono
    · exact fun _ _ _ => id
    · exact fun _ _ _ _ => trivial
  simp only [restartDefer, ensures_bind]
  refine stopped.imp ?_
  rintro - e₁ h₁ untimed₁
  refine (ensures_clientStop_down untimed₁).imp ?_
  rintro - e₂ h₂ ⟨down, untimed₂⟩
  exact ensures_armRestartTimer_deferred down untimed₂

/-! ## Turns -/

/-- What is asked for quietly gives nothing back to the transport and arms no timer. -/
theorem Entry.Asks.not_retreat {entry : Entry} (asks : entry.Asks Request.IsQuiet) :
    entry.Asks fun request => request.isRetreat = false :=
  asks.mono fun _ => Request.IsQuiet.not_isRetreat

theorem Entry.Asks.untimed {entry : Entry} (asks : entry.Asks Request.IsQuiet) :
    entry.Asks fun request => ¬request.ArmsRestart :=
  asks.mono fun _ => Request.IsQuiet.not_armsRestart

/-- When a restart timer has run off, the client is up again or the timer is armed once more. -/
theorem ensures_onRestartDue_deferred (generation : Int) :
    Ensures (fun _ e' h' => Since (Entry.Asks fun request => request.isRetreat = false) h h' ∨
      Deferred h e' h') (fun _ _ _ => True) (onRestartDue generation e) h := by
  simp only [onRestartDue, clientStart, ensures_bind, ensures_get, ensures_ite, ensures_modify,
    ensures_pure]
  refine ⟨fun current => ⟨fun down => ?_, fun _ => .inl (.refl _ h)⟩, fun _ => .inl (.refl _ h)⟩
  refine ensures_ask fun answer e₁ admits disturbed => ?_
  rw [ensures_succeeded admits]
  refine ⟨fun _ => .inl ((Since.refl _ h).cons rfl), fun failed => ?_⟩
  have down₁ : e₁.clientRunning = false := by
    rw [disturbed.eq]
    simpa using down
  have untimed (e : Engine) : Since (Entry.Asks fun request => ¬request.ArmsRestart) h
      (.asked e .startClient answer :: h) := (Since.refl _ h).cons id
  exact (ensures_armRestartTimer_deferred down₁ (untimed _)).imp fun _ _ _ => Or.inr

/-- A handler that returns has given nothing back to the transport and armed no timer, or the
session is torn down. -/
theorem dispatch_defers {event : Event} (runs : Runs (dispatch event e) h (.ok ()) e' h')
    (admitted : Since Entry.Admitted h h') :
    Since (Entry.Asks fun request => request.isRetreat = false) h h' ∨ Deferred h e' h' := by
  by_cases timed : ∃ generation, event = .restartDue generation
  · obtain ⟨generation, rfl⟩ := timed
    exact (ensures_onRestartDue_deferred generation).of_runs_since runs admitted
  · have timeless (generation : Int) : event ≠ .restartDue generation :=
      fun due => timed ⟨generation, due⟩
    have handled := leavesOrDefers_dispatch remote_nothing (fun _ => id) event timeless
      (fun _ _ _ => rfl) e
    rcases handled.runs runs admitted with quiet | ⟨e₁, h₁, quiet, admitted₁, deferring⟩
    · exact .inl (quiet.mono fun _ => Entry.Asks.not_retreat)
    · have untimed := quiet.mono fun _ => Entry.Asks.untimed
      exact .inr ((ensures_restartDefer_deferred untimed).of_runs_since deferring admitted₁)

/-- A turn of an admissible run gives nothing back to the transport and arms no timer, or the
session is torn down after it. -/
theorem Reached.turn_defers {m : Moment} {r : Except Fault Unit} (reached : Reached m)
    (consuming : m.engine.isConsuming = true)
    (runs : Runs (turn m.engine) (.called m.engine .turn :: m.history) r e' h')
    (admissible : Admissible h') :
    Since (Entry.Asks fun request => request.isRetreat = false)
        (.called m.engine .turn :: m.history) h' ∨
      Deferred (.called m.engine .turn :: m.history) e' h' := by
  have before : Admissible m.history := runs.admissible_before admissible
  have started : m.engine.started = true := by
    simp only [isConsuming, isRunning, Bool.and_eq_true] at consuming
    exact consuming.1.1
  rw [turn, bind_get] at runs
  cases htake : m.engine.mailbox.bind Mailbox.take? with
  | none =>
      rw [htake] at runs
      cases runs
      exact .inl (.refl _ _)
  | some taken =>
      obtain ⟨event, box⟩ := taken
      rw [htake] at runs
      have next : m.engine.next? = some event := by
        simp [next?, htake]
      obtain ⟨r₁, e₁, h₁, first, second⟩ := Runs.of_attempt_bind runs
      have admissible₁ := admissible.of_suffix second.suffix
      have admitted₁ := admissible₁.since first.suffix
      cases r₁ with
      | ok value =>
          cases second
          rcases dispatch_defers first admitted₁ with quiet | deferred
          · exact .inl quiet
          · exact .inr ⟨deferred.down, deferred.armed⟩
      | error fault =>
          -- only the completion of a resolve fails, which gives nothing back
          have ends := (ensures_dispatch (some box) (reached.sound before) .refl
            (reached.conducted before).2 started next).of_runs first admissible₁
          obtain ⟨⟨found, rfl, refused⟩, -⟩ := ends
          obtain ⟨-, service, address, ifindex, broken, -, -, rfl⟩ := refused
          have apart : Apart Request.IsQuiet (fun _ : Engine => ()) :=
            remote_nothing.apart fun _ => id
          have resolved := leaves_onResolve apart found { m.engine with mailbox := some box }
          have halted : Leaves Request.IsQuiet (fun _ => ()) (halt broken >>= fun _ => finish) :=
            (leaves_halt remote_nothing (fun _ _ => trivial) broken).bind
              fun _ => leaves_finish remote_nothing
          have after := (halted e₁).asks second (admissible.since second.suffix)
          have quiet := (resolved.asks first admitted₁).trans after
          exact .inl (quiet.mono fun _ => Entry.Asks.not_retreat)

/-- Before a release no timer has been armed. -/
theorem Deferred.untimed {e₁ : Engine} {request : Request} {answer : request.Answer}
    {before : History} (deferred : Deferred base e h)
    (recorded : .asked e₁ request answer :: before <:+ h) (new : base <:+ before)
    (release : request.IsRelease) :
    Since (Entry.Asks fun request => ¬request.ArmsRestart) base before := by
  obtain ⟨-, e₂, before₂, released, rfl, untimed, waitless⟩ := deferred
  rcases List.suffix_cons_iff.1 recorded with heq | earlier
  · cases (List.cons.inj heq).1
    exact release.elim
  · rcases List.suffix_or_suffix_of_suffix earlier waitless.suffix with within | after
    · exact (untimed.divide new ((List.suffix_cons _ before).trans within)).1
    · rcases List.suffix_cons_iff.1 after with heq | after
      · rw [heq] at untimed
        exact (untimed.divide new (List.suffix_cons _ before)).1
      · have unsuspended : request.suspends = false := waitless.of_recorded earlier after
        exact absurd release.suspends (by simp [unsuspended])

/-- Stopping the engine arms no timer. -/
theorem stop_untimed {r : Except Fault Unit} (runs : Runs (stop e) h r e' h')
    (admitted : Since Entry.Admitted h h') :
    Since (Entry.Asks fun request => ¬request.ArmsRestart) h h' := by
  cases hstarted : e.started with
  | false =>
      rw [stop_of_not_started hstarted] at runs
      cases runs
      exact .refl _ h
  | true =>
      have apart : Apart (fun request : Request => ¬request.ArmsRestart) (fun _ : Engine => ()) :=
        remote_nothing.apart fun _ => Request.IsQuiet.not_armsRestart
      have released : Leaves (fun request : Request => ¬request.ArmsRestart) (fun _ => ())
          release :=
        leaves_release apart remote_nothing.toOffline (fun _ => id) (fun _ => id) id fun _ _ => rfl
      have stopped := (leaves_failEach (fun _ _ => id) .stopped e.waiting).bind fun _ => released
      rw [stop_of_started hstarted] at runs
      exact (stopped _).asks runs admitted

/-- While a stop asks for anything the engine is still started. -/
theorem stop_started {fault : Fault} {e₁ : Engine} {request : Request} {answer : request.Answer}
    {before : History} (started : e.started = true) (runs : Runs (stop e) h (.error fault) e' h')
    (recorded : .asked e₁ request answer :: before <:+ h') (new : h <:+ before)
    (admitted : Since Entry.Admitted h before) : e₁.started = true := by
  have apart : Apart (fun _ => True) Engine.started := remote_started.apart fun _ _ => trivial
  -- what is done before it is noted that the engine has stopped
  have given : Leaves (fun _ => True) Engine.started (do
      failEach .stopped e.waiting
      dropRestartTimer
      browserStop
      clientStop
      deleteFindings : Work Unit) := by
    apply (leaves_failEach (fun _ _ => trivial) _ _).bind
    intro _
    apply (leaves_dropRestartTimer remote_started.toOffline fun _ => trivial).bind
    intro _
    apply (leaves_browserStop apart fun _ => trivial).bind
    intro _
    exact (leaves_clientStop remote_started.toOffline trivial).bind
      fun _ => leaves_deleteFindings apart
  have split : (failEach .stopped e.waiting >>= fun _ => release) = (do
      failEach .stopped e.waiting
      dropRestartTimer
      browserStop
      clientStop
      deleteFindings : Work Unit) >>= fun _ =>
        Routine.modify fun e => { e with resolving := .empty, started := false } := by
    simp only [release, bind_assoc]
  rw [stop_of_started started, split] at runs
  rcases Runs.of_bind runs with ⟨fault', -, first⟩ | ⟨value, e₂, h₂, first, second⟩
  · exact ((given _).at_request Disturbed.started first recorded new admitted).1.trans started
  · cases second

/-- In a turn or a stop of an admissible run no timer is armed before a release. -/
theorem Reached.untimed {m : Moment} {call : Call} {r : Except Fault Unit} {e₁ : Engine}
    {request : Request} {answer : request.Answer} {before : History} (reached : Reached m)
    (possible : call.IsPossible m.engine)
    (runs : Runs (call.routine m.engine) (.called m.engine call :: m.history) r e' h')
    (admissible : Admissible h') (kind : call = .turn ∨ call = .stop)
    (recorded : .asked e₁ request answer :: before <:+ h')
    (new : .called m.engine call :: m.history <:+ before) (release : request.IsRelease) :
    Since (Entry.Asks fun request => ¬request.ArmsRestart) (.called m.engine call :: m.history)
      before := by
  rcases kind with rfl | rfl
  · rcases reached.turn_defers possible runs admissible with quiet | deferred
    · have advances : request.isRetreat = false := quiet.of_recorded recorded new
      exact absurd release.isRetreat (by simp [advances])
    · exact deferred.untimed recorded new release
  · have untimed := stop_untimed runs (admissible.since runs.suffix)
    exact (untimed.divide new ((List.suffix_cons _ before).trans recorded)).1

/-! ## Calls in which releases may let exceptions through -/

/-- Whether the answer in an entry, if there is one, is admissible, or is an exception that the
transport has let through where something was given back to it. -/
def Entry.Leaky : Entry → Prop
  | called .. => True
  | asked _ request answer =>
    request.Admits answer ∨
      request.IsRelease ∧ ∃ message, BreaksOff (.foreign message) request answer

theorem Entry.Leaky.admittedOrBreaksOff {entry : Entry} (leaky : entry.Leaky) :
    entry.AdmittedOrBreaksOff := by
  cases entry with
  | called e call => exact trivial
  | asked e request answer =>
      rcases leaky with admits | ⟨-, message, breaks⟩
      · exact .inl admits
      · exact .inr ⟨.foreign message, trivial, breaks⟩

/-- What is broken off then is so by an exception, where something was given back. -/
theorem Entry.Leaky.foreign {fault : Fault} {request : Request} {answer : request.Answer}
    (leaky : Entry.Leaky (.asked e request answer)) (alien : fault.IsAlien)
    (breaks : BreaksOff fault request answer) :
    request.IsRelease ∧ ∃ message, fault = .foreign message := by
  have same (answer : Except Fault Unit) (failed : answer = .error fault) {message : String}
      (failed' : answer = .error (.foreign message)) : ∃ message, fault = .foreign message :=
    ⟨message, Except.error.inj (failed.symm.trans failed')⟩
  rcases leaky with admits | ⟨release, message, breaks'⟩
  · exact absurd admits (breaks.not_admits alien)
  · refine ⟨release, ?_⟩
    cases request with
    | stopBrowse handle => exact same answer breaks breaks'
    | stopClient => exact same answer breaks breaks'
    | _ => exact release.elim

/-- A call at a moment of a run in which the transport may let exceptions through wherever something
is given back to it. -/
structure LeakyCall (m : Moment) (call : Call) where
  result : Except Fault Unit
  final : Moment
  possible : call.IsPossible m.engine
  runs : Runs (call.routine m.engine) (.called m.engine call :: m.history) result final.engine
    final.history
  leaky : Since Entry.Leaky (.called m.engine call :: m.history) final.history

/-- Whether something is given back to the transport by an entry, or the restart timer armed. -/
def Entry.isRetreat : Entry → Bool
  | .called .. => false
  | .asked _ request _ => request.isRetreat

/-- Whether nothing is left in an engine and in its catalog. -/
structure HoldsNothing (m : Moment) : Prop where
  client : m.engine.clientRunning = false
  browsers : m.engine.browsers = .empty
  live : m.engine.registry.live = []
  resolving : m.engine.resolving = .empty
  counts : ∀ method, m.engine.gate.count method = 0
  withdrawn : (catalogAfter m.history).findings = .empty

/-- At a moment of an admissible run nothing is left if the client is down. -/
theorem Reached.holdsNothing {m : Moment} (reached : Reached m) (admissible : Admissible m.history)
    (down : m.engine.clientRunning = false) : HoldsNothing m := by
  have idle := ((reached.conducted admissible).2.of_down down).1
  obtain ⟨browsers, live, resolving, withdrawn⟩ := reached.idle admissible idle
  have counts := (reached.sound admissible).balanced.count_of_idle browsers live
  exact ⟨down, browsers, live, resolving, counts, withdrawn⟩

namespace LeakyCall

variable {m : Moment} {call : Call} (c : LeakyCall m call)

/-- What has happened since the call began, the latest first. -/
def since : History :=
  c.final.history.take (c.final.history.length - (m.history.length + 1))

/-- Whether the call has begun to tear the session down: something was given back to the transport,
or was to be, or the restart timer was armed. -/
def Retreats : Prop :=
  c.since.any Entry.isRetreat = true

/-- Whether the session has been torn down: nothing is left, and the restart timer has been armed
last. -/
structure TearsDown : Prop where
  nothing : HoldsNothing c.final
  armed : ∃ e before,
    c.final.history = .asked e (.armRestart c.final.engine.generation) () :: before

/-- Whether the call has been cut short by an exception where something was given back.  Nothing is
asked for or given back after that, and no restart timer has been armed before. -/
structure CutShort (message : String) (e : Engine) (request : Request) (before : History)
    (task : Option Method) : Prop where
  release : request.IsRelease
  asked : ∃ answer, BreaksOff (.foreign message) request answer ∧
    c.final.history = .asked e request answer :: before
  untimed : Since (Entry.Asks fun request => ¬request.ArmsRestart)
    (.called m.engine call :: m.history) before
  holdings : c.final.engine.holdings = e.holdings
  remains : Remains e request before task
  counts : ∀ method, c.final.engine.gate.count method = c.final.engine.browseTasks method +
    c.final.engine.findingTasks method + if task = some method then 1 else 0

/-- How a call is cut short that is broken off. -/
theorem cutShort (reached : Reached m) (admissible : Admissible m.history) {fault : Fault}
    {e : Engine} (broken : BrokenOff (.called m.engine call :: m.history) fault e c.final.history)
    (hholdings : c.final.engine.holdings = e.holdings) (kind : call = .turn ∨ call = .stop) :
    ∃ message e₁ request before task, fault = .foreign message ∧
      c.CutShort message e₁ request before task ∧ Disturbed e₁ e ∧
      Since Entry.Admitted (.called m.engine call :: m.history) before := by
  have runs := c.runs
  have leaky := c.leaky
  generalize hhistory : c.final.history = h at broken runs leaky
  cases broken with
  | @last e₁ _ request answer before alien breaks disturbed admitted =>
      have called : Admissible (.called m.engine call :: m.history) := admissible.cons trivial
      have admissible' : Admissible before := called.of_since admitted
      have leaking : Entry.Leaky (.asked e₁ request answer) :=
        leaky.of_recorded (List.suffix_refl _) admitted.suffix
      obtain ⟨release, message, rfl⟩ := leaking.foreign alien breaks
      obtain ⟨task, path, remains⟩ :=
        reached.remains c.possible runs admitted.suffix admissible' breaks
      obtain ⟨answer', admits⟩ := Request.exists_admits request
      obtain ⟨r', e', h', runs', admissible'', recorded⟩ :=
        runs.resumed admitted.suffix admissible' admits
      have same : c.final.engine.holdings = e₁.holdings := hholdings.trans disturbed.holdings
      have accounted : AccountedExcept task
          ⟨{}, c.final.engine.holdings, .asked e₁ request answer :: before⟩ := by
        rw [same]
        exact .of_path path
      refine ⟨message, e₁, request, before, task, rfl, ?_, disturbed, admitted⟩
      exact {
        release := release
        asked := ⟨answer, breaks, hhistory⟩
        untimed := reached.untimed c.possible runs' admissible'' kind recorded admitted.suffix
          release
        holdings := same
        remains := remains
        counts := accounted.tallied.count }

/-- A call that asks for nothing of the kind has not. -/
theorem not_retreats (quiet : Since (Entry.Asks fun request => request.isRetreat = false)
    (.called m.engine call :: m.history) c.final.history) : ¬c.Retreats := by
  obtain ⟨entries, heq, asks⟩ := quiet
  have hsince : c.since = entries := by
    rw [since, heq]
    simp
  rw [Retreats, hsince, Bool.not_eq_true, List.any_eq_false]
  intro entry hentry
  have none := asks entry hentry
  cases entry with
  | called e call => exact none.elim
  | asked e request answer =>
      have advances : request.isRetreat = false := none
      simp [Entry.isRetreat, advances]

/-- A turn that has begun to tear the session down does so, or is cut short. -/
theorem turn_ends {m : Moment} (c : LeakyCall m .turn) (reached : Reached m)
    (admissible : Admissible m.history) (retreats : c.Retreats) :
    c.result = .ok () ∧ (c.TearsDown ∨ ∃ message e request before task,
      c.CutShort message e request before task) := by
  have called : Admissible (.called m.engine .turn :: m.history) := admissible.cons trivial
  rcases turn_broken_off c.runs (c.leaky.mono fun _ => Entry.Leaky.admittedOrBreaksOff) with
    admitted | ⟨fault, e, broken, hfinal, hresult⟩
  · have admissible' := called.of_since admitted
    have reached' : Reached c.final := reached.step (.call .turn c.possible c.runs)
    refine ⟨?_, .inl ?_⟩
    · cases hresult : c.result with
      | ok value => rfl
      | error fault =>
          have failing := reached.call_eq_start c.possible (hresult ▸ c.runs) admissible'
          exact absurd failing.1 (by simp)
    · rcases reached.turn_defers c.possible c.runs admissible' with quiet | deferred
      · exact absurd retreats (c.not_retreats quiet)
      · obtain ⟨down, e, before, released, armed, -⟩ := deferred
        exact ⟨reached'.holdsNothing admissible' down, e, before, armed⟩
  · have same : c.final.engine.holdings = e.holdings := by
      rw [hfinal]
      rfl
    obtain ⟨message, e₁, request, before, task, rfl, cut, -, -⟩ :=
      c.cutShort reached admissible broken same (.inl rfl)
    exact ⟨hresult, .inr ⟨message, e₁, request, before, task, cut⟩⟩

/-- A stop leaves nothing behind, or fails with the exception that has cut it short. -/
theorem stop_ends {m : Moment} (c : LeakyCall m .stop) (reached : Reached m)
    (admissible : Admissible m.history) (started : m.engine.started = true) :
    c.result = .ok () ∧ HoldsNothing c.final ∨ ∃ message e request before task,
      c.result = .error (.foreign message) ∧ c.final.engine.started = true ∧
        c.CutShort message e request before task := by
  have called : Admissible (.called m.engine .stop :: m.history) := admissible.cons trivial
  rcases (passes_stop m.engine).of_runs c.runs
      (c.leaky.mono fun _ => Entry.Leaky.admittedOrBreaksOff) with
    admitted | ⟨fault, hresult, broken⟩
  · left
    have admissible' := called.of_since admitted
    have reached' : Reached c.final := reached.step (.call .stop c.possible c.runs)
    have path : Path _ ⟨{}, m.engine.holdings, .called m.engine .stop :: m.history⟩ :=
      (reached.conducted admissible).1.tail (.called rfl rfl)
    have ends := (ensures_stop_emptied (E := fun _ _ _ => False) started
      Sound.initial.toSoundUpToLosses path).of_runs c.runs admissible'
    cases hresult : c.result with
    | ok value =>
        rw [hresult] at ends
        have emptied : Emptied _ m.engine c.final.engine c.final.history := ends
        exact ⟨rfl, reached'.holdsNothing admissible' emptied.client⟩
    | error fault =>
        rw [hresult] at ends
        exact ends.elim
  · right
    obtain ⟨message, e₁, request, before, task, rfl, cut, disturbed, admitted⟩ :=
      c.cutShort reached admissible broken rfl (.inr rfl)
    have runs : Runs (stop m.engine) (.called m.engine .stop :: m.history)
        (.error (.foreign message)) c.final.engine c.final.history := hresult ▸ c.runs
    obtain ⟨answer, -, hhistory⟩ := cut.asked
    rw [hhistory] at runs
    have standing : e₁.started = true :=
      stop_started started runs (List.suffix_refl _) admitted.suffix admitted
    exact ⟨message, e₁, request, before, task, hresult, disturbed.started.trans standing, cut⟩

end LeakyCall

/-- Exceptions that the transport lets through, where something is given back to it, cut the
teardown of a session short.  A turn that has begun with it returns all the same.  Either nothing is
left and the restart timer has been armed, or no timer has been armed, and what was held at the
exception is held still: the client still runs if a browse was being stopped, whose task is counted
for good if it was in its initial phase.  A stop leaves nothing, or fails with the exception, the
engine being started still and with what was held then. -/
theorem teardown_with_foreign_faults {m : Moment} (reached : Reached m)
    (admissible : Admissible m.history) :
    (∀ c : LeakyCall m .turn, c.Retreats → c.result = .ok () ∧
      (c.TearsDown ∨ ∃ message e request before task, c.CutShort message e request before task)) ∧
    ∀ c : LeakyCall m .stop, m.engine.started = true →
      c.result = .ok () ∧ HoldsNothing c.final ∨ ∃ message e request before task,
        c.result = .error (.foreign message) ∧ c.final.engine.started = true ∧
          c.CutShort message e request before task :=
  ⟨fun c => c.turn_ends reached admissible, fun c => c.stop_ends reached admissible⟩

/-! ## An exception where a browse is stopped -/

/-- A call answered by the plan that lets an exception through whenever a browse is stopped. -/
def LeakyCall.failing (m : Moment) (call : Call) (possible : call.IsPossible m.engine)
    (message : String) : LeakyCall m call :=
  let ended := (call.routine m.engine).run (Plan.failing (.foreign message)).surroundings
    (.called m.engine call :: m.history)
  { result := ended.1
    final := ⟨ended.2.1, ended.2.2⟩
    possible := possible
    runs := Plan.runs _ _ _
    leaky := by
      apply Plan.since_run
      intro e request h
      cases request with
      | stopBrowse handle => exact .inr ⟨trivial, message, rfl⟩
      | _ => exact .inl (Plan.willing_admits _ h) }

/-- Handling the failure of the client, with such an exception. -/
def strandedTurn : LeakyCall faltering .turn :=
  .failing faltering .turn (by decide +kernel) "browser is gone"

/-- Stopping the engine instead, with such an exception. -/
def strandedStop : LeakyCall faltering .stop :=
  .failing faltering .stop trivial "browser is gone"

/-- The client still runs after the turn, and after the stop; and a task is left behind. -/
theorem faltering_stranded :
    strandedTurn.final.engine.clientRunning = true ∧
    strandedTurn.final.engine.gate.count .mdnsHint = 3 ∧
    strandedStop.final.engine.clientRunning = true ∧
    (strandedTurn.result = .ok () ∧ (strandedTurn.TearsDown ∨
      ∃ message e request before task, strandedTurn.CutShort message e request before task)) ∧
    (strandedStop.result = .ok () ∧ HoldsNothing strandedStop.final ∨
      ∃ message e request before task, strandedStop.result = .error (.foreign message) ∧
        strandedStop.final.engine.started = true ∧
        strandedStop.CutShort message e request before task) := by
  have retreats : strandedTurn.Retreats := by
    unfold LeakyCall.Retreats
    decide +kernel
  have ends := teardown_with_foreign_faults faltering_reached faltering_admissible
  refine ⟨by decide +kernel, by decide +kernel, by decide +kernel, ?_, ?_⟩
  · exact ends.1 strandedTurn retreats
  · exact ends.2 strandedStop (by decide +kernel)

/-- An exception where a browse is stopped can leave the session half torn down, with the client
running and no restart ahead. -/
theorem foreign_fault_cuts_short :
    ¬∀ (m : Moment) (c : LeakyCall m .turn), Reached m → Admissible m.history → c.Retreats →
      c.TearsDown := by
  intro always
  have retreats : strandedTurn.Retreats := by
    unfold LeakyCall.Retreats
    decide +kernel
  have torn := always faltering strandedTurn faltering_reached faltering_admissible retreats
  have running : strandedTurn.final.engine.clientRunning = true := by decide +kernel
  rw [torn.nothing.client] at running
  cases running

end Engine

end ScannerDiscovery
