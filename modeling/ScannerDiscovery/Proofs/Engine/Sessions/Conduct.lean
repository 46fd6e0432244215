import ScannerDiscovery.Proofs.Engine.Conduct.Calls
import ScannerDiscovery.Proofs.Engine.Sessions.Phases

/-!
# How the engine conducts itself through its phases

All that a handler of an engine that is up can do to its phase is to tear the session down, which
arms the restart timer; all that one of an engine that is down can do is to restart it, which is
what follows once the timer has rung.  So every call leaves the engine in one of its phases, unless
it is stopped or halted.

Main definitions:

- `Request.IsAside` : the requests about neither the client nor a restart timer.

Main results:

- `secures_restartDefer`, `secures_clientStart` : from one phase to the other.
- `secures_dispatch` : handling any event.
- `Played.betweenCalls` : all moments of a run.
-/

namespace ScannerDiscovery

/-- Whether a request is about neither the client nor a restart timer. -/
def Request.IsAside : Request → Prop
  | .startClient | .stopClient | .armRestart _ | .disarmRestart _ => False
  | _ => True

namespace Engine

variable {α : Type} {E : Fault → Engine → Scene → Prop} {e : Engine} {s : Scene}
  {queue : List (Event × Option Nat)}

/-! ## Routines that leave the phase alone -/

/-- Requests about neither the client nor a timer leave the scene as it is. -/
theorem Scene.asked_of_isAside {request : Request} (aside : request.IsAside) (s : Scene) :
    s.asked request = s := by
  cases request <;> first | rfl | exact aside.elim

theorem Scene.answered_of_isAside {request : Request} (aside : request.IsAside) (s : Scene)
    (answer : request.Answer) : s.answered request answer = s := by
  cases request <;> first | rfl | exact aside.elim

/-- The pulse shows nothing of books, resolves and browses. -/
theorem apart_pulse : Apart Request.IsAside pulse where
  counts _ _ _ := rfl
  resolving _ _ := rfl
  browsers _ _ := rfl
  browserRunning _ _ := rfl
  registry _ _ := rfl
  scanDone _ := trivial
  cancelResolve _ := trivial
  startBrowse _ := trivial
  publish _ := trivial
  withdraw _ := trivial
  hear _ _ _ := trivial

theorem blind_pulse : BlindToGate pulse :=
  fun _ _ => rfl

/-- Whether what happens beside the engine keeps a property of pulse and scene. -/
def Stable (I : Pulse → Scene → Prop) : Prop :=
  ∀ e s e' s', I e.pulse s → Happens e s e' s' → I e'.pulse s'

/-- What happens keeps a property, and so does a routine that leaves the pulse alone. -/
theorem Stable.secures {I : Pulse → Scene → Prop} (stable : Stable I) {routine : Work α}
    (leaves : Leaves Request.IsAside pulse routine) (hI : I e.pulse s) :
    Secures (fun _ e' s' => I e'.pulse s') (fun fault e' s' => fault.IsViolation ∧ I e'.pulse s')
      (routine e) s := by
  refine leaves.secures (I := fun e s => I e.pulse s) ?_ ?_ hI
  · intro e e' s hpulse
    rw [hpulse]
    exact id
  · intro e e' s s' request answer aside _ happens hI
    rw [Scene.asked_of_isAside aside] at happens
    rw [Scene.answered_of_isAside aside]
    exact stable e s e' s' hI happens

theorem Up.stable : Stable Up :=
  fun _ _ _ _ => Up.happens

theorem InPhase.stable : Stable InPhase :=
  fun _ _ _ _ => InPhase.happens

theorem AtRest.stable : Stable AtRest :=
  fun _ _ _ _ => AtRest.happens

theorem BetweenCalls.stable : Stable BetweenCalls :=
  fun _ _ _ _ => BetweenCalls.happens

/-! ## From one phase to the other -/

/-- How a handler fails: with a violation, in one of the phases. -/
def Violated (fault : Fault) (e : Engine) (s : Scene) : Prop :=
  fault.IsViolation ∧ InPhase e.pulse s

/-- Once the session is over the restart timer is armed, which then alone is to restart the
engine. -/
theorem secures_armRestartTimer (closed : Closed e.pulse s) (untimed : Untimed e.pulse s queue) :
    Secures (fun _ e' s' => Down e'.pulse s') E (armRestartTimer e) s := by
  have restart : e.restart = none := untimed.restart
  simp only [armRestartTimer, secures_bind, secures_get, restart, secures_modify]
  refine secures_ask fun answer e' s' _ happens => ?_
  refine Down.happens (.inl ⟨?_, ⟨queue, ?_, untimed.undue⟩, rfl, ?_⟩) happens
  · exact ⟨closed.ended, closed.down, closed.started⟩
  · exact untimed.queued.same rfl rfl rfl rfl
  · simp [Scene.asked, untimed.asleep, pulse]

/-- Stopping the client ends the session. -/
theorem secures_clientStop (up : Up e.pulse s) :
    Secures (fun _ e' s' => Closed e'.pulse s' ∧ ∃ queue, Untimed e'.pulse s' queue) E
      (clientStop e) s := by
  obtain ⟨queue, untimed, origin⟩ := up.untimed
  have running : e.clientRunning = true := up.client
  simp only [clientStop, secures_bind, secures_get, running, if_true, secures_modify]
  refine secures_ask fun answer e' s' admits happens => ?_
  rw [secures_succeeded admits]
  -- the session posts until its client has been stopped
  have inSession : InOpenSession ({ e with clientRunning := false } : Engine).pulse
      (s.asked .stopClient) :=
    ⟨up.isOpen, queue, untimed.same rfl rfl rfl rfl rfl rfl, origin⟩
  obtain ⟨-, queue', untimed', -⟩ := inSession.happens happens
  refine ⟨⟨rfl, happens.standing.1, happens.standing.2.1.trans up.started⟩, queue', ?_⟩
  exact untimed'.same rfl rfl rfl rfl rfl rfl

/-- Tearing the session down brings an engine that is up down. -/
theorem secures_restartDefer (up : Up e.pulse s) :
    Secures (fun _ e' s' => Down e'.pulse s') Violated (restartDefer e) s := by
  simp only [restartDefer]
  rw [secures_bind]
  refine (Up.stable.secures (leaves_browserStop apart_pulse fun _ => trivial) up).mono ?_ ?_
  · intro _ e₁ s₁ up₁
    rw [secures_bind]
    refine (secures_clientStop up₁).imp ?_
    rintro - e₂ s₂ ⟨closed₂, queue, untimed₂⟩
    exact secures_armRestartTimer closed₂ untimed₂
  · rintro fault e₁ s₁ ⟨violation, up₁⟩
    exact ⟨violation, .inl up₁⟩

/-- Restarting the client brings the engine up, or arms the timer once more. -/
theorem secures_clientStart (renewable : Renewable e.pulse s) :
    Secures (fun _ e' s' => InPhase e'.pulse s') E (clientStart e) s := by
  obtain ⟨queue, untimed, origin⟩ := renewable.untimed
  simp only [clientStart, secures_bind]
  refine secures_ask fun answer e' s' admits happens => ?_
  rw [secures_succeeded admits]
  -- nothing waits that an earlier session has posted
  have inSession : InOpenSession e.pulse (s.asked .startClient) := by
    refine ⟨rfl, queue, untimed.same rfl rfl rfl rfl rfl rfl, fun post hpost k hk => ?_⟩
    simp [origin post hpost] at hk
  obtain ⟨isOpen, queue', untimed', origin'⟩ := inSession.happens happens
  have started := happens.standing.2.1.trans renewable.started
  rcases FailsAsTransport.cases admits with ⟨value, rfl⟩ | ⟨fault, rfl⟩
  · exact .inl ⟨⟨isOpen, queue', untimed'.same rfl rfl rfl rfl rfl rfl, origin'⟩, rfl, started⟩
  · have closed : Closed e'.pulse (s'.answered .startClient (.error (.transport fault))) :=
      ⟨rfl, happens.standing.1.trans renewable.down, started⟩
    refine (secures_armRestartTimer closed (untimed'.same rfl rfl rfl rfl rfl rfl)).imp ?_
    exact fun _ _ _ => .inr

/-! ## Handlers -/

/-- Resolving a finding, or tearing the session down if a resolve cannot be started. -/
theorem secures_resolveEach {f : Finding} {families : List Ip.Family} (up : Up e.pulse s) :
    Secures (fun _ e' s' => InPhase e'.pulse s') Violated (resolveEach f families e) s := by
  induction families generalizing e s with
  | nil => exact .inl up
  | cons family rest ih =>
      simp only [resolveEach, secures_bind]
      refine secures_ask fun answer e₁ s₁ admits happens => ?_
      have up₁ : Up e₁.pulse s₁ := up.happens happens
      rcases FailsAsTransport.cases admits with ⟨op, rfl⟩ | ⟨fault, rfl⟩
      · exact ih up₁
      · exact (secures_restartDefer up₁).imp fun _ _ _ => .inr

/-- Handling a new instance. -/
theorem secures_browseNew (event : BrowseEvent) (up : Up e.pulse s) :
    Secures (fun _ e' s' => InPhase e'.pulse s') Violated (browseNew event e) s := by
  simp only [browseNew, secures_bind, secures_get]
  rw [secures_ite]
  exact ⟨fun _ => secures_resolveEach up, fun _ => .inl up⟩

/-- Handling a report of a browse. -/
theorem secures_onBrowse (event : BrowseEvent) (phase : InPhase e.pulse s)
    (idle : e.clientRunning = false → e.browserRunning = false) :
    Secures (fun _ e' s' => InPhase e'.pulse s') Violated (onBrowse event e) s := by
  simp only [onBrowse, secures_bind, secures_get]
  rw [secures_ite]
  refine ⟨fun browsing => ?_, fun _ => phase⟩
  have up : Up e.pulse s := by
    refine phase.resolve_right fun down => ?_
    simp [idle down.closed.down] at browsing
  cases event.kind with
  | new => exact secures_browseNew event up
  | remove =>
      simp only [secures_bind, secures_get]
      cases e.registry.find? (.of event.service event.ifindex (event.name.getD "")) with
      | some f => exact InPhase.stable.secures (leaves_deleteFinding apart_pulse _) phase
      | none => exact phase
  | failure => exact (secures_restartDefer up).imp fun _ _ _ => .inr
  | cacheExhausted => exact phase
  | allForNow => exact InPhase.stable.secures (leaves_allForNow apart_pulse.toDetached blind_pulse _) phase

/-- Handling a change of the client's state. -/
theorem secures_onClientState (state : ClientState) (phase : InPhase e.pulse s) :
    Secures (fun _ e' s' => InPhase e'.pulse s') Violated (onClientState state e) s := by
  simp only [onClientState, secures_bind, secures_get]
  rw [secures_ite]
  refine ⟨fun running => ?_, fun _ => phase⟩
  have up : Up e.pulse s := by
    refine phase.resolve_right fun down => ?_
    exact absurd (down.closed.down.symm.trans running) (by simp)
  have browse : Secures (fun _ e' s' => InPhase e'.pulse s') Violated ((do
      if !(← Routine.get).browserRunning then
        if !(← browserStart) then restartDefer : Work Unit) e) s := by
    simp only [secures_bind, secures_get, secures_ite, secures_pure]
    refine ⟨fun _ => ?_, fun _ => phase⟩
    refine (Up.stable.secures (leaves_browserStart apart_pulse.toDetached) up).mono ?_ ?_
    · intro all e₁ s₁ up₁
      exact ⟨fun _ => (secures_restartDefer up₁).imp fun _ _ _ => .inr, fun _ => .inl up₁⟩
    · rintro fault e₁ s₁ ⟨violation, up₁⟩
      exact ⟨violation, .inl up₁⟩
  cases state with
  | registering => exact browse
  | running => exact browse
  | collision => exact browse
  | failure => exact (secures_restartDefer up).imp fun _ _ _ => .inr
  | connecting => exact phase

/-- Handling the end of the restart timer. -/
theorem secures_onRestartDue (renewable : Renewable e.pulse s) :
    Secures (fun _ e' s' => InPhase e'.pulse s') E (onRestartDue e.generation e) s := by
  obtain ⟨queue, untimed, origin⟩ := renewable.untimed
  have going : e.stopping = false := untimed.queued.going
  have down : e.clientRunning = false := renewable.down
  have renewable' : Renewable ({ e with restart := none } : Engine).pulse s :=
    ⟨⟨renewable.ended, renewable.down, renewable.started⟩, queue,
      untimed.same rfl rfl rfl rfl untimed.restart.symm rfl, origin⟩
  simp only [onRestartDue, secures_bind, secures_get, secures_ite, secures_modify, secures_pure]
  refine ⟨fun _ => ⟨fun _ => secures_clientStart renewable', fun running => ?_⟩, fun stale => ?_⟩
  · simp [down] at running
  · simp [going] at stale

/-- Handling any event. -/
theorem secures_dispatch {event : Event}
    (taken : ¬event.IsDue ∧ InPhase e.pulse s ∨
      event = .restartDue e.generation ∧ Renewable e.pulse s)
    (idle : e.clientRunning = false → e.browserRunning = false) :
    Secures (fun _ e' s' => InPhase e'.pulse s') Violated (dispatch event e) s := by
  rcases taken with ⟨undue, phase⟩ | ⟨rfl, renewable⟩
  · cases event with
    | notice notice =>
        cases notice with
        | browse event => exact secures_onBrowse event phase idle
        | resolve event => exact InPhase.stable.secures (leaves_onResolve apart_pulse event) phase
        | client state => exact secures_onClientState state phase
    | restartDue generation => exact absurd trivial undue
    | query ticket question =>
        simp only [dispatch, secures_bind, secures_get]
        exact secures_ask fun answer e' s' _ happens => phase.happens happens
    | unknown => exact phase
  · exact secures_onRestartDue renewable

/-! ## Calls -/

/-- How a call fails: with a violation, or with the engine ready for the next call. -/
def Lapses (fault : Fault) (e : Engine) (s : Scene) : Prop :=
  fault.IsViolation ∨ BetweenCalls e.pulse s

/-- Taking note that an event has been handled leaves the pulse alone. -/
theorem pulse_finish (e : Engine) :
    ({ e with mailbox := e.mailbox.map Mailbox.finish } : Engine).pulse = e.pulse := by
  simp only [pulse, Option.map_map]
  rfl

/-- Halting the engine. -/
theorem secures_halt (broken : Violation) (phase : InPhase e.pulse s) :
    Secures (fun _ e' s' => BetweenCalls e'.pulse s') Lapses ((do
      halt broken
      finish : Work Unit) e) s := by
  obtain ⟨queue, queued⟩ := phase.queued
  obtain ⟨box, hmailbox, -⟩ := Option.map_eq_some_iff.1 queued.waiting
  have started : e.started = true := phase.started
  have halted (unfinished : Nat) : BetweenCalls
      ({ e with failure := some broken, mailbox := some ⟨[], unfinished⟩ } : Engine).pulse s :=
    ⟨⟨phase.matchesScene.timer, phase.matchesScene.client⟩,
      fun unstarted => by simp [pulse, started] at unstarted, fun _ _ => rfl, by simp [pulse]⟩
  simp only [halt, finish, secures_bind, secures_modify, secures_get, hmailbox]
  refine (BetweenCalls.stable.secures
    (leaves_failEach (fun _ _ => trivial) _ _) (halted _)).mono ?_ ?_
  · intro _ e₁ s₁ between
    rw [pulse_finish]
    exact between
  · exact fun _ _ _ failed => .inl failed.1

/-- Handling the next event. -/
theorem secures_turn (between : BetweenCalls e.pulse s) (consuming : e.isConsuming = true)
    (idle : e.clientRunning = false → e.browserRunning = false) :
    Secures (fun _ e' s' => BetweenCalls e'.pulse s') Lapses (turn e) s := by
  simp only [turn, secures_bind, secures_get]
  cases htake : e.mailbox.bind Mailbox.take? with
  | none => exact between
  | some taken =>
      obtain ⟨event, box⟩ := taken
      simp only [secures_bind, secures_modify, handle, secures_attempt]
      refine (secures_dispatch (e := { e with mailbox := some box })
        (between.taken consuming htake) idle).mono ?_ ?_
      · intro _ e₁ s₁ phase
        simp only [finish, secures_modify, pulse_finish]
        exact phase.betweenCalls
      · rintro fault e₁ s₁ ⟨violation, phase⟩
        cases fault with
        | invariant broken => exact secures_halt broken phase
        | _ => exact violation.elim

/-- Starting the engine. -/
theorem secures_start (between : BetweenCalls e.pulse s)
    (down : e.started = false → e.clientRunning = false) :
    Secures (fun _ e' s' => BetweenCalls e'.pulse s') Lapses (start e) s := by
  simp only [start, secures_bind, secures_get, secures_ite, secures_pure, secures_modify]
  refine ⟨fun _ => between, fun unstarted => ?_⟩
  have stopped : e.started = false := by simpa using unstarted
  have rest : AtRest e.pulse s := between.rest stopped
  refine ⟨fun disabled => ?_, fun _ => ?_⟩
  · have stable : Stable fun p s => AtRest p s ∧ p.enabled = false := by
      rintro e s e' s' ⟨rest, disabled⟩ happens
      exact ⟨rest.happens happens, happens.standing.2.2.trans disabled⟩
    have disabled' : e.enabled = false := by simpa using disabled
    refine (stable.secures (leaves_fireAll apart_pulse.toDetached blind_pulse) ⟨rest, disabled'⟩).mono ?_
      fun _ _ _ failed => .inl failed.1
    rintro - e₁ s₁ ⟨rest₁, disabled₁⟩
    have closed : e₁.pulse.waiting? = none := rest₁.closed
    refine ⟨⟨rest₁.matchesScene.timer, rest₁.matchesScene.client⟩, by simp [pulse],
      fun _ enabled => ?_,
      fun _ opened => ?_⟩
    · exact absurd (disabled₁.symm.trans enabled) (by simp)
    · simp only [pulse] at closed opened
      simp [closed] at opened
  · refine secures_ask fun answer e' s' admits happens => ?_
    have inSession : InOpenSession
        ({ e with mailbox := some .empty, stopping := false, failure := none } : Engine).pulse
        (s.asked .startClient) :=
      ⟨rfl, [], ⟨⟨List.nil_suffix, rfl, rfl, rfl⟩, by simp, rest.restart, rest.asleep⟩, by simp⟩
    obtain ⟨isOpen, queue, untimed, origin⟩ := inSession.happens happens
    rcases FailsAsTransport.cases admits with ⟨value, rfl⟩ | ⟨fault, rfl⟩
    · have up : Up ({ e' with clientRunning := true, started := true } : Engine).pulse s' :=
        ⟨⟨isOpen, queue, untimed.same rfl rfl rfl rfl rfl rfl, origin⟩, rfl, rfl⟩
      exact InPhase.betweenCalls (.inl up)
    · simp only [secures_bind, secures_modify, secures_raise]
      refine .inr (AtRest.betweenCalls ⟨⟨rfl, untimed.asleep⟩, untimed.restart, ?_⟩ ?_)
      · exact (happens.standing.1.trans (down stopped)).symm
      · exact happens.standing.2.1.trans stopped

/-- Dropping the restart timer leaves none that sleeps. -/
theorem secures_dropRestartTimer (matching : MatchesScene e.pulse s)
    (closed : e.pulse.waiting? = none) :
    Secures (fun _ e' s' => AtRest e'.pulse s') E (dropRestartTimer e) s := by
  have timer : s.asleep = e.restart.toList := matching.timer
  simp only [dropRestartTimer, secures_bind, secures_get]
  cases hrestart : e.restart with
  | none =>
      rw [hrestart] at timer
      exact ⟨⟨closed, timer⟩, rfl, matching.client⟩
  | some running =>
      simp only [secures_bind, secures_modify]
      refine secures_ask fun answer e' s' _ happens => ?_
      have unreached : NothingArrives e.pulse (s.asked (.disarmRestart running)) :=
        ⟨closed, by simp [Scene.asked, timer, hrestart]⟩
      obtain ⟨⟨closed', asleep'⟩, -⟩ := unreached.happens happens
      refine ⟨⟨closed', asleep'⟩, rfl, ?_⟩
      exact (happens.isOpen_eq.trans matching.client).trans happens.standing.1.symm

/-- Stopping the client of an engine that nothing reaches. -/
theorem secures_clientStop_atRest (rest : AtRest e.pulse s) :
    Secures (fun _ e' s' => AtRest e'.pulse s') E (clientStop e) s := by
  simp only [clientStop, secures_bind, secures_get, secures_ite, secures_modify, secures_pure]
  refine ⟨fun _ => ?_, fun _ => rest⟩
  refine secures_ask fun answer e' s' admits happens => ?_
  rw [secures_succeeded admits]
  have unreached : NothingArrives ({ e with clientRunning := false } : Engine).pulse
      (s.asked .stopClient) :=
    ⟨rest.closed, rest.asleep⟩
  obtain ⟨⟨closed', asleep'⟩, restart'⟩ := unreached.happens happens
  exact ⟨⟨closed', asleep'⟩, restart'.trans rest.restart, happens.standing.1.symm⟩

/-- Stopping the engine. -/
theorem secures_stop (between : BetweenCalls e.pulse s) :
    Secures (fun _ e' s' => BetweenCalls e'.pulse s') Lapses (stop e) s := by
  have lapses {I : Pulse → Scene → Prop} : ∀ fault e' s',
      fault.IsViolation ∧ I e'.pulse s' → Lapses fault e' s' :=
    fun _ _ _ failed => .inl failed.1
  -- what follows once the mailbox has been emptied
  have release : ∀ e₁ s₁, MatchesScene e₁.pulse s₁ ∧ e₁.pulse.waiting? = none →
      Secures (fun _ e' s' => BetweenCalls e'.pulse s') Lapses ((do
        dropRestartTimer
        browserStop
        clientStop
        deleteFindings
        Routine.modify fun e => { e with resolving := .empty, started := false } : Work Unit) e₁)
        s₁ := by
    rintro e₁ s₁ ⟨matching₁, closed₁⟩
    simp only [secures_bind, secures_modify]
    refine (secures_dropRestartTimer matching₁ closed₁).imp fun _ e₂ s₂ rest₂ => ?_
    refine (AtRest.stable.secures (leaves_browserStop apart_pulse fun _ => trivial) rest₂).mono ?_ lapses
    intro _ e₃ s₃ rest₃
    refine (secures_clientStop_atRest rest₃).imp fun _ e₄ s₄ rest₄ => ?_
    refine (AtRest.stable.secures (leaves_deleteFindings apart_pulse) rest₄).mono ?_ lapses
    intro _ e₅ s₅ rest₅
    exact AtRest.betweenCalls ⟨⟨rest₅.closed, rest₅.asleep⟩, rest₅.restart, rest₅.client⟩ rfl
  simp only [stop, secures_bind, secures_get]
  rw [secures_ite]
  refine ⟨fun _ => ?_, fun _ => between⟩
  simp only [secures_bind, secures_get, secures_modify]
  have matching : MatchesScene ({ e with stopping := true, mailbox := none } : Engine).pulse s :=
    ⟨between.timer, between.client⟩
  cases e.mailbox with
  | none => exact release _ s ⟨matching, rfl⟩
  | some box =>
      have stable : Stable fun p s => MatchesScene p s ∧ p.waiting? = none := by
        rintro e s e' s' ⟨matching, closed⟩ happens
        exact ⟨matching.happens happens, happens.closed closed⟩
      rw [secures_bind]
      refine (stable.secures (leaves_failEach (fun _ _ => trivial) _ _) ⟨matching, rfl⟩).mono ?_ ?_
      · exact fun _ e₁ s₁ => release e₁ s₁
      · exact fun _ _ _ failed => .inl failed.1

/-- Asking a question.  The scene has taken note of it already. -/
theorem secures_query (ticket : Nat) (question : Question) (between : BetweenCalls e.pulse s) :
    Secures (fun _ e' s' => BetweenCalls e'.pulse s') E (query ticket question e)
      (s.called e (.query ticket question)) := by
  have settled (untaken : e.takesPosts = false) (outcome : Except Fault Reply) :
      Secures (fun _ e' s' => BetweenCalls e'.pulse s') E (ask (.settle ticket outcome) e)
        (s.called e (.query ticket question)) := by
    have hscene : s.called e (.query ticket question) = s := by
      simp [Scene.called, Scene.posted, untaken]
    rw [hscene]
    exact secures_ask fun answer e' s' _ happens => between.happens happens
  simp only [query, secures_bind, secures_get, secures_ite, secures_modify]
  refine ⟨fun failed => settled ?_ _, fun _ => ⟨fun closed => settled ?_ _, fun _ => ?_⟩⟩
  · cases hfailure : e.failure <;> simp_all [takesPosts]
  · cases hmailbox : e.mailbox <;> simp_all [takesPosts]
  · have possible : (Happening.post (.query ticket question) none).IsPossible s :=
      ⟨id, by simp⟩
    exact between.happens (.step _ possible (.refl _ _))

/-! ## Runs -/

/-- Every call leaves the engine ready for the next. -/
theorem Call.secures {call : Call} (possible : call.IsPossible e) (between : BetweenCalls e.pulse s)
    (orderly : Orderly e) :
    Secures (fun _ e' s' => BetweenCalls e'.pulse s') Lapses (call.routine e)
      (s.called e call) := by
  cases call with
  | turn => exact secures_turn between possible fun down => (orderly.of_down down).1
  | start =>
      refine secures_start between fun unstarted => ?_
      cases hclient : e.clientRunning with
      | false => rfl
      | true => exact absurd ((orderly.started hclient).symm.trans unstarted) (by simp)
  | stop => exact secures_stop between
  | query ticket question => exact secures_query ticket question between

/-- At every moment of a run the engine is ready for a call. -/
theorem Played.betweenCalls {m : Moment} (played : Played m s) (admissible : Admissible m.history) :
    BetweenCalls m.engine.pulse s := by
  induction played with
  | new enabled ipVersion => exact AtRest.betweenCalls ⟨⟨rfl, rfl⟩, rfl, rfl⟩ rfl
  | beside before happening possible ih =>
      exact (ih admissible).happens (.step happening possible (.refl _ _))
  | @call e e' h h' s s' r before call possible plays ih =>
      have earlier : Admissible h := plays.runs.admissible_before admissible
      have reached := before.reached
      obtain ⟨path, orderly⟩ := reached.conducted earlier
      have ends := (Call.secures possible (ih earlier) orderly).of_plays plays admissible
      cases r with
      | ok value => exact ends
      | error fault =>
          obtain ⟨-, cause, rfl⟩ := reached.call_eq_start possible plays.runs admissible
          exact ends.resolve_left id

end Engine

end ScannerDiscovery
