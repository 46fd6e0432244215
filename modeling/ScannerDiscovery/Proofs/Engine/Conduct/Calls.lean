import ScannerDiscovery.Proofs.Engine.Conduct.Handlers
import ScannerDiscovery.Proofs.Engine.Frame

/-!
# How the engine conducts its calls

Every call is a sequence of moves and leaves the engine in order.  So every moment of a run in
which the transport fails only as transports do is reached by moves from a new engine, and what
all moves keep holds at all these moments.

Main results:

- `Step.conducted` : one step of a run.
- `Reached.conducted`, `Reached.keeps` : all moments of a run.
- `Reached.call_eq_start` : the calls that fail.
-/

namespace ScannerDiscovery.Engine

variable {E : Fault → Engine → History → Prop} {p : Point} {e : Engine} {h : History}

/-- How a call ends: after a sequence of moves, with the engine in order, and halted only if an
endpoint could not be made. -/
structure Conducted (p : Point) (e : Engine) (call : Call) (e' : Engine) (h' : History) :
    Prop where
  path : Path p ⟨{}, e'.holdings, h'⟩
  orderly : Orderly e'
  failure : e.failure = none → e'.failure = none ∨ call = .turn ∧ ∃ found fault,
    e.next? = some (.notice (.resolve found)) ∧ Refused found fault

/-- A call that leaves the session alone. -/
theorem Conducted.of_session {call : Call} {e' : Engine} {h' : History}
    (path : Path p ⟨{}, e'.holdings, h'⟩) (orderly : Orderly e) (hsession : e'.session = e.session)
    (hbooks : e'.books = e.books) : Conducted p e call e' h' := by
  refine ⟨path, orderly.of_session hsession (by rw [hbooks]; exact id), ?_⟩
  intro unfailed
  exact .inl ((congrArg Session.failure hsession).trans unfailed)

/-! ## Waiting queries -/

/-- Queries among discarded events are settled. -/
theorem ensures_failEach (fault : Fault) {events : List Event} (path : Path p ⟨{}, e.holdings, h⟩) :
    Ensures (fun _ e' h' => Path p ⟨{}, e'.holdings, h'⟩ ∧ e'.session = e.session ∧
      e'.books = e.books) E (failEach fault events e) h := by
  induction events generalizing e h with
  | nil => exact ⟨path, rfl, rfl⟩
  | cons event rest ih =>
      cases event with
      | query ticket question =>
          simp only [failEach, ensures_bind]
          refine ensures_ask fun answer e₁ admits disturbed => ?_
          refine (ih (path_noted path disturbed (by trivial))).imp ?_
          rintro - e₂ h₂ ⟨path₂, hsession, hbooks⟩
          exact ⟨path₂, hsession.trans disturbed.session, hbooks.trans disturbed.books⟩
      | notice notice => exact ih path
      | restartDue generation => exact ih path
      | unknown => exact ih path

/-- Asking a question. -/
theorem ensures_query (ticket : Nat) (question : Question) {call : Call}
    (path : Path p ⟨{}, e.holdings, h⟩) (orderly : Orderly e) :
    Ensures (fun _ e' h' => Conducted p e call e' h') E (query ticket question e) h := by
  have asked : ∀ outcome, Ensures (fun _ e' h' => Conducted p e call e' h') E
      (ask (.settle ticket outcome) e) h := by
    intro outcome
    refine ensures_ask fun answer e₁ admits disturbed => ?_
    exact .of_session (path_noted path disturbed (by trivial)) orderly disturbed.session
      disturbed.books
  simp only [query, ensures_bind, ensures_get, ensures_ite, ensures_modify]
  refine ⟨fun _ => asked _, fun _ => ⟨fun _ => asked _, fun _ => ?_⟩⟩
  have posted : Disturbed e (e.post (.query ticket question)) :=
    Disturbance.disturbed (.post _) e
  exact .of_session (posted.holdings ▸ path) orderly posted.session posted.books

/-! ## Handling the next event -/

/-- Halting the engine leaves it in order. -/
theorem ensures_halt (broken : Violation) (path : Path p ⟨{}, e.holdings, h⟩)
    (orderly : Orderly e) :
    Ensures (fun _ e' h' => Path p ⟨{}, e'.holdings, h'⟩ ∧ Orderly e') E (halt broken e) h := by
  have halted (mailbox : Option Mailbox) : Orderly { e with failure := some broken, mailbox } :=
    ⟨orderly.client, orderly.browsed, orderly.browsers, orderly.findings, orderly.started⟩
  simp only [halt, ensures_bind, ensures_modify, ensures_get]
  cases hmailbox : e.mailbox with
  | none => exact ⟨path, halted none⟩
  | some box =>
      simp only [ensures_bind, ensures_modify]
      refine (ensures_failEach _ (by exact path)).imp ?_
      rintro - e' h' ⟨path', hsession, hbooks⟩
      exact ⟨path', (halted _).of_session hsession (by rw [hbooks]; exact id)⟩

/-- The next event is handled without fail. -/
theorem ensures_turn (sound : Sound p) (path : Path p ⟨{}, e.holdings, h⟩) (orderly : Orderly e)
    (started : e.started = true) :
    Ensures (fun _ e' h' => Conducted p e .turn e' h') E (turn e) (.called e .turn :: h) := by
  simp only [turn, ensures_bind, ensures_get]
  cases htake : e.mailbox.bind Mailbox.take? with
  | none =>
      have stale : e.acceptable? = none := by
        simp [acceptable?, next?, htake]
      have called : Path p ⟨{}, e.holdings, .called e .turn :: h⟩ := path.tail (.called rfl stale)
      exact .of_session called orderly rfl rfl
  | some taken =>
      obtain ⟨event, box⟩ := taken
      have next : e.next? = some event := by
        simp [next?, htake]
      simp only [ensures_bind, ensures_modify, handle, ensures_attempt]
      refine (ensures_dispatch (some box) sound path orderly started next).mono ?_ ?_
      · rintro - e₁ h₁ handled
        exact ⟨handled.path, handled.orderly.of_session rfl id,
          fun unfailed => .inl (handled.failure.trans unfailed)⟩
      · rintro fault e₁ h₁ ⟨⟨found, rfl, refused⟩, handled⟩
        have violated := refused
        obtain ⟨-, service, address, ifindex, broken, -, -, rfl⟩ := violated
        simp only [ensures_bind]
        refine (ensures_halt broken handled.path handled.orderly).imp ?_
        rintro - e₂ h₂ ⟨path₂, orderly₂⟩
        exact ⟨path₂, orderly₂.of_session rfl id,
          fun _ => .inr ⟨rfl, found, .invariant broken, next, refused⟩⟩

/-! ## Start and stop -/

/-- Starting the engine fails only if its client cannot be started. -/
theorem ensures_start (path : Path p ⟨{}, e.holdings, h⟩) (orderly : Orderly e) :
    Ensures (fun _ e' h' => Conducted p e .start e' h')
      (fun fault e' h' => (∃ cause, fault = .startup cause) ∧ Conducted p e .start e' h')
      (start e) h := by
  have same : Conducted p e .start e h := .of_session path orderly rfl rfl
  simp only [start, ensures_bind, ensures_get, ensures_ite, ensures_pure, ensures_modify]
  refine ⟨fun _ => same, fun unstarted => ?_⟩
  have down : e.clientRunning = false := by
    cases hclient : e.clientRunning with
    | false => rfl
    | true => exact absurd (orderly.started hclient) unstarted
  obtain ⟨idle, browsers, live⟩ := orderly.of_down down
  refine ⟨fun _ => ?_, fun _ => ?_⟩
  · simp only [Books.fireAll, ensures_bind, ensures_books_get, ensures_setGate]
    have ended : Path p ⟨{ signals := e.books.gate.fireAll.2 },
        { e.holdings with gate := e.books.gate.fireAll.1 }, h⟩ :=
      path.tail (.phasesEnded browsers live)
    refine (ensures_report (e := { e with books.gate := e.books.gate.fireAll.1 })
      (by exact ended)).imp ?_
    rintro - e₁ h₁ ⟨path₁, hsession, hbooks⟩
    simp only [session, Session.mk.injEq] at hsession
    obtain ⟨-, -, -, hfailure, hbrowsing, hclient, hbrowsers⟩ := hsession
    refine ⟨path₁, .of_idle (hbrowsing.trans idle) (hbrowsers.trans browsers) ?_ fun _ => rfl,
      fun unfailed => .inl (hfailure.trans unfailed)⟩
    exact (congrArg (·.registry.live) hbooks).trans live
  · refine ensures_ask fun answer e₁ admits disturbed => ?_
    have hsession := disturbed.session
    have hlive : e₁.books.registry.live = [] := by
      rw [disturbed.books]
      exact live
    simp only [session, Session.mk.injEq] at hsession
    obtain ⟨-, -, hstarted, hfailure, hbrowsing, hclient, hbrowsers⟩ := hsession
    have idle₁ : e₁.browserRunning = false := hbrowsing.trans idle
    have browsers₁ : e₁.browsers = .empty := hbrowsers.trans browsers
    rcases FailsAsTransport.cases admits with ⟨value, rfl⟩ | ⟨fault, rfl⟩
    · have began := path.tail (.clientStarted
        (e := { e with mailbox := some .empty, stopping := false, failure := none }) rfl down)
      refine ⟨?_, .of_idle idle₁ browsers₁ hlive fun _ => rfl, fun _ => .inl hfailure⟩
      have hholdings : ({ e₁ with clientRunning := true, started := true } : Engine).holdings =
          { e₁.holdings with clientRunning := true } := rfl
      rw [hholdings, disturbed.holdings]
      exact began
    · simp only [ensures_bind, ensures_modify, ensures_raise]
      refine ⟨⟨fault, rfl⟩, ?_, .of_idle idle₁ browsers₁ hlive fun running => ?_,
        fun _ => .inl hfailure⟩
      · have noted : Path p ⟨{}, e₁.holdings, .asked
              { e with mailbox := some .empty, stopping := false, failure := none }
              .startClient (.error (.transport fault)) :: h⟩ :=
          path_noted (by exact path) disturbed (by trivial)
        exact noted
      · simp [hclient.trans down] at running

/-- Dropping the restart timer. -/
theorem ensures_dropRestartTimer (path : Path p ⟨{}, e.holdings, h⟩) :
    Ensures (fun _ e' h' => Path p ⟨{}, e'.holdings, h'⟩ ∧ e'.session = e.session) E
      (dropRestartTimer e) h := by
  simp only [dropRestartTimer, ensures_bind, ensures_get]
  cases e.restart with
  | none => exact ⟨path, rfl⟩
  | some running =>
      simp only [ensures_bind]
      refine ensures_ask fun answer e₁ admits disturbed => ?_
      have noted : Path p ⟨{}, e₁.holdings, .asked e (.disarmRestart running) () :: h⟩ :=
        path_noted path disturbed (by trivial)
      exact ⟨noted, disturbed.session⟩

/-- How the release of what is held ends: after a sequence of moves, with nothing left. -/
structure Emptied (p : Point) (e e' : Engine) (h' : History) : Prop where
  path : Path p ⟨{}, e'.holdings, h'⟩
  failure : e'.failure = e.failure
  client : e'.clientRunning = false
  idle : e'.browserRunning = false
  browsers : e'.browsers = .empty
  live : e'.books.registry.live = []
  resolving : e'.resolving = .empty
  unstarted : e'.started = false

/-- The release of what is held never fails, even if tasks have been lost. -/
theorem ensures_release (upToLosses : SoundUpToLosses p) (path : Path p ⟨{}, e.holdings, h⟩) :
    Ensures (fun _ e' h' => Emptied p e e' h') E (release e) h := by
  simp only [release, ensures_bind, ensures_modify]
  refine (ensures_dropRestartTimer path).imp ?_
  rintro - e₁ h₁ ⟨path₁, hsession₁⟩
  refine (ensures_browserStop upToLosses path₁).imp ?_
  rintro - e₂ h₂ ⟨path₂, hsession₂, -⟩
  refine (ensures_clientStop path₂ (congrArg Session.browsers hsession₂)).imp ?_
  rintro - e₃ h₃ ⟨path₃, hsession₃, -⟩
  refine (ensures_deleteFindings upToLosses path₃).imp ?_
  rintro - e₄ h₄ ⟨path₄, hsession₄, live⟩
  rw [hsession₃, hsession₂, hsession₁] at hsession₄
  simp only [session, Session.mk.injEq] at hsession₄
  obtain ⟨-, -, -, hfailure, hbrowsing, hclient, hbrowsers⟩ := hsession₄
  exact ⟨path₄.tail (.forgotten live), hfailure, hclient, hbrowsing, hbrowsers, live, rfl, rfl⟩

/-- Stopping an engine that is started never fails, even if tasks have been lost. -/
theorem ensures_stop_emptied (started : e.started = true) (upToLosses : SoundUpToLosses p)
    (path : Path p ⟨{}, e.holdings, h⟩) :
    Ensures (fun _ e' h' => Emptied p e e' h') E (stop e) h := by
  rw [stop_of_started started, ensures_bind]
  refine (ensures_failEach _ (by exact path)).imp ?_
  rintro - e₁ h₁ ⟨path₁, hsession₁, -⟩
  have hfailure : e₁.failure = e.failure := congrArg Session.failure hsession₁
  refine (ensures_release upToLosses path₁).imp ?_
  rintro - e₂ h₂ emptied
  exact { emptied with failure := emptied.failure.trans hfailure }

/-- Stopping the engine never fails. -/
theorem ensures_stop (sound : Sound p) (path : Path p ⟨{}, e.holdings, h⟩) (orderly : Orderly e) :
    Ensures (fun _ e' h' => Conducted p e .stop e' h') E (stop e) h := by
  cases hstarted : e.started with
  | false =>
      rw [stop_of_not_started hstarted]
      exact Conducted.of_session path orderly rfl rfl
  | true =>
      refine (ensures_stop_emptied hstarted sound.toSoundUpToLosses path).imp ?_
      rintro - e' h' emptied
      refine ⟨emptied.path, .of_idle emptied.idle emptied.browsers emptied.live ?_,
        fun unfailed => .inl (emptied.failure.trans unfailed)⟩
      exact fun running => absurd (emptied.client.symm.trans running) (by simp)

/-! ## Runs -/

/-- What a new engine holds. -/
def Holdings.initial : Holdings :=
  ⟨.initial, .empty, .empty, .empty, false⟩

theorem Sound.initial : Sound ⟨{}, .initial, []⟩ := by
  have none (number : Nat) : ({} : Debt).subject ≠ some number := by simp
  have balanced : Balanced ⟨{}, .initial, []⟩ := by
    refine ⟨?_, ?_⟩
    · intro m
      cases m <;> rfl
    · intro m hm
      exact absurd hm List.not_mem_nil
  refine ⟨⟨⟨Registry.wellNumbered_empty, List.nodup_nil, ?_, ?_, ?_⟩, ?_, _, balanced⟩, balanced⟩
  · intro number hsubject
    exact absurd hsubject (none number)
  · intro f hf
    exact absurd hf List.not_mem_nil
  · intro f hf
    exact absurd hf List.not_mem_nil
  · intro op number hget
    simp [Holdings.initial] at hget

theorem Orderly.new (enabled : Bool) (ipVersion : IpVersion) : Orderly { enabled, ipVersion } :=
  .of_idle rfl rfl rfl (by simp)

/-- Every call is a sequence of moves that leaves the engine in order, and only a start fails. -/
theorem Call.ensures_conducted {call : Call} (possible : call.IsPossible e) (sound : Sound p)
    (path : Path p ⟨{}, e.holdings, h⟩) (orderly : Orderly e) :
    Ensures (fun _ e' h' => Conducted p e call e' h')
      (fun fault e' h' => (call = .start ∧ ∃ cause, fault = .startup cause) ∧
        Conducted p e call e' h')
      (call.routine e) (.called e call :: h) := by
  have called (stale : call.accepted? e = none) : Path p ⟨{}, e.holdings, .called e call :: h⟩ :=
    path.tail (.called rfl stale)
  cases call with
  | turn =>
      have started : e.started = true := by
        simp only [Call.IsPossible, isConsuming, isRunning, Bool.and_eq_true] at possible
        exact possible.1.1
      exact ensures_turn sound path orderly started
  | start =>
      refine (ensures_start (called rfl) orderly).mono (fun _ _ _ => id) ?_
      rintro fault e' h' ⟨startup, conducted⟩
      exact ⟨⟨rfl, startup⟩, conducted⟩
  | stop => exact ensures_stop sound (called rfl) orderly
  | query ticket question => exact ensures_query ticket question (called rfl) orderly

/-- Every admissible run of a call is a sequence of moves that leaves the engine in order. -/
theorem Call.conducted {call : Call} {e' : Engine} {h' : History} {r : Except Fault Unit}
    (possible : call.IsPossible e) (runs : Runs (call.routine e) (.called e call :: h) r e' h')
    (admissible : Admissible h') (sound : Sound p) (path : Path p ⟨{}, e.holdings, h⟩)
    (orderly : Orderly e) : Conducted p e call e' h' := by
  have ends := (ensures_conducted possible sound path orderly).of_runs runs admissible
  cases r with
  | ok value => exact ends
  | error fault => exact ends.2

/-- Every step of a run is a sequence of moves that leaves the engine in order. -/
theorem Step.conducted {m n : Moment} (step : Step m n) (admissible : Admissible n.history)
    (sound : Sound p) (path : Path p ⟨{}, m.engine.holdings, m.history⟩)
    (orderly : Orderly m.engine) :
    Path p ⟨{}, n.engine.holdings, n.history⟩ ∧ Orderly n.engine := by
  cases step with
  | call call possible runs =>
      have conducted := Call.conducted possible runs admissible sound path orderly
      exact ⟨conducted.path, conducted.orderly⟩
  | beside e h d =>
      have disturbed := d.disturbed e
      refine ⟨disturbed.holdings ▸ path, orderly.of_session disturbed.session ?_⟩
      rw [disturbed.books]
      exact id

/-- Every moment of a run is reached by moves from a new engine, with the engine in order. -/
theorem Reached.conducted {m : Moment} (reached : Reached m) (admissible : Admissible m.history) :
    Path ⟨{}, .initial, []⟩ ⟨{}, m.engine.holdings, m.history⟩ ∧ Orderly m.engine := by
  induction reached with
  | new enabled ipVersion => exact ⟨.refl, .new enabled ipVersion⟩
  | step before step ih =>
      obtain ⟨path, orderly⟩ := ih (admissible.of_suffix step.suffix)
      exact step.conducted admissible .initial path orderly

/-- What every move keeps holds at every moment of a run. -/
theorem Reached.keeps {I : Point → Prop} (initial : I ⟨{}, .initial, []⟩)
    (keeps : ∀ {p q}, Move p q → I p → I q) {m : Moment} (reached : Reached m)
    (admissible : Admissible m.history) : I ⟨{}, m.engine.holdings, m.history⟩ :=
  (reached.conducted admissible).1.keeps keeps initial

/-- Every moment of a run is sound. -/
theorem Reached.sound {m : Moment} (reached : Reached m) (admissible : Admissible m.history) :
    Sound ⟨{}, m.engine.holdings, m.history⟩ :=
  Sound.initial.path (reached.conducted admissible).1

/-- A call fails only if it is a start whose client cannot be started. -/
theorem Reached.call_eq_start {call : Call} {fault : Fault} {e' : Engine} {h' : History}
    (reached : Reached ⟨e, h⟩) (possible : call.IsPossible e)
    (runs : Runs (call.routine e) (.called e call :: h) (.error fault) e' h')
    (admissible : Admissible h') : call = .start ∧ ∃ cause, fault = .startup cause := by
  have earlier := runs.admissible_before admissible
  obtain ⟨failing, -⟩ := (Call.ensures_conducted possible (reached.sound earlier) .refl
    (reached.conducted earlier).2).of_runs runs admissible
  exact failing

end ScannerDiscovery.Engine
