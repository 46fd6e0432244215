import ScannerDiscovery.Proofs.Engine.Conduct.Books

/-!
# How the engine conducts browses and client

The routines that start and stop browses and client are sequences of moves and never fail while
the transport fails only as transports do.  Tearing a session down leaves nothing of it.

Main results:

- `ensures_browserStart` : afterwards all services are browsed, or not all could be.
- `ensures_restartDefer` : afterwards there are no browses, no findings and no client.
-/

namespace ScannerDiscovery.Engine

variable {E : Fault → Engine → History → Prop} {p : Point} {e : Engine} {h : History}

/-- A request that changes nothing is a move. -/
theorem path_noted {d : Debt} {e' : Engine} {request : Request} {answer : request.Answer}
    (path : Path p ⟨d, e.holdings, h⟩) (disturbed : Disturbed e e')
    (minor : IsMinor request answer) :
    Path p ⟨d, e'.holdings, .asked e request answer :: h⟩ := by
  rw [disturbed.holdings]
  exact path.tail (.noted rfl minor)

/-! ## Starting browses -/

/-- What has become of an engine after it has started to browse for services: those that were
browsed before still are, and if all could be started, so are these. -/
structure Browses (e : Engine) (services : List Service) (all : Bool) (e' : Engine) : Prop where
  session : ∃ browsers, e'.session = { e.session with browsers }
  registry : e'.books.registry = e.books.registry
  open_of : all = true → ∀ s, s ∈ services ∨ (e.browsers.get? s).isSome = true →
    (e'.browsers.get? s).isSome = true

/-- Having started one more browse before the others. -/
theorem Browses.cons {e e₁ e' : Engine} {service : Service} {handle : Ticket}
    {rest : List Service} {all : Bool} (others : Browses e₁ rest all e')
    (hsession : e₁.session =
      { e.session with browsers := e.browsers.insert service handle })
    (hregistry : e₁.books.registry = e.books.registry) :
    Browses e (service :: rest) all e' := by
  have hbrowsers : e₁.browsers = e.browsers.insert service handle :=
    congrArg Session.browsers hsession
  refine ⟨?_, others.registry.trans hregistry, ?_⟩
  · obtain ⟨browsers, hothers⟩ := others.session
    exact ⟨browsers, by rw [hothers, hsession]⟩
  · intro hall s hs
    apply others.open_of hall
    rw [hbrowsers, OrderedMap.get?_insert]
    by_cases heq : s = service
    · exact .inr (by simp [heq])
    · simpa [heq] using hs

/-- Browses are started one after another, until one cannot be started. -/
theorem ensures_startEach {services : List Service} (path : Path p ⟨{}, e.holdings, h⟩)
    (client : e.clientRunning = true) (distinct : services.Nodup)
    (new : ∀ s ∈ services, e.browsers.get? s = none) :
    Ensures (fun all e' h' => Path p ⟨{}, e'.holdings, h'⟩ ∧ Browses e services all e') E
      (startEach services e) h := by
  induction services generalizing e h with
  | nil => exact ⟨path, ⟨_, rfl⟩, rfl, by simp⟩
  | cons service rest ih =>
      simp only [startEach, ensures_bind]
      refine ensures_ask fun answer e₁ admits disturbed => ?_
      rcases FailsAsTransport.cases admits with ⟨handle, rfl⟩ | ⟨fault, rfl⟩
      · have hbrowsers : e₁.browsers = e.browsers := congrArg Session.browsers disturbed.session
        have client₁ : e₁.clientRunning = true :=
          (congrArg Session.clientRunning disturbed.session).trans client
        have new₁ : e₁.browsers.get? service = none := by
          rw [hbrowsers]
          exact new service List.mem_cons_self
        have path₁ : Path p ⟨{}, e₁.holdings, h⟩ := disturbed.holdings ▸ path
        have opened : Path p ⟨{}, { e₁.holdings with
              browsers := e₁.browsers.insert service handle
              gate := if e₁.books.gate.inInitialScan service then
                  e₁.books.gate.inc service.method
                else e₁.books.gate }, .asked e (.startBrowse service) (.ok handle) :: h⟩ :=
          path₁.tail (.opened disturbed.holdings.symm client₁ new₁)
        -- whether the new browse is a task or not, the others are started after it
        have others : ∀ e₂ : Engine, e₂.holdings = { e₁.holdings with
              browsers := e₁.browsers.insert service handle
              gate := if e₁.books.gate.inInitialScan service then
                  e₁.books.gate.inc service.method
                else e₁.books.gate } →
            e₂.session = { e₁.session with browsers := e₁.browsers.insert service handle } →
            Ensures (fun all e' h' => Path p ⟨{}, e'.holdings, h'⟩ ∧
              Browses e (service :: rest) all e') E (startEach rest e₂)
              (.asked e (.startBrowse service) (.ok handle) :: h) := by
          intro e₂ hholdings hsession
          rw [disturbed.session, hbrowsers] at hsession
          have hregistry : e₂.books.registry = e.books.registry := by
            rw [← disturbed.books]
            exact congrArg Holdings.registry hholdings
          refine (ih (hholdings ▸ opened) ?_ distinct.of_cons ?_).imp ?_
          · exact (congrArg Session.clientRunning hsession).trans client
          · intro s hs
            have hne : s ≠ service := fun heq => (List.nodup_cons.1 distinct).1 (heq ▸ hs)
            have hinsert : e₂.browsers = e.browsers.insert service handle :=
              congrArg Session.browsers hsession
            rw [hinsert, OrderedMap.get?_insert, if_neg hne]
            exact new s (List.mem_cons_of_mem _ hs)
          · rintro all e₃ h₃ ⟨path₃, hothers⟩
            exact ⟨path₃, hothers.cons hsession hregistry⟩
        simp only [ensures_bind, ensures_modify, ensures_get, ensures_ite]
        constructor
        · intro initial
          exact others _ (by rw [if_pos (by exact initial)]; rfl) rfl
        · intro settled
          exact others _ (by rw [if_neg (by exact settled)]; rfl) rfl
      · exact ⟨path_noted path disturbed trivial, ⟨_, disturbed.session⟩, by rw [disturbed.books],
          by simp⟩

/-- Afterwards all services are browsed, or not all could be. -/
theorem ensures_browserStart (path : Path p ⟨{}, e.holdings, h⟩) (client : e.clientRunning = true)
    (none : e.browsers = .empty) :
    Ensures (fun all e' h' => Path p ⟨{}, e'.holdings, h'⟩ ∧
      (∃ browsers, e'.session = { e.session with browserRunning := true, browsers }) ∧
      e'.books.registry = e.books.registry ∧
      (all = true → ∀ s, (e'.browsers.get? s).isSome = true)) E (browserStart e) h := by
  have distinct : Service.all.Nodup := by decide
  simp only [browserStart, ensures_bind, ensures_modify]
  refine (ensures_startEach (e := { e with browserRunning := true }) (by exact path) client
    distinct ?_).imp ?_
  · intro s _
    rw [none]
    rfl
  · rintro all e' h' ⟨path', hbrowses⟩
    exact ⟨path', hbrowses.session, hbrowses.registry,
      fun hall s => hbrowses.open_of hall s (.inl (Service.mem_all s))⟩

/-! ## Stopping browses -/

/-- Browses are stopped one after another. -/
theorem ensures_stopEach {entries : List (Service × Ticket)} (upToLosses : SoundUpToLosses p)
    (path : Path p ⟨{}, e.holdings, h⟩) (all : e.browsers.entries = entries) :
    Ensures (fun _ e' h' => Path p ⟨{}, e'.holdings, h'⟩ ∧
      e'.session = { e.session with browsers := .empty } ∧
      e'.books.registry = e.books.registry) E (stopEach entries e) h := by
  induction entries generalizing e h with
  | nil =>
      have none : e.browsers = .empty :=
        OrderedMap.eq_empty_of_get? fun s => by simp [OrderedMap.get?, all]
      exact ⟨path, by rw [← none]; rfl, rfl⟩
  | cons entry rest ih =>
      obtain ⟨service, handle⟩ := entry
      have current : e.browsers.get? service = some handle :=
        OrderedMap.get?_eq_some_iff.2 (by simp [all])
      simp only [stopEach, ensures_bind, ensures_modify]
      refine ensures_ask fun answer e₁ admits disturbed => ?_
      rw [ensures_succeeded admits]
      have closed : Path p ⟨{ task :=
            if e.holdings.gate.inInitialScan service then some service.method else none },
          { e.holdings with browsers := e.holdings.browsers.erase service },
          .asked { e with browsers := e.browsers.erase service } (.stopBrowse handle) answer ::
            h⟩ :=
        path.tail (.closed current rfl)
      have hgate : e₁.books.gate = e.holdings.gate := by
        rw [disturbed.books]
        rfl
      -- what is left to do after the browse has been counted off, or was no task
      have others : ∀ e₂ h₂, Path p ⟨{}, e₂.holdings, h₂⟩ → e₂.session = e₁.session →
          e₂.books.registry = e₁.books.registry →
          Ensures (fun _ e' h' => Path p ⟨{}, e'.holdings, h'⟩ ∧
            e'.session = { e.session with browsers := .empty } ∧
            e'.books.registry = e.books.registry) E (stopEach rest e₂) h₂ := by
        intro e₂ h₂ path₂ hsession hregistry
        have hbrowsers : e₂.browsers = e.browsers.erase service :=
          congrArg Session.browsers (hsession.trans disturbed.session)
        refine (ih path₂ (by rw [hbrowsers, OrderedMap.entries_erase_of_cons all])).imp ?_
        rintro - e₃ h₃ ⟨path₃, hsession₃, hregistry₃⟩
        refine ⟨path₃, ?_, ?_⟩
        · rw [hsession₃, hsession, disturbed.session]
          rfl
        · rw [hregistry₃, hregistry, disturbed.books]
      simp only [ensures_bind, ensures_get, ensures_ite]
      constructor
      · intro initial
        rw [if_pos (by rw [← hgate]; exact initial)] at closed
        refine (ensures_lower upToLosses (e := e₁)
          (by rw [disturbed.holdings]; exact closed)).imp ?_
        rintro - e₂ h₂ ⟨path₂, hsession, hregistry⟩
        exact others e₂ h₂ path₂ hsession hregistry
      · intro settled
        rw [if_neg (by rw [← hgate]; exact settled)] at closed
        exact others e₁ _ (by rw [disturbed.holdings]; exact closed) rfl rfl

/-- Stopping all browses leaves none, and no finding. -/
theorem ensures_browserStop (upToLosses : SoundUpToLosses p) (path : Path p ⟨{}, e.holdings, h⟩) :
    Ensures (fun _ e' h' => Path p ⟨{}, e'.holdings, h'⟩ ∧
      e'.session = { e.session with browserRunning := false, browsers := .empty } ∧
      e'.books.registry.live = []) E (browserStop e) h := by
  simp only [browserStop, ensures_bind, ensures_get, ensures_modify]
  refine (ensures_stopEach upToLosses path rfl).imp ?_
  rintro - e₁ h₁ ⟨path₁, hsession₁, hregistry₁⟩
  refine (ensures_deleteFindings upToLosses path₁).imp ?_
  rintro - e₂ h₂ ⟨path₂, hsession₂, hlive₂⟩
  refine ⟨path₂, ?_, hlive₂⟩
  have hsession := hsession₂.trans hsession₁
  simp only [session, Session.mk.injEq] at hsession ⊢
  simp only [hsession, and_self]

/-! ## The client -/

/-- Stopping the client once there are no browses. -/
theorem ensures_clientStop (path : Path p ⟨{}, e.holdings, h⟩) (none : e.browsers = .empty) :
    Ensures (fun _ e' h' => Path p ⟨{}, e'.holdings, h'⟩ ∧
      e'.session = { e.session with clientRunning := false } ∧ e'.books = e.books) E
      (clientStop e) h := by
  simp only [clientStop, ensures_bind, ensures_get, ensures_ite, ensures_modify, ensures_pure]
  constructor
  · intro up
    refine ensures_ask fun answer e₁ admits disturbed => ?_
    rw [ensures_succeeded admits]
    refine ⟨?_, disturbed.session, disturbed.books⟩
    rw [disturbed.holdings]
    exact path.tail (.clientStopped up none rfl)
  · intro down
    have hdown : e.clientRunning = false := by simpa using down
    refine ⟨path, ?_, trivial⟩
    rw [← hdown]
    rfl

/-- Arming the restart timer. -/
theorem ensures_armRestartTimer (path : Path p ⟨{}, e.holdings, h⟩) :
    Ensures (fun _ e' h' => Path p ⟨{}, e'.holdings, h'⟩ ∧ e'.session = e.session ∧
      e'.books = e.books) E (armRestartTimer e) h := by
  have arm : ∀ (e₁ : Engine) h₁, Path p ⟨{}, e₁.holdings, h₁⟩ → e₁.session = e.session →
      e₁.books = e.books → ∀ generation : Nat,
      Ensures (fun _ e' h' => Path p ⟨{}, e'.holdings, h'⟩ ∧ e'.session = e.session ∧
        e'.books = e.books) E (ask (.armRestart generation)
          { e₁ with generation, restart := some generation }) h₁ := by
    intro e₁ h₁ path₁ hsession hbooks generation
    refine ensures_ask fun answer e₂ admits disturbed => ?_
    exact ⟨path_noted (by exact path₁) disturbed trivial, disturbed.session.trans hsession,
      disturbed.books.trans hbooks⟩
  simp only [armRestartTimer, ensures_bind, ensures_get]
  cases e.restart with
  | none =>
      simp only [ensures_bind, ensures_get, ensures_modify]
      exact arm e h path rfl rfl _
  | some running =>
      simp only [ensures_bind]
      refine ensures_ask fun answer e₁ admits disturbed => ?_
      simp only [ensures_get, ensures_modify]
      exact arm e₁ _ (path_noted path disturbed (by trivial)) disturbed.session disturbed.books _

/-- Starting the client again, or the timer if that fails. -/
theorem ensures_clientStart (path : Path p ⟨{}, e.holdings, h⟩) (down : e.clientRunning = false) :
    Ensures (fun _ e' h' => Path p ⟨{}, e'.holdings, h'⟩ ∧
      (∃ clientRunning, e'.session = { e.session with clientRunning }) ∧ e'.books = e.books) E
      (clientStart e) h := by
  simp only [clientStart, ensures_bind]
  refine ensures_ask fun answer e₁ admits disturbed => ?_
  rw [ensures_succeeded admits]
  rcases FailsAsTransport.cases admits with ⟨value, rfl⟩ | ⟨fault, rfl⟩
  · refine ⟨?_, ⟨true, ?_⟩, disturbed.books⟩
    · have path₁ : Path p ⟨{}, e₁.holdings, h⟩ := disturbed.holdings ▸ path
      have down₁ : e₁.clientRunning = false :=
        (congrArg Session.clientRunning disturbed.session).trans down
      exact path₁.tail (.clientStarted disturbed.holdings.symm down₁)
    · rw [← disturbed.session]
      rfl
  · have noted : Path p ⟨{}, e₁.holdings,
        .asked e .startClient (.error (.transport fault)) :: h⟩ :=
      path_noted path disturbed trivial
    refine (ensures_armRestartTimer noted).imp ?_
    rintro - e₂ h₂ ⟨path₂, hsession₂, hbooks₂⟩
    exact ⟨path₂, ⟨_, hsession₂.trans disturbed.session⟩, hbooks₂.trans disturbed.books⟩

/-- Tearing a session down leaves no browses, no findings and no client. -/
theorem ensures_restartDefer (sound : Sound p) (path : Path p ⟨{}, e.holdings, h⟩) :
    Ensures (fun _ e' h' => Path p ⟨{}, e'.holdings, h'⟩ ∧
      e'.session = { e.session with
        browserRunning := false
        clientRunning := false
        browsers := .empty } ∧
      e'.books.registry.live = []) E (restartDefer e) h := by
  simp only [restartDefer, ensures_bind]
  refine (ensures_browserStop sound.toSoundUpToLosses path).imp ?_
  rintro - e₁ h₁ ⟨path₁, hsession₁, hlive₁⟩
  refine (ensures_clientStop path₁ (congrArg Session.browsers hsession₁)).imp ?_
  rintro - e₂ h₂ ⟨path₂, hsession₂, hbooks₂⟩
  refine (ensures_armRestartTimer path₂).imp ?_
  rintro - e₃ h₃ ⟨path₃, hsession₃, hbooks₃⟩
  refine ⟨path₃, ?_, by rw [hbooks₃, hbooks₂, hlive₁]⟩
  rw [hsession₃, hsession₂, hsession₁]

end ScannerDiscovery.Engine
