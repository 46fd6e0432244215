import ScannerDiscovery.Proofs.Engine.Conduct.Client

/-!
# How the engine conducts its handlers

Every handler is a sequence of moves and leaves the engine in order.  The only fault that a
handler can end with is that of an endpoint which cannot be made.

Main definitions:

- `Orderly` : what holds of browses, findings and client between two calls.
- `Handled` : how handlers end.
- `Refused` : the faults of endpoints that cannot be made.

Main results:

- `ensures_onBrowse`, `ensures_onClientState`, `ensures_onRestartDue` : handlers that never fail.
- `ensures_resolveCompleted` : a completion is acted on, or its endpoint cannot be made.
-/

namespace ScannerDiscovery.Engine

variable {E : Fault → Engine → History → Prop} {p : Point} {e : Engine} {h : History}

/-! ## Between two calls -/

/-- What holds between two calls: while browses run, the client does and all services are
browsed; otherwise there are no browses and no findings; and a client that runs is that of an
engine that has been started. -/
structure Orderly (e : Engine) : Prop where
  client : e.browserRunning = true → e.clientRunning = true
  browsed : e.browserRunning = true → ∀ s, (e.browsers.get? s).isSome = true
  browsers : e.browserRunning = false → e.browsers = .empty
  findings : e.browserRunning = false → e.books.registry.live = []
  started : e.clientRunning = true → e.started = true

/-- Order is kept where the session is and no finding comes to an engine without any. -/
theorem Orderly.of_session {e' : Engine} (orderly : Orderly e) (hsession : e'.session = e.session)
    (hlive : e.books.registry.live = [] → e'.books.registry.live = []) : Orderly e' := by
  simp only [session, Session.mk.injEq] at hsession
  obtain ⟨-, -, hstarted, -, hbrowsing, hclient, hbrowsers⟩ := hsession
  refine ⟨?_, ?_, ?_, ?_, ?_⟩
  · rw [hbrowsing, hclient]
    exact orderly.client
  · rw [hbrowsing, hbrowsers]
    exact orderly.browsed
  · rw [hbrowsing, hbrowsers]
    exact orderly.browsers
  · rw [hbrowsing]
    exact fun idle => hlive (orderly.findings idle)
  · rw [hclient, hstarted]
    exact orderly.started

/-- An engine without browses and findings is in order once its client belongs to a start. -/
theorem Orderly.of_idle (idle : e.browserRunning = false) (browsers : e.browsers = .empty)
    (live : e.books.registry.live = []) (started : e.clientRunning = true → e.started = true) :
    Orderly e :=
  ⟨by simp [idle], by simp [idle], fun _ => browsers, fun _ => live, started⟩

/-- An engine without its client has no browses and no findings. -/
theorem Orderly.of_down (orderly : Orderly e) (down : e.clientRunning = false) :
    e.browserRunning = false ∧ e.browsers = .empty ∧ e.books.registry.live = [] := by
  have idle : e.browserRunning = false := by
    cases hbrowsing : e.browserRunning with
    | false => rfl
    | true => simp [orderly.client hbrowsing] at down
  exact ⟨idle, orderly.browsers idle, orderly.findings idle⟩

/-- How a handler ends: after a sequence of moves, with the engine in order and as much started
and halted as before. -/
structure Handled (p : Point) (e e' : Engine) (h' : History) : Prop where
  path : Path p ⟨{}, e'.holdings, h'⟩
  orderly : Orderly e'
  started : e'.started = e.started
  failure : e'.failure = e.failure

theorem Handled.trans {e₁ e' : Engine} {h' : History} (handled : Handled p e₁ e' h')
    (hsession : e₁.session = e.session) : Handled p e e' h' :=
  ⟨handled.path, handled.orderly, handled.started.trans (congrArg Session.started hsession),
    handled.failure.trans (congrArg Session.failure hsession)⟩

/-- A handler that leaves the session alone. -/
theorem Handled.of_session {e' : Engine} {h' : History} (path : Path p ⟨{}, e'.holdings, h'⟩)
    (orderly : Orderly e) (hsession : e'.session = e.session)
    (hlive : e.books.registry.live = [] → e'.books.registry.live = []) : Handled p e e' h' :=
  ⟨path, orderly.of_session hsession hlive, congrArg Session.started hsession,
    congrArg Session.failure hsession⟩

/-- Tearing a session down is a way for a handler to end. -/
theorem ensures_restartDefer_handled (sound : Sound p) (path : Path p ⟨{}, e.holdings, h⟩) :
    Ensures (fun _ e' h' => Handled p e e' h') E (restartDefer e) h := by
  refine (ensures_restartDefer sound path).imp ?_
  rintro - e' h' ⟨path', hsession, hlive⟩
  simp only [session, Session.mk.injEq] at hsession
  obtain ⟨-, -, hstarted, hfailure, hbrowsing, hclient, hbrowsers⟩ := hsession
  exact ⟨path', .of_idle hbrowsing hbrowsers hlive (by simp [hclient]), hstarted, hfailure⟩

/-! ## New instances -/

/-- The resolves of a new finding are begun one after another; if one cannot be started, the
session is torn down. -/
theorem ensures_resolveEach {f g : Finding} {families : List Ip.Family} (sound : Sound p)
    (path : Path p ⟨{ subject := some f.number }, e.holdings, h⟩) (orderly : Orderly e)
    (live : g ∈ e.books.registry.live) (hnumber : g.number = f.number)
    (hservice : g.service = f.service) (hname : g.name = f.name)
    (hifindex : g.ifindex = f.ifindex) :
    Ensures (fun _ e' h' => Handled p e e' h') E (resolveEach f families e) h := by
  induction families generalizing e h g with
  | nil => exact .of_session (path.tail .left) orderly rfl id
  | cons family rest ih =>
      simp only [resolveEach, ensures_bind]
      refine ensures_ask fun answer e₁ admits disturbed => ?_
      rcases FailsAsTransport.cases admits with ⟨op, rfl⟩ | ⟨fault, rfl⟩
      · have live₁ : g ∈ e₁.books.registry.live := disturbed.books ▸ live
        have path₁ : Path p ⟨{ subject := some g.number }, e₁.holdings, h⟩ := by
          rw [disturbed.holdings, hnumber]
          exact path
        have replaces := Registry.modify_replaces (sound.numbered path₁) live₁
          fun f => { f with tracker := f.tracker.begin op }
        have begun : Path p ⟨{ subject := some g.number },
            { e₁.holdings with
              registry := e₁.books.registry.modify g.number
                fun f => { f with tracker := f.tracker.begin op }
              resolving := e₁.resolving.insert op g.number },
            .asked e (.resolve g.service g.name g.ifindex family) (.ok op) :: h⟩ :=
          path₁.tail (.begun disturbed.holdings.symm replaces)
        rw [hnumber, hservice, hname, hifindex] at begun
        simp only [ensures_bind, ensures_modifyFinding, ensures_modify]
        refine (ih (g := { g with tracker := g.tracker.begin op }) (by exact begun) ?_ ?_ hnumber
          hservice hname hifindex).imp ?_
        · refine orderly.of_session disturbed.session fun hnone => ?_
          rw [hnone] at live
          simp at live
        · rw [← hnumber]
          exact replaces.mem'
        · rintro - e₂ h₂ handled
          exact handled.trans disturbed.session
      · have noted : Path p ⟨{ subject := some f.number }, e₁.holdings,
            .asked e (.resolve f.service f.name f.ifindex family) (.error (.transport fault)) ::
              h⟩ :=
          path_noted path disturbed (by trivial)
        refine (ensures_restartDefer_handled sound (noted.tail .left)).imp ?_
        rintro - e₂ h₂ handled
        exact handled.trans disturbed.session

/-- A new instance gets a finding, unless it has one, whose resolves are begun. -/
theorem ensures_browseNew (event : BrowseEvent) (sound : Sound p)
    (path : Path p ⟨{}, e.holdings, h⟩) (orderly : Orderly e)
    (browsing : e.browserRunning = true) :
    Ensures (fun _ e' h' => Handled p e e' h') E (browseNew event e) h := by
  simp only [browseNew, ensures_bind, ensures_get]
  cases hfind : e.books.registry.find? (.of event.service event.ifindex (event.name.getD "")) with
  | some f =>
      rw [Books.getOrCreate_of_some hfind]
      exact .of_session path orderly rfl id
  | none =>
      rw [Books.getOrCreate_of_none hfind]
      simp only [if_true, ensures_bind, ensures_modify]
      refine (ensures_resolveEach sound (by exact path.tail (.created _ _ _ hfind)) ?_
        (List.mem_append_right _ List.mem_cons_self) rfl rfl rfl rfl).imp ?_
      · exact ⟨orderly.client, orderly.browsed, orderly.browsers, by simp [browsing],
          orderly.started⟩
      · rintro - e' h' handled
        exact handled.trans rfl

/-! ## Browse events -/

/-- The end of the initial phase of a service never fails, since the service is browsed. -/
theorem ensures_allForNow (service : Service) (sound : Sound p)
    (path : Path p ⟨{}, e.holdings, h⟩) (orderly : Orderly e)
    (browsing : e.browserRunning = true) :
    Ensures (fun _ e' h' => Handled p e e' h') E ((Books.allForNow service : Work Unit) e) h := by
  simp only [Books.allForNow, ensures_bind, ensures_books_get, Gate.allForNow]
  cases hinitial : e.books.gate.inInitialScan service with
  | false =>
      exact .of_session path orderly rfl id
  | true =>
      have ended : Path p ⟨{ task := some service.method },
          { e.holdings with gate := e.books.gate.endPhase service }, h⟩ :=
        path.tail (.phaseEnded hinitial (orderly.browsed browsing service))
      cases hdec : (e.books.gate.endPhase service).dec service.method with
      | none => exact absurd hdec ((sound.path ended).balanced.dec_ne_none rfl)
      | some result =>
          obtain ⟨gate, fired⟩ := result
          simp only [if_true, ensures_setGate]
          have counted : Path p ⟨{ signals := fired }, { e.holdings with gate := gate }, h⟩ :=
            ended.tail (.countedOff hdec)
          refine (ensures_report (e := { e with books.gate := gate }) (by exact counted)).imp ?_
          rintro - e' h' ⟨path', hsession, hbooks⟩
          exact .of_session path' orderly hsession (by rw [hbooks]; exact id)

/-- A report of a browse is handled without fail. -/
theorem ensures_onBrowse (event : BrowseEvent) (sound : Sound p)
    (path : Path p ⟨{}, e.holdings, h⟩) (orderly : Orderly e) :
    Ensures (fun _ e' h' => Handled p e e' h') E (onBrowse event e) h := by
  simp only [onBrowse, ensures_bind, ensures_get, ensures_ite]
  constructor
  · intro browsing
    cases event.kind with
    | new => exact ensures_browseNew event sound path orderly browsing
    | remove =>
        simp only [ensures_bind, ensures_get]
        cases hfind : e.registry.find?
            (.of event.service event.ifindex (event.name.getD "")) with
        | none => exact .of_session path orderly rfl id
        | some f =>
            have live : f ∈ e.books.registry.live := List.mem_of_find?_eq_some hfind
            refine (ensures_deleteFinding sound.toSoundUpToLosses path live).imp ?_
            rintro - e' h' ⟨path', hsession, -⟩
            refine .of_session path' orderly hsession fun hnone => ?_
            rw [hnone] at live
            simp at live
    | failure => exact ensures_restartDefer_handled sound path
    | cacheExhausted => exact .of_session path orderly rfl id
    | allForNow => exact ensures_allForNow event.service sound path orderly browsing
  · intro idle
    exact .of_session path orderly rfl id

/-! ## Completions -/

/-- The fault of an endpoint that cannot be made of what a resolve of a scan service has found. -/
def Refused (event : ResolveEvent) (fault : Fault) : Prop :=
  event.kind = .found ∧ ∃ service address ifindex broken,
    service.isScan = true ∧
    Endpoint.make service address event.port (event.txt.value? "rs") ifindex = .error broken ∧
    fault = .invariant broken

/-- Where a handler stands that has a live finding at hand which waits for what it did. -/
structure Holding (p : Point) (e : Engine) (f : Finding) (e' : Engine) (h' : History) : Prop where
  path : Path p ⟨{ subject := some f.number }, e'.holdings, h'⟩
  session : e'.session = e.session
  finding : ∃ g ∈ e'.books.registry.live, g.number = f.number ∧ g.tracker = f.tracker

/-- A handler that leaves the finding at hand as it is. -/
theorem Holding.handled {e' : Engine} {f : Finding} {h' : History} (holding : Holding p e f e' h')
    (orderly : Orderly e) (live : e.books.registry.live ≠ []) : Handled p e e' h' :=
  .of_session (holding.path.tail .left) orderly holding.session fun hnone => absurd hnone live

/-- The finding at hand is revised. -/
theorem Holding.revise {e' : Engine} {f : Finding} {h' : History} (holding : Holding p e f e' h')
    (sound : Sound p) {change : Finding → Finding} (revision : ∀ g, Revision g (change g)) :
    Holding p e f { e' with books.registry := e'.books.registry.modify f.number change } h' := by
  obtain ⟨path, hsession, g, live, hnumber, htracker⟩ := holding
  have replaces := Registry.modify_replaces (sound.numbered path) live change
  have hstanding := (revision g).standing
  rw [← hnumber] at path
  have revised := path.tail (.revised (revision g) replaces)
  rw [hnumber] at revised replaces
  refine ⟨revised, hsession, change g, replaces.mem', ?_, ?_⟩
  · rw [hstanding]
    exact hnumber
  · rw [hstanding]
    exact htracker

/-- What is found for a scan service is added, unless its endpoint cannot be made. -/
theorem ensures_addEndpoint {e₀ : Engine} {f : Finding} {event : ResolveEvent}
    (address : Ip.Address) (found : event.kind = .found) (scan : f.service.isScan = true)
    (sound : Sound p) (holding : Holding p e₀ f e h) :
    Ensures (fun _ e' h' => Holding p e₀ f e' h')
      (fun fault e' h' => Refused event fault ∧ Holding p e₀ f e' h')
      (addEndpoint f event address e) h := by
  simp only [addEndpoint, ensures_ite, ensures_pure]
  refine ⟨fun _ => holding, fun _ => ?_⟩
  cases hmake : Endpoint.make f.service address event.port (event.txt.value? "rs")
      (event.ifindex.getD f.ifindex) with
  | error broken =>
      exact ⟨⟨found, f.service, address, _, broken, scan, hmake, rfl⟩, holding⟩
  | ok endpoint => exact holding.revise sound fun g => .endpoint endpoint

/-- What a resolve has found is taken over, unless its endpoint cannot be made. -/
theorem ensures_resolveFound {e₀ : Engine} {f : Finding} {event : ResolveEvent}
    (found : event.kind = .found) (sound : Sound p) (holding : Holding p e₀ f e h) :
    Ensures (fun _ e' h' => Holding p e₀ f e' h')
      (fun fault e' h' => Refused event fault ∧ Holding p e₀ f e' h')
      (resolveFound f event e) h := by
  have collected := holding.revise sound fun g => .collected event
  have marked := collected.revise sound fun g => .publishable
  simp only [resolveFound, ensures_bind, ensures_modifyFinding, ensures_ite]
  refine ⟨fun scan => ?_, fun _ => ⟨fun _ => ?_, fun _ => marked⟩⟩
  · cases event.address with
    | none => exact collected
    | some address => exact ensures_addEndpoint address found scan sound collected
  · cases event.txt.value? "scan" with
    | none => exact collected
    | some flag =>
        simp only [ensures_ite]
        exact ⟨fun _ => marked, fun _ => collected⟩

/-- A finding is taken out of the initial scan without fail. -/
theorem ensures_uncount {f g : Finding} (sound : Sound p) (path : Path p ⟨{}, e.holdings, h⟩)
    (live : g ∈ e.books.registry.live) (hnumber : g.number = f.number)
    (hservice : g.service = f.service) (hflag : g.inInitialScan = f.inInitialScan) :
    Ensures (fun _ e' h' => Path p ⟨{}, e'.holdings, h'⟩ ∧ e'.session = e.session) E
      ((Books.uncount f : Work Unit) e) h := by
  simp only [Books.uncount, ensures_ite, ensures_bind, ensures_modifyFinding, ensures_pure]
  constructor
  · intro counted
    have replaces := Registry.modify_replaces (sound.numbered path) live
      fun f => { f with inInitialScan := false }
    have next := path.tail (.uncounted (hflag.trans counted) replaces)
    rw [hnumber, Finding.method, hservice] at next
    refine (ensures_lower sound.toSoundUpToLosses (by exact next)).imp ?_
    rintro - e' h' ⟨path', hsession, -⟩
    exact ⟨path', hsession⟩
  · intro uncounted
    exact ⟨path, trivial⟩

/-- A finding that waits for nothing is finalized without fail. -/
theorem ensures_finalize {e₀ : Engine} {f : Finding} (sound : Sound p)
    (holding : Holding p e₀ f e h) (idle : f.tracker.pending = []) :
    Ensures (fun _ e' h' => Path p ⟨{}, e'.holdings, h'⟩ ∧ e'.session = e₀.session) E
      (finalize f.number e) h := by
  obtain ⟨path, hsession, g, live, hnumber, htracker⟩ :=
    holding.revise sound fun g => .completed
  rw [htracker.symm] at idle
  simp only [finalize, ensures_bind, ensures_modifyFinding, ensures_get]
  generalize f.number = number at *
  subst hnumber
  generalize { e with books.registry := e.books.registry.modify g.number completed } = e₁ at *
  have hget : e₁.registry.get? g.number = some g :=
    (sound.numbered path).get?_number (List.mem_append_left _ live)
  simp only [hget, ensures_ite, ensures_bind, ensures_modifyFinding]
  constructor
  · intro publishable
    have replaces := Registry.modify_replaces (sound.numbered path) live
      fun _ => { g with isPublished := true, state := .published }
    refine ensures_ask fun answer e₂ admits disturbed => ?_
    obtain rfl : answer = .ok () := admits
    simp only [ensures_ofExcept, Ends]
    have published := path.tail
      (.published (e := { e₁ with books.registry := _ }) idle rfl replaces rfl)
    refine (ensures_uncount (g := { g with isPublished := true, state := .published }) (e := e₂)
      sound ?_ ?_ rfl rfl rfl).imp ?_
    · rw [disturbed.holdings]
      exact published
    · rw [disturbed.books]
      exact replaces.mem'
    · rintro - e' h' ⟨path', hsession'⟩
      exact ⟨path', hsession'.trans (disturbed.session.trans hsession)⟩
  · intro hidden
    have replaces := Registry.modify_replaces (sound.numbered path) live
      fun f => { f with state := .unpublished }
    have revised := path.tail (.revised .unpublished replaces)
    refine (ensures_uncount (g := { g with state := .unpublished }) sound (revised.tail .left)
      replaces.mem' rfl rfl rfl).imp ?_
    rintro - e' h' ⟨path', hsession'⟩
    exact ⟨path', hsession'.trans hsession⟩

/-- Telling listeners of an address. -/
theorem ensures_tellEach (ifindex : Int) (address : Ip.Address) {listeners : List String}
    (path : Path p ⟨{}, e.holdings, h⟩) :
    Ensures (fun _ e' h' => Path p ⟨{}, e'.holdings, h'⟩ ∧ e'.session = e.session) E
      (tellEach ifindex address listeners e) h := by
  induction listeners generalizing e h with
  | nil => exact ⟨path, rfl⟩
  | cons listener rest ih =>
      simp only [tellEach, ensures_bind]
      refine ensures_ask fun answer e₁ admits disturbed => ?_
      refine (ih (path_noted path disturbed (by trivial))).imp ?_
      rintro - e₂ h₂ ⟨path₂, hsession⟩
      exact ⟨path₂, hsession.trans disturbed.session⟩

/-- What follows on a resolve being completed: its finding is finalized if it waits for nothing
any more, and listeners are told of the address. -/
theorem ensures_followed {e₀ : Engine} {f : Finding} (event : ResolveEvent) {nowEmpty : Bool}
    (sound : Sound p) (holding : Holding p e₀ f e h)
    (idle : nowEmpty = true → f.tracker.pending = []) :
    Ensures (fun _ e' h' => Path p ⟨{}, e'.holdings, h'⟩ ∧ e'.session = e₀.session) E
      ((do
        if nowEmpty then finalize f.number
        if event.kind = .found then
          match event.address with
          | some address => tellEach f.ifindex address (← Routine.get).listeners
          | none => pure () : Work Unit) e) h := by
  have told : ∀ e₁ h₁, Path p ⟨{}, e₁.holdings, h₁⟩ → e₁.session = e₀.session →
      Ensures (fun _ e' h' => Path p ⟨{}, e'.holdings, h'⟩ ∧ e'.session = e₀.session) E
        ((do
          if event.kind = .found then
            match event.address with
            | some address => tellEach f.ifindex address (← Routine.get).listeners
            | none => pure () : Work Unit) e₁) h₁ := by
    intro e₁ h₁ path₁ hsession₁
    simp only [ensures_ite, ensures_pure]
    refine ⟨fun _ => ?_, fun _ => ⟨path₁, hsession₁⟩⟩
    cases event.address with
    | none => exact ⟨path₁, hsession₁⟩
    | some address =>
        refine (ensures_tellEach f.ifindex address path₁).imp ?_
        rintro - e₂ h₂ ⟨path₂, hsession₂⟩
        exact ⟨path₂, hsession₂.trans hsession₁⟩
  cases nowEmpty with
  | false => exact told e h (holding.path.tail .left) holding.session
  | true =>
      simp only [if_true, ensures_bind]
      refine (ensures_finalize sound holding (idle rfl)).imp ?_
      rintro - e₁ h₁ ⟨path₁, hsession₁⟩
      exact told e₁ h₁ path₁ hsession₁

/-- The completion of a resolve that a live finding waits for is acted on, unless its endpoint
cannot be made. -/
theorem ensures_resolveCompleted {f : Finding} {event : ResolveEvent} (mailbox : Option Mailbox)
    (sound : Sound p) (path : Path p ⟨{}, e.holdings, h⟩) (orderly : Orderly e)
    (next : e.next? = some (.notice (.resolve event)))
    (resolving : e.resolving.get? event.op = some f.number)
    (live : f ∈ e.books.registry.live) (pending : event.op ∈ f.tracker.pending) :
    Ensures (fun _ e' h' => Handled p e e' h')
      (fun fault e' h' => Refused event fault ∧ Handled p e e' h')
      (resolveCompleted f event { e with mailbox, resolving := e.resolving.erase event.op })
      (.called e .turn :: h) := by
  have numbered := sound.numbered path
  have hget : e.registry.get? f.number = some f :=
    numbered.get?_number (List.mem_append_left _ live)
  have acceptable : e.acceptable? = some event.op := by
    simp [acceptable?, next, resolving, hget, pending]
  have replaces := Registry.modify_replaces numbered live
    fun g => { g with tracker := (f.tracker.complete event.op).1 }
  have accepted := path.tail (.accepted rfl acceptable resolving pending replaces)
  -- the finding at hand is the one that waits for one resolve less
  have holding : Holding p e { f with tracker := (f.tracker.complete event.op).1 } { e with
      mailbox
      resolving := e.resolving.erase event.op
      books.registry := e.books.registry.modify f.number
        fun g => { g with tracker := (f.tracker.complete event.op).1 } }
      (.called e .turn :: h) :=
    ⟨accepted, rfl, _, replaces.mem', rfl, rfl⟩
  have nonempty : e.books.registry.live ≠ [] := List.ne_nil_of_mem live
  have followed : ∀ e₁ h₁,
      Holding p e { f with tracker := (f.tracker.complete event.op).1 } e₁ h₁ →
      Ensures (fun _ e' h' => Handled p e e' h')
        (fun fault e' h' => Refused event fault ∧ Handled p e e' h')
        ((do
          if (f.tracker.pending.erase event.op).isEmpty then finalize f.number
          if event.kind = .found then
            match event.address with
            | some address => tellEach f.ifindex address (← Routine.get).listeners
            | none => pure () : Work Unit) e₁) h₁ := by
    intro e₁ h₁ holding₁
    refine (ensures_followed event sound holding₁ List.isEmpty_iff.1).imp ?_
    rintro - e₂ h₂ ⟨path₂, hsession₂⟩
    exact .of_session path₂ orderly hsession₂ fun hnone => absurd hnone nonempty
  simp only [resolveCompleted, Tracker.complete, pending, decide_true, if_true, ensures_bind,
    ensures_modifyFinding]
  rw [ensures_ite]
  refine ⟨fun found => ?_, fun _ => followed _ _ holding⟩
  rw [ensures_bind]
  refine (ensures_resolveFound found sound holding).mono ?_ ?_
  · rintro - e₁ h₁ holding₁
    exact followed e₁ h₁ holding₁
  · rintro fault e₁ h₁ ⟨refused, holding₁⟩
    exact ⟨refused, holding₁.handled orderly nonempty⟩

/-- The completion of a resolve is handled, unless its endpoint cannot be made. -/
theorem ensures_onResolve {event : ResolveEvent} (mailbox : Option Mailbox) (sound : Sound p)
    (path : Path p ⟨{}, e.holdings, h⟩) (orderly : Orderly e)
    (next : e.next? = some (.notice (.resolve event))) :
    Ensures (fun _ e' h' => Handled p e e' h')
      (fun fault e' h' => Refused event fault ∧ Handled p e e' h')
      (onResolve event { e with mailbox }) (.called e .turn :: h) := by
  simp only [onResolve, ensures_bind, ensures_get]
  cases hresolving : e.resolving.get? event.op with
  | none =>
      have stale : e.acceptable? = none := by
        simp [acceptable?, next, hresolving]
      have called : Path p ⟨{}, e.holdings, .called e .turn :: h⟩ :=
        path.tail (.called rfl stale)
      exact .of_session called orderly rfl id
  | some number =>
      rcases (sound.path path).linked event.op number hresolving with hop | hfinding
      · simp at hop
      · obtain ⟨f, live, rfl, pending⟩ := hfinding
        have hget : e.registry.get? f.number = some f :=
          (sound.numbered path).get?_number (List.mem_append_left _ live)
        simp only [ensures_bind, ensures_modify, ensures_get]
        have same : ({ e with mailbox, resolving := e.resolving.erase event.op } :
            Engine).registry = e.registry := rfl
        rw [same, hget]
        exact ensures_resolveCompleted mailbox sound path orderly next hresolving live pending

/-! ## Client states and the restart timer -/

/-- A change of the client's state is handled without fail. -/
theorem ensures_onClientState (state : ClientState) (sound : Sound p)
    (path : Path p ⟨{}, e.holdings, h⟩) (orderly : Orderly e) :
    Ensures (fun _ e' h' => Handled p e e' h') E (onClientState state e) h := by
  have same : Handled p e e h := .of_session path orderly rfl id
  -- a client that is up is browsed on, unless it already is
  have up : e.clientRunning = true → Ensures (fun _ e' h' => Handled p e e' h') E ((do
      if !(← Routine.get).browserRunning then
        if !(← browserStart) then restartDefer : Work Unit) e) h := by
    intro client
    simp only [ensures_bind, ensures_get, ensures_ite, ensures_pure]
    refine ⟨fun hidle => ?_, fun _ => same⟩
    have idle : e.browserRunning = false := by simpa using hidle
    refine (ensures_browserStart path client (orderly.browsers idle)).imp ?_
    rintro all e₁ h₁ ⟨path₁, ⟨browsers, hsession⟩, hregistry, hall⟩
    simp only [session, Session.mk.injEq] at hsession
    obtain ⟨-, -, hstarted, hfailure, hbrowsing, hclient, -⟩ := hsession
    refine ⟨fun partly => ?_, fun complete => ?_⟩
    · refine (ensures_restartDefer_handled sound path₁).imp ?_
      rintro - e₂ h₂ ⟨path₂, orderly₂, hstarted₂, hfailure₂⟩
      exact ⟨path₂, orderly₂, hstarted₂.trans hstarted, hfailure₂.trans hfailure⟩
    · have browsed := hall (by simpa using complete)
      exact ⟨path₁, ⟨fun _ => hclient.trans client, fun _ => browsed, by simp [hbrowsing],
        by simp [hbrowsing], fun _ => hstarted.trans (orderly.started client)⟩, hstarted, hfailure⟩
  simp only [onClientState, ensures_bind, ensures_get]
  rw [ensures_ite]
  refine ⟨fun client => ?_, fun _ => same⟩
  cases state with
  | registering => exact up client
  | running => exact up client
  | collision => exact up client
  | failure => exact ensures_restartDefer_handled sound path
  | connecting => exact same

/-- The end of a restart timer is handled without fail. -/
theorem ensures_onRestartDue (generation : Int) (path : Path p ⟨{}, e.holdings, h⟩)
    (orderly : Orderly e) (started : e.started = true) :
    Ensures (fun _ e' h' => Handled p e e' h') E (onRestartDue generation e) h := by
  simp only [onRestartDue, ensures_bind, ensures_get, ensures_ite, ensures_modify, ensures_pure]
  have same : Handled p e { e with restart := none } h := .of_session path orderly rfl id
  refine ⟨fun _ => ⟨fun hdown => ?_, fun _ => same⟩, fun _ => .of_session path orderly rfl id⟩
  have down : e.clientRunning = false := by simpa using hdown
  obtain ⟨idle, hbrowsers, hlive⟩ := orderly.of_down down
  refine (ensures_clientStart (e := { e with restart := none }) (by exact path) down).imp ?_
  rintro - e₁ h₁ ⟨path₁, ⟨clientRunning, hsession⟩, hbooks⟩
  simp only [session, Session.mk.injEq] at hsession
  obtain ⟨-, -, hstarted, hfailure, hbrowsing, hclient, hbrowsers₁⟩ := hsession
  exact ⟨path₁, .of_idle (hbrowsing.trans idle) (hbrowsers₁.trans hbrowsers) (by rw [hbooks, hlive])
    fun _ => hstarted.trans started, hstarted, hfailure⟩

/-! ## All events -/

/-- Every event is handled, unless it is a completion whose endpoint cannot be made. -/
theorem ensures_dispatch {event : Event} (mailbox : Option Mailbox) (sound : Sound p)
    (path : Path p ⟨{}, e.holdings, h⟩) (orderly : Orderly e) (started : e.started = true)
    (next : e.next? = some event) :
    Ensures (fun _ e' h' => Handled p e e' h')
      (fun fault e' h' => (∃ found, event = .notice (.resolve found) ∧ Refused found fault) ∧
        Handled p e e' h')
      (dispatch event { e with mailbox }) (.called e .turn :: h) := by
  -- all but the completion of a resolve begin without acting on one
  have called (other : ∀ found, event ≠ .notice (.resolve found)) :
      Path p ⟨{}, e.holdings, .called e .turn :: h⟩ := by
    refine path.tail (.called rfl ?_)
    simp only [Call.accepted?, acceptable?, next]
    split
    · rename_i found heq
      exact absurd (Option.some.inj heq) (other found)
    · rfl
  have orderly' : Orderly { e with mailbox } := orderly.of_session rfl id
  cases event with
  | notice notice =>
      cases notice with
      | browse report =>
          refine (ensures_onBrowse report sound (by exact called (by simp)) orderly').imp ?_
          rintro - e' h' handled
          exact handled.trans rfl
      | resolve found =>
          refine (ensures_onResolve mailbox sound path orderly next).mono (fun _ _ _ => id) ?_
          rintro fault e' h' ⟨refused, handled⟩
          exact ⟨⟨found, rfl, refused⟩, handled⟩
      | client state =>
          refine (ensures_onClientState state sound (by exact called (by simp)) orderly').imp ?_
          rintro - e' h' handled
          exact handled.trans rfl
  | restartDue generation =>
      refine (ensures_onRestartDue generation (by exact called (by simp)) orderly' started).imp ?_
      rintro - e' h' handled
      exact handled.trans rfl
  | query ticket question =>
      simp only [dispatch, ensures_bind, ensures_get]
      refine ensures_ask fun answer e' admits disturbed => ?_
      refine .of_session ?_ orderly disturbed.session (by rw [disturbed.books]; exact id)
      exact path_noted (e := { e with mailbox }) (called (by simp)) disturbed (by trivial)
  | unknown => exact .of_session (called (by simp)) orderly rfl id

end ScannerDiscovery.Engine
