import ScannerDiscovery.Proofs.Engine.Frame

/-!
# What a routine spares in any case

What a routine of the engine is not concerned with it leaves alone even if its surroundings do not
behave: whatever it is answered, and with whatever it fails.  A routine spares a view of the engine
if it goes on with the view as it finds it in all these cases, and makes only requests of one kind.

Main definitions:

- `Spares` : routines that spare a view.
- `Request.IsPlain` : requests that neither update the catalog nor settle a query.
- `Blind` : views that show nothing of the gate, the transport and the restart timer.

Main results:

- `SparesFrom.bind`, `Spares.bind` : routines one after another.
- `spares_stopEach`, `spares_clientStart` and others : routines that keep to the transport.
- `spares_dispatch`, `spares_release` : handlers and the release of what is held.
-/

namespace ScannerDiscovery

/-- Whether a request neither updates the catalog nor settles a query. -/
def Request.IsPlain : Request → Prop
  | .publish _ | .withdraw _ | .settle .. => False
  | _ => True

namespace Engine

variable {α β V : Type} {R : Request → Prop} {view : Engine → V}

/-! ## Sparing a view -/

/-- Whether a routine, from where it stands, goes on with a view of the engine as it finds it and
makes only requests of one kind, whatever it is answered. -/
def SparesFrom (R : Request → Prop) (view : Engine → V) :
    V → Outcome requests Engine Fault α → Prop
  | v, .returned _ e => view e = v
  | v, .raised _ e => view e = v
  | v, .paused e request resume => view e = v ∧ R request ∧
    ∀ answer e', SparesFrom R view (view e') (resume answer e')

/-- Whether a routine spares a view of the engine and makes only requests of one kind. -/
def Spares (R : Request → Prop) (view : Engine → V) (routine : Work α) : Prop :=
  ∀ e, SparesFrom R view (view e) (routine e)

/-- A routine that spares a view may be followed by any that spare it. -/
theorem SparesFrom.bind {v : V} {o : Outcome requests Engine Fault α} {next : α → Work β}
    (spares : SparesFrom R view v o) (others : ∀ value, Spares R view (next value)) :
    SparesFrom R view v (o.bind next) := by
  induction o generalizing v with
  | returned value e =>
      have hview : view e = v := spares
      rw [← hview]
      exact others value e
  | raised fault e => exact spares
  | paused e request resume ih =>
      obtain ⟨hview, permitted, rest⟩ := spares
      exact ⟨hview, permitted, fun answer e' => ih answer e' (rest answer e')⟩

/-- Requests of one kind are requests of a wider kind. -/
theorem SparesFrom.mono {R' : Request → Prop} {v : V} {o : Outcome requests Engine Fault α}
    (spares : SparesFrom R view v o) (wider : ∀ request, R request → R' request) :
    SparesFrom R' view v o := by
  induction o generalizing v with
  | returned value e => exact spares
  | raised fault e => exact spares
  | paused e request resume ih =>
      obtain ⟨hview, permitted, rest⟩ := spares
      exact ⟨hview, wider request permitted, fun answer e' => ih answer e' (rest answer e')⟩

namespace Spares

/-- Two routines that spare a view, one after the other. -/
theorem bind {first : Work α} {next : α → Work β} (spares : Spares R view first)
    (others : ∀ value, Spares R view (next value)) : Spares R view (first >>= next) :=
  fun e => (spares e).bind others

/-- Returning spares any view. -/
theorem pure (value : α) : Spares R view (Pure.pure value : Work α) :=
  fun _ => rfl

/-- Looking at the engine spares any view. -/
theorem get : Spares R view (Routine.get : Work Engine) :=
  fun _ => rfl

/-- Looking at the books spares any view. -/
theorem getBooks : Spares R view (Books.get : Work Books) :=
  fun _ => rfl

/-- A change that does not show in a view spares it. -/
theorem modify {change : Engine → Engine} (same : ∀ e, view (change e) = view e) :
    Spares R view (Routine.modify change : Work Unit) :=
  same

/-- Failing spares any view. -/
theorem raise (fault : Fault) : Spares R view (Routine.raise fault : Work α) :=
  fun _ => rfl

/-- Going on with a result, or failing with it, spares any view. -/
theorem ofExcept (result : Except Fault α) : Spares R view (Routine.ofExcept result : Work α) := by
  cases result with
  | ok value => exact pure value
  | error fault => exact raise fault

/-- A permitted request, and what follows on any answer. -/
theorem ask {request : Request} {next : request.Answer → Work β} (permitted : R request)
    (others : ∀ answer, Spares R view (next answer)) : Spares R view (ask request >>= next) :=
  fun _ => ⟨rfl, permitted, fun answer e' => others answer e'⟩

/-- A choice between two routines that spare a view spares it. -/
theorem ite {c : Prop} [Decidable c] {a b : Work α} (ha : Spares R view a)
    (hb : Spares R view b) : Spares R view (if c then a else b) := by
  split
  · exact ha
  · exact hb

/-- Asking whether an operation has succeeded spares any view. -/
theorem succeeded (answer : Except Fault Unit) : Spares R view (succeeded answer) := by
  unfold Engine.succeeded
  split
  · exact pure true
  · exact pure false
  · exact raise _

end Spares

/-! ## The transport -/

/-- Whether a view shows nothing of the gate, the transport and the restart timer. -/
structure Blind (view : Engine → V) : Prop extends Offline view where
  gate : BlindToGate view
  resolving : ∀ e resolving, view { e with resolving } = view e
  browsers : ∀ e browsers, view { e with browsers } = view e
  browserRunning : ∀ e browserRunning, view { e with browserRunning } = view e

section Transport

variable (blind : Blind view) (plain : ∀ request : Request, request.IsPlain → R request)

include plain

/-- Reporting methods as done spares any view. -/
theorem spares_report (methods : List Method) :
    Spares R view (Books.report methods : Work Unit) := by
  induction methods with
  | nil => exact Spares.pure ()
  | cons m rest ih => exact Spares.ask (plain (.scanDone m) trivial) fun _ => ih

/-- Telling listeners of what has been found spares any view. -/
theorem spares_tellFound (f : Finding) (event : ResolveEvent) :
    Spares R view (tellFound f event) := by
  have each (ifindex : Int) (address : Ip.Address) (listeners : List String) :
      Spares R view (tellEach ifindex address listeners) := by
    induction listeners with
    | nil => exact Spares.pure ()
    | cons listener rest ih =>
        exact Spares.ask (plain (.hear listener ifindex address) trivial) fun _ => ih
  refine Spares.ite ?_ (Spares.pure ())
  cases event.address with
  | none => exact Spares.pure ()
  | some address => exact Spares.get.bind fun e => each _ _ _

include blind

/-- Counting a task off spares a blind view. -/
theorem spares_lower (m : Method) : Spares R view (Books.lower m : Work Unit) := by
  refine Spares.getBooks.bind fun books => ?_
  split
  · exact Spares.raise _
  · exact Spares.bind (Spares.modify fun e => blind.gate e _) fun _ => spares_report plain _

/-- The end of an initial phase spares a blind view. -/
theorem spares_allForNow (s : Service) : Spares R view (Books.allForNow s : Work Unit) := by
  refine Spares.getBooks.bind fun books => ?_
  refine Spares.bind (Spares.modify fun e => blind.gate e _) fun _ => ?_
  split
  · exact Spares.raise _
  · exact spares_report plain _

/-- Reporting all methods at once spares a blind view. -/
theorem spares_fireAll : Spares R view (Books.fireAll : Work Unit) :=
  Spares.getBooks.bind fun _ =>
    (Spares.modify fun e => blind.gate e _).bind fun _ => spares_report plain _

/-- Cancelling resolves spares a blind view. -/
theorem spares_releaseEach (ops : List Ticket) : Spares R view (releaseEach ops) := by
  induction ops with
  | nil => exact Spares.pure ()
  | cons op rest ih =>
      refine Spares.bind (Spares.modify fun e => blind.resolving e _) fun _ => ?_
      exact Spares.ask (plain (.cancelResolve op) trivial) fun _ => ih

/-- Starting the browser spares a blind view. -/
theorem spares_browserStart : Spares R view browserStart := by
  have each (services : List Service) : Spares R view (startEach services) := by
    induction services with
    | nil => exact Spares.pure true
    | cons service rest ih =>
        refine Spares.ask (plain (.startBrowse service) trivial) fun answer => ?_
        split
        · exact Spares.pure false
        · exact Spares.raise _
        · refine Spares.bind (Spares.modify fun e => blind.browsers e _) fun _ => ?_
          refine Spares.get.bind fun e => Spares.ite ?_ ih
          exact Spares.bind (Spares.modify fun e => blind.gate e _) fun _ => ih
  exact Spares.bind (Spares.modify fun e => blind.browserRunning e true) fun _ => each _

/-- Stopping browses one after another spares a blind view. -/
theorem spares_stopEach (entries : List (Service × Ticket)) :
    Spares R view (stopEach entries) := by
  induction entries with
  | nil => exact Spares.pure ()
  | cons entry rest ih =>
      obtain ⟨service, handle⟩ := entry
      refine Spares.bind (Spares.modify fun e => blind.browsers e _) fun _ => ?_
      refine Spares.ask (plain (.stopBrowse handle) trivial) fun answer => ?_
      refine (Spares.succeeded answer).bind fun _ => Spares.get.bind fun e => ?_
      exact Spares.ite ((spares_lower blind plain _).bind fun _ => ih) ih

/-- Stopping the client spares a blind view. -/
theorem spares_clientStop : Spares R view clientStop := by
  refine Spares.get.bind fun e => Spares.ite ?_ (Spares.pure ())
  refine Spares.bind (Spares.modify fun e => blind.client e false) fun _ => ?_
  refine Spares.ask (plain .stopClient trivial) fun answer => ?_
  exact (Spares.succeeded answer).bind fun _ => Spares.pure ()

/-- Dropping the restart timer spares a blind view. -/
theorem spares_dropRestartTimer : Spares R view dropRestartTimer := by
  have drop : Spares R view (Routine.modify fun e => { e with restart := none } : Work Unit) :=
    Spares.modify fun e => blind.timer e e.generation none
  refine Spares.get.bind fun e => ?_
  cases e.restart with
  | none => exact (Spares.pure ()).bind fun _ => drop
  | some running => exact Spares.ask (plain (.disarmRestart running) trivial) fun _ => drop

/-- Arming the restart timer spares a blind view. -/
theorem spares_armRestartTimer : Spares R view armRestartTimer := by
  have next : Spares R view (do
      let generation := (← Routine.get).generation + 1
      Routine.modify fun e => { e with generation, restart := some generation }
      ask (.armRestart generation) : Work Unit) := by
    refine Spares.get.bind fun e => Spares.bind (Spares.modify fun e => blind.timer e _ _)
      fun _ => ?_
    exact fun _ => ⟨rfl, plain (.armRestart _) trivial, fun _ _ => rfl⟩
  refine Spares.get.bind fun e => ?_
  cases e.restart with
  | none => exact next
  | some running => exact Spares.ask (plain (.disarmRestart running) trivial) fun _ => next

/-- Starting the client spares a blind view. -/
theorem spares_clientStart : Spares R view clientStart := by
  refine Spares.ask (plain .startClient trivial) fun answer => ?_
  refine (Spares.succeeded answer).bind fun _ => Spares.ite ?_ ?_
  · exact Spares.modify fun e => blind.client e true
  · exact spares_armRestartTimer blind plain

/-- A restart timer that has run out spares a blind view. -/
theorem spares_onRestartDue (generation : Int) : Spares R view (onRestartDue generation) := by
  refine Spares.get.bind fun e => Spares.ite ?_ (Spares.pure ())
  refine Spares.bind (Spares.modify fun e => blind.timer e e.generation none) fun _ => ?_
  exact Spares.get.bind fun e => Spares.ite (spares_clientStart blind plain) (Spares.pure ())

end Transport

/-! ## The books -/

section Handlers

variable (blind : Blind view) (apart : ApartFromRegistry view)
  (plain : ∀ request : Request, request.IsPlain → R request)
  (publish : ∀ snapshot, R (.publish snapshot)) (withdraw : ∀ snapshot, R (.withdraw snapshot))

include apart

/-- Changing a finding spares a view apart from the registry. -/
theorem spares_modifyFinding (number : Nat) (change : Finding → Finding) :
    Spares R view (Books.modifyFinding number change : Work Unit) :=
  Spares.modify fun e => apart e _

/-- What a resolve has found is taken over in the registry alone. -/
theorem spares_resolveFound (f : Finding) (event : ResolveEvent) :
    Spares R view (resolveFound f event) := by
  have modified (number : Nat) (change : Finding → Finding) :
      Spares R view (Books.modifyFinding number change : Work Unit) :=
    spares_modifyFinding apart number change
  refine (modified _ _).bind fun _ => Spares.ite ?_ (Spares.ite ?_ (modified _ _))
  · cases event.address with
    | none => exact Spares.pure ()
    | some address =>
        refine Spares.ite (Spares.pure ()) ?_
        split
        · exact Spares.raise _
        · exact modified _ _
  · cases event.txt.value? "scan" with
    | none => exact Spares.pure ()
    | some flag => exact Spares.ite (modified _ _) (Spares.pure ())

include blind plain

/-- Counting a finding off spares a view of neither gate nor registry. -/
theorem spares_uncount (f : Finding) : Spares R view (Books.uncount f : Work Unit) :=
  Spares.ite ((spares_modifyFinding apart _ _).bind fun _ => spares_lower blind plain _)
    (Spares.pure ())

include withdraw

/-- Deleting a finding spares a view that permits its withdrawal. -/
theorem spares_deleteFinding (number : Nat) : Spares R view (deleteFinding number) := by
  have unpublish (f : Finding) : Spares R view (Books.unpublish f : Work Unit) := by
    refine Spares.ite (Spares.ask (withdraw f.snapshot) fun answer => ?_) (Spares.pure ())
    exact (Spares.ofExcept answer).bind fun _ => spares_modifyFinding apart _ _
  refine Spares.getBooks.bind fun books => ?_
  split
  · exact Spares.pure ()
  · refine (unpublish _).bind fun _ => Spares.getBooks.bind fun books => ?_
    split
    · exact Spares.pure ()
    · refine Spares.bind (Spares.modify fun e => apart e _) fun _ => ?_
      exact (spares_uncount blind apart plain _).bind fun _ => spares_releaseEach blind plain _

/-- Deleting all findings spares a view that permits their withdrawal. -/
theorem spares_deleteFindings : Spares R view deleteFindings := by
  have each (numbers : List Nat) :
      Spares R view (Books.deleteEach (fun _ ops => releaseEach ops) numbers : Work Unit) := by
    induction numbers with
    | nil => exact Spares.pure ()
    | cons number rest ih =>
        exact (spares_deleteFinding blind apart plain withdraw number).bind fun _ => ih
  exact Spares.getBooks.bind fun books => each _

/-- Stopping the browser spares a view that permits withdrawals. -/
theorem spares_browserStop : Spares R view browserStop := by
  refine Spares.get.bind fun e => (spares_stopEach blind plain _).bind fun _ => ?_
  refine (spares_deleteFindings blind apart plain withdraw).bind fun _ => ?_
  exact Spares.modify fun e => blind.browserRunning e false

/-- Tearing the session down spares a view that permits withdrawals. -/
theorem spares_restartDefer : Spares R view restartDefer := by
  refine (spares_browserStop blind apart plain withdraw).bind fun _ => ?_
  exact (spares_clientStop blind plain).bind fun _ => spares_armRestartTimer blind plain

/-- The handler of client states spares a view that permits withdrawals. -/
theorem spares_onClientState (state : ClientState) : Spares R view (onClientState state) := by
  have defer : Spares R view restartDefer := spares_restartDefer blind apart plain withdraw
  have up : Spares R view (do
      if !(← Routine.get).browserRunning then
        if !(← browserStart) then restartDefer : Work Unit) := by
    refine Spares.get.bind fun e => Spares.ite ?_ (Spares.pure ())
    refine (spares_browserStart blind plain).bind fun all => Spares.ite defer (Spares.pure ())
  refine Spares.get.bind fun e => Spares.ite ?_ (Spares.pure ())
  cases state with
  | registering => exact up
  | running => exact up
  | collision => exact up
  | failure => exact defer
  | connecting => exact Spares.pure ()

/-- The handler of browse events spares a view that permits withdrawals. -/
theorem spares_onBrowse (event : BrowseEvent) : Spares R view (onBrowse event) := by
  have defer : Spares R view restartDefer := spares_restartDefer blind apart plain withdraw
  have resolved (f : Finding) (families : List Ip.Family) :
      Spares R view (resolveEach f families) := by
    induction families with
    | nil => exact Spares.pure ()
    | cons family rest ih =>
        refine Spares.ask (plain (.resolve f.service f.name f.ifindex family) trivial)
          fun answer => ?_
        split
        · exact defer
        · exact Spares.raise _
        · refine (spares_modifyFinding apart _ _).bind fun _ => ?_
          exact Spares.bind (Spares.modify fun e => blind.resolving e _) fun _ => ih
  have created : Spares R view (browseNew event) := by
    have replaced (books : Books) (e : Engine) : view { e with books } = view e :=
      (apart { e with books.gate := books.gate } books.registry).trans (blind.gate e books.gate)
    refine Spares.get.bind fun e => Spares.ite ?_ (Spares.pure ())
    exact Spares.bind (Spares.modify (replaced _)) fun _ => resolved _ _
  refine Spares.get.bind fun e => Spares.ite ?_ (Spares.pure ())
  cases event.kind with
  | new => exact created
  | remove =>
      refine Spares.get.bind fun e => ?_
      split
      · exact spares_deleteFinding blind apart plain withdraw _
      · exact Spares.pure ()
  | failure => exact defer
  | cacheExhausted => exact Spares.pure ()
  | allForNow => exact spares_allForNow blind plain event.service

/-- Releasing what is held, for a view that does not show whether the engine is started. -/
theorem spares_release (standing : ∀ e started, view { e with started } = view e) :
    Spares R view release := by
  refine (spares_dropRestartTimer blind plain).bind fun _ => ?_
  refine (spares_browserStop blind apart plain withdraw).bind fun _ => ?_
  refine (spares_clientStop blind plain).bind fun _ => ?_
  refine (spares_deleteFindings blind apart plain withdraw).bind fun _ => ?_
  exact Spares.modify fun e =>
    (standing { e with resolving := .empty } false).trans (blind.resolving e .empty)

omit withdraw

include publish

/-- Finalizing a finding spares a view that permits its publication. -/
theorem spares_finalize (number : Nat) : Spares R view (finalize number) := by
  refine (spares_modifyFinding apart _ _).bind fun _ => Spares.get.bind fun e => ?_
  split
  · exact Spares.pure ()
  · refine Spares.ite ?_ ?_
    · refine (spares_modifyFinding apart _ _).bind fun _ => ?_
      refine Spares.ask (publish _) fun answer => ?_
      exact (Spares.ofExcept answer).bind fun _ => spares_uncount blind apart plain _
    · exact (spares_modifyFinding apart _ _).bind fun _ => spares_uncount blind apart plain _

/-- The handler of resolves spares a view that permits publications. -/
theorem spares_onResolve (event : ResolveEvent) : Spares R view (onResolve event) := by
  have completed (f : Finding) : Spares R view (resolveCompleted f event) := by
    have tell : Spares R view (tellFound f event) := spares_tellFound plain f event
    have concluded : Spares R view (do
        if (f.tracker.complete event.op).2.2 then finalize f.number
        tellFound f event : Work Unit) :=
      Spares.ite ((spares_finalize blind apart plain publish _).bind fun _ => tell) tell
    refine Spares.ite ?_ (Spares.pure ())
    refine (spares_modifyFinding apart _ _).bind fun _ => ?_
    exact Spares.ite ((spares_resolveFound apart _ _).bind fun _ => concluded) concluded
  refine Spares.get.bind fun e => ?_
  split
  · exact Spares.pure ()
  · refine Spares.bind (Spares.modify fun e => blind.resolving e _) fun _ => ?_
    refine Spares.get.bind fun e => ?_
    split
    · exact Spares.pure ()
    · exact completed _

include withdraw

/-- Handling an event that is no query. -/
theorem spares_dispatch (event : Event)
    (notQuery : ∀ ticket question, event ≠ .query ticket question) :
    Spares R view (dispatch event) := by
  cases event with
  | notice notice =>
      cases notice with
      | browse event => exact spares_onBrowse blind apart plain withdraw event
      | resolve event => exact spares_onResolve blind apart plain publish event
      | client state => exact spares_onClientState blind apart plain withdraw state
  | restartDue generation => exact spares_onRestartDue blind plain generation
  | query ticket question => exact absurd rfl (notQuery ticket question)
  | unknown => exact Spares.pure ()

end Handlers

end Engine

end ScannerDiscovery
