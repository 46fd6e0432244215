import ScannerDiscovery.Proofs.Engine.Frame
import ScannerDiscovery.Proofs.Engine.Moves

/-!
# What handlers and calls leave alone

Whether the engine is started, and which services are in their initial phase, is nothing that most
of its work is concerned with.  Only calls to start and to stop it change the one, and only the
report that a service has enumerated all it had cached changes the other.

Main definitions:

- `Remote` : views that show nothing of what handlers change but the phases.
- `LeavesOrDefers` : routines that leave a view alone unless they tear the session down.
- `Event.EndsPhase` : the reports that end an initial phase.

Main results:

- `leavesOrDefers_dispatch`, `leaves_dispatch` : handling an event that ends no phase.
- `abides_turn`, `leaves_stop` : calls.
- `Step.enabled` : no step of a run changes whether discovery is enabled.
-/

namespace ScannerDiscovery

/-- Whether a request gives something back to the transport. -/
def Request.IsRelease : Request → Prop
  | .stopBrowse _ | .stopClient => True
  | _ => False

/-- Whether a request concerns neither client nor restart timer, and gives nothing back to the
transport that the engine would have to wait for. -/
def Request.IsQuiet : Request → Prop
  | .startClient | .stopClient | .stopBrowse _ | .armRestart _ | .disarmRestart _ => False
  | _ => True

/-- Whether an event says that a service has enumerated all it had cached. -/
def Event.EndsPhase : Event → Prop
  | .notice (.browse event) => event.kind = .allForNow
  | _ => False

namespace Engine

variable {V : Type} {R : Request → Prop} {view : Engine → V}

/-- Whether a view shows nothing of what handlers change but the phases. -/
structure Remote (view : Engine → V) : Prop extends Offline view where
  counts : ∀ e gate, (∀ s, gate.inInitialScan s = e.books.gate.inInitialScan s) →
    view { e with books.gate := gate } = view e
  registry : ApartFromRegistry view
  resolving : ∀ e resolving, view { e with resolving } = view e
  browsers : ∀ e browsers, view { e with browsers } = view e
  browserRunning : ∀ e browserRunning, view { e with browserRunning } = view e
  mailbox : ∀ e mailbox, view { e with mailbox } = view e
  failure : ∀ e failure, view { e with failure } = view e

/-- A remote view is apart from the books, if all quiet requests are permitted. -/
theorem Remote.apart (remote : Remote view)
    (permitted : ∀ request : Request, request.IsQuiet → R request) : Apart R view where
  counts := remote.counts
  resolving := remote.resolving
  browsers := remote.browsers
  browserRunning := remote.browserRunning
  registry := remote.registry
  scanDone m := permitted (.scanDone m) trivial
  cancelResolve op := permitted (.cancelResolve op) trivial
  startBrowse s := permitted (.startBrowse s) trivial
  publish snapshot := permitted (.publish snapshot) trivial
  withdraw snapshot := permitted (.withdraw snapshot) trivial
  hear listener ifindex address := permitted (.hear listener ifindex address) trivial

/-- Books with the same phases look the same. -/
theorem Remote.books (remote : Remote view) (e : Engine) {books : Books}
    (same : ∀ s, books.gate.inInitialScan s = e.books.gate.inInitialScan s) :
    view { e with books } = view e :=
  (remote.registry { e with books.gate := books.gate } books.registry).trans
    (remote.counts e books.gate same)

/-- A new finding may be counted, which leaves the phases alone. -/
theorem inInitialScan_getOrCreate (books : Books) (service : Service) (ifindex : Int)
    (name : String) (s : Service) :
    (books.getOrCreate service ifindex name).1.gate.inInitialScan s =
      books.gate.inInitialScan s := by
  unfold Books.getOrCreate
  split
  · rfl
  · exact Gate.inInitialScan_ite_inc books.gate (books.gate.inInitialScan service) service.method s

/-! ## Tearing the session down -/

/-- Whether a routine, from where it stands, abides by a view with requests of one kind, unless it
tears the session down in the end. -/
inductive AbidesOrDefers (R : Request → Prop) (view : Engine → V) :
    V → Outcome requests Engine Fault Unit → Prop
  | abides {v : V} {o : Outcome requests Engine Fault Unit} (abides : Abides R view v o) :
      AbidesOrDefers R view v o
  | asks {e : Engine} {request : Request}
      {resume : request.Answer → Engine → Outcome requests Engine Fault Unit}
      (permitted : R request)
      (rest : ∀ answer e', request.Admits answer →
        AbidesOrDefers R view (view e') (resume answer e')) :
      AbidesOrDefers R view (view e) (.paused e request resume)
  | defers (e : Engine) : AbidesOrDefers R view (view e) (restartDefer e)

/-- Whether a routine leaves a view alone with requests of one kind, unless it tears the session
down in the end. -/
def LeavesOrDefers (R : Request → Prop) (view : Engine → V) (routine : Work Unit) : Prop :=
  ∀ e, AbidesOrDefers R view (view e) (routine e)

/-- A routine that leaves a view alone does so without tearing the session down. -/
theorem Leaves.orDefers {routine : Work Unit} (leaves : Leaves R view routine) :
    LeavesOrDefers R view routine :=
  fun e => .abides (leaves e)

/-- The session may be torn down after a routine that leaves the view alone. -/
theorem Leaves.bind_orDefers {α : Type} {first : Work α} {next : α → Work Unit}
    (leaves : Leaves R view first) (others : ∀ value, LeavesOrDefers R view (next value)) :
    LeavesOrDefers R view (first >>= next) := by
  have all (o : Outcome requests Engine Fault α) : ∀ v, Abides R view v o →
      AbidesOrDefers R view v (o.bind next) := by
    induction o with
    | returned value e =>
        rintro v rfl
        exact others value e
    | raised fault e => exact fun v abides => .abides abides
    | paused e request resume ih =>
        rintro v ⟨rfl, permitted, rest⟩
        exact .asks permitted fun answer e' admits => ih answer e' _ (rest answer e' admits)
  exact fun e => all (first e) _ (leaves e)

/-- A permitted request, and what follows on any admissible answer. -/
theorem LeavesOrDefers.ask {request : Request} {next : request.Answer → Work Unit}
    (permitted : R request)
    (others : ∀ answer, request.Admits answer → LeavesOrDefers R view (next answer)) :
    LeavesOrDefers R view (ask request >>= next) :=
  fun _ => .asks permitted fun answer e' admits => others answer admits e'

/-- A choice between two routines, each of which may tear the session down. -/
theorem LeavesOrDefers.ite {c : Prop} [Decidable c] {a b : Work Unit}
    (ha : c → LeavesOrDefers R view a) (hb : ¬c → LeavesOrDefers R view b) :
    LeavesOrDefers R view (if c then a else b) := by
  split
  · exact ha ‹c›
  · exact hb ‹¬c›

/-- Tearing the session down is itself of this kind. -/
theorem leavesOrDefers_restartDefer : LeavesOrDefers R view restartDefer :=
  fun e => .defers e

/-! ## Handlers -/

section Handlers

/-- Only the engine's client and timer are concerned when a restart timer has run out. -/
theorem leaves_onRestartDue (offline : Offline view)
    (permitted : ∀ request : Request, ¬request.IsRelease → R request) (generation : Int) :
    Leaves R view (onRestartDue generation) := by
  apply Leaves.get.bind
  intro e
  apply Leaves.ite _ fun _ => Leaves.pure ()
  intro current
  apply Leaves.bind (Leaves.modify fun e => offline.timer e e.generation none)
  intro _
  apply Leaves.get.bind
  intro e
  apply Leaves.ite _ fun _ => Leaves.pure ()
  intro down
  exact leaves_clientStart offline (permitted .startClient id)
    (fun generation => permitted (.armRestart generation) id)
    fun generation => permitted (.disarmRestart generation) id

variable (remote : Remote view)

include remote

/-- A resolve that cannot be started tears the session down. -/
theorem leavesOrDefers_resolveEach
    (resolve : ∀ service name ifindex family, R (.resolve service name ifindex family))
    (f : Finding) (families : List Ip.Family) : LeavesOrDefers R view (resolveEach f families) := by
  induction families with
  | nil => exact (Leaves.pure ()).orDefers
  | cons family rest ih =>
      apply LeavesOrDefers.ask (resolve f.service f.name f.ifindex family)
      intro answer admits
      rcases FailsAsTransport.cases admits with ⟨op, rfl⟩ | ⟨fault, rfl⟩
      · apply (leaves_modifyFinding remote.registry _ _).bind_orDefers
        intro _
        exact Leaves.bind_orDefers (Leaves.modify fun e => remote.resolving e _) fun _ => ih
      · exact leavesOrDefers_restartDefer

/-- A new instance leaves a view alone, unless a resolve fails and the session is torn down. -/
theorem leavesOrDefers_browseNew
    (resolve : ∀ service name ifindex family, R (.resolve service name ifindex family))
    (event : BrowseEvent) : LeavesOrDefers R view (browseNew event) := by
  intro e
  have same := remote.books e
    (inInitialScan_getOrCreate e.books event.service event.ifindex (event.name.getD ""))
  rw [browseNew, bind_get]
  generalize e.books.getOrCreate event.service event.ifindex (event.name.getD "") = made at same ⊢
  rcases made with ⟨books, f, created⟩
  cases created with
  | false => exact (Leaves.pure ()).orDefers e
  | true =>
      have resolved := leavesOrDefers_resolveEach remote resolve f
        (if event.families.isEmpty then e.ipVersion.families else event.families)
        { e with books }
      rw [same] at resolved
      exact resolved

/-- Only the report that a service has enumerated all it had cached concerns the phases. -/
theorem leavesOrDefers_onBrowse (permitted : ∀ request : Request, request.IsQuiet → R request)
    (event : BrowseEvent) (ends : event.kind = .allForNow → BlindToGate view) :
    LeavesOrDefers R view (onBrowse event) := by
  have apart : Apart R view := remote.apart permitted
  apply Leaves.get.bind_orDefers
  intro e
  apply LeavesOrDefers.ite _ fun _ => (Leaves.pure ()).orDefers
  intro browsing
  cases hkind : event.kind with
  | new =>
      apply leavesOrDefers_browseNew remote _ event
      exact fun service name ifindex family =>
        permitted (.resolve service name ifindex family) trivial
  | remove =>
      apply Leaves.get.bind_orDefers
      intro e
      split
      · exact (leaves_deleteFinding apart _).orDefers
      · exact (Leaves.pure ()).orDefers
  | failure => exact leavesOrDefers_restartDefer
  | cacheExhausted => exact (Leaves.pure ()).orDefers
  | allForNow => exact (leaves_allForNow apart.toDetached (ends hkind) event.service).orDefers

/-- A state of the client leaves a view alone, unless the session is torn down. -/
theorem leavesOrDefers_onClientState (permitted : ∀ request : Request, request.IsQuiet → R request)
    (state : ClientState) : LeavesOrDefers R view (onClientState state) := by
  have up : LeavesOrDefers R view (do
      if !(← Routine.get).browserRunning then
        if !(← browserStart) then restartDefer : Work Unit) := by
    apply Leaves.get.bind_orDefers
    intro e
    apply LeavesOrDefers.ite _ fun _ => (Leaves.pure ()).orDefers
    intro idle
    apply (leaves_browserStart (remote.apart permitted).toDetached).bind_orDefers
    intro all
    exact LeavesOrDefers.ite (fun _ => leavesOrDefers_restartDefer)
      fun _ => (Leaves.pure ()).orDefers
  apply Leaves.get.bind_orDefers
  intro e
  apply LeavesOrDefers.ite _ fun _ => (Leaves.pure ()).orDefers
  intro running
  cases state with
  | registering => exact up
  | running => exact up
  | collision => exact up
  | failure => exact leavesOrDefers_restartDefer
  | connecting => exact (Leaves.pure ()).orDefers

/-- Handling an event, unless that ends a phase or a restart timer has run out. -/
theorem leavesOrDefers_dispatch (permitted : ∀ request : Request, request.IsQuiet → R request)
    (event : Event) (timeless : ∀ generation, event ≠ .restartDue generation)
    (ends : event.EndsPhase → BlindToGate view) : LeavesOrDefers R view (dispatch event) := by
  cases event with
  | notice notice =>
      cases notice with
      | browse event => exact leavesOrDefers_onBrowse remote permitted event ends
      | resolve event => exact (leaves_onResolve (remote.apart permitted) event).orDefers
      | client state => exact leavesOrDefers_onClientState remote permitted state
  | restartDue generation => exact absurd rfl (timeless generation)
  | query ticket question =>
      have settle (outcome : Except Fault Reply) : R (.settle ticket outcome) :=
        permitted (.settle ticket outcome) trivial
      exact Leaves.orDefers fun e => ⟨rfl, settle _, fun _ _ _ => rfl⟩
  | unknown => exact (Leaves.pure ()).orDefers

/-- Tearing the session down leaves a view alone if every request is permitted. -/
theorem leaves_restartDefer : Leaves (fun _ => True) view restartDefer := by
  apply (leaves_browserStop (remote.apart fun _ _ => trivial) fun _ => trivial).bind
  intro _
  apply (leaves_clientStop remote.toOffline trivial).bind
  intro _
  exact leaves_armRestartTimer remote.toOffline (fun _ => trivial) fun _ => trivial

/-- A remote view is left alone even if the session is torn down. -/
theorem AbidesOrDefers.toAbides {v : V} {o : Outcome requests Engine Fault Unit}
    (abides : AbidesOrDefers R view v o) : Abides (fun _ => True) view v o := by
  induction abides with
  | abides abides => exact abides.mono fun _ _ => trivial
  | asks permitted rest ih => exact ⟨rfl, trivial, ih⟩
  | defers e => exact leaves_restartDefer remote e

/-- Handling an event that ends no phase. -/
theorem leaves_dispatch (event : Event) (ends : event.EndsPhase → BlindToGate view) :
    Leaves (fun _ => True) view (dispatch event) := by
  by_cases timed : ∃ generation, event = .restartDue generation
  · rcases timed with ⟨generation, rfl⟩
    exact leaves_onRestartDue remote.toOffline (fun _ _ => trivial) generation
  · have timeless (generation : Int) : event ≠ .restartDue generation :=
      fun due => timed ⟨generation, due⟩
    have handled : LeavesOrDefers (fun _ => True) view (dispatch event) :=
      leavesOrDefers_dispatch remote (fun _ _ => trivial) event timeless ends
    exact fun e => (handled e).toAbides remote

end Handlers

/-! ## Calls -/

section Calls

variable (remote : Remote view)

include remote

/-- The end of a turn leaves the view alone. -/
theorem leaves_finish : Leaves R view finish :=
  Leaves.modify fun e => remote.mailbox e _

/-- Halting leaves the view alone, with the queries that are left settled. -/
theorem leaves_halt (settle : ∀ ticket outcome, R (.settle ticket outcome)) (broken : Violation) :
    Leaves R view (halt broken) := by
  apply Leaves.bind (Leaves.modify fun e => remote.failure e _)
  intro _
  apply Leaves.get.bind
  intro e
  split
  · apply Leaves.bind (Leaves.modify fun e => remote.mailbox e _)
    intro _
    exact leaves_failEach settle _ _
  · exact Leaves.pure ()

/-- Handling the next event, unless that ends a phase. -/
theorem abides_turn {e : Engine}
    (ends : ∀ event, e.next? = some event → event.EndsPhase → BlindToGate view) :
    Abides (fun _ => True) view (view e) (turn e) := by
  rw [turn, bind_get]
  cases htake : e.mailbox.bind Mailbox.take? with
  | none => exact rfl
  | some taken =>
      have next : e.next? = some taken.1 := by
        simp [next?, htake]
      have handled := leaves_dispatch remote taken.1 (ends taken.1 next)
        { e with mailbox := some taken.2 }
      rw [remote.mailbox] at handled
      apply handled.attempt_bind
      · exact fun _ => leaves_finish remote
      · intro fault violation
        cases fault with
        | invariant broken =>
            apply (leaves_halt remote (fun _ _ => trivial) broken).bind
            exact fun _ => leaves_finish remote
        | _ => exact violation.elim

/-- Asking a question. -/
theorem leaves_query (ticket : Nat) (question : Question) :
    Leaves (fun _ => True) view (query ticket question) := by
  have asked (outcome : Except Fault Reply) :
      Leaves (fun _ => True) view (ask (.settle ticket outcome)) :=
    fun _ => ⟨rfl, trivial, fun _ _ _ => rfl⟩
  apply Leaves.get.bind
  intro e
  apply Leaves.ite fun _ => asked _
  intro unfailed
  apply Leaves.ite fun _ => asked _
  intro opened
  apply Leaves.modify
  intro e
  rw [post_eq]
  exact remote.mailbox e _

/-- Stopping the engine, for a view that does not show whether it is started. -/
theorem leaves_stop (standing : ∀ e started stopping, view { e with started, stopping } = view e) :
    Leaves (fun _ => True) view stop := by
  have apart : Apart (fun _ => True) view := remote.apart fun _ _ => trivial
  intro e
  cases hstarted : e.started with
  | false =>
      rw [stop_of_not_started hstarted]
      exact rfl
  | true =>
      have emptied : view { e with stopping := true, mailbox := none } = view e :=
        (remote.mailbox { e with stopping := true } none).trans (standing e e.started true)
      rw [stop_of_started hstarted, ← emptied]
      apply Leaves.bind (leaves_failEach (fun _ _ => trivial) _ _)
      intro _
      apply leaves_release apart remote.toOffline (fun _ => trivial) (fun _ => trivial) trivial
      exact fun e started => standing e started e.stopping

end Calls

/-! ## Whether the engine is started -/

/-- The flag for a started engine is remote from what handlers change. -/
theorem remote_started : Remote Engine.started where
  client _ _ := rfl
  timer _ _ _ := rfl
  counts _ _ _ := rfl
  registry _ _ := rfl
  resolving _ _ := rfl
  browsers _ _ := rfl
  browserRunning _ _ := rfl
  mailbox _ _ := rfl
  failure _ _ := rfl

/-- Nothing that happens meanwhile starts or stops the engine. -/
theorem Disturbed.started {e e' : Engine} (disturbed : Disturbed e e') :
    e'.started = e.started := by
  rw [disturbed.eq]

/-! ## Whether discovery is enabled -/

/-- The switch for discovery is remote from what handlers change. -/
theorem remote_enabled : Remote Engine.enabled where
  client _ _ := rfl
  timer _ _ _ := rfl
  counts _ _ _ := rfl
  registry _ _ := rfl
  resolving _ _ := rfl
  browsers _ _ := rfl
  browserRunning _ _ := rfl
  mailbox _ _ := rfl
  failure _ _ := rfl

/-- Nothing that happens meanwhile enables or disables discovery. -/
theorem Disturbed.enabled {e e' : Engine} (disturbed : Disturbed e e') :
    e'.enabled = e.enabled := by
  rw [disturbed.eq]

/-- No call changes whether discovery is enabled, -/
theorem Call.ensures_enabled (call : Call) (e : Engine) (h : History) :
    Ensures (fun _ e' _ => e'.enabled = e.enabled) (fun _ e' _ => e'.enabled = e.enabled)
      (call.routine e) h := by
  have keeps {o : Outcome requests Engine Fault Unit}
      (abides : Abides (fun _ => True) Engine.enabled e.enabled o) :
      Ensures (fun _ e' _ => e'.enabled = e.enabled) (fun _ e' _ => e'.enabled = e.enabled)
        o h := by
    apply (abides.ensures (I := fun e' _ => e'.enabled = e.enabled) _ _ rfl).mono
    · exact fun _ _ _ => id
    · exact fun _ _ _ failed => failed.2
    · exact fun same before => same.trans before
    · exact fun _ _ disturbed before => disturbed.enabled.trans before
  have blind : BlindToGate Engine.enabled := fun _ _ => rfl
  cases call with
  | turn => exact keeps (abides_turn remote_enabled fun _ _ _ => blind)
  | stop => exact keeps (leaves_stop remote_enabled (fun _ _ _ => rfl) e)
  | query ticket question => exact keeps (leaves_query remote_enabled ticket question e)
  | start =>
      have fire : Leaves (fun _ => True) Engine.enabled (do
          Books.fireAll
          Routine.modify fun e => { e with started := true } : Work Unit) := by
        apply (leaves_fireAll (remote_enabled.apart fun _ _ => trivial).toDetached blind).bind
        exact fun _ => Leaves.modify fun _ => rfl
      rw [routine, Engine.start, bind_get]
      rw [ensures_ite, ensures_ite]
      refine ⟨fun _ => rfl, fun _ => ⟨fun _ => keeps (fire e), fun _ => ?_⟩⟩
      simp only [ensures_bind, ensures_modify]
      apply ensures_ask
      intro answer e' admits disturbed
      rcases FailsAsTransport.cases admits with ⟨value, rfl⟩ | ⟨fault, rfl⟩
      · exact disturbed.enabled
      · exact disturbed.enabled

/-- and neither does any other step of a run. -/
theorem Step.enabled {m n : Moment} (step : Step m n) (admissible : Admissible n.history) :
    n.engine.enabled = m.engine.enabled := by
  cases step with
  | @call e e' h h' r call possible runs =>
      have ends := (call.ensures_enabled e _).of_runs runs admissible
      cases r with
      | ok value => exact ends
      | error fault => exact ends
  | beside e h d => exact (d.disturbed e).enabled

end Engine

end ScannerDiscovery
