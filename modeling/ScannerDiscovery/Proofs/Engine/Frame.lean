import ScannerDiscovery.Proofs.Engine.Ensures
import ScannerDiscovery.Proofs.Gate

/-!
# What a routine leaves alone

Most routines of the engine are concerned with a part of its state only.  A routine leaves a view
of the engine alone if, whatever it is answered and whatever happens meanwhile, it goes on with the
view as it finds it; it makes only requests of some kind, and fails only with a violation.  What
depends on the view alone is then kept by the routine, in any account of what happens during its
requests.

Main definitions:

- `Leaves` : routines that leave a view alone.
- `tellFound` : telling listeners of an address that has been found.
- `Detached` : views that show nothing of counts, resolves and browses.
- `Apart` : views that show nothing of the registry either.
- `Offline` : views that show nothing of client and restart timer.

Main results:

- `Leaves.bind` : routines one after another.
- `Leaves.ensures` : what depends on the view alone is kept in every admissible run.
-/

namespace ScannerDiscovery

/-- Whether a fault is a violation of an invariant. -/
def Fault.IsViolation : Fault → Prop
  | .invariant _ => True
  | _ => False

namespace Engine

variable {α β V : Type} {R : Request → Prop} {view : Engine → V}

/-! ## Steps without requests -/

/-- A routine that looks at the engine goes on with the engine as it is. -/
theorem bind_get (next : Engine → Work α) (e : Engine) : (Routine.get >>= next) e = next e e :=
  rfl

/-- A routine that looks at the books goes on with the books as they are. -/
theorem bind_getBooks (next : Books → Work α) (e : Engine) :
    ((Books.get : Work Books) >>= next) e = next e.books e :=
  rfl

/-- A routine that changes the engine goes on with the changed engine. -/
theorem bind_modify (change : Engine → Engine) (next : Unit → Work α) (e : Engine) :
    (Routine.modify change >>= next) e = next () (change e) :=
  rfl

/-! ## Leaving a view alone -/

/-- Whether a routine, from where it stands, goes on with a view of the engine as it finds it,
makes only requests of one kind and fails only with a violation. -/
def Abides (R : Request → Prop) (view : Engine → V) :
    V → Outcome requests Engine Fault α → Prop
  | v, .returned _ e => view e = v
  | v, .raised fault e => view e = v ∧ fault.IsViolation
  | v, .paused e request resume => view e = v ∧ R request ∧
    ∀ answer e', request.Admits answer → Abides R view (view e') (resume answer e')

/-- Whether a routine leaves a view of the engine alone and makes only requests of one kind. -/
def Leaves (R : Request → Prop) (view : Engine → V) (routine : Work α) : Prop :=
  ∀ e, Abides R view (view e) (routine e)

/-- A routine that abides by a view may be followed by any that leave it alone. -/
theorem Abides.bind {v : V} {o : Outcome requests Engine Fault α} {next : α → Work β}
    (abides : Abides R view v o) (leaves : ∀ value, Leaves R view (next value)) :
    Abides R view v (o.bind next) := by
  induction o generalizing v with
  | returned value e =>
      have hview : view e = v := abides
      rw [← hview]
      exact leaves value e
  | raised fault e => exact abides
  | paused e request resume ih =>
      obtain ⟨hview, permitted, rest⟩ := abides
      exact ⟨hview, permitted, fun answer e' admits => ih answer e' (rest answer e' admits)⟩

/-- A routine whose fault is caught, and what follows on its end. -/
theorem Abides.attempt_bind {v : V} {o : Outcome requests Engine Fault α}
    {next : Except Fault α → Work β} (abides : Abides R view v o)
    (returned : ∀ value, Leaves R view (next (.ok value)))
    (raised : ∀ fault, fault.IsViolation → Leaves R view (next (.error fault))) :
    Abides R view v (o.attempt.bind next) := by
  induction o generalizing v with
  | returned value e =>
      have hview : view e = v := abides
      rw [← hview]
      exact returned value e
  | raised fault e =>
      obtain ⟨rfl, violation⟩ := abides
      exact raised fault violation e
  | paused e request resume ih =>
      obtain ⟨hview, permitted, rest⟩ := abides
      exact ⟨hview, permitted, fun answer e' admits => ih answer e' (rest answer e' admits)⟩

/-- Requests of one kind are requests of a wider kind. -/
theorem Abides.mono {R' : Request → Prop} {v : V} {o : Outcome requests Engine Fault α}
    (abides : Abides R view v o) (wider : ∀ request, R request → R' request) :
    Abides R' view v o := by
  induction o generalizing v with
  | returned value e => exact abides
  | raised fault e => exact abides
  | paused e request resume ih =>
      obtain ⟨hview, permitted, rest⟩ := abides
      exact ⟨hview, wider request permitted,
        fun answer e' admits => ih answer e' (rest answer e' admits)⟩

/-- Two routines that leave a view alone, one after the other. -/
theorem Leaves.bind {first : Work α} {next : α → Work β} (leaves : Leaves R view first)
    (others : ∀ value, Leaves R view (next value)) : Leaves R view (first >>= next) :=
  fun e => (leaves e).bind others

/-- Returning leaves any view alone. -/
theorem Leaves.pure (value : α) : Leaves R view (Pure.pure value : Work α) :=
  fun _ => rfl

/-- Looking at the engine leaves any view alone. -/
theorem Leaves.get : Leaves R view (Routine.get : Work Engine) :=
  fun _ => rfl

/-- Looking at the books leaves any view alone. -/
theorem Leaves.getBooks : Leaves R view (Books.get : Work Books) :=
  fun _ => rfl

/-- A change that does not show in a view leaves it alone. -/
theorem Leaves.modify {change : Engine → Engine} (same : ∀ e, view (change e) = view e) :
    Leaves R view (Routine.modify change : Work Unit) :=
  same

/-- Failing with a violation leaves any view alone. -/
theorem Leaves.raise {fault : Fault} (violation : fault.IsViolation) :
    Leaves R view (Routine.raise fault : Work α) :=
  fun _ => ⟨rfl, violation⟩

/-- A permitted request, and what follows on any admissible answer. -/
theorem Leaves.ask {request : Request} {next : request.Answer → Work β} (permitted : R request)
    (others : ∀ answer, request.Admits answer → Leaves R view (next answer)) :
    Leaves R view (ask request >>= next) :=
  fun _ => ⟨rfl, permitted, fun answer e' admits => others answer admits e'⟩

/-- A choice leaves a view alone if both routines do, each where it is chosen. -/
theorem Leaves.ite {c : Prop} [Decidable c] {a b : Work α} (ha : c → Leaves R view a)
    (hb : ¬c → Leaves R view b) : Leaves R view (if c then a else b) := by
  split
  · exact ha ‹c›
  · exact hb ‹¬c›

/-- Going on after an operation that succeeded or failed as a transport does. -/
theorem Leaves.succeeded {answer : Except Fault Unit} (admits : FailsAsTransport answer) :
    Leaves R view (succeeded answer) := by
  rcases FailsAsTransport.cases admits with ⟨value, rfl⟩ | ⟨fault, rfl⟩
  · exact Leaves.pure true
  · exact Leaves.pure false

/-- What depends on the view alone, and is kept by what happens during a permitted request, is kept
from where a routine stands that goes on with the view, -/
theorem Abides.ensures {o : Outcome requests Engine Fault α} {I : Engine → History → Prop}
    {e : Engine} {h : History} (abides : Abides R view (view e) o)
    (depends : ∀ {e e' h}, view e' = view e → I e h → I e' h)
    (asked : ∀ {e e' request answer h}, R request → request.Admits answer → Disturbed e e' →
      I e h → I e' (.asked e request answer :: h)) (hI : I e h) :
    Ensures (fun _ e' h' => I e' h') (fun fault e' h' => fault.IsViolation ∧ I e' h') o h := by
  induction o generalizing e h with
  | returned value e' => exact depends abides hI
  | raised fault e' => exact ⟨abides.2, depends abides.1 hI⟩
  | paused e₁ request resume ih =>
      obtain ⟨hview, permitted, rest⟩ := abides
      intro answer e' admits disturbed
      apply ih answer e' (rest answer e' admits)
      exact asked permitted admits disturbed (depends hview hI)

/-- and by a routine that leaves the view alone. -/
theorem Leaves.ensures {routine : Work α} {I : Engine → History → Prop}
    (leaves : Leaves R view routine)
    (depends : ∀ {e e' h}, view e' = view e → I e h → I e' h)
    (asked : ∀ {e e' request answer h}, R request → request.Admits answer → Disturbed e e' →
      I e h → I e' (.asked e request answer :: h)) {e : Engine} {h : History} (hI : I e h) :
    Ensures (fun _ e' h' => I e' h') (fun fault e' h' => fault.IsViolation ∧ I e' h')
      (routine e) h :=
  (leaves e).ensures depends asked hI

/-! ## Telling others -/

/-- Telling listeners leaves any view alone. -/
theorem leaves_tellEach (hear : ∀ listener ifindex address, R (.hear listener ifindex address))
    (ifindex : Int) (address : Ip.Address) (listeners : List String) :
    Leaves R view (tellEach ifindex address listeners) := by
  induction listeners with
  | nil => exact Leaves.pure ()
  | cons listener rest ih =>
      exact Leaves.ask (hear listener ifindex address) fun _ _ => ih

/-- Tells listeners of an address that has been found. -/
def tellFound (f : Finding) (event : ResolveEvent) : Work Unit := do
  if event.kind = .found then
    match event.address with
    | some address => tellEach f.ifindex address (← Routine.get).listeners
    | none => pure ()

/-- Telling listeners of what has been found leaves any view alone. -/
theorem leaves_tellFound (hear : ∀ listener ifindex address, R (.hear listener ifindex address))
    (f : Finding) (event : ResolveEvent) : Leaves R view (tellFound f event) := by
  refine Leaves.ite (fun _ => ?_) fun _ => Leaves.pure ()
  cases event.address with
  | none => exact Leaves.pure ()
  | some address => exact Leaves.get.bind fun _ => leaves_tellEach hear _ _ _

/-- Failing the queries that are left leaves any view alone. -/
theorem leaves_failEach (settle : ∀ ticket outcome, R (.settle ticket outcome)) (fault : Fault)
    (events : List Event) : Leaves R view (failEach fault events) := by
  induction events with
  | nil => exact Leaves.pure ()
  | cons event rest ih =>
      cases event with
      | query ticket question => exact Leaves.ask (settle ticket _) fun _ _ => ih
      | notice notice => exact ih
      | restartDue generation => exact ih
      | unknown => exact ih

/-! ## Views detached from counts, resolves and browses -/

/-- Whether a view shows nothing of the gate. -/
def BlindToGate (view : Engine → V) : Prop :=
  ∀ e gate, view { e with books.gate := gate } = view e

/-- Whether a view shows nothing of the gate but the phases, and nothing of resolves and browses,
and the requests of the routines concerned with these are permitted. -/
structure Detached (R : Request → Prop) (view : Engine → V) : Prop where
  counts : ∀ e gate, (∀ s, gate.inInitialScan s = e.books.gate.inInitialScan s) →
    view { e with books.gate := gate } = view e
  resolving : ∀ e resolving, view { e with resolving } = view e
  browsers : ∀ e browsers, view { e with browsers } = view e
  browserRunning : ∀ e browserRunning, view { e with browserRunning } = view e
  scanDone : ∀ m, R (.scanDone m)
  cancelResolve : ∀ op, R (.cancelResolve op)
  startBrowse : ∀ s, R (.startBrowse s)

variable (detached : Detached R view)

include detached

/-- Reporting methods as done leaves a detached view alone. -/
theorem leaves_report (methods : List Method) :
    Leaves R view (Books.report methods : Work Unit) := by
  induction methods with
  | nil => exact Leaves.pure ()
  | cons m rest ih => exact Leaves.ask (detached.scanDone m) fun _ _ => ih

/-- Counting a task off, or not at zero, leaves the phases alone. -/
theorem leaves_lower (m : Method) : Leaves R view (Books.lower m : Work Unit) := by
  intro e
  rw [Books.lower, bind_getBooks]
  cases dec : e.books.gate.dec m with
  | none => exact ⟨rfl, trivial⟩
  | some result =>
      have same := detached.counts e result.1 (Gate.inInitialScan_dec dec)
      have report := leaves_report detached result.2 { e with books.gate := result.1 }
      rw [same] at report
      exact report

/-- The end of an initial phase shows in the gate. -/
theorem leaves_allForNow (blind : BlindToGate view) (s : Service) :
    Leaves R view (Books.allForNow s : Work Unit) := by
  refine Leaves.getBooks.bind fun books => ?_
  refine Leaves.bind (Leaves.modify fun e => blind e _) fun _ => ?_
  split
  · exact Leaves.raise trivial
  · exact leaves_report detached _

/-- Reporting all methods at once shows in the gate alone. -/
theorem leaves_fireAll (blind : BlindToGate view) : Leaves R view (Books.fireAll : Work Unit) := by
  refine Leaves.getBooks.bind fun _ => ?_
  exact (Leaves.modify fun e => blind e _).bind fun _ => leaves_report detached _

/-- Cancelling resolves leaves a detached view alone. -/
theorem leaves_releaseEach (ops : List Ticket) : Leaves R view (releaseEach ops) := by
  induction ops with
  | nil => exact Leaves.pure ()
  | cons op rest ih =>
      refine Leaves.bind (Leaves.modify fun e => detached.resolving e _) fun _ => ?_
      exact Leaves.ask (detached.cancelResolve op) fun _ _ => ih

/-- Starting browses one after another leaves a detached view alone. -/
theorem leaves_startEach (services : List Service) : Leaves R view (startEach services) := by
  induction services with
  | nil => exact Leaves.pure true
  | cons service rest ih =>
      refine Leaves.ask (detached.startBrowse service) fun answer admits => ?_
      rcases FailsAsTransport.cases admits with ⟨handle, rfl⟩ | ⟨fault, rfl⟩
      · refine Leaves.bind (Leaves.modify fun e => detached.browsers e _) fun _ => ?_
        refine Leaves.get.bind fun _ => Leaves.ite (fun _ => ?_) fun _ => ih
        exact Leaves.bind (Leaves.modify fun e => detached.counts e _ fun _ => rfl) fun _ => ih
      · exact Leaves.pure false

/-- Starting the browser leaves a detached view alone. -/
theorem leaves_browserStart : Leaves R view browserStart :=
  Leaves.bind (Leaves.modify fun e => detached.browserRunning e true) fun _ =>
    leaves_startEach detached _

/-- Stopping browses one after another leaves a detached view alone. -/
theorem leaves_stopEach (stopBrowse : ∀ handle, R (.stopBrowse handle))
    (entries : List (Service × Ticket)) : Leaves R view (stopEach entries) := by
  induction entries with
  | nil => exact Leaves.pure ()
  | cons entry rest ih =>
      obtain ⟨service, handle⟩ := entry
      refine Leaves.bind (Leaves.modify fun e => detached.browsers e _) fun _ => ?_
      refine Leaves.ask (stopBrowse handle) fun answer admits => ?_
      refine (Leaves.succeeded admits).bind fun _ => Leaves.get.bind fun _ => ?_
      exact Leaves.ite (fun _ => (leaves_lower detached _).bind fun _ => ih) fun _ => ih

omit detached

/-! ## Views apart from the books -/

/-- Whether a view shows nothing of the registry. -/
def ApartFromRegistry (view : Engine → V) : Prop :=
  ∀ e registry, view { e with books.registry := registry } = view e

/-- Changing a finding shows in the registry alone. -/
theorem leaves_modifyFinding (apart : ApartFromRegistry view) (number : Nat)
    (change : Finding → Finding) :
    Leaves R view (Books.modifyFinding number change : Work Unit) :=
  Leaves.modify fun e => apart e _

/-- What a resolve has found is taken over without a request. -/
theorem leaves_resolveFound (apart : ApartFromRegistry view) (f : Finding) (event : ResolveEvent) :
    Leaves R view (resolveFound f event) := by
  have modified (number : Nat) (change : Finding → Finding) :
      Leaves R view (Books.modifyFinding number change : Work Unit) :=
    leaves_modifyFinding apart number change
  refine (modified _ _).bind fun _ => Leaves.ite (fun _ => ?_) fun _ => Leaves.ite (fun _ => ?_)
    fun _ => modified _ _
  · cases event.address with
    | none => exact Leaves.pure ()
    | some address =>
        refine Leaves.ite (fun _ => Leaves.pure ()) fun _ => ?_
        split
        · exact Leaves.raise trivial
        · exact modified _ _
  · cases event.txt.value? "scan" with
    | none => exact Leaves.pure ()
    | some flag => exact Leaves.ite (fun _ => modified _ _) fun _ => Leaves.pure ()

/-- Whether a view shows nothing of books, resolves and browses, and the requests of the routines
concerned with these are permitted. -/
structure Apart (R : Request → Prop) (view : Engine → V) : Prop extends Detached R view where
  registry : ApartFromRegistry view
  publish : ∀ snapshot, R (.publish snapshot)
  withdraw : ∀ snapshot, R (.withdraw snapshot)
  hear : ∀ listener ifindex address, R (.hear listener ifindex address)

variable (apart : Apart R view)

include apart

/-- Counting a finding off leaves a view apart from the books alone. -/
theorem leaves_uncount (f : Finding) : Leaves R view (Books.uncount f : Work Unit) :=
  Leaves.ite (fun _ => (leaves_modifyFinding apart.registry _ _).bind fun _ =>
    leaves_lower apart.toDetached _) fun _ => Leaves.pure ()

/-- Withdrawing a finding leaves a view apart from the books alone. -/
theorem leaves_unpublish (f : Finding) : Leaves R view (Books.unpublish f : Work Unit) := by
  refine Leaves.ite (fun _ => ?_) fun _ => Leaves.pure ()
  refine Leaves.ask (apart.withdraw f.snapshot) fun answer admits => ?_
  obtain rfl : answer = .ok () := admits
  exact leaves_modifyFinding apart.registry _ _

/-- Deleting a finding leaves a view apart from the books alone. -/
theorem leaves_deleteFinding (number : Nat) : Leaves R view (deleteFinding number) := by
  refine Leaves.getBooks.bind fun books => ?_
  split
  · exact Leaves.pure ()
  · refine (leaves_unpublish apart _).bind fun _ => Leaves.getBooks.bind fun books => ?_
    split
    · exact Leaves.pure ()
    · refine Leaves.bind (Leaves.modify fun e => apart.registry e _) fun _ => ?_
      exact (leaves_uncount apart _).bind fun _ => leaves_releaseEach apart.toDetached _

/-- Deleting all findings leaves a view apart from the books alone. -/
theorem leaves_deleteFindings : Leaves R view deleteFindings := by
  have each (numbers : List Nat) :
      Leaves R view (Books.deleteEach (fun _ ops => releaseEach ops) numbers : Work Unit) := by
    induction numbers with
    | nil => exact Leaves.pure ()
    | cons number rest ih => exact (leaves_deleteFinding apart number).bind fun _ => ih
  exact Leaves.getBooks.bind fun books => each _

/-- Stopping the browser leaves a view apart from the books alone. -/
theorem leaves_browserStop (stopBrowse : ∀ handle, R (.stopBrowse handle)) :
    Leaves R view browserStop := by
  refine Leaves.get.bind fun e => ?_
  refine (leaves_stopEach apart.toDetached stopBrowse _).bind fun _ => ?_
  refine (leaves_deleteFindings apart).bind fun _ => ?_
  exact Leaves.modify fun e => apart.browserRunning e false

/-- Finalizing a finding leaves a view apart from the books alone. -/
theorem leaves_finalize (number : Nat) : Leaves R view (finalize number) := by
  refine (leaves_modifyFinding apart.registry _ _).bind fun _ => Leaves.get.bind fun e => ?_
  split
  · exact Leaves.pure ()
  · refine Leaves.ite (fun _ => ?_) fun _ => ?_
    · refine (leaves_modifyFinding apart.registry _ _).bind fun _ => ?_
      refine Leaves.ask (apart.publish _) fun answer admits => ?_
      obtain rfl : answer = .ok () := admits
      exact (Leaves.pure ()).bind fun _ => leaves_uncount apart _
    · exact (leaves_modifyFinding apart.registry _ _).bind fun _ => leaves_uncount apart _

/-- Completing a resolve leaves a view apart from the books alone. -/
theorem leaves_resolveCompleted (f : Finding) (event : ResolveEvent) :
    Leaves R view (resolveCompleted f event) := by
  have tell : Leaves R view (tellFound f event) := leaves_tellFound apart.hear f event
  have conclude : Leaves R view (do
      if (f.tracker.complete event.op).2.2 then finalize f.number
      tellFound f event : Work Unit) :=
    Leaves.ite (fun _ => (leaves_finalize apart _).bind fun _ => tell) fun _ => tell
  refine Leaves.ite (fun _ => ?_) fun _ => Leaves.pure ()
  refine (leaves_modifyFinding apart.registry _ _).bind fun _ => ?_
  exact Leaves.ite (fun _ => (leaves_resolveFound apart.registry _ _).bind fun _ => conclude)
    fun _ => conclude

/-- The handler of resolves leaves a view apart from the books alone. -/
theorem leaves_onResolve (event : ResolveEvent) : Leaves R view (onResolve event) := by
  refine Leaves.get.bind fun e => ?_
  split
  · exact Leaves.pure ()
  · refine Leaves.bind (Leaves.modify fun e => apart.resolving e _) fun _ => ?_
    refine Leaves.get.bind fun e => ?_
    split
    · exact Leaves.pure ()
    · exact leaves_resolveCompleted apart _ event

omit apart

/-! ## Views of neither client nor restart timer -/

/-- Whether a view shows nothing of client and restart timer. -/
structure Offline (view : Engine → V) : Prop where
  client : ∀ e clientRunning, view { e with clientRunning } = view e
  timer : ∀ e generation restart, view { e with generation, restart } = view e

variable (offline : Offline view)

include offline

/-- Stopping the client leaves an offline view alone. -/
theorem leaves_clientStop (stopClient : R .stopClient) : Leaves R view clientStop := by
  refine Leaves.get.bind fun e => Leaves.ite (fun _ => ?_) fun _ => Leaves.pure ()
  refine Leaves.bind (Leaves.modify fun e => offline.client e false) fun _ => ?_
  refine Leaves.ask stopClient fun answer admits => ?_
  exact (Leaves.succeeded admits).bind fun _ => Leaves.pure ()

/-- Dropping the restart timer leaves an offline view alone. -/
theorem leaves_dropRestartTimer (disarm : ∀ generation, R (.disarmRestart generation)) :
    Leaves R view dropRestartTimer := by
  have drop : Leaves R view (Routine.modify fun e => { e with restart := none } : Work Unit) :=
    Leaves.modify fun e => offline.timer e e.generation none
  refine Leaves.get.bind fun e => ?_
  cases e.restart with
  | none => exact (Leaves.pure ()).bind fun _ => drop
  | some running => exact Leaves.ask (disarm running) fun _ _ => drop

/-- Arming the restart timer leaves an offline view alone. -/
theorem leaves_armRestartTimer (arm : ∀ generation, R (.armRestart generation))
    (disarm : ∀ generation, R (.disarmRestart generation)) : Leaves R view armRestartTimer := by
  have next : Leaves R view (do
      let generation := (← Routine.get).generation + 1
      Routine.modify fun e => { e with generation, restart := some generation }
      ask (.armRestart generation) : Work Unit) := by
    refine Leaves.get.bind fun e => Leaves.bind (Leaves.modify fun e => offline.timer e _ _)
      fun _ => ?_
    exact fun _ => ⟨rfl, arm _, fun _ _ _ => rfl⟩
  refine Leaves.get.bind fun e => ?_
  cases e.restart with
  | none => exact next
  | some running => exact Leaves.ask (disarm running) fun _ _ => next

/-- Starting the client leaves an offline view alone, also when it fails. -/
theorem leaves_clientStart (startClient : R .startClient)
    (arm : ∀ generation, R (.armRestart generation))
    (disarm : ∀ generation, R (.disarmRestart generation)) : Leaves R view clientStart := by
  refine Leaves.ask startClient fun answer admits => ?_
  refine (Leaves.succeeded admits).bind fun _ => Leaves.ite (fun _ => ?_) fun _ => ?_
  · exact Leaves.modify fun e => offline.client e true
  · exact leaves_armRestartTimer offline arm disarm

omit offline

/-! ## The release of what is held -/

/-- What stopping the engine does once the mailbox has been emptied. -/
def release : Work Unit := do
  dropRestartTimer
  browserStop
  clientStop
  deleteFindings
  Routine.modify fun e => { e with resolving := .empty, started := false }

/-- Stopping an engine that is not started does nothing. -/
theorem stop_of_not_started {e : Engine} (unstarted : e.started = false) :
    stop e = .returned () e := by
  rw [stop, bind_get, unstarted]
  rfl

/-- Stopping one that is started fails what waits and releases what is held. -/
theorem stop_of_started {e : Engine} (started : e.started = true) :
    stop e = (failEach .stopped e.waiting >>= fun _ => release)
      { e with stopping := true, mailbox := none } := by
  rw [stop, bind_get, if_pos started, bind_modify, bind_get, bind_modify, waiting]
  cases e.mailbox <;> rfl

/-- Releasing what is held, for a view that does not show whether the engine is started. -/
theorem leaves_release (apart : Apart R view) (offline : Offline view)
    (disarm : ∀ generation, R (.disarmRestart generation))
    (stopBrowse : ∀ handle, R (.stopBrowse handle)) (stopClient : R .stopClient)
    (standing : ∀ e started, view { e with started } = view e) : Leaves R view release := by
  apply (leaves_dropRestartTimer offline disarm).bind
  intro _
  apply (leaves_browserStop apart stopBrowse).bind
  intro _
  apply (leaves_clientStop offline stopClient).bind
  intro _
  apply (leaves_deleteFindings apart).bind
  intro _
  apply Leaves.modify
  intro e
  exact (standing { e with resolving := .empty } false).trans (apart.resolving e .empty)

end Engine

end ScannerDiscovery
