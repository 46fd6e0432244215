import ScannerDiscovery.Proofs.Engine.Frame.Handlers
import ScannerDiscovery.Proofs.Engine.Scripts

/-!
# Routines that are broken off

A request that keeps the engine waiting may fail with a fault that is none of the transport's own:
the transport has let an exception of the code below it through, or whoever wants to stop the engine
has interrupted it there.  No routine of the engine takes such a fault for a failure of the
transport.  So the first of them ends the routine at once, with the engine as it then is, and only
the handling of the event that it belongs to goes on.

Main definitions:

- `Fault.IsAlien`, `BreaksOff` : faults that break a routine off, and requests that fail with them.
- `PassesOn`, `Passes` : routines that fail with every such fault.
- `BrokenOff` : how a run ends that is broken off.
- `Plan.failing`, `faltering` : a plan that breaks turns off, and a moment at which it does.

Main results:

- `Abides.at_request` : the view at each request of a routine that abides by it.
- `passes_dispatch`, `passes_stop` : no handler takes such a fault for one of the transport's.
- `PassesOn.of_runs` : a run that is not admissible is broken off.
- `turn_broken_off` : what becomes of a turn then.
-/

namespace ScannerDiscovery

/-- A quiet request keeps nobody waiting. -/
theorem Request.IsQuiet.suspends {request : Request} (quiet : request.IsQuiet) :
    request.suspends = false := by
  cases request with
  | startClient => exact quiet.elim
  | stopClient => exact quiet.elim
  | stopBrowse handle => exact quiet.elim
  | _ => rfl

/-- Whether a fault comes from outside the library. -/
def Fault.IsAlien : Fault → Prop
  | .foreign _ | .interrupted => True
  | _ => False

namespace Engine

variable {α β V : Type} {R : Request → Prop} {view : Engine → V} {e e' : Engine} {h h' : History}
  {o : Outcome requests Engine Fault α} {r : Except Fault α}

/-- Whether a request that may keep the engine waiting fails with a fault. -/
def BreaksOff (fault : Fault) : (request : Request) → request.Answer → Prop
  | .startClient, answer => answer = .error fault
  | .stopClient, answer => answer = .error fault
  | .stopBrowse _, answer => answer = .error fault
  | _, _ => False

/-- Only requests that may keep the engine waiting are broken off, -/
theorem BreaksOff.suspends {fault : Fault} {request : Request} {answer : request.Answer}
    (breaks : BreaksOff fault request answer) : request.suspends = true := by
  cases request with
  | startClient => rfl
  | stopClient => rfl
  | stopBrowse handle => rfl
  | _ => exact breaks.elim

/-- and not by answers that are admissible. -/
theorem BreaksOff.not_admits {fault : Fault} {request : Request} {answer : request.Answer}
    (breaks : BreaksOff fault request answer) (alien : fault.IsAlien) :
    ¬request.Admits answer := by
  have failing (answer : Except Fault Unit) (failed : answer = .error fault) :
      ¬FailsAsTransport answer := by
    rw [failed]
    cases fault with
    | foreign message => exact id
    | interrupted => exact id
    | _ => exact alien.elim
  cases request with
  | startClient => exact failing answer breaks
  | stopClient => exact failing answer breaks
  | stopBrowse handle => exact failing answer breaks
  | _ => exact breaks.elim

/-- Whether the answer in an entry, if there is one, is admissible or breaks a routine off. -/
def Entry.AdmittedOrBreaksOff : Entry → Prop
  | called .. => True
  | asked _ request answer =>
    request.Admits answer ∨ ∃ fault : Fault, fault.IsAlien ∧ BreaksOff fault request answer

/-- What is admissible breaks nothing off, and is covered all the same. -/
theorem Entry.Admitted.admittedOrBreaksOff {entry : Entry} (admitted : entry.Admitted) :
    entry.AdmittedOrBreaksOff := by
  cases entry with
  | called e call => exact trivial
  | asked e request answer => exact .inl admitted

/-! ## Routines that abide -/

/-- Where a routine that abides by a view makes a request, the view is as the routine has found it
last. -/
theorem Abides.at_request {v : V} {request : Request} {answer : request.Answer} {before : History}
    (abides : Abides R view v o) (kept : ∀ {e e'}, Disturbed e e' → view e' = view e)
    (runs : Runs o h r e' h') (recorded : .asked e request answer :: before <:+ h')
    (new : h <:+ before) (admitted : Since Entry.Admitted h before) : view e = v ∧ R request := by
  have none (h : History) (recorded : .asked e request answer :: before <:+ h)
      (new : h <:+ before) : False := by
    have shorter := List.length_cons ▸ recorded.length_le
    have longer := new.length_le
    omega
  induction runs generalizing v with
  | returned value e₁ h₁ => exact (none h₁ recorded new).elim
  | raised fault e₁ h₁ => exact (none h₁ recorded new).elim
  | @paused e₁ e₂ e₃ request₁ answer₁ resume h₁ h₂ r disturbed rest ih =>
      obtain ⟨hview, permitted, others⟩ := abides
      rcases List.suffix_or_suffix_of_suffix recorded rest.suffix with first | later
      · rcases List.suffix_cons_iff.1 first with heq | old
        · cases List.cons.inj heq |>.1
          exact ⟨hview, permitted⟩
        · exact (none h₁ old new).elim
      · rcases List.suffix_cons_iff.1 later with heq | later
        · cases List.cons.inj heq |>.1
          exact ⟨hview, permitted⟩
        · have answered := admitted.divide (List.suffix_cons _ h₁) later
          have admits := answered.1.of_cons (List.suffix_refl h₁)
          have again := ih (others answer₁ e₂ admits.1) recorded later answered.2
          rw [kept disturbed, hview] at again
          exact again

/-! ## Routines that fail with what breaks them off -/

/-- Whether a routine, from where it stands, fails with every fault from outside that a request of
its fails with. -/
def PassesOn : Outcome requests Engine Fault α → Prop
  | .returned _ _ => True
  | .raised _ _ => True
  | .paused _ request resume =>
    (∀ fault answer e', fault.IsAlien → BreaksOff fault request answer →
      resume answer e' = .raised fault e') ∧
    ∀ answer e', request.Admits answer → PassesOn (resume answer e')

/-- Whether a routine fails with every fault from outside that a request of its fails with. -/
def Passes (routine : Work α) : Prop :=
  ∀ e, PassesOn (routine e)

/-- Two routines that pass on what breaks them off, one after the other. -/
theorem Passes.bind {first : Work α} {next : α → Work β} (passes : Passes first)
    (others : ∀ value, Passes (next value)) : Passes (first >>= next) := by
  have all (o : Outcome requests Engine Fault α) : PassesOn o → PassesOn (o.bind next) := by
    induction o with
    | returned value e => exact fun _ => others value e
    | raised fault e => exact id
    | paused e request resume ih =>
        rintro ⟨fails, rest⟩
        refine ⟨?_, fun answer e' admits => ih answer e' (rest answer e' admits)⟩
        intro fault answer e' alien breaks
        change (resume answer e').bind next = .raised fault e'
        rw [fails fault answer e' alien breaks, Outcome.bind]
  exact fun e => all (first e) (passes e)

/-- A change of the engine passes on whatever breaks it off. -/
theorem Passes.modify (change : Engine → Engine) : Passes (Routine.modify change : Work Unit) :=
  fun _ => trivial

/-- A look at the engine passes on whatever breaks it off. -/
theorem Passes.get : Passes (Routine.get : Work Engine) :=
  fun _ => trivial

/-- Returning passes on whatever breaks it off. -/
theorem Passes.pure (value : α) : Passes (Pure.pure value : Work α) :=
  fun _ => trivial

/-- A choice between two routines that pass on what breaks them off does so. -/
theorem Passes.ite {c : Prop} [Decidable c] {a b : Work α} (ha : c → Passes a)
    (hb : ¬c → Passes b) : Passes (if c then a else b) := by
  split
  · exact ha ‹c›
  · exact hb ‹¬c›

/-- A routine that is never kept waiting is never broken off. -/
theorem Abides.passesOn {v : V} (abides : Abides R view v o)
    (unsuspended : ∀ request, R request → request.suspends = false) : PassesOn o := by
  induction o generalizing v with
  | returned value e => exact trivial
  | raised fault e => exact trivial
  | paused e request resume ih =>
      obtain ⟨-, permitted, rest⟩ := abides
      refine ⟨?_, fun answer e' admits => ih answer e' (rest answer e' admits)⟩
      intro fault answer e' alien breaks
      exact absurd breaks.suspends (by simp [unsuspended request permitted])

/-- A routine that never waits has nothing to pass on. -/
theorem Leaves.passes {routine : Work α} (leaves : Leaves R view routine)
    (unsuspended : ∀ request, R request → request.suspends = false) : Passes routine :=
  fun e => (leaves e).passesOn unsuspended

/-- A request, if what follows fails with what breaks it off. -/
theorem Passes.ask {request : Request} {next : request.Answer → Work β}
    (fails : ∀ fault answer, fault.IsAlien → BreaksOff fault request answer →
      next answer = Routine.raise fault)
    (others : ∀ answer, request.Admits answer → Passes (next answer)) :
    Passes (ask request >>= next) := by
  refine fun e => ⟨?_, fun answer e' admits => others answer admits e'⟩
  intro fault answer e' alien breaks
  exact congrFun (fails fault answer alien breaks) e'

/-- A fault from outside is no failure of the transport, so that nothing follows on it. -/
theorem succeeded_bind_of_alien {fault : Fault} {answer : Except Fault Unit} (alien : fault.IsAlien)
    (failed : answer = .error fault) (next : Bool → Work β) :
    (succeeded answer >>= next) = Routine.raise fault := by
  rw [failed]
  cases fault with
  | foreign message => rfl
  | interrupted => rfl
  | _ => exact alien.elim

/-- Going on after an operation that succeeded or failed as a transport does. -/
theorem Passes.succeeded_bind {answer : Except Fault Unit} {next : Bool → Work β}
    (admits : FailsAsTransport answer) (others : ∀ value, Passes (next value)) :
    Passes (succeeded answer >>= next) := by
  rcases FailsAsTransport.cases admits with ⟨value, rfl⟩ | ⟨fault, rfl⟩
  · exact others true
  · exact others false

/-! ## Browses and client -/

/-- A view that shows nothing. -/
theorem remote_nothing : Remote (fun _ : Engine => ()) where
  client _ _ := rfl
  timer _ _ _ := rfl
  counts _ _ _ := rfl
  registry _ _ := rfl
  resolving _ _ := rfl
  browsers _ _ := rfl
  browserRunning _ _ := rfl
  mailbox _ _ := rfl
  failure _ _ := rfl

/-- A view that shows nothing is apart from all that handlers change. -/
theorem apart_nothing :
    Apart (fun request : Request => request.suspends = false) (fun _ : Engine => ()) := by
  apply remote_nothing.apart
  exact fun _ => Request.IsQuiet.suspends

/-- Deleting all findings passes on what breaks it off. -/
theorem passes_deleteFindings : Passes deleteFindings :=
  (leaves_deleteFindings apart_nothing).passes fun _ => id

/-- Stopping browses one after another passes on what breaks it off. -/
theorem passes_stopEach (entries : List (Service × Ticket)) : Passes (stopEach entries) := by
  induction entries with
  | nil => exact Passes.pure ()
  | cons entry rest ih =>
      apply (Passes.modify _).bind
      intro _
      apply Passes.ask
      · exact fun fault answer alien broken => succeeded_bind_of_alien alien broken _
      intro answer admits
      apply Passes.succeeded_bind admits
      intro _
      apply Passes.get.bind
      intro e
      apply Passes.ite _ fun _ => ih
      intro initial
      have lowered : Passes (Books.lower entry.1.method : Work Unit) :=
        (leaves_lower apart_nothing.toDetached _).passes fun _ => id
      exact lowered.bind fun _ => ih

/-- Stopping the browser passes on what breaks it off. -/
theorem passes_browserStop : Passes browserStop := by
  apply Passes.get.bind
  intro e
  apply (passes_stopEach _).bind
  intro _
  exact passes_deleteFindings.bind fun _ => Passes.modify _

/-- Stopping the client passes on what breaks it off. -/
theorem passes_clientStop : Passes clientStop := by
  apply Passes.get.bind
  intro e
  apply Passes.ite _ fun _ => Passes.pure ()
  intro running
  apply (Passes.modify _).bind
  intro _
  apply Passes.ask
  · exact fun fault answer alien broken => succeeded_bind_of_alien alien broken _
  · exact fun answer admits => Passes.succeeded_bind admits fun _ => Passes.pure ()

/-- Arming the restart timer passes on what breaks it off. -/
theorem passes_armRestartTimer : Passes armRestartTimer :=
  (leaves_armRestartTimer remote_nothing.toOffline (fun _ => rfl) fun _ => rfl).passes fun _ => id

/-- Starting the client passes on what breaks it off. -/
theorem passes_clientStart : Passes clientStart := by
  apply Passes.ask
  · exact fun fault answer alien broken => succeeded_bind_of_alien alien broken _
  intro answer admits
  apply Passes.succeeded_bind admits
  intro _
  exact Passes.ite (fun _ => Passes.modify _) fun _ => passes_armRestartTimer

/-- Tearing the session down passes on what breaks it off. -/
theorem passes_restartDefer : Passes restartDefer := by
  apply passes_browserStop.bind
  intro _
  exact passes_clientStop.bind fun _ => passes_armRestartTimer

/-! ## Handlers and calls -/

/-- A routine that never waits, or tears the session down in the end, passes on what breaks it off.
-/
theorem AbidesOrDefers.passesOn {v : V} {o : Outcome requests Engine Fault Unit}
    (abides : AbidesOrDefers R view v o)
    (unsuspended : ∀ request, R request → request.suspends = false) : PassesOn o := by
  induction abides with
  | abides abides => exact abides.passesOn unsuspended
  | @asks e request resume permitted rest ih =>
      refine ⟨?_, ih⟩
      intro fault answer e' alien breaks
      exact absurd breaks.suspends (by simp [unsuspended request permitted])
  | defers e => exact passes_restartDefer e

/-- Handling any event. -/
theorem passes_dispatch (event : Event) : Passes (dispatch event) := by
  by_cases timed : ∃ generation, event = .restartDue generation
  · rcases timed with ⟨generation, rfl⟩
    apply Passes.get.bind
    intro e
    apply Passes.ite _ fun _ => Passes.pure ()
    intro current
    apply (Passes.modify _).bind
    intro _
    apply Passes.get.bind
    intro e
    exact Passes.ite (fun _ => passes_clientStart) fun _ => Passes.pure ()
  · have timeless (generation : Int) : event ≠ .restartDue generation :=
      fun due => timed ⟨generation, due⟩
    intro e
    have handled := leavesOrDefers_dispatch remote_nothing (fun _ => id) event timeless
      (fun _ _ _ => rfl) e
    exact handled.passesOn fun _ => Request.IsQuiet.suspends

/-- The release of what is held passes on what breaks it off. -/
theorem passes_release : Passes release := by
  have dropped : Passes dropRestartTimer :=
    (leaves_dropRestartTimer remote_nothing.toOffline fun _ => rfl).passes fun _ => id
  apply dropped.bind
  intro _
  apply passes_browserStop.bind
  intro _
  apply passes_clientStop.bind
  intro _
  exact passes_deleteFindings.bind fun _ => Passes.modify _

/-- Stopping the engine passes on what breaks it off. -/
theorem passes_stop : Passes stop := by
  intro e
  cases hstarted : e.started with
  | false =>
      rw [stop_of_not_started hstarted]
      exact trivial
  | true =>
      have failed : Leaves (fun request : Request => request.suspends = false) (fun _ => ())
          (failEach .stopped e.waiting) := leaves_failEach (fun _ _ => rfl) _ _
      rw [stop_of_started hstarted]
      exact (failed.passes fun _ => id).bind (fun _ => passes_release) _

/-! ## Runs that are broken off -/

/-- How a run ends that is broken off: at its last request, with the engine as it was then, but for
what has happened meanwhile. -/
inductive BrokenOff (base : History) : Fault → Engine → History → Prop
  | last {fault : Fault} {e e' : Engine} {request : Request} {answer : request.Answer}
      {before : History} (alien : fault.IsAlien) (breaks : BreaksOff fault request answer)
      (disturbed : Disturbed e e') (admitted : Since Entry.Admitted base before) :
      BrokenOff base fault e' (.asked e request answer :: before)

/-- Nothing else has broken the run off. -/
theorem BrokenOff.at_last {base before : History} {fault fault' : Fault} {request : Request}
    {answer : request.Answer} (broken : BrokenOff base fault e' h)
    (recorded : .asked e request answer :: before <:+ h) (new : base <:+ before)
    (alien : fault'.IsAlien) (breaks : BreaksOff fault' request answer) :
    h = .asked e request answer :: before ∧ Disturbed e e' := by
  cases broken with
  | last alien' breaks' disturbed admitted =>
      rcases List.suffix_cons_iff.1 recorded with heq | earlier
      · obtain ⟨hentry, rfl⟩ := List.cons.inj heq
        cases hentry
        exact ⟨rfl, disturbed⟩
      · exact absurd (admitted.of_recorded earlier new) (breaks.not_admits alien)

/-- A run whose answers are all admissible, or break it off, is admissible or broken off. -/
theorem PassesOn.of_runs (passes : PassesOn o) (runs : Runs o h r e' h')
    (answered : Since Entry.AdmittedOrBreaksOff h h') :
    Since Entry.Admitted h h' ∨ ∃ fault, r = .error fault ∧ BrokenOff h fault e' h' := by
  induction runs with
  | returned value e h => exact .inl (.refl _ h)
  | raised fault e h => exact .inl (.refl _ h)
  | @paused e₁ e₂ e₃ request answer resume h₁ h₂ r disturbed rest ih =>
      obtain ⟨fails, others⟩ := passes
      obtain ⟨first, later⟩ := answered.divide (List.suffix_cons _ h₁) rest.suffix
      have answered : request.Admits answer ∨
          ∃ fault : Fault, fault.IsAlien ∧ BreaksOff fault request answer :=
        (first.of_cons (List.suffix_refl h₁)).1
      rcases answered with admits | ⟨fault, alien, breaks⟩
      · have asked : Since Entry.Admitted h₁ (.asked e₁ request answer :: h₁) :=
          (Since.refl _ h₁).cons admits
        rcases ih (others answer e₂ admits) later with admitted | ⟨fault, failed, broken⟩
        · exact .inl (asked.trans admitted)
        · cases broken with
          | last alien breaks disturbed admitted =>
              exact .inr ⟨fault, failed, .last alien breaks disturbed (asked.trans admitted)⟩
      · rw [fails fault answer e₂ alien breaks] at rest
        cases rest
        exact .inr ⟨fault, rfl, .last alien breaks disturbed (.refl _ h₁)⟩

/-- A run that is never kept waiting is admissible. -/
theorem Abides.admitted {v : V} (abides : Abides R view v o)
    (unsuspended : ∀ request, R request → request.suspends = false) (runs : Runs o h r e' h')
    (answered : Since Entry.AdmittedOrBreaksOff h h') : Since Entry.Admitted h h' := by
  induction runs generalizing v with
  | returned value e h => exact .refl _ h
  | raised fault e h => exact .refl _ h
  | @paused e₁ e₂ e₃ request answer resume h₁ h₂ r disturbed rest ih =>
      obtain ⟨-, permitted, others⟩ := abides
      obtain ⟨first, later⟩ := answered.divide (List.suffix_cons _ h₁) rest.suffix
      have answered : request.Admits answer ∨
          ∃ fault : Fault, fault.IsAlien ∧ BreaksOff fault request answer :=
        (first.of_cons (List.suffix_refl h₁)).1
      rcases answered with admits | ⟨fault, alien, breaks⟩
      · have asked : Since Entry.Admitted h₁ (.asked e₁ request answer :: h₁) :=
          (Since.refl _ h₁).cons admits
        exact asked.trans (ih (others answer e₂ admits) later)
      · exact absurd breaks.suspends (by simp [unsuspended request permitted])

/-- The engine once the event that it has been handling is finished. -/
def finished (e : Engine) : Engine :=
  { e with mailbox := e.mailbox.map Mailbox.finish }

/-- What becomes of a turn that is broken off: the event is finished all the same, and only an
interrupt is passed on. -/
theorem turn_broken_off {r : Except Fault Unit} (runs : Runs (turn e) h r e' h')
    (answered : Since Entry.AdmittedOrBreaksOff h h') :
    Since Entry.Admitted h h' ∨ ∃ fault e₁, BrokenOff h fault e₁ h' ∧ e' = e₁.finished ∧
      r = if fault = .interrupted then .error .interrupted else .ok () := by
  rw [turn, bind_get] at runs
  cases htake : e.mailbox.bind Mailbox.take? with
  | none =>
      rw [htake] at runs
      cases runs
      exact .inl (.refl _ h)
  | some taken =>
      obtain ⟨event, box⟩ := taken
      rw [htake] at runs
      obtain ⟨r₁, e₁, h₁, first, second⟩ := Runs.of_attempt_bind runs
      obtain ⟨answered₁, answered₂⟩ := answered.divide first.suffix second.suffix
      rcases (passes_dispatch event _).of_runs first answered₁ with admitted | ⟨fault, rfl, broken⟩
      · -- nothing that follows keeps the engine waiting
        left
        apply admitted.trans
        cases r₁ with
        | ok value =>
            cases second
            exact .refl _ _
        | error fault =>
            cases fault with
            | invariant violation =>
                have halted : Leaves (fun request : Request => request.suspends = false)
                    (fun _ => ()) (halt violation >>= fun _ => finish) :=
                  (leaves_halt remote_nothing (fun _ _ => rfl) violation).bind
                    fun _ => leaves_finish remote_nothing
                exact (halted e₁).admitted (fun _ => id) second answered₂
            | _ =>
                cases second
                exact .refl _ _
      · right
        refine ⟨fault, e₁, ?_⟩
        cases broken with
        | last alien breaks disturbed admitted =>
            cases fault with
            | foreign message =>
                cases second
                exact ⟨.last alien breaks disturbed admitted, rfl, rfl⟩
            | interrupted =>
                cases second
                exact ⟨.last alien breaks disturbed admitted, rfl, rfl⟩
            | _ => exact alien.elim

/-! ## A plan that breaks off -/

/-- The plan by which everything succeeds, but stopping a browse fails with a fault. -/
def Plan.failing (fault : Fault) : Plan
  | .stopBrowse _, _ => .error fault
  | request, h => Plan.willing request h

/-- By this plan every answer is admissible or breaks a routine off. -/
theorem Plan.failing_admittedOrBreaksOff {fault : Fault} (alien : fault.IsAlien) (e : Engine)
    (request : Request) (h : History) :
    Entry.AdmittedOrBreaksOff (.asked e request (Plan.failing fault request h)) := by
  cases request with
  | stopBrowse handle => exact .inr ⟨fault, alien, rfl⟩
  | _ => exact .inl (Plan.willing_admits _ h)

/-- A run that is answered by a plan records what the plan answers. -/
theorem Plan.since_run {P : Entry → Prop} {plan : Plan}
    (answers : ∀ e request h, P (.asked e request (plan request h)))
    (o : Outcome requests Engine Fault α) (h : History) :
    Since P h (o.run plan.surroundings h).2.2 := by
  induction o generalizing h with
  | returned value e => exact .refl P h
  | raised fault e => exact .refl P h
  | paused e request resume ih =>
      have asked : Since P h (.asked e request (plan request h) :: h) :=
        (Since.refl P h).cons (answers e request h)
      exact asked.trans (ih (plan request h) e _)

/-- The client has failed while all services are browsed for the first time; this is to be
handled. -/
def faltering : Moment :=
  Plan.willing.carryOut <|
    [.call .start] ++ told (.notice (.client .running)) ++
    [.beside (.post (.notice (.client .failure)))]

/-- The moment is reached in a run. -/
theorem faltering_reached : Reached faltering :=
  Plan.willing.reached _

/-- Until then the transport has failed in no other way than transports do. -/
theorem faltering_admissible : Admissible faltering.history :=
  Plan.admissible Plan.willing_admits _

end Engine

end ScannerDiscovery
