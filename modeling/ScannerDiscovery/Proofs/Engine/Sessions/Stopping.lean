import ScannerDiscovery.Proofs.Engine.Frame.Handlers
import ScannerDiscovery.Proofs.Engine.InitialScan
import ScannerDiscovery.Proofs.Engine.Lockstep
import ScannerDiscovery.Proofs.Engine.Sessions.Recovery

/-!
# Stopping the engine

Between two calls a started engine can be stopped whatever it is doing.  It gives back all it holds,
the queries that wait fail, and nothing reaches it until it is started again, which it then does as
a fresh engine that has seen the same of the initial scan.

Main definitions:

- `settled` : the queries that have been settled, and how.
- `Released` : an engine that has given everything back.
- `Rests` : what can happen until the next start.

Main results:

- `ensures_stop_settled` : the queries that stopping the engine settles.
- `Played.sealed` : while discovery is disabled nothing reaches the engine.
- `Rests.same` : nothing but listeners changes a stopped and empty engine.
- `stop_completes` : stopping the engine at any moment of a run.
-/

namespace ScannerDiscovery

/-- The ticket of an event that is a query. -/
def Event.ticket? : Event → Option Nat
  | .query ticket _ => some ticket
  | _ => none

namespace Engine

variable {e e' : Engine} {h h' : History} {s s' : Scene} {E : Fault → Engine → History → Prop}

/-! ## Settled queries -/

/-- The query that is settled, and how. -/
def Entry.settled? : Entry → Option (Nat × Except Fault Reply)
  | .asked _ (.settle ticket outcome) _ => some (ticket, outcome)
  | _ => none

/-- The queries that have been settled, the latest first. -/
def settled (h : History) : List (Nat × Except Fault Reply) :=
  h.filterMap Entry.settled?

/-- The queries that wait in the mailbox, each with the fault of an engine that has been stopped. -/
def unanswered (events : List Event) : List (Nat × Except Fault Reply) :=
  (events.filterMap Event.ticket?).map fun ticket => (ticket, .error .stopped)

/-- Queries among discarded events are settled, in order. -/
theorem ensures_failEach_settled (events : List Event) :
    Ensures (fun _ _ h' => settled h' = (unanswered events).reverse ++ settled h) E
      (failEach .stopped events e) h := by
  induction events generalizing e h with
  | nil => exact rfl
  | cons event rest ih =>
      cases event with
      | query ticket question =>
          simp only [failEach, ensures_bind]
          apply ensures_ask
          intro answer e' admits disturbed
          apply ih.imp
          intro value e₁ h₁ hsettled
          rw [hsettled]
          simp [unanswered, settled, Entry.settled?, Event.ticket?]
      | notice notice => exact ih
      | restartDue generation => exact ih
      | unknown => exact ih

/-- Releasing what is held settles no query. -/
theorem ensures_release_settled :
    Ensures (fun _ _ h' => settled h' = settled h) (fun _ _ _ => True) (release e) h := by
  have apart : Apart (fun request => ∀ ticket outcome, request ≠ .settle ticket outcome)
      fun _ => () :=
    { counts := fun _ _ _ => rfl, resolving := fun _ _ => rfl, browsers := fun _ _ => rfl
      browserRunning := fun _ _ => rfl, registry := fun _ _ => rfl
      scanDone := by simp, cancelResolve := by simp, startBrowse := by simp, publish := by simp
      withdraw := by simp, hear := by simp }
  have leaves := leaves_release apart ⟨fun _ _ => rfl, fun _ _ _ => rfl⟩ (by simp) (by simp)
    (by simp) fun _ _ => rfl
  apply (leaves.ensures (I := fun _ h' => settled h' = settled h) _ _ rfl).mono
  · exact fun _ _ _ => id
  · exact fun _ _ _ _ => trivial
  · exact fun _ => id
  · intro e e' request answer h₁ other admits disturbed hsettled
    rw [← hsettled]
    cases request with
    | settle ticket outcome => exact absurd rfl (other ticket outcome)
    | _ => rfl

/-- Stopping the engine settles the queries that wait, and no others. -/
theorem ensures_stop_settled (started : e.started = true) :
    Ensures (fun _ _ h' => settled h' = (unanswered e.waiting).reverse ++ settled h)
      (fun _ _ _ => True) (stop e) h := by
  rw [stop_of_started started, ensures_bind]
  apply (ensures_failEach_settled e.waiting).imp
  intro value e₁ h₁ hsettled
  rw [← hsettled]
  exact ensures_release_settled

/-- After it has been stopped the engine is not started. -/
theorem ensures_stop_started :
    Ensures (fun _ e' _ => e'.started = false) (fun _ _ _ => True) (stop e) h := by
  have any {α : Type} {o : Outcome requests Engine Fault α} {Q : α → Engine → History → Prop}
      {h : History} (all : ∀ v e h, Q v e h) : Ensures Q (fun _ _ _ => True) o h :=
    .of_forall all fun _ _ _ => trivial
  cases hstarted : e.started with
  | false =>
      rw [stop_of_not_started hstarted]
      exact hstarted
  | true =>
      rw [stop_of_started hstarted]
      simp only [release, ensures_bind, ensures_modify]
      refine any fun _ _ _ => any fun _ _ _ => any fun _ _ _ => any fun _ _ _ => any ?_
      exact fun _ _ _ => trivial

/-! ## While discovery is disabled -/

/-- What decides whether the engine takes events: its mailbox being there, and how it has
failed. -/
def inlet (e : Engine) : Bool × Option Violation :=
  (e.mailbox.isSome, e.failure)

theorem Disturbed.inlet (disturbed : Disturbed e e') : e'.inlet = e.inlet := by
  rcases disturbed with ⟨beside, rfl⟩
  induction beside generalizing e with
  | nil => rfl
  | cons d rest ih =>
      have hopen := isSome_waiting?_apply e d
      simp only [pulse, Option.isSome_map] at hopen
      have hfailure : (d.apply e).failure = e.failure := by
        rw [Disturbance.apply_eq]
      rw [List.foldl_cons, ih]
      exact Prod.ext hopen hfailure

theorem apart_inlet : Apart (fun _ => True) inlet :=
  { counts := fun _ _ _ => rfl, resolving := fun _ _ => rfl, browsers := fun _ _ => rfl
    browserRunning := fun _ _ => rfl, registry := fun _ _ => rfl
    scanDone := fun _ => trivial, cancelResolve := fun _ => trivial
    startBrowse := fun _ => trivial, publish := fun _ => trivial, withdraw := fun _ => trivial
    hear := fun _ _ _ => trivial }

theorem offline_inlet : Offline inlet :=
  ⟨fun _ _ => rfl, fun _ _ _ => rfl⟩

/-- While discovery is disabled no call gives the engine a mailbox, and none fails it. -/
theorem Call.ensures_inlet {call : Call} (possible : call.IsPossible e)
    (disabled : e.enabled = false) (hinlet : e.inlet = (false, none)) :
    Ensures (fun _ e' _ => e'.inlet = (false, none)) (fun _ e' _ => e'.inlet = (false, none))
      (call.routine e) h := by
  have keeps {routine : Work Unit} (leaves : Leaves (fun _ => True) inlet routine) {e₁ : Engine}
      (hinlet₁ : e₁.inlet = (false, none)) :
      Ensures (fun _ e' _ => e'.inlet = (false, none)) (fun _ e' _ => e'.inlet = (false, none))
        (routine e₁) h := by
    apply (leaves.ensures (I := fun e' _ => e'.inlet = (false, none)) _ _ hinlet₁).mono
    · exact fun _ _ _ => id
    · exact fun _ _ _ failed => failed.2
    · exact fun same before => same.trans before
    · exact fun _ _ disturbed before => disturbed.inlet.trans before
  have closed : e.mailbox = none := by
    simpa [inlet] using congrArg Prod.fst hinlet
  have unfailed : e.failure = none := congrArg Prod.snd hinlet
  cases call with
  | turn => simp [Call.IsPossible, isConsuming, closed] at possible
  | start =>
      rw [routine, Engine.start, bind_get, ensures_ite, ensures_ite]
      refine ⟨fun _ => hinlet, fun _ => ⟨fun _ => ?_, fun enabled => ?_⟩⟩
      · have fire : Leaves (fun _ => True) inlet (do
            Books.fireAll
            Routine.modify fun e => { e with started := true } : Work Unit) :=
          (leaves_fireAll apart_inlet.toDetached fun _ _ => rfl).bind fun _ =>
            Leaves.modify fun _ => rfl
        exact keeps fire hinlet
      · simp [disabled] at enabled
  | stop =>
      rw [routine]
      cases hstarted : e.started with
      | false =>
          rw [stop_of_not_started hstarted]
          exact hinlet
      | true =>
          rw [stop_of_started hstarted]
          apply keeps
          · apply (leaves_failEach (fun _ _ => trivial) _ _).bind
            intro _
            exact leaves_release apart_inlet offline_inlet (fun _ => trivial) (fun _ => trivial)
              trivial fun _ _ => rfl
          · exact Prod.ext rfl unfailed
  | query ticket question =>
      have opened : e.mailbox.isNone = true := by simp [closed]
      have failed : ¬e.failure.isSome = true := by simp [unfailed]
      rw [routine, Engine.query, bind_get, if_neg failed, if_pos opened]
      apply ensures_ask
      exact fun _ _ _ disturbed => disturbed.inlet.trans hinlet

/-- While discovery is disabled the engine has no mailbox, and does not fail. -/
theorem Reached.sealed {m : Moment} (reached : Reached m) (admissible : Admissible m.history)
    (disabled : m.engine.enabled = false) : m.engine.inlet = (false, none) := by
  induction reached with
  | new enabled ipVersion => rfl
  | step before step ih =>
      have disabled' := (step.enabled admissible).symm.trans disabled
      have hinlet := ih (admissible.of_suffix step.suffix) disabled'
      cases step with
      | @call e e' h h' r call possible runs =>
          have ends := (Call.ensures_inlet possible disabled' hinlet).of_runs runs admissible
          cases r with
          | ok value => exact ends
          | error fault => exact ends
      | beside e h d => exact (d.disturbed e).inlet.trans hinlet

/-! ## Stopped and empty -/

/-- An engine that is not started is empty, too, and no restart timer sleeps. -/
theorem Played.stoppedAndEmpty {m : Moment} (played : Played m s)
    (admissible : Admissible m.history) (unstarted : m.engine.started = false) :
    StoppedAndEmpty m.engine ∧ s.asleep = [] := by
  have reached := played.reached
  have rest : AtRest m.engine.pulse s := (played.betweenCalls admissible).rest unstarted
  have orderly := (reached.conducted admissible).2
  have down : m.engine.clientRunning = false := by
    cases hclient : m.engine.clientRunning with
    | false => rfl
    | true => exact absurd ((orderly.started hclient).symm.trans unstarted) (by simp)
  have idle : m.engine.browserRunning = false := (orderly.of_down down).1
  obtain ⟨browsers, live, resolving, -⟩ := reached.idle admissible idle
  have count := (reached.sound admissible).balanced.count_of_idle browsers live
  exact ⟨⟨unstarted, Option.map_eq_none_iff.1 rest.closed, rest.restart, down, idle, browsers,
    resolving, live, count, fun disabled => congrArg Prod.snd (reached.sealed admissible disabled)⟩,
    rest.asleep⟩

/-- Listeners do not disturb a stopped and empty engine, -/
theorem StoppedAndEmpty.listeners (empty : StoppedAndEmpty e) (listeners : List String) :
    StoppedAndEmpty { e with listeners } :=
  ⟨empty.started, empty.mailbox, empty.restart, empty.client, empty.browsing, empty.browsers,
    empty.resolving, empty.live, empty.count, empty.unfailed⟩

/-- events do not reach it, -/
theorem StoppedAndEmpty.post (empty : StoppedAndEmpty e) (event : Event) : e.post event = e := by
  apply post_of_not_takesPosts
  simp [takesPosts, empty.mailbox]

/-- and neither do timers. -/
theorem StoppedAndEmpty.restartTimerFired (empty : StoppedAndEmpty e) (generation : Nat) :
    e.restartTimerFired generation = e := by
  have other : ¬e.restart = some generation := by simp [empty.restart]
  rw [Engine.restartTimerFired, if_neg other]
  exact empty.post _

/-- So nothing but listeners changes it. -/
theorem StoppedAndEmpty.disturbed (empty : StoppedAndEmpty e) (disturbed : Disturbed e e') :
    e' = { e with listeners := e'.listeners } := by
  rcases disturbed with ⟨beside, rfl⟩
  induction beside generalizing e with
  | nil => rfl
  | cons d rest ih =>
      rw [List.foldl_cons]
      cases d with
      | post event =>
          rw [Disturbance.apply, empty.post]
          exact ih empty
      | timer generation =>
          rw [Disturbance.apply, empty.restartTimerFired]
          exact ih empty
      | listener name => exact ih (empty.listeners _)

/-! ## Until the next start -/

/-- What can happen after a moment until the engine is started again. -/
inductive Rests (m : Moment) : Moment → Prop
  | refl : Rests m m
  | call {e e' : Engine} {h h' : History} {r : Except Fault Unit} (before : Rests m ⟨e, h⟩)
      (call : Call) (other : call ≠ .start) (possible : call.IsPossible e)
      (runs : Runs (call.routine e) (.called e call :: h) r e' h') : Rests m ⟨e', h'⟩
  | beside {e : Engine} {h : History} (before : Rests m ⟨e, h⟩) (d : Disturbance) :
      Rests m ⟨d.apply e, h⟩

/-- Calls change a stopped and empty engine no more than what happens beside it, unless they start
it. -/
theorem StoppedAndEmpty.call {call : Call} {r : Except Fault Unit} (empty : StoppedAndEmpty e)
    (other : call ≠ .start) (possible : call.IsPossible e)
    (runs : Runs (call.routine e) h r e' h') : Disturbed e e' := by
  have asked {ticket : Nat} {outcome : Except Fault Reply}
      (runs : Runs (ask (.settle ticket outcome) e) h r e' h') : Disturbed e e' := by
    cases runs with
    | paused disturbed rest =>
        cases rest
        exact disturbed
  cases call with
  | turn => simp [Call.IsPossible, isConsuming, isRunning, empty.started] at possible
  | start => exact absurd rfl other
  | stop =>
      rw [Call.routine, stop_of_not_started empty.started] at runs
      cases runs
      exact .refl e
  | query ticket question =>
      have opened : e.mailbox.isNone = true := by simp [empty.mailbox]
      rw [Call.routine, Engine.query, bind_get] at runs
      by_cases failed : e.failure.isSome = true
      · rw [if_pos failed] at runs
        exact asked runs
      · rw [if_neg failed, if_pos opened] at runs
        exact asked runs

/-- Until the next start nothing but listeners changes a stopped and empty engine. -/
theorem Rests.same {m n : Moment} (rests : Rests m n) (empty : StoppedAndEmpty m.engine) :
    n.engine = { m.engine with listeners := n.engine.listeners } := by
  have later {e e' : Engine} (same : e = { m.engine with listeners := e.listeners })
      (disturbed : Disturbed e e') : e' = { m.engine with listeners := e'.listeners } := by
    have empty' : StoppedAndEmpty e := same ▸ empty.listeners _
    rw [empty'.disturbed disturbed, same]
  induction rests with
  | refl => rfl
  | call before call other possible runs ih =>
      have empty' : StoppedAndEmpty _ := ih ▸ empty.listeners _
      exact later ih (empty'.call other possible runs)
  | beside before d ih => exact later ih (d.disturbed _)

/-! ## Stopping -/

/-- Whether an engine has given back everything: nothing is live, resolved or browsed, published or
counted, and neither the client runs nor a restart timer. -/
structure Released (e : Engine) (h : History) (s : Scene) : Prop where
  live : e.registry.live = []
  resolving : e.resolving = .empty
  browsers : e.browsers = .empty
  withdrawn : (catalogAfter h).findings = .empty
  count : ∀ m, e.gate.count m = 0
  client : e.clientRunning = false
  browsing : e.browserRunning = false
  restart : e.restart = none
  asleep : s.asleep = []

/-- Stopping a started engine at any moment of a run returns, with everything given back, and with
the queries that waited failed.  Until the engine is started again, events, timers and a second stop
change nothing; and it starts as a fresh engine does that has the same phases, reports and
listeners. -/
theorem stop_completes {m : Moment} {r : Except Fault Unit} (played : Played m s)
    (started : m.engine.started = true)
    (plays : Plays (stop m.engine) (.called m.engine .stop :: m.history) s r e h s')
    (admissible : Admissible h) :
    r = .ok () ∧ Released e h s' ∧
    settled h = (unanswered m.engine.waiting).reverse ++ settled m.history ∧
    ∀ n, Rests ⟨e, h⟩ n →
      n.engine = { e with listeners := n.engine.listeners } ∧
      (∀ event, n.engine.post event = n.engine) ∧
      (∀ generation, n.engine.restartTimerFired generation = n.engine) ∧
      stop n.engine = .returned () n.engine ∧
      InStep Alike (start n.engine) (start n.engine.renewed) := by
  have after : Played ⟨e, h⟩ s' := .call played .stop trivial plays
  have returned : r = .ok () := by
    cases r with
    | ok value => rfl
    | error fault =>
        have runs : Runs (Call.stop.routine m.engine) (.called m.engine .stop :: m.history)
            (.error fault) e h := plays.runs
        have possible : Call.stop.IsPossible m.engine := trivial
        have failing := played.reached.call_eq_start possible runs admissible
        exact absurd failing.1 (by simp)
  subst returned
  have unstarted : e.started = false := ensures_stop_started.of_runs plays.runs admissible
  obtain ⟨empty, asleep⟩ := after.stoppedAndEmpty admissible unstarted
  have withdrawn := (after.reached.idle admissible empty.browsing).2.2.2
  refine ⟨rfl, ?_, (ensures_stop_settled started).of_runs plays.runs admissible, ?_⟩
  · exact ⟨empty.live, empty.resolving, empty.browsers, withdrawn, empty.count, empty.client,
      empty.browsing, empty.restart, asleep⟩
  · intro n rests
    have same := rests.same empty
    have empty' : StoppedAndEmpty n.engine := same ▸ empty.listeners _
    exact ⟨same, empty'.post, empty'.restartTimerFired, stop_of_not_started empty'.started,
      inStep_start empty'⟩

/-- The relapse, with a query that waits behind the end of the restart timer. -/
def inquiry : Moment × Scene :=
  Plan.willing.play (relapseScript ++ [.call (.query 7 .names)])

/-- How stopping the engine ends then. -/
def inquiryStopped : Except Fault Unit × Engine × History × Scene :=
  (stop inquiry.1.engine).run Plan.willing.stage
    (.called inquiry.1.engine .stop :: inquiry.1.history, inquiry.2)

/-- The query fails then, and everything is given back. -/
theorem inquiry_stops :
    inquiry.1.engine.started = true ∧
    unanswered inquiry.1.engine.waiting = [(7, .error .stopped)] ∧
    inquiryStopped.1 = .ok () ∧
    Released inquiryStopped.2.1 inquiryStopped.2.2.1 inquiryStopped.2.2.2 ∧
    settled inquiryStopped.2.2.1 =
      (unanswered inquiry.1.engine.waiting).reverse ++ settled inquiry.1.history ∧
    ∀ n, Rests ⟨inquiryStopped.2.1, inquiryStopped.2.2.1⟩ n →
      n.engine = { inquiryStopped.2.1 with listeners := n.engine.listeners } ∧
      (∀ event, n.engine.post event = n.engine) ∧
      (∀ generation, n.engine.restartTimerFired generation = n.engine) ∧
      stop n.engine = .returned () n.engine ∧
      InStep Alike (start n.engine) (start n.engine.renewed) := by
  have started : inquiry.1.engine.started = true := by decide +kernel
  refine ⟨started, by decide +kernel, ?_⟩
  have played : Played inquiry.1 inquiry.2 := by
    unfold inquiry
    exact Plan.willing.played _
  have before : Admissible inquiry.1.history := by
    unfold inquiry
    exact Plan.admissible_play Plan.willing_admits _
  have called : Admissible (.called inquiry.1.engine .stop :: inquiry.1.history) :=
    before.cons trivial
  have plays : Plays (stop inquiry.1.engine) (.called inquiry.1.engine .stop :: inquiry.1.history)
      inquiry.2 inquiryStopped.1 inquiryStopped.2.1 inquiryStopped.2.2.1 inquiryStopped.2.2.2 := by
    unfold inquiryStopped
    exact Plan.willing.plays _ _ _
  have admissible : Admissible inquiryStopped.2.2.1 := by
    unfold inquiryStopped
    exact Plan.admissible_stage Plan.willing_admits _ _ called
  exact stop_completes played started plays admissible

end Engine

end ScannerDiscovery
