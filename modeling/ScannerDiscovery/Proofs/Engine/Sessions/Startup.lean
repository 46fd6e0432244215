import ScannerDiscovery.Proofs.Engine.Sessions.Stopping

/-!
# Starts that fail

While the engine waits for its client to be started it takes events and questions already.  If the
client cannot be started, all of them are dropped again, and the engine is left as it was: it gives
back the fault of the transport, holds nothing, and starts like a fresh one the next time.  But the
questions are dropped with the other events, and whoever has asked them waits in vain.

Main definitions:

- `FailedStart` : a start whose client cannot be started.
- `FailedStart.accepted` : the queries that the engine has taken meanwhile.
- `FailedStart.Restored` : starts that leave nothing behind in the engine.

Main results:

- `query_of_takesPosts` : a question asked meanwhile is put into the mailbox.
- `failed_start_restores` : a start that fails restores the engine, and settles no query.
- `failed_start_loses_query` : one that takes a query and never settles it.
-/

namespace ScannerDiscovery.Engine

variable {e e' : Engine} {h : History} {s s' : Scene}

/-! ## While the engine waits -/

/-- A question is put into the mailbox of an engine that takes events. -/
theorem query_of_takesPosts (takes : e.takesPosts = true) (ticket : Nat) (question : Question) :
    query ticket question e = .returned () (e.post (.query ticket question)) := by
  obtain ⟨opened, unfailed⟩ := Bool.and_eq_true_iff.1 takes
  have failure : ¬e.failure.isSome = true := by simpa using unfailed
  have mailbox : ¬e.mailbox.isNone = true := by simpa [← Option.isSome_iff_ne_none] using opened
  rw [query, bind_get, if_neg failure, if_neg mailbox]
  rfl

/-- The engine while its client is being started. -/
def starting (e : Engine) : Engine :=
  { e with mailbox := some .empty, stopping := false, failure := none }

/-- What an engine does that starts its client: it waits for the answer, and goes back to dropping
events if that is a fault of the transport. -/
theorem start_of_enabled (unstarted : e.started = false) (enabled : e.enabled = true) :
    ∃ resume : Except Fault Unit → Engine → Outcome requests Engine Fault Unit,
      start e = .paused e.starting .startClient resume ∧
      ∀ cause e', resume (.error (.transport cause)) e' =
        .raised (.startup cause) { e' with mailbox := none } := by
  have idle : ¬e.started = true := by simp [unstarted]
  have active : ¬(!e.enabled) = true := by simp [enabled]
  rw [start, bind_get, if_neg idle, if_neg active]
  exact ⟨_, rfl, fun _ _ => rfl⟩

/-! ## Starts that fail -/

/-- A start at a moment of a run whose client cannot be started.  While the engine waits for the
answer, anything may happen beside it that can. -/
structure FailedStart (m : Moment) (s : Scene) where
  /-- Why the client cannot be started. -/
  cause : TransportFault
  result : Except Fault Unit
  after : Moment
  scene : Scene
  unstarted : m.engine.started = false
  enabled : m.engine.enabled = true
  plays : Plays (start m.engine) (.called m.engine .start :: m.history) s result after.engine
    after.history scene
  refused : ∃ e, .asked e .startClient (.error (.transport cause)) ::
    .called m.engine .start :: m.history <:+ after.history

namespace FailedStart

variable {m : Moment} (f : FailedStart m s)

/-- The queries that the engine has taken while it waited. -/
def accepted : List Nat :=
  ((f.scene.posts.drop s.posts.length).map (·.1)).filterMap Event.ticket?

/-- How a failed start goes: the engine waits, then drops what it has taken, and fails. -/
theorem course : ∃ e s', Happens m.engine.starting (s.asked .startClient) e s' ∧
    f.result = .error (.startup f.cause) ∧
    f.after.engine = { e with mailbox := none } ∧
    f.after.history = .asked m.engine.starting .startClient (.error (.transport f.cause)) ::
      .called m.engine .start :: m.history ∧
    f.scene = { s' with isOpen := false } := by
  obtain ⟨resume, hstart, hresume⟩ := start_of_enabled f.unstarted f.enabled
  have plays := f.plays
  rw [hstart] at plays
  generalize hresult : f.result = result at plays
  generalize hengine : f.after.engine = engine at plays
  generalize hhistory : f.after.history = history at plays
  generalize hscene : f.scene = scene at plays
  cases plays with
  | @paused _ e₁ _ _ answer _ _ _ _ s₁ _ _ happens rest =>
      have refused : answer = .error (.transport f.cause) := by
        obtain ⟨e₂, recorded⟩ := f.refused
        rw [hhistory] at recorded
        have suffix := List.suffix_of_suffix_length_le recorded rest.runs.suffix (by simp)
        have same := suffix.eq_of_length (by simp)
        cases (List.cons.inj same).1
        rfl
      subst refused
      rw [hresume] at rest
      cases rest
      exact ⟨e₁, s₁, happens, rfl, rfl, rfl, rfl⟩

/-- Whether a start that has failed leaves nothing behind in the engine: it fails for the reason
that the transport has given, nothing that is kept has changed, nothing is consumed and no restart
timer sleeps.  Until the next start nothing but listeners changes; and that runs as the first start
of a fresh engine with the same phases, reports and listeners. -/
structure Restored : Prop where
  raised : f.result = .error (.startup f.cause)
  registry : f.after.engine.registry = m.engine.registry
  gate : f.after.engine.gate = m.engine.gate
  catalog : catalogAfter f.after.history = catalogAfter m.history
  resolving : f.after.engine.resolving = m.engine.resolving
  browsers : f.after.engine.browsers = m.engine.browsers
  browsing : f.after.engine.browserRunning = m.engine.browserRunning
  client : f.after.engine.clientRunning = m.engine.clientRunning
  started : f.after.engine.started = m.engine.started
  running : f.after.engine.isRunning = m.engine.isRunning
  dropped : f.after.engine.mailbox = none
  idle : f.after.engine.isConsuming = false
  restart : f.after.engine.restart = none
  asleep : f.scene.asleep = []
  again : ∀ n, Rests f.after n →
    n.engine = { f.after.engine with listeners := n.engine.listeners } ∧
    InStep Alike (start n.engine) (start n.engine.renewed)

/-- Whether every query that was taken while the engine waited has been settled. -/
def SettlesAccepted : Prop :=
  ∀ ticket ∈ f.accepted, ∃ outcome, (ticket, outcome) ∈ settled f.after.history

end FailedStart

/-- A start that fails leaves nothing behind in the engine.  But it settles no query: those that the
engine has taken meanwhile are dropped with the other events. -/
theorem failed_start_restores {m : Moment} (played : Played m s) (admissible : Admissible m.history)
    (f : FailedStart m s) : f.Restored ∧ settled f.after.history = settled m.history := by
  obtain ⟨e, s', happens, raised, hengine, hhistory, hscene⟩ := f.course
  have kept := happens.disturbed.eq
  have after : Played f.after f.scene := .call played .start trivial f.plays
  have admissible' : Admissible f.after.history := by
    have called : Admissible (.called m.engine .start :: m.history) := admissible.cons trivial
    rw [hhistory]
    exact called.cons trivial
  have unstarted : f.after.engine.started = false := by
    rw [hengine, kept]
    exact f.unstarted
  obtain ⟨empty, asleep⟩ := after.stoppedAndEmpty admissible' unstarted
  have restored : f.Restored := {
    raised := raised
    registry := by
      rw [hengine, kept]
      rfl
    gate := by
      rw [hengine, kept]
      rfl
    catalog := by
      rw [hhistory]
      rfl
    resolving := by
      rw [hengine, kept]
      rfl
    browsers := by
      rw [hengine, kept]
      rfl
    browsing := by
      rw [hengine, kept]
      rfl
    client := by
      rw [hengine, kept]
      rfl
    started := unstarted.trans f.unstarted.symm
    running := by simp [isRunning, unstarted, f.unstarted]
    dropped := empty.mailbox
    idle := by simp [isConsuming, empty.mailbox]
    restart := empty.restart
    asleep := asleep
    again := by
      intro n rests
      have same := rests.same empty
      have empty' : StoppedAndEmpty n.engine := same ▸ empty.listeners _
      exact ⟨same, inStep_start empty'⟩ }
  refine ⟨restored, ?_⟩
  rw [hhistory]
  rfl

/-! ## A query that is lost -/

/-- A new engine. -/
def dormant : Moment :=
  ⟨{ enabled := true, ipVersion := .all }, []⟩

/-- What happens while its client is being started: the session that has been begun reports its
state, and somebody asks a question. -/
def meanwhile : List Happening :=
  [.post (.notice (.client .connecting)) (some 1), .post (.query 7 .names) none]

/-- A start that fails for want of memory, after an event and a query have been taken. -/
def starved : FailedStart dormant {} where
  cause := ⟨"start_client", some "no memory"⟩
  result := .error (.startup ⟨"start_client", some "no memory"⟩)
  after := ⟨{ enabled := true, ipVersion := .all },
    [.asked dormant.engine.starting .startClient
      (.error (.transport ⟨"start_client", some "no memory"⟩)), .called dormant.engine .start]⟩
  scene := { sessions := 1, posts := [(.notice (.client .connecting), some 1),
    (.query 7 .names, none)] }
  unstarted := rfl
  enabled := rfl
  plays := by
    have first : (meanwhile[0]).IsPossible (({} : Scene).asked .startClient) := by decide
    have second : (meanwhile[1]).IsPossible (({} : Scene).asked .startClient) := by decide
    have happens : Happens dormant.engine.starting (({} : Scene).asked .startClient) _ _ :=
      .step (meanwhile[0]) first (.step (meanwhile[1]) second (.refl _ _))
    obtain ⟨resume, hstart, hresume⟩ := start_of_enabled (e := dormant.engine) rfl rfl
    let answer : Except Fault Unit := .error (.transport ⟨"start_client", some "no memory"⟩)
    rw [hstart]
    refine @Plays.paused _ _ _ _ _ answer _ _ _ _ _ _ _ happens ?_
    rw [hresume]
    exact .raised _ _ _ _
  refused := ⟨_, List.suffix_refl _⟩

/-- The engine is as it was then, but the query has not been settled. -/
theorem starved_restored :
    starved.accepted = [7] ∧ starved.Restored ∧
      settled starved.after.history = settled dormant.history :=
  ⟨by decide +kernel, failed_start_restores (.new true .all) (List.forall_mem_nil _) starved⟩

/-- A start that fails can lose a query that the engine has taken. -/
theorem failed_start_loses_query :
    ¬∀ (m : Moment) (s : Scene) (f : FailedStart m s), Played m s → Admissible m.history →
      f.Restored ∧ f.SettlesAccepted := by
  intro always
  have played : Played dormant {} := .new true .all
  have settles := (always dormant {} starved played (List.forall_mem_nil _)).2
  have taken : 7 ∈ starved.accepted := by decide +kernel
  obtain ⟨outcome, hmem⟩ := settles 7 taken
  have none : settled starved.after.history = [] := by decide +kernel
  rw [none] at hmem
  cases hmem

end ScannerDiscovery.Engine
