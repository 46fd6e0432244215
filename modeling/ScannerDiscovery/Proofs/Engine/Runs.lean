import ScannerDiscovery.Engine.Lifecycle

/-!
# Runs of the engine

An engine is called upon to start, to stop, to handle the next event or to answer a question.
While it waits for an answer, and between two calls, events may be posted, restart timers may
run out and listeners may register.  A run is any sequence of such steps from a new engine, with
any answers; its history records each call and each request together with the engine at that
moment, the latest first.

Main definitions:

- `Runs` : the ways in which a routine can go to its end.
- `Reached` : the states between two calls, each with the history that leads to it.
- `Admissible` : histories in which the transport fails only as transports do, and the catalog
  takes what it is given.

Main results:

- `Runs.suffix` : a history only grows.
- `Runs.exists_of_admissible` : every routine can go to its end with admissible answers.
-/

namespace ScannerDiscovery.Engine

/-! ## What happens beside the engine -/

/-- The events that wait in the mailbox. -/
def waiting (e : Engine) : List Event :=
  e.mailbox.elim [] Mailbox.waiting

/-- What can happen beside the engine while it waits or rests. -/
inductive Disturbance
  | post (event : Event)
  | timer (generation : Nat)
  | listener (name : String)

/-- The engine after something has happened beside it. -/
def Disturbance.apply (e : Engine) : Disturbance → Engine
  | post event => e.post event
  | timer generation => e.restartTimerFired generation
  | listener name => e.addListener name

/-- Whether one state comes from another by what happens beside the engine alone. -/
def Disturbed (e e' : Engine) : Prop :=
  ∃ disturbances : List Disturbance, e' = disturbances.foldl Disturbance.apply e

/-- Nothing may happen beside the engine. -/
theorem Disturbed.refl (e : Engine) : Disturbed e e :=
  ⟨[], rfl⟩

/-- One thing may happen beside the engine. -/
theorem Disturbance.disturbed (d : Disturbance) (e : Engine) : Disturbed e (d.apply e) :=
  ⟨[d], rfl⟩

/-- Posting changes nothing but the mailbox. -/
theorem post_eq (e : Engine) (event : Event) :
    e.post event = { e with mailbox := (e.post event).mailbox } := by
  unfold post
  split <;> rfl

/-- Only the mailbox, the restart timer and the listeners can be disturbed. -/
theorem Disturbance.apply_eq (e : Engine) (d : Disturbance) :
    d.apply e = { e with
      mailbox := (d.apply e).mailbox
      restart := (d.apply e).restart
      listeners := (d.apply e).listeners } := by
  cases d with
  | post event =>
      rw [apply, post_eq]
  | timer generation =>
      rw [apply, restartTimerFired]
      split <;> rw [post_eq]
  | listener name => rfl

/-- Disturbances leave the work of the engine alone. -/
theorem Disturbed.eq {e e' : Engine} (h : Disturbed e e') :
    e' = { e with
      mailbox := e'.mailbox
      restart := e'.restart
      listeners := e'.listeners } := by
  obtain ⟨disturbances, rfl⟩ := h
  induction disturbances generalizing e with
  | nil => rfl
  | cons d rest ih =>
      rw [List.foldl_cons]
      have first := Disturbance.apply_eq e d
      rw [ih (e := d.apply e)]
      rw [first]

/-- One stretch of what happens beside the engine may follow another. -/
theorem Disturbed.trans {e e' e'' : Engine} (first : Disturbed e e') (second : Disturbed e' e'') : Disturbed e e'' := by
  obtain ⟨before, rfl⟩ := first
  obtain ⟨after, rfl⟩ := second
  exact ⟨before ++ after, (List.foldl_append ..).symm⟩

/-- What happens beside the engine does not depend on the books. -/
theorem Disturbed.rebook {e e' : Engine} (disturbed : Disturbed e e') (books : Books) :
    Disturbed { e with books } { e' with books } := by
  have posted (e : Engine) (event : Event) :
      { e with books }.post event = { e.post event with books } := by
    simp only [post]
    split <;> rfl
  have one (d : Disturbance) (e : Engine) :
      d.apply { e with books } = { d.apply e with books } := by
    cases d with
    | post event => exact posted e event
    | timer generation =>
        by_cases running : e.restart = some generation
        · simp only [Disturbance.apply, restartTimerFired, if_pos running]
          exact posted { e with restart := none } _
        · simp only [Disturbance.apply, restartTimerFired, if_neg running]
          exact posted e _
    | listener name => rfl
  obtain ⟨disturbances, rfl⟩ := disturbed
  refine ⟨disturbances, ?_⟩
  induction disturbances generalizing e with
  | nil => rfl
  | cons d rest ih =>
      rw [List.foldl_cons, List.foldl_cons, one]
      exact ih

/-- Listeners are only added. -/
theorem Disturbed.listeners {e e' : Engine} (disturbed : Disturbed e e') : e.listeners <+: e'.listeners := by
  have posted (e : Engine) (event : Event) : (e.post event).listeners = e.listeners := by
    rw [post_eq]
  obtain ⟨disturbances, rfl⟩ := disturbed
  induction disturbances generalizing e with
  | nil => exact List.prefix_refl _
  | cons d rest ih =>
      refine List.IsPrefix.trans ?_ ih
      cases d with
      | post event => exact (posted e event).symm ▸ List.prefix_refl _
      | timer generation =>
          rw [Disturbance.apply, restartTimerFired, posted]
          split <;> exact List.prefix_refl _
      | listener name => exact List.prefix_append _ _

/-! ## Histories -/

/-- What the engine is called upon to do. -/
inductive Call
  | turn
  | start
  | stop
  | query (ticket : Nat) (question : Question)

/-- The routine that a call runs. -/
def Call.routine : Call → Work Unit
  | turn => Engine.turn
  | start => Engine.start
  | stop => Engine.stop
  | query ticket question => Engine.query ticket question

/-- Whether a call can be made.  Events are handled only while the engine consumes them. -/
def Call.IsPossible (e : Engine) : Call → Prop
  | turn => e.isConsuming = true
  | _ => True

/-- What a history records: a call, or a request and its answer, with the engine as it was when
the call or the request was made. -/
inductive Entry
  | called (engine : Engine) (call : Call)
  | asked (engine : Engine) (request : Request) (answer : request.Answer)

/-- What has happened so far, the latest first. -/
abbrev History := List Entry

/-- Whether a list takes turns: one thing at even places, another at odd ones. -/
def InTurns {α : Type} (one other : α) (l : List α) : Prop :=
  ∀ i a, l[i]? = some a → a = if i % 2 = 0 then one else other

/-- Nothing at all takes turns. -/
theorem InTurns.nil {α : Type} (one other : α) : InTurns one other [] := by
  intro i a ha
  simp at ha

/-- Taking turns goes on with the one whose turn it is. -/
theorem InTurns.concat {α : Type} {one other a : α} {l : List α} (turns : InTurns one other l)
    (next : a = if l.length % 2 = 0 then one else other) : InTurns one other (l ++ [a]) := by
  intro i b hb
  rw [List.getElem?_append] at hb
  by_cases hlt : i < l.length
  · rw [if_pos hlt] at hb
    exact turns i b hb
  · rw [if_neg hlt, List.getElem?_singleton] at hb
    obtain ⟨hlast, hab⟩ := Option.ite_none_right_eq_some.1 hb
    have hi : i = l.length := by omega
    rw [hi, ← Option.some.inj hab]
    exact next

/-- Whether an answer is a success or a fault of the transport. -/
def FailsAsTransport {α : Type} : Except Fault α → Prop
  | .ok _ => True
  | .error (.transport _) => True
  | .error _ => False

/-- An answer as a transport gives it is a success or a fault of the transport. -/
theorem FailsAsTransport.cases {α : Type} {answer : Except Fault α}
    (h : FailsAsTransport answer) :
    (∃ value, answer = .ok value) ∨ ∃ fault, answer = .error (.transport fault) := by
  rcases answer with fault | value
  · cases fault with
    | transport fault => exact .inr ⟨fault, rfl⟩
    | _ => exact h.elim
  · exact .inl ⟨value, rfl⟩

end Engine

/-- Whether an answer is one that a transport which fails only with its own faults, or the
catalog, may give.  The catalog takes what it is given: it keeps what its listeners fail with to
itself. -/
def Request.Admits : (request : Request) → request.Answer → Prop
  | .startClient, answer => Engine.FailsAsTransport answer
  | .stopClient, answer => Engine.FailsAsTransport answer
  | .startBrowse _, answer => Engine.FailsAsTransport answer
  | .stopBrowse _, answer => Engine.FailsAsTransport answer
  | .resolve .., answer => Engine.FailsAsTransport answer
  | .publish _, answer => answer = .ok ()
  | .withdraw _, answer => answer = .ok ()
  | .cancelResolve _, _ => True
  | .scanDone _, _ => True
  | .hear .., _ => True
  | .armRestart _, _ => True
  | .disarmRestart _, _ => True
  | .settle .., _ => True

/-- There is an admissible answer to every request. -/
theorem Request.exists_admits (request : Request) : ∃ answer, request.Admits answer := by
  cases request with
  | startBrowse => exact ⟨.ok (.number 0), trivial⟩
  | resolve => exact ⟨.ok (.number 0), trivial⟩
  | startClient => exact ⟨.ok (), trivial⟩
  | stopClient => exact ⟨.ok (), trivial⟩
  | stopBrowse => exact ⟨.ok (), trivial⟩
  | publish => exact ⟨.ok (), rfl⟩
  | withdraw => exact ⟨.ok (), rfl⟩
  | hear => exact ⟨.ok (), trivial⟩
  | cancelResolve => exact ⟨(), trivial⟩
  | scanDone => exact ⟨(), trivial⟩
  | armRestart => exact ⟨(), trivial⟩
  | disarmRestart => exact ⟨(), trivial⟩
  | settle => exact ⟨(), trivial⟩

namespace Engine

/-- Whether the answer in an entry, if there is one, is admissible. -/
def Entry.Admitted : Entry → Prop
  | called .. => True
  | asked _ request answer => request.Admits answer

/-- Whether the transport has failed only as transports do, and the catalog has taken what it
was given. -/
def Admissible (h : History) : Prop :=
  ∀ entry ∈ h, entry.Admitted

/-- What is admissible was so at every earlier time. -/
theorem Admissible.of_suffix {h h' : History} (ha : Admissible h') (hs : h <:+ h') :
    Admissible h :=
  fun entry he => ha entry (hs.subset he)

/-- An admissible entry keeps a history admissible. -/
theorem Admissible.cons {entry : Entry} {h : History} (admitted : entry.Admitted)
    (ha : Admissible h) : Admissible (entry :: h) :=
  List.forall_mem_cons.2 ⟨admitted, ha⟩

/-- Whether a history goes on from an earlier one with entries of one kind. -/
def Since (P : Entry → Prop) (base h : History) : Prop :=
  ∃ since : List Entry, h = since ++ base ∧ ∀ entry ∈ since, P entry

section Since

variable {P Q : Entry → Prop} {base h h' : History} {entry : Entry}

/-- A history goes on from itself with no entries. -/
theorem Since.refl (P : Entry → Prop) (h : History) : Since P h h :=
  ⟨[], rfl, by simp⟩

/-- One more entry of the kind may follow. -/
theorem Since.cons (hentry : P entry) (since : Since P base h) : Since P base (entry :: h) := by
  obtain ⟨entries, rfl, hentries⟩ := since
  exact ⟨entry :: entries, rfl, List.forall_mem_cons.2 ⟨hentry, hentries⟩⟩

/-- The earlier history is the end of the later one. -/
theorem Since.suffix (since : Since P base h) : base <:+ h := by
  obtain ⟨entries, rfl, -⟩ := since
  exact List.suffix_append entries base

/-- Entries of a kind are entries of a wider kind. -/
theorem Since.mono (since : Since P base h) (weaker : ∀ entry, P entry → Q entry) :
    Since Q base h := by
  obtain ⟨entries, heq, hentries⟩ := since
  exact ⟨entries, heq, fun entry hentry => weaker entry (hentries entry hentry)⟩

/-- One stretch of entries may follow another. -/
theorem Since.trans (first : Since P base h) (second : Since P h h') : Since P base h' := by
  obtain ⟨entries, rfl, hentries⟩ := first
  obtain ⟨others, rfl, hothers⟩ := second
  refine ⟨others ++ entries, (List.append_assoc _ _ _).symm, ?_⟩
  intro entry hentry
  rcases List.mem_append.1 hentry with hentry | hentry
  · exact hothers entry hentry
  · exact hentries entry hentry

/-- A history between two others divides what has happened. -/
theorem Since.divide (since : Since P base h') (hbase : base <:+ h) (hh : h <:+ h') :
    Since P base h ∧ Since P h h' := by
  obtain ⟨entries, heq, hentries⟩ := since
  obtain ⟨before, rfl⟩ := hbase
  obtain ⟨after, rfl⟩ := hh
  rw [← List.append_assoc] at heq
  rw [← List.append_cancel_right heq] at hentries
  refine ⟨⟨before, rfl, ?_⟩, ⟨after, rfl, ?_⟩⟩
  · exact fun entry hentry => hentries entry (List.mem_append_right after hentry)
  · exact fun entry hentry => hentries entry (List.mem_append_left before hentry)

/-- The latest of what has happened, and the rest of it. -/
theorem Since.of_cons (since : Since P base (entry :: h)) (hbase : base <:+ h) :
    P entry ∧ Since P base h := by
  obtain ⟨before, latest⟩ := since.divide hbase (List.suffix_cons entry h)
  obtain ⟨entries, heq, hentries⟩ := latest
  have hsingle : [entry] = entries := List.append_cancel_right (show [entry] ++ h = _ from heq)
  refine ⟨hentries entry ?_, before⟩
  rw [← hsingle]
  exact List.mem_singleton_self entry

/-- Everything that has happened since is of the kind. -/
theorem Since.of_recorded (since : Since P base h') (recorded : entry :: h <:+ h')
    (new : base <:+ h) : P entry := by
  have until_entry := since.divide (new.trans (List.suffix_cons entry h)) recorded
  exact (until_entry.1.of_cons new).1

/-- An admissible history goes on from any earlier one with admissible entries. -/
theorem Admissible.since (ha : Admissible h) (hbase : base <:+ h) :
    Since Entry.Admitted base h := by
  obtain ⟨entries, rfl⟩ := hbase
  exact ⟨entries, rfl, fun entry hentry => ha entry (List.mem_append_left base hentry)⟩

/-- Admissible entries keep a history admissible. -/
theorem Admissible.of_since (ha : Admissible base) (since : Since Entry.Admitted base h) :
    Admissible h := by
  obtain ⟨entries, rfl, hentries⟩ := since
  intro entry hentry
  rcases List.mem_append.1 hentry with hentry | hentry
  · exact hentries entry hentry
  · exact ha entry hentry

end Since

/-! ## Runs of a routine -/

variable {α : Type}

/-- How a routine can go to its end: from where it stands, with a history, to a result, a state
and the history by then. -/
inductive Runs :
    Outcome requests Engine Fault α → History → Except Fault α → Engine → History → Prop
  | returned (value : α) (e : Engine) (h : History) : Runs (.returned value e) h (.ok value) e h
  | raised (fault : Fault) (e : Engine) (h : History) : Runs (.raised fault e) h (.error fault) e h
  | paused {e e' e'' : Engine} {request : Request} {answer : request.Answer}
      {resume : request.Answer → Engine → Outcome requests Engine Fault α} {h h'' : History}
      {result : Except Fault α} (disturbed : Disturbed e e')
      (rest : Runs (resume answer e') (.asked e request answer :: h) result e'' h'') :
      Runs (.paused e request resume) h result e'' h''

/-- A history only grows. -/
theorem Runs.suffix {o : Outcome requests Engine Fault α} {h h' : History} {r : Except Fault α}
    {e' : Engine} (runs : Runs o h r e' h') : h <:+ h' := by
  induction runs with
  | returned => exact List.suffix_refl _
  | raised => exact List.suffix_refl _
  | paused _ _ ih => exact (List.suffix_cons _ _).trans ih

/-- A routine begins no calls. -/
theorem Runs.called_mem {o : Outcome requests Engine Fault α} {h h' : History} {r : Except Fault α}
    {e' : Engine} (runs : Runs o h r e' h') {call : Call} (called : .called e call ∈ h') :
    .called e call ∈ h := by
  induction runs with
  | returned => exact called
  | raised => exact called
  | paused _ _ ih => exact (List.mem_cons.1 (ih called)).resolve_left (by simp)

/-- What an admissible run begins with is admissible. -/
theorem Runs.admissible_before {o : Outcome requests Engine Fault α} {entry : Entry}
    {h h' : History} {r : Except Fault α} {e' : Engine} (runs : Runs o (entry :: h) r e' h')
    (admissible : Admissible h') : Admissible h :=
  admissible.of_suffix ((List.suffix_cons _ _).trans runs.suffix)

/-- Every routine can go to its end with admissible answers. -/
theorem Runs.exists_of_admissible (o : Outcome requests Engine Fault α) {h : History}
    (ha : Admissible h) : ∃ r e' h', Runs o h r e' h' ∧ Admissible h' := by
  induction o generalizing h with
  | returned value e => exact ⟨_, _, _, .returned value e h, ha⟩
  | raised fault e => exact ⟨_, _, _, .raised fault e h, ha⟩
  | paused e request resume ih =>
      obtain ⟨answer, admits⟩ := Request.exists_admits request
      have asked : Admissible (.asked e request answer :: h) := ha.cons admits
      obtain ⟨r, e', h', runs, ha''⟩ := ih answer e asked
      exact ⟨r, e', h', .paused (.refl e) runs, ha''⟩

/-- A run of two routines one after another is a run of the first that fails, or one of each. -/
theorem Runs.of_bind {β : Type} {o : Outcome requests Engine Fault α} {next : α → Work β}
    {h h' : History} {r : Except Fault β} {e' : Engine} (runs : Runs (o.bind next) h r e' h') :
    (∃ fault, r = .error fault ∧ Runs o h (.error fault) e' h') ∨
      ∃ value e₁ h₁, Runs o h (.ok value) e₁ h₁ ∧ Runs (next value e₁) h₁ r e' h' := by
  induction o generalizing h with
  | returned value e => exact .inr ⟨value, e, h, .returned value e h, runs⟩
  | raised fault e =>
      cases runs
      exact .inl ⟨fault, rfl, .raised fault _ _⟩
  | paused e request resume ih =>
      cases runs with
      | paused disturbed rest =>
          rcases ih _ _ rest with ⟨fault, heq, first⟩ | ⟨value, e₁, h₁, first, second⟩
          · exact .inl ⟨fault, heq, .paused disturbed first⟩
          · exact .inr ⟨value, e₁, h₁, .paused disturbed first, second⟩

/-- A run of a routine, and one of what follows on its value. -/
theorem Runs.bind {β : Type} {o : Outcome requests Engine Fault α} {next : α → Work β} {e' e'' : Engine}
    {h h' h'' : History} {value : α} {r : Except Fault β} (first : Runs o h (.ok value) e' h')
    (second : Runs (next value e') h' r e'' h'') : Runs (o.bind next) h r e'' h'' := by
  generalize result : Except.ok value = ended at first
  induction first with
  | returned value' e₁ h₁ =>
      obtain rfl := Except.ok.inj result
      exact second
  | raised fault e₁ h₁ => cases result
  | paused disturbed rest ih => exact .paused disturbed (ih second result)

/-- A run of a routine whose fault is caught is a run of it, and one of what follows. -/
theorem Runs.of_attempt_bind {β : Type} {o : Outcome requests Engine Fault α}
    {next : Except Fault α → Work β} {h h' : History} {r : Except Fault β} {e' : Engine}
    (runs : Runs (o.attempt.bind next) h r e' h') :
    ∃ r₁ e₁ h₁, Runs o h r₁ e₁ h₁ ∧ Runs (next r₁ e₁) h₁ r e' h' := by
  induction o generalizing h with
  | returned value e => exact ⟨.ok value, e, h, .returned value e h, runs⟩
  | raised fault e => exact ⟨.error fault, e, h, .raised fault e h, runs⟩
  | paused e request resume ih =>
      cases runs with
      | paused disturbed rest =>
          obtain ⟨r₁, e₁, h₁, first, second⟩ := ih _ _ rest
          exact ⟨r₁, e₁, h₁, .paused disturbed first, second⟩

/-- A run whose last request is answered otherwise can go on to its end. -/
theorem Runs.resumed {o : Outcome requests Engine Fault α} {h h' : History} {r : Except Fault α}
    {e e' : Engine} {request : Request} {answer answer' : request.Answer}
    (runs : Runs o h r e' (.asked e request answer :: h')) (further : h <:+ h')
    (ha : Admissible h') (admits : request.Admits answer') :
    ∃ r₂ e₂ h₂, Runs o h r₂ e₂ h₂ ∧ Admissible h₂ ∧ .asked e request answer' :: h' <:+ h₂ := by
  generalize hlast : Entry.asked e request answer :: h' = last at runs
  induction runs with
  | returned value e₁ h₁ =>
      rw [← hlast] at further
      exact absurd further.length_le (by simp)
  | raised fault e₁ h₁ =>
      rw [← hlast] at further
      exact absurd further.length_le (by simp)
  | @paused e₁ e₂ e₃ request₁ answer₁ resume h₁ h₂ r disturbed rest ih =>
      rw [← hlast] at rest ih
      rcases List.suffix_cons_iff.1 rest.suffix with heq | hsuffix
      · -- the last request is the first one
        obtain ⟨hentry, rfl⟩ := List.cons.inj heq
        cases hentry
        have asked : Admissible (.asked e request answer' :: h₁) := ha.cons admits
        obtain ⟨r₂, e₄, h₄, others, ha₄⟩ := Runs.exists_of_admissible (resume answer' e₂) asked
        exact ⟨r₂, e₄, h₄, .paused disturbed others, ha₄, others.suffix⟩
      · obtain ⟨r₂, e₄, h₄, others, ha₄, hsuffix₄⟩ := ih hsuffix rfl
        exact ⟨r₂, e₄, h₄, .paused disturbed others, ha₄, hsuffix₄⟩

/-! ## Runs of an engine -/

/-- A state between two calls, and what has happened so far. -/
structure Moment where
  engine : Engine
  history : History

/-- One step of a run: a call, or something that happens beside the engine. -/
inductive Step : Moment → Moment → Prop
  | call {e e' : Engine} {h h' : History} {r : Except Fault Unit} (call : Call)
      (possible : call.IsPossible e)
      (runs : Runs (call.routine e) (.called e call :: h) r e' h') : Step ⟨e, h⟩ ⟨e', h'⟩
  | beside (e : Engine) (h : History) (d : Disturbance) : Step ⟨e, h⟩ ⟨d.apply e, h⟩

/-- The moments of all runs of a new engine. -/
inductive Reached : Moment → Prop
  | new (enabled : Bool) (ipVersion : IpVersion) : Reached ⟨{ enabled, ipVersion }, []⟩
  | step {m n : Moment} (before : Reached m) (step : Step m n) : Reached n

/-- A step goes on with the history. -/
theorem Step.suffix {m n : Moment} (step : Step m n) : m.history <:+ n.history := by
  cases step with
  | call call possible runs => exact (List.suffix_cons _ _).trans runs.suffix
  | beside e h d => exact List.suffix_refl _

end Engine

end ScannerDiscovery
