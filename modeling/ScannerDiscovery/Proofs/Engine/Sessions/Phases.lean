import ScannerDiscovery.Proofs.Engine.Sessions.Secures

/-!
# The phases of a started engine

A started engine is up, its session being open, or down, a restart being on its way: a restart timer
sleeps, or has rung and waits in the queue behind all that the last session has posted.  While it is
up, all that waits has been posted by the session that is open.  What can happen beside the engine
keeps it in its phase.

Main definitions:

- `Pulse` : the part of the engine's state that phases are about.
- `Up`, `Sleeping`, `Due`, `Down` : the phases.
- `BetweenCalls` : what holds between two calls.

Main results:

- `Up.happens`, `Down.happens`, `BetweenCalls.happens` : what happens keeps the phase.
- `BetweenCalls.taken` : the phase when the next event is taken from the mailbox.
-/

namespace ScannerDiscovery.Engine

/-! ## The pulse -/

/-- The part of an engine's state that its phases are about, with the events that wait in its
mailbox, if it has one. -/
structure Pulse where
  waiting? : Option (List Event)
  restart : Option Nat
  generation : Nat
  clientRunning : Bool
  stopping : Bool
  failure : Option Violation
  started : Bool
  enabled : Bool

/-- The pulse of an engine. -/
def pulse (e : Engine) : Pulse :=
  ⟨e.mailbox.map Mailbox.waiting, e.restart, e.generation, e.clientRunning, e.stopping, e.failure,
    e.started, e.enabled⟩

variable {e e' : Engine} {s s' : Scene} {p p' : Pulse} {queue : List (Event × Option Nat)}
  {happening : Happening}

/-- What happens changes nothing of the pulse but mailbox and restart timer, -/
theorem pulse_apply (e : Engine) (d : Disturbance) :
    (d.apply e).pulse =
      { e.pulse with waiting? := (d.apply e).pulse.waiting?, restart := (d.apply e).restart } := by
  rw [Disturbance.apply_eq]
  rfl

@[simp]
theorem restart_post (e : Engine) (event : Event) : (e.post event).restart = e.restart := by
  rw [post_eq]

@[simp]
theorem Scene.asleep_posted (s : Scene) (e : Engine) (event : Event) (origin : Option Nat) :
    (s.posted e event origin).asleep = s.asleep := by
  unfold posted
  split <;> rfl

/-- and nothing of the sessions. -/
@[simp]
theorem Scene.sessions_after (s : Scene) (e : Engine) (happening : Happening) :
    (s.after e happening).sessions = s.sessions := by
  cases happening <;> simp only [after, posted] <;> split <;> rfl

@[simp]
theorem Scene.isOpen_after (s : Scene) (e : Engine) (happening : Happening) :
    (s.after e happening).isOpen = s.isOpen := by
  cases happening <;> simp only [after, posted] <;> split <;> rfl

/-- A mailbox is neither opened nor closed by what happens. -/
theorem isSome_waiting?_apply (e : Engine) (d : Disturbance) :
    (d.apply e).pulse.waiting?.isSome = e.pulse.waiting?.isSome := by
  have post (e : Engine) (event : Event) :
      (e.post event).pulse.waiting?.isSome = e.pulse.waiting?.isSome := by
    unfold Engine.post
    split <;> simp_all [pulse]
  cases d with
  | post event => exact post e event
  | timer generation =>
      simp only [Disturbance.apply, restartTimerFired]
      rw [post]
      split <;> rfl
  | listener name => rfl

/-! ## The queue -/

/-- Whether a queue of posts waits in the mailbox of an engine that is going to handle them. -/
structure Queued (p : Pulse) (s : Scene) (queue : List (Event × Option Nat)) : Prop where
  taken : queue <:+ s.posts
  waiting : p.waiting? = some (queue.map Prod.fst)
  unfailed : p.failure = none
  going : p.stopping = false

/-- A queue waits on while mailbox and posts are left alone. -/
theorem Queued.same (queued : Queued p s queue) (hwaiting : p'.waiting? = p.waiting?)
    (hfailure : p'.failure = p.failure) (hstopping : p'.stopping = p.stopping)
    (hposts : s'.posts = s.posts) : Queued p' s' queue :=
  ⟨hposts ▸ queued.taken, hwaiting.trans queued.waiting, hfailure.trans queued.unfailed,
    hstopping.trans queued.going⟩

theorem Queued.takesPosts (queued : Queued e.pulse s queue) : e.takesPosts = true := by
  obtain ⟨box, hmailbox, -⟩ := Option.map_eq_some_iff.1 queued.waiting
  have unfailed : e.failure = none := queued.unfailed
  simp [Engine.takesPosts, hmailbox, unfailed]

/-- An event that is posted is queued last. -/
theorem Queued.post (queued : Queued e.pulse s queue) (event : Event) (origin : Option Nat) :
    Queued (e.post event).pulse (s.posted e event origin) (queue ++ [(event, origin)]) := by
  obtain ⟨box, hmailbox, hwaiting⟩ := Option.map_eq_some_iff.1 queued.waiting
  have unfailed : e.failure = none := queued.unfailed
  have hpost : e.post event = { e with mailbox := some (box.put event) } := by
    simp [Engine.post, hmailbox, unfailed]
  rw [hpost, Scene.posted, if_pos queued.takesPosts]
  refine ⟨?_, ?_, unfailed, queued.going⟩
  · obtain ⟨earlier, hposts⟩ := queued.taken
    exact ⟨earlier, by simp [← hposts]⟩
  · simp [pulse, Mailbox.put, hwaiting]

theorem Queued.waiting_eq (queued : Queued e.pulse s queue) : e.waiting = queue.map Prod.fst := by
  obtain ⟨box, hmailbox, hwaiting⟩ := Option.map_eq_some_iff.1 queued.waiting
  simp [Engine.waiting, hmailbox, hwaiting]

/-- The queue of a scene is the one that waits. -/
theorem Queued.queue_eq (queued : Queued e.pulse s queue) : s.queue e = queue := by
  rw [Scene.queue, queued.waiting_eq, List.length_map]
  exact (List.suffix_iff_eq_drop.1 queued.taken).symm

/-- How a queue grows while no timer rings: by what the open session or someone else posts. -/
structure Grown (e e' : Engine) (s s' : Scene) (queue more : List (Event × Option Nat)) :
    Prop where
  queued : Queued e'.pulse s' (queue ++ more)
  undue : ∀ post ∈ more, ¬post.1.IsDue
  origin : ∀ post ∈ more, ∀ k, post.2 = some k → s.current? = some k
  restart : e'.restart = e.restart
  asleep : s'.asleep = s.asleep

/-- A timer rings, or the queue grows. -/
theorem Queued.rings_or_grows (queued : Queued e.pulse s queue)
    (possible : happening.IsPossible s) :
    (∃ generation ∈ s.asleep, happening = .ring generation) ∨
      ∃ more, Grown e (happening.disturbance.apply e) s (s.after e happening) queue more := by
  cases happening with
  | ring generation => exact .inl ⟨generation, possible, rfl⟩
  | listener name =>
      refine .inr ⟨[], ?_, by simp, by simp, rfl, rfl⟩
      rw [List.append_nil]
      exact queued.same rfl rfl rfl rfl
  | post event origin =>
      obtain ⟨undue, current⟩ := possible
      refine .inr ⟨[(event, origin)], queued.post event origin, ?_, ?_, ?_, ?_⟩
      · simpa using undue
      · simpa using current
      · exact restart_post e event
      · exact Scene.asleep_posted s e event origin

/-! ## Up -/

/-- Whether no restart timer sleeps and none has rung. -/
structure Untimed (p : Pulse) (s : Scene) (queue : List (Event × Option Nat)) : Prop where
  queued : Queued p s queue
  undue : ∀ post ∈ queue, ¬post.1.IsDue
  restart : p.restart = none
  asleep : s.asleep = []

/-- No timer comes to a queue that waits on while timers are left alone. -/
theorem Untimed.same (untimed : Untimed p s queue) (hwaiting : p'.waiting? = p.waiting?)
    (hfailure : p'.failure = p.failure) (hstopping : p'.stopping = p.stopping)
    (hposts : s'.posts = s.posts) (hrestart : p'.restart = p.restart)
    (hasleep : s'.asleep = s.asleep) : Untimed p' s' queue :=
  ⟨untimed.queued.same hwaiting hfailure hstopping hposts, untimed.undue,
    hrestart.trans untimed.restart, hasleep.trans untimed.asleep⟩

/-- Whether a session is open that has posted all that waits and is posted by sessions, while there
is no restart timer. -/
structure InOpenSession (p : Pulse) (s : Scene) : Prop where
  isOpen : s.isOpen = true
  untimed : ∃ queue, Untimed p s queue ∧ ∀ post ∈ queue, ∀ k, post.2 = some k → k = s.sessions

/-- Whether an engine is up: its client runs, and the session is open that has posted all that
waits. -/
structure Up (p : Pulse) (s : Scene) : Prop extends InOpenSession p s where
  client : p.clientRunning = true
  started : p.started = true

/-- Without a timer the queue just grows. -/
theorem Untimed.after (untimed : Untimed e.pulse s queue) (possible : happening.IsPossible s) :
    ∃ more, Untimed (happening.disturbance.apply e).pulse (s.after e happening) (queue ++ more) ∧
      ∀ post ∈ more, ∀ k, post.2 = some k → s.current? = some k := by
  rcases untimed.queued.rings_or_grows possible with ⟨generation, hasleep, -⟩ | ⟨more, grown⟩
  · simp [untimed.asleep] at hasleep
  · refine ⟨more, ⟨grown.queued, ?_, ?_, ?_⟩, grown.origin⟩
    · intro post hpost
      rcases List.mem_append.1 hpost with hpost | hpost
      · exact untimed.undue post hpost
      · exact grown.undue post hpost
    · exact grown.restart.trans untimed.restart
    · exact grown.asleep.trans untimed.asleep

/-- An open session goes on. -/
theorem InOpenSession.happens (inSession : InOpenSession e.pulse s) (happens : Happens e s e' s') :
    InOpenSession e'.pulse s' := by
  refine happens.keeps (I := fun e s => InOpenSession e.pulse s) ?_ inSession
  rintro e s happening possible ⟨isOpen, queue, untimed, origin⟩
  obtain ⟨more, untimed', origin'⟩ := untimed.after possible
  refine ⟨(s.isOpen_after e happening).trans isOpen, queue ++ more, untimed',
    fun post hpost k hk => ?_⟩
  rw [Scene.sessions_after]
  rcases List.mem_append.1 hpost with hpost | hpost
  · exact origin post hpost k hk
  · have current := origin' post hpost k hk
    rw [Scene.current?, if_pos isOpen] at current
    exact (Option.some.inj current).symm

/-- What happens leaves alone whether the client runs, whether the engine is started, and whether
discovery is enabled, -/
theorem Happens.standing (happens : Happens e s e' s') :
    e'.clientRunning = e.clientRunning ∧ e'.started = e.started ∧ e'.enabled = e.enabled := by
  have heq := happens.disturbed.eq
  rw [heq]
  exact ⟨rfl, rfl, rfl⟩

/-- and whether it has a mailbox, -/
theorem Happens.isSome_waiting? (happens : Happens e s e' s') :
    e'.pulse.waiting?.isSome = e.pulse.waiting?.isSome :=
  happens.keeps (I := fun e₁ _ => e₁.pulse.waiting?.isSome = e.pulse.waiting?.isSome)
    (fun _ _ hI => (isSome_waiting?_apply _ _).trans hI) rfl

theorem Happens.closed (happens : Happens e s e' s') (closed : e.pulse.waiting? = none) :
    e'.pulse.waiting? = none := by
  have hsome := happens.isSome_waiting?
  rw [closed] at hsome
  exact Option.not_isSome_iff_eq_none.1 (by simp [hsome])

/-- and whether a session is open. -/
theorem Happens.isOpen_eq (happens : Happens e s e' s') : s'.isOpen = s.isOpen :=
  happens.keeps (I := fun _ s' => s'.isOpen = s.isOpen)
    (fun _ _ hI => (Scene.isOpen_after _ _ _).trans hI) rfl

/-- An engine stays up whatever happens. -/
theorem Up.happens (up : Up e.pulse s) (happens : Happens e s e' s') : Up e'.pulse s' :=
  ⟨up.toInOpenSession.happens happens, happens.standing.1.trans up.client,
    happens.standing.2.1.trans up.started⟩

/-! ## Down -/

/-- Whether the client of a started engine is down, its session being over. -/
structure Closed (p : Pulse) (s : Scene) : Prop where
  ended : s.isOpen = false
  down : p.clientRunning = false
  started : p.started = true

/-- Whether a restart timer sleeps, and it alone is to restart the engine. -/
structure Sleeping (p : Pulse) (s : Scene) : Prop extends Closed p s where
  queued : ∃ queue, Queued p s queue ∧ ∀ post ∈ queue, ¬post.1.IsDue
  restart : p.restart = some p.generation
  asleep : s.asleep = [p.generation]

/-- Whether the restart timer has rung, and it alone is to restart the engine.  What sessions have
posted waits before it. -/
structure Due (p : Pulse) (s : Scene) : Prop extends Closed p s where
  queued : ∃ before after, Queued p s (before ++ (.restartDue p.generation, none) :: after) ∧
    (∀ post ∈ before, ¬post.1.IsDue) ∧ ∀ post ∈ after, ¬post.1.IsDue ∧ post.2 = none
  restart : p.restart = none
  asleep : s.asleep = []

/-- Whether an engine is down and a restart is on its way. -/
def Down (p : Pulse) (s : Scene) : Prop :=
  Sleeping p s ∨ Due p s

theorem Down.closed (down : Down p s) : Closed p s :=
  down.elim Sleeping.toClosed Due.toClosed

/-- A session that is over stays so. -/
theorem Closed.after (closed : Closed e.pulse s) (happening : Happening) :
    Closed (happening.disturbance.apply e).pulse (s.after e happening) := by
  rw [pulse_apply]
  exact ⟨(s.isOpen_after e happening).trans closed.ended, closed.down, closed.started⟩

/-- No session posts while none is open. -/
theorem Closed.current? (closed : Closed p s) : s.current? = none := by
  rw [Scene.current?, closed.ended]
  rfl

/-- The timer rings, or sleeps on. -/
theorem Sleeping.after (sleeping : Sleeping e.pulse s) (possible : happening.IsPossible s) :
    Down (happening.disturbance.apply e).pulse (s.after e happening) := by
  have closed := sleeping.toClosed.after happening
  obtain ⟨queue, queued, undue⟩ := sleeping.queued
  rcases queued.rings_or_grows possible with ⟨generation, hasleep, rfl⟩ | ⟨more, grown⟩
  · rw [sleeping.asleep, List.mem_singleton] at hasleep
    subst hasleep
    have restart : e.restart = some e.pulse.generation := sleeping.restart
    -- the engine takes note of the timer before the event is posted
    have fired : e.restartTimerFired e.pulse.generation =
        ({ e with restart := none }).post (.restartDue e.pulse.generation) := by
      rw [restartTimerFired, if_pos restart]
    have hqueued := Queued.post (e := { e with restart := none })
      (s := { s with asleep := s.asleep.erase e.pulse.generation })
      (queued.same rfl rfl rfl rfl)
      (.restartDue e.pulse.generation) none
    simp only [Happening.disturbance, Disturbance.apply, fired] at closed ⊢
    refine .inr ⟨closed, ⟨queue, [], ?_, undue, by simp⟩, ?_, ?_⟩
    · rw [post_eq]
      rw [post_eq] at hqueued
      exact hqueued
    · rw [post_eq]
      rfl
    · simp [Scene.after, sleeping.asleep]
  · have hpulse := pulse_apply e happening.disturbance
    refine .inl ⟨closed, ⟨queue ++ more, grown.queued, fun post hpost => ?_⟩, ?_, ?_⟩
    · rcases List.mem_append.1 hpost with hpost | hpost
      · exact undue post hpost
      · exact grown.undue post hpost
    · rw [hpulse]
      exact grown.restart.trans sleeping.restart
    · rw [hpulse]
      exact grown.asleep.trans sleeping.asleep

/-- A timer that has rung does not ring again. -/
theorem Due.after (due : Due e.pulse s) (possible : happening.IsPossible s) :
    Due (happening.disturbance.apply e).pulse (s.after e happening) := by
  have closed := due.toClosed.after happening
  obtain ⟨before, after, queued, undue, aside⟩ := due.queued
  rcases queued.rings_or_grows possible with ⟨generation, hasleep, rfl⟩ | ⟨more, grown⟩
  · simp [due.asleep] at hasleep
  · have hpulse := pulse_apply e happening.disturbance
    refine ⟨closed, ⟨before, after ++ more, ?_, undue, fun post hpost => ?_⟩, ?_, ?_⟩
    · have hqueued := grown.queued
      rw [List.append_assoc, List.cons_append] at hqueued
      rw [hpulse] at hqueued ⊢
      exact hqueued
    · rcases List.mem_append.1 hpost with hpost | hpost
      · exact aside post hpost
      · refine ⟨grown.undue post hpost, ?_⟩
        cases horigin : post.2 with
        | none => rfl
        | some k =>
            have current := grown.origin post hpost k horigin
            simp [due.toClosed.current?] at current
    · exact grown.restart.trans due.restart
    · exact grown.asleep.trans due.asleep

/-- A restart that is on its way stays so. -/
theorem Down.happens (down : Down e.pulse s) (happens : Happens e s e' s') : Down e'.pulse s' := by
  refine happens.keeps (I := fun e s => Down e.pulse s) ?_ down
  rintro e s happening possible (sleeping | due)
  · exact sleeping.after possible
  · exact .inr (due.after possible)

/-- Whether an engine is in one of the phases of an engine that is started and not halted. -/
def InPhase (p : Pulse) (s : Scene) : Prop :=
  Up p s ∨ Down p s

/-- An engine stays in its phases whatever happens. -/
theorem InPhase.happens (phase : InPhase e.pulse s) (happens : Happens e s e' s') :
    InPhase e'.pulse s' :=
  phase.imp (·.happens happens) (·.happens happens)

theorem InPhase.started (phase : InPhase p s) : p.started = true :=
  phase.elim Up.started fun down => down.closed.started

theorem InPhase.queued (phase : InPhase p s) : ∃ queue, Queued p s queue := by
  rcases phase with up | sleeping | due
  · obtain ⟨queue, untimed, -⟩ := up.untimed
    exact ⟨queue, untimed.queued⟩
  · obtain ⟨queue, queued, -⟩ := sleeping.queued
    exact ⟨queue, queued⟩
  · obtain ⟨before, after, queued, -⟩ := due.queued
    exact ⟨_, queued⟩

/-! ## At rest -/

/-- Whether nothing can arrive at an engine: it has no mailbox, and no timer sleeps. -/
structure NothingArrives (p : Pulse) (s : Scene) : Prop where
  closed : p.waiting? = none
  asleep : s.asleep = []

/-- Whether an engine that nothing reaches knows of no timer, and its client runs just while a
session is open. -/
structure AtRest (p : Pulse) (s : Scene) : Prop extends NothingArrives p s where
  restart : p.restart = none
  client : s.isOpen = p.clientRunning

/-- Nothing that happens arrives at such an engine, and its timer is left alone. -/
theorem NothingArrives.happens (unreached : NothingArrives e.pulse s)
    (happens : Happens e s e' s') : NothingArrives e'.pulse s' ∧ e'.restart = e.restart := by
  have silent : s'.asleep = [] ∧ e'.restart = e.restart := by
    refine happens.keeps (I := fun e₁ s₁ => s₁.asleep = [] ∧ e₁.restart = e.restart) ?_
      ⟨unreached.asleep, rfl⟩
    rintro e₁ s₁ happening possible ⟨asleep, hrestart⟩
    cases happening with
    | ring generation => simp [Happening.IsPossible, asleep] at possible
    | post event origin =>
        exact ⟨(Scene.asleep_posted s₁ e₁ event origin).trans asleep,
          (restart_post e₁ event).trans hrestart⟩
    | listener name => exact ⟨asleep, hrestart⟩
  exact ⟨⟨happens.closed unreached.closed, silent.1⟩, silent.2⟩

theorem AtRest.happens (rest : AtRest e.pulse s) (happens : Happens e s e' s') :
    AtRest e'.pulse s' := by
  obtain ⟨unreached, restart⟩ := rest.toNothingArrives.happens happens
  refine ⟨unreached, restart.trans rest.restart, ?_⟩
  exact (happens.isOpen_eq.trans rest.client).trans happens.standing.1.symm

/-! ## Between two calls -/

/-- Whether timer and client of an engine match the scene: the timer that the engine knows of is the
one that sleeps, and its client runs just while a session is open. -/
structure MatchesScene (p : Pulse) (s : Scene) : Prop where
  timer : s.asleep = p.restart.toList
  client : s.isOpen = p.clientRunning

/-- What holds between two calls: an engine that is not started is at rest; a started one has a
mailbox, if discovery is enabled; and while it is not halted, it is in one of its phases. -/
structure BetweenCalls (p : Pulse) (s : Scene) : Prop extends MatchesScene p s where
  rest : p.started = false → AtRest p s
  open_of : p.started = true → p.enabled = true → p.waiting?.isSome = true
  phase : p.started = true → p.waiting?.isSome = true → p.failure = none → InPhase p s

theorem AtRest.matchesScene (rest : AtRest p s) : MatchesScene p s :=
  ⟨by rw [rest.asleep, rest.restart]; rfl, rest.client⟩

theorem InPhase.matchesScene (phase : InPhase p s) : MatchesScene p s := by
  rcases phase with up | down
  · obtain ⟨queue, untimed, -⟩ := up.untimed
    exact ⟨by rw [untimed.asleep, untimed.restart]; rfl, up.isOpen.trans up.client.symm⟩
  · refine ⟨?_, down.closed.ended.trans down.closed.down.symm⟩
    rcases down with sleeping | due
    · rw [sleeping.asleep, sleeping.restart]
      rfl
    · rw [due.asleep, due.restart]
      rfl

/-- An engine at rest is ready for a call, -/
theorem AtRest.betweenCalls (rest : AtRest p s) (unstarted : p.started = false) :
    BetweenCalls p s :=
  ⟨rest.matchesScene, fun _ => rest, by simp [unstarted], by simp [unstarted]⟩

/-- and so is one in its phases. -/
theorem InPhase.betweenCalls (phase : InPhase p s) : BetweenCalls p s := by
  obtain ⟨queue, queued⟩ := phase.queued
  refine ⟨phase.matchesScene, by simp [phase.started], fun _ _ => ?_, fun _ _ _ => phase⟩
  rw [queued.waiting]
  rfl

/-- Whatever happens, the engine knows of the timer that sleeps. -/
theorem MatchesScene.happens (matching : MatchesScene e.pulse s) (happens : Happens e s e' s') :
    MatchesScene e'.pulse s' := by
  refine ⟨?_, (happens.isOpen_eq.trans matching.client).trans happens.standing.1.symm⟩
  refine happens.keeps (I := fun e s => s.asleep = e.restart.toList) ?_ matching.timer
  intro e s happening possible timer
  cases happening with
  | post event origin =>
      simpa [Scene.after, Happening.disturbance, Disturbance.apply] using timer
  | listener name => exact timer
  | ring generation =>
      have hasleep : generation ∈ s.asleep := possible
      rw [timer, Option.mem_toList] at hasleep
      simp [Scene.after, Happening.disturbance, Disturbance.apply, restartTimerFired, timer,
        hasleep]

/-- What happens between two calls keeps what holds there. -/
theorem BetweenCalls.happens (between : BetweenCalls e.pulse s) (happens : Happens e s e' s') :
    BetweenCalls e'.pulse s' := by
  obtain ⟨-, hstarted, henabled⟩ := happens.standing
  have hwaiting := happens.isSome_waiting?
  have hfailure : e'.failure = e.failure := by
    rw [happens.disturbed.eq]
  refine ⟨between.toMatchesScene.happens happens, fun unstarted => ?_, fun started enabled => ?_,
    fun started opened unfailed => ?_⟩
  · exact (between.rest (hstarted.symm.trans unstarted)).happens happens
  · exact hwaiting.trans
      (between.open_of (hstarted.symm.trans started) (henabled.symm.trans enabled))
  · exact (between.phase (hstarted.symm.trans started) (hwaiting.symm.trans opened)
      (hfailure.symm.trans unfailed)).happens happens

/-- An engine that handles events is in one of its phases. -/
theorem BetweenCalls.inPhase (between : BetweenCalls e.pulse s) (consuming : e.isConsuming = true) :
    InPhase e.pulse s := by
  simp only [isConsuming, isRunning, Bool.and_eq_true, Option.isNone_iff_eq_none] at consuming
  obtain ⟨⟨started, unfailed⟩, opened⟩ := consuming
  exact between.phase started (Option.isSome_map.trans opened) unfailed

/-! ## The next event -/

/-- Whether the engine is to be restarted at once: its session is over, no timer is left, and no
session has posted anything that waits. -/
structure Renewable (p : Pulse) (s : Scene) : Prop extends Closed p s where
  untimed : ∃ queue, Untimed p s queue ∧ ∀ post ∈ queue, post.2 = none

/-- The first post of a queue is the one that is taken. -/
theorem Queued.take {event : Event} {box : Mailbox} (queued : Queued e.pulse s queue)
    (htake : e.mailbox.bind Mailbox.take? = some (event, box)) :
    ∃ origin rest, queue = (event, origin) :: rest ∧
      Queued ({ e with mailbox := some box } : Engine).pulse s rest := by
  obtain ⟨before, hmailbox, hwaiting⟩ := Option.map_eq_some_iff.1 queued.waiting
  rw [hmailbox, Option.bind_some] at htake
  unfold Mailbox.take? at htake
  split at htake
  · simp at htake
  · rename_i first others hfirst
    obtain ⟨rfl, rfl⟩ := Prod.mk.inj (Option.some.inj htake)
    rw [hfirst] at hwaiting
    obtain ⟨⟨event, origin⟩, rest, rfl, rfl, rfl⟩ := List.map_eq_cons_iff.1 hwaiting.symm
    exact ⟨origin, rest, rfl, (List.suffix_cons _ _).trans queued.taken, rfl, queued.unfailed,
      queued.going⟩

/-- The phase once an event has been taken: unless it says that the timer has rung, and the engine
is to be restarted, it is the same. -/
theorem BetweenCalls.taken {event : Event} {box : Mailbox} (between : BetweenCalls e.pulse s)
    (consuming : e.isConsuming = true)
    (htake : e.mailbox.bind Mailbox.take? = some (event, box)) :
    ¬event.IsDue ∧ InPhase ({ e with mailbox := some box } : Engine).pulse s ∨
      event = .restartDue e.generation ∧
        Renewable ({ e with mailbox := some box } : Engine).pulse s := by
  rcases between.inPhase consuming with up | sleeping | due
  · obtain ⟨queue, untimed, origin⟩ := up.untimed
    obtain ⟨k, rest, rfl, queued⟩ := untimed.queued.take htake
    obtain ⟨undue, undue'⟩ := List.forall_mem_cons.1 untimed.undue
    refine .inl ⟨undue, .inl ⟨⟨up.isOpen, rest, ?_, (List.forall_mem_cons.1 origin).2⟩, up.client,
      up.started⟩⟩
    exact ⟨queued, undue', untimed.restart, untimed.asleep⟩
  · obtain ⟨queue, queued, undue⟩ := sleeping.queued
    obtain ⟨k, rest, rfl, queued'⟩ := queued.take htake
    obtain ⟨undue, undue'⟩ := List.forall_mem_cons.1 undue
    refine .inl ⟨undue, .inr (.inl ⟨?_, ⟨rest, queued', undue'⟩, sleeping.restart,
      sleeping.asleep⟩)⟩
    exact ⟨sleeping.ended, sleeping.down, sleeping.started⟩
  · have closed : Closed ({ e with mailbox := some box } : Engine).pulse s :=
      ⟨due.ended, due.down, due.started⟩
    obtain ⟨before, after, queued, undue, aside⟩ := due.queued
    cases before with
    | nil =>
        obtain ⟨k, rest, heq, queued'⟩ := queued.take htake
        obtain ⟨hpost, rfl⟩ := List.cons.inj heq
        refine .inr ⟨(congrArg Prod.fst hpost).symm, closed, after, ?_,
          fun post hpost => (aside post hpost).2⟩
        exact ⟨queued', fun post hpost => (aside post hpost).1, due.restart, due.asleep⟩
    | cons post before =>
        obtain ⟨k, rest, heq, queued'⟩ := queued.take htake
        obtain ⟨rfl, rfl⟩ := List.cons.inj heq
        obtain ⟨undue, undue'⟩ := List.forall_mem_cons.1 undue
        exact .inl ⟨undue, .inr (.inr ⟨closed, ⟨before, after, queued', undue', aside⟩,
          due.restart, due.asleep⟩)⟩

end ScannerDiscovery.Engine
