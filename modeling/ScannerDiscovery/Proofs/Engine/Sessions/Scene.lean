import ScannerDiscovery.Proofs.Engine.Runs

/-!
# Sessions and timers around the engine

A run does not say where events come from.  Its scene does: it numbers the sessions of the client,
says whether the latest is open, which restart timers sleep, and who has posted the events that the
engine has taken.  A session posts while it is open, which is from the moment when its client is
asked for until that has failed, or the request that the client be stopped has been answered; a
timer posts when it has slept, unless it is disarmed before; and nobody else posts what timers post.

Main definitions:

- `Scene` : what is known of sessions, timers and posts.
- `Happening`, `Happens` : what can happen beside the engine in a scene.
- `Plays`, `Played` : runs of a routine, and moments of runs, with their scenes.
- `Scene.queue` : the events that wait in the mailbox, with those who have posted them.

Main results:

- `Happens.keeps` : what single happenings keep.
- `Played.reached` : the moments of runs with scenes are moments of runs.
-/

namespace ScannerDiscovery

/-- Whether an event says that a restart timer has run out. -/
def Event.IsDue : Event → Prop
  | restartDue _ => True
  | _ => False

namespace Engine

/-- Whether events that are posted are put into the mailbox. -/
def takesPosts (e : Engine) : Bool :=
  e.mailbox.isSome && e.failure.isNone

/-- Events that are not put into the mailbox are dropped. -/
theorem post_of_not_takesPosts {e : Engine} (untaken : e.takesPosts = false) (event : Event) :
    e.post event = e := by
  unfold post
  split
  · simp_all [takesPosts]
  · rfl

/-! ## Scenes -/

/-- What is known around the engine: the restart timers that sleep, the number of sessions so far,
whether the latest of them is open, and the events that the engine has taken, the earliest first,
each with the session that has posted it, if it was one. -/
structure Scene where
  asleep : List Nat := []
  sessions : Nat := 0
  isOpen : Bool := false
  posts : List (Event × Option Nat) := []

namespace Scene

/-- The session that is open. -/
def current? (s : Scene) : Option Nat :=
  if s.isOpen then some s.sessions else none

/-- The scene after an event has been posted to an engine. -/
def posted (s : Scene) (e : Engine) (event : Event) (origin : Option Nat) : Scene :=
  if e.takesPosts then { s with posts := s.posts ++ [(event, origin)] } else s

/-- The scene once a request has been made.  A session is open as soon as its client is asked
for. -/
def asked (s : Scene) : Request → Scene
  | .startClient => { s with sessions := s.sessions + 1, isOpen := true }
  | .armRestart generation => { s with asleep := generation :: s.asleep }
  | .disarmRestart generation => { s with asleep := s.asleep.erase generation }
  | _ => s

/-- The scene once a request has been answered.  A session is over if its client could not be
started, and after its client was to be stopped, whether that has succeeded or not. -/
def answered (s : Scene) : (request : Request) → request.Answer → Scene
  | .startClient, .error _ => { s with isOpen := false }
  | .stopClient, _ => { s with isOpen := false }
  | _, _ => s

/-- The scene once a call has begun.  A question is put into the mailbox. -/
def called (s : Scene) (e : Engine) : Call → Scene
  | .query ticket question => s.posted e (.query ticket question) none
  | _ => s

/-- The events that wait in the mailbox, which are those that have been taken last, each with the
session that has posted it. -/
def queue (s : Scene) (e : Engine) : List (Event × Option Nat) :=
  s.posts.drop (s.posts.length - e.waiting.length)

end Scene

/-! ## What happens in a scene -/

/-- What can happen beside the engine: a session or someone else posts an event, a restart timer
runs out, or a listener registers. -/
inductive Happening
  | post (event : Event) (origin : Option Nat)
  | ring (generation : Nat)
  | listener (name : String)

namespace Happening

/-- What a happening does to the engine. -/
def disturbance : Happening → Disturbance
  | post event _ => .post event
  | ring generation => .timer generation
  | listener name => .listener name

/-- Whether something can happen in a scene: only the session that is open posts, only a timer that
sleeps runs out, and what timers post is posted by nobody else. -/
def IsPossible (s : Scene) : Happening → Prop
  | post event origin => ¬event.IsDue ∧ ∀ k ∈ origin, s.current? = some k
  | ring generation => generation ∈ s.asleep
  | listener _ => True

end Happening

/-- The scene after something has happened beside an engine. -/
def Scene.after (s : Scene) (e : Engine) : Happening → Scene
  | .post event origin => s.posted e event origin
  | .ring generation =>
    { s with asleep := s.asleep.erase generation }.posted e (.restartDue generation) none
  | .listener _ => s

/-- Whether one state and scene come from another by what happens beside the engine alone. -/
inductive Happens : Engine → Scene → Engine → Scene → Prop
  | refl (e : Engine) (s : Scene) : Happens e s e s
  | step {e e' : Engine} {s s' : Scene} (happening : Happening) (possible : happening.IsPossible s)
      (rest : Happens (happening.disturbance.apply e) (s.after e happening) e' s') :
      Happens e s e' s'

/-- What single happenings keep is kept by any number of them. -/
theorem Happens.keeps {I : Engine → Scene → Prop}
    (keeps : ∀ {e s} (happening : Happening), happening.IsPossible s → I e s →
      I (happening.disturbance.apply e) (s.after e happening))
    {e e' : Engine} {s s' : Scene} (happens : Happens e s e' s') (hI : I e s) : I e' s' := by
  induction happens with
  | refl => exact hI
  | step happening possible rest ih => exact ih (keeps happening possible hI)

/-- What happens in a scene is what happens beside the engine. -/
theorem Happens.disturbed {e e' : Engine} {s s' : Scene} (happens : Happens e s e' s') :
    Disturbed e e' := by
  induction happens with
  | refl e s => exact .refl e
  | step happening possible rest ih =>
      obtain ⟨disturbances, rfl⟩ := ih
      exact ⟨happening.disturbance :: disturbances, rfl⟩

/-! ## Runs with their scenes -/

variable {α : Type}

/-- How a routine can go to its end in a scene. -/
inductive Plays : Outcome requests Engine Fault α → History → Scene → Except Fault α → Engine →
    History → Scene → Prop
  | returned (value : α) (e : Engine) (h : History) (s : Scene) :
      Plays (.returned value e) h s (.ok value) e h s
  | raised (fault : Fault) (e : Engine) (h : History) (s : Scene) :
      Plays (.raised fault e) h s (.error fault) e h s
  | paused {e e' e'' : Engine} {request : Request} {answer : request.Answer}
      {resume : request.Answer → Engine → Outcome requests Engine Fault α} {h h'' : History}
      {s s' s'' : Scene} {result : Except Fault α} (happens : Happens e (s.asked request) e' s')
      (rest : Plays (resume answer e') (.asked e request answer :: h) (s'.answered request answer)
        result e'' h'' s'') :
      Plays (.paused e request resume) h s result e'' h'' s''

/-- A routine that goes to its end in a scene goes to its end. -/
theorem Plays.runs {o : Outcome requests Engine Fault α} {h h' : History} {s s' : Scene}
    {r : Except Fault α} {e' : Engine} (plays : Plays o h s r e' h' s') : Runs o h r e' h' := by
  induction plays with
  | returned value e h s => exact .returned value e h
  | raised fault e h s => exact .raised fault e h
  | paused happens rest ih => exact .paused happens.disturbed ih

/-- The moments of all runs of a new engine, with their scenes. -/
inductive Played : Moment → Scene → Prop
  | new (enabled : Bool) (ipVersion : IpVersion) : Played ⟨{ enabled, ipVersion }, []⟩ {}
  | call {e e' : Engine} {h h' : History} {s s' : Scene} {r : Except Fault Unit}
      (before : Played ⟨e, h⟩ s) (call : Call) (possible : call.IsPossible e)
      (plays : Plays (call.routine e) (.called e call :: h) (s.called e call) r e' h' s') :
      Played ⟨e', h'⟩ s'
  | beside {e : Engine} {h : History} {s : Scene} (before : Played ⟨e, h⟩ s)
      (happening : Happening) (possible : happening.IsPossible s) :
      Played ⟨happening.disturbance.apply e, h⟩ (s.after e happening)

/-- The moments of runs with scenes are moments of runs. -/
theorem Played.reached {m : Moment} {s : Scene} (played : Played m s) : Reached m := by
  induction played with
  | new enabled ipVersion => exact .new enabled ipVersion
  | call before call possible plays ih => exact ih.step (.call call possible plays.runs)
  | beside before happening possible ih => exact ih.step (.beside _ _ happening.disturbance)

end Engine

end ScannerDiscovery
