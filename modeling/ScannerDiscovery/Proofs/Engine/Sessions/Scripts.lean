import ScannerDiscovery.Proofs.Engine.Scripts
import ScannerDiscovery.Proofs.Engine.Sessions.Scene

/-!
# Scripts with scenes

A script with a scene says also who posts what, and when restart timers run out.  Playing it gives
one run of the engine with its scene.

Main definitions:

- `Cue`, `Plan.play` : what happens in a script, and the moment and the scene that it leads to.
- `relapse` : a moment at which the restart timer has rung behind a late report.

Main results:

- `Plan.played` : a script leads to a moment of a run with its scene.
- `Plan.admissible_play` : with admissible answers its history is admissible.
-/

namespace ScannerDiscovery

instance : (event : Event) → Decidable event.IsDue
  | .notice _ => .isFalse id
  | .restartDue _ => .isTrue trivial
  | .query .. => .isFalse id
  | .unknown => .isFalse id

namespace Engine

instance (s : Scene) : (happening : Happening) → Decidable (happening.IsPossible s)
  | .post event origin =>
    inferInstanceAs (Decidable (¬event.IsDue ∧ ∀ k ∈ origin, s.current? = some k))
  | .ring generation => inferInstanceAs (Decidable (generation ∈ s.asleep))
  | .listener _ => .isTrue trivial

/-- One thing that happens in a script with a scene. -/
inductive Cue
  | call (call : Call)
  | beside (happening : Happening)

namespace Plan

/-- The surroundings that answer by a plan, and record each request in history and scene. -/
def stage (plan : Plan) (request : Request) (e : Engine) (now : History × Scene) :
    request.Answer × Engine × History × Scene :=
  let answer := plan request now.1
  (answer, e, .asked e request answer :: now.1, (now.2.asked request).answered request answer)

/-- Moment and scene after a cue.  What is not possible is left out. -/
def follow (plan : Plan) (m : Moment) (s : Scene) : Cue → Moment × Scene
  | .call call =>
    if call.IsPossible m.engine then
      let called := .called m.engine call :: m.history
      let ended := (call.routine m.engine).run plan.stage (called, s.called m.engine call)
      (⟨ended.2.1, ended.2.2.1⟩, ended.2.2.2)
    else (m, s)
  | .beside happening =>
    if happening.IsPossible s then
      (⟨happening.disturbance.apply m.engine, m.history⟩, s.after m.engine happening)
    else (m, s)

/-- The moment and the scene that a script leads to from a new engine. -/
def play (plan : Plan) (script : List Cue) : Moment × Scene :=
  script.foldl (fun now => plan.follow now.1 now.2)
    (⟨{ enabled := true, ipVersion := .all }, []⟩, {})

/-! ## Scripts and runs -/

variable {α : Type} {plan : Plan}

/-- A routine that is answered by a plan goes one of its ways. -/
theorem plays (plan : Plan) (o : Outcome requests Engine Fault α) (h : History) (s : Scene) :
    Plays o h s (o.run plan.stage (h, s)).1 (o.run plan.stage (h, s)).2.1
      (o.run plan.stage (h, s)).2.2.1 (o.run plan.stage (h, s)).2.2.2 := by
  induction o generalizing h s with
  | returned value e => exact .returned value e h s
  | raised fault e => exact .raised fault e h s
  | paused e request resume ih => exact .paused (.refl e _) (ih _ e _ _)

/-- What holds at first, and is kept by every cue, holds where a script leads to. -/
theorem play_induction {I : Moment → Scene → Prop}
    (new : I ⟨{ enabled := true, ipVersion := .all }, []⟩ {})
    (follow : ∀ m s cue, I m s → I (plan.follow m s cue).1 (plan.follow m s cue).2)
    (script : List Cue) : I (plan.play script).1 (plan.play script).2 := by
  have all : ∀ (script : List Cue) (now : Moment × Scene), I now.1 now.2 →
      I (script.foldl (fun now => plan.follow now.1 now.2) now).1
        (script.foldl (fun now => plan.follow now.1 now.2) now).2 := by
    intro script
    induction script with
    | nil => exact fun now hI => hI
    | cons cue rest ih => exact fun now hI => ih _ (follow _ _ cue hI)
  exact all script _ new

/-- A script leads to a moment of a run with its scene. -/
theorem played (plan : Plan) (script : List Cue) :
    Played (plan.play script).1 (plan.play script).2 := by
  refine play_induction (.new _ _) (fun m s cue before => ?_) script
  cases cue with
  | call call =>
      simp only [follow]
      split
      · rename_i possible
        exact .call before call possible (plan.plays _ _ _)
      · exact before
  | beside happening =>
      simp only [follow]
      split
      · rename_i possible
        exact .beside before happening possible
      · exact before

/-- Recording admissible answers keeps a history admissible. -/
theorem admissible_stage (admits : ∀ (request : Request) h, request.Admits (plan request h))
    (o : Outcome requests Engine Fault α) {h : History} (s : Scene) (ha : Admissible h) :
    Admissible (o.run plan.stage (h, s)).2.2.1 := by
  induction o generalizing h s with
  | returned value e => exact ha
  | raised fault e => exact ha
  | paused e request resume ih => exact ih _ _ _ (ha.cons (admits request h))

/-- With admissible answers the history of a script is admissible. -/
theorem admissible_play (admits : ∀ (request : Request) h, request.Admits (plan request h))
    (script : List Cue) : Admissible (plan.play script).1.history := by
  refine play_induction (I := fun m _ => Admissible m.history) ?_ (fun m s cue ha => ?_) script
  · intro entry hentry
    simp at hentry
  · cases cue with
    | call call =>
        simp only [follow]
        split
        · exact admissible_stage admits _ _ (ha.cons trivial)
        · exact ha
    | beside happening =>
        simp only [follow]
        split <;> exact ha

end Plan

/-! ## A script -/

/-- A session posts a report, and it is handled. -/
def reported (k : Nat) (notice : Notice) : List Cue :=
  [.beside (.post (.notice notice) (some k)), .call .turn]

/-- What happens in a relapse.  A scanner is found; the client fails, and its session reports
another scanner before it is over.  The session is torn down, and the restart timer rings behind the
late report. -/
def relapseScript : List Cue :=
  [.call .start] ++ reported 1 (.client .running) ++
  reported 1 (.browse { service := .uscan, kind := .new, name := some "Library" }) ++
  [.beside (.post (foundAt (.number 7) (.v4 ⟨192, 0, 2, 8⟩) 80) (some 1)), .call .turn,
    .beside (.post (.notice (.client .failure)) (some 1)),
    .beside (.post (.notice (.browse { service := .uscan, kind := .new, name := some "Attic" }))
      (some 1)),
    .call .turn, .beside (.ring 1)]

/-- The moment of a relapse. -/
def relapse : Moment :=
  (Plan.willing.play relapseScript).1

/-- The scene of a relapse. -/
def relapseScene : Scene :=
  (Plan.willing.play relapseScript).2

theorem relapse_played : Played relapse relapseScene := by
  unfold relapse relapseScene
  exact Plan.willing.played relapseScript

theorem relapse_admissible : Admissible relapse.history := by
  unfold relapse
  exact Plan.admissible_play Plan.willing_admits relapseScript

end Engine

end ScannerDiscovery
