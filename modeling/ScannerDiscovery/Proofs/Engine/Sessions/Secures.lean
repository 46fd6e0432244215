import ScannerDiscovery.Proofs.Engine.Frame
import ScannerDiscovery.Proofs.Engine.Sessions.Scene

/-!
# What a routine secures in a scene

A routine secures something of the engine and its scene if it holds at the end of all its runs with
admissible answers in which nothing happens but what can happen in the scene.  This is the weakest
precondition once more, with the scene in place of the history.

Main results:

- `Secures.of_plays` : what is secured holds at the end of every admissible run.
- `secures_bind`, `Secures.mono` : routines one after another, and weaker ends.
- `Leaves.secures` : what a routine leaves alone it secures.
-/

namespace ScannerDiscovery.Engine

variable {α β V : Type}

/-- Whether a routine, from where it stands and in a scene, ends as stated: with `Q` if it returns,
and with `E` if it fails. -/
def Secures (Q : α → Engine → Scene → Prop) (E : Fault → Engine → Scene → Prop) :
    Outcome requests Engine Fault α → Scene → Prop
  | .returned value e, s => Q value e s
  | .raised fault e, s => E fault e s
  | .paused e request resume, s =>
    ∀ answer e' s', request.Admits answer → Happens e (s.asked request) e' s' →
      Secures Q E (resume answer e') (s'.answered request answer)

/-- Whether an end in a scene is as stated. -/
def EndsIn (Q : α → Engine → Scene → Prop) (E : Fault → Engine → Scene → Prop) :
    Except Fault α → Engine → Scene → Prop
  | .ok value => Q value
  | .error fault => E fault

variable {Q Q' : α → Engine → Scene → Prop} {E E' : Fault → Engine → Scene → Prop} {e : Engine}
  {s : Scene}

/-! ## Soundness -/

/-- What is secured holds at the end of every admissible run. -/
theorem Secures.of_plays {o : Outcome requests Engine Fault α} {h h' : History} {s' : Scene}
    {r : Except Fault α} {e' : Engine} (plays : Plays o h s r e' h' s') (admissible : Admissible h')
    (secured : Secures Q E o s) : EndsIn Q E r e' s' := by
  induction plays with
  | returned => exact secured
  | raised => exact secured
  | paused happens rest ih =>
      apply ih admissible
      exact secured _ _ _ (admissible _ (rest.runs.suffix.subset List.mem_cons_self)) happens

/-- A weaker end is secured as well. -/
theorem Secures.mono {o : Outcome requests Engine Fault α} (secured : Secures Q E o s)
    (hQ : ∀ v e s, Q v e s → Q' v e s) (hE : ∀ f e s, E f e s → E' f e s) : Secures Q' E' o s := by
  induction o generalizing s with
  | returned value e => exact hQ _ _ _ secured
  | raised fault e => exact hE _ _ _ secured
  | paused e request resume ih =>
      intro answer e' s' admits happens
      exact ih _ _ (secured answer e' s' admits happens)

/-- A weaker end is secured as well, failures being as they were. -/
theorem Secures.imp {o : Outcome requests Engine Fault α} (secured : Secures Q E o s)
    (hQ : ∀ v e s, Q v e s → Q' v e s) : Secures Q' E o s :=
  secured.mono hQ fun _ _ _ => id

/-! ## Rules -/

/-- One routine after another is secured if the second one is, wherever the first one ends. -/
theorem secures_outcome_bind (o : Outcome requests Engine Fault α) (next : α → Work β)
    {Q : β → Engine → Scene → Prop} (s : Scene) :
    Secures Q E (o.bind next) s ↔ Secures (fun v e s => Secures Q E (next v e) s) E o s := by
  induction o generalizing s with
  | returned value e => exact Iff.rfl
  | raised fault e => exact Iff.rfl
  | paused e request resume ih =>
      constructor
      · intro secured answer e' s' admits happens
        exact (ih _ _ _).1 (secured answer e' s' admits happens)
      · intro secured answer e' s' admits happens
        exact (ih _ _ _).2 (secured answer e' s' admits happens)

/-- The second of two routines starts where the first has ended. -/
@[simp]
theorem secures_bind (first : Work α) (next : α → Work β) {Q : β → Engine → Scene → Prop}
    (e : Engine) (s : Scene) :
    Secures Q E ((first >>= next) e) s ↔
      Secures (fun v e s => Secures Q E (next v e) s) E (first e) s :=
  secures_outcome_bind (first e) next s

@[simp]
theorem secures_pure (v : α) (e : Engine) (s : Scene) :
    Secures Q E ((pure v : Work α) e) s ↔ Q v e s :=
  Iff.rfl

@[simp]
theorem secures_get {Q : Engine → Engine → Scene → Prop} (e : Engine) (s : Scene) :
    Secures Q E ((Routine.get : Work Engine) e) s ↔ Q e e s :=
  Iff.rfl

@[simp]
theorem secures_modify {Q : Unit → Engine → Scene → Prop} (change : Engine → Engine) (e : Engine)
    (s : Scene) :
    Secures Q E ((Routine.modify change : Work Unit) e) s ↔ Q () (change e) s :=
  Iff.rfl

@[simp]
theorem secures_raise (fault : Fault) (e : Engine) (s : Scene) :
    Secures Q E ((Routine.raise fault : Work α) e) s ↔ E fault e s :=
  Iff.rfl

/-- After a request the routine goes on with any admissible answer, and with engine and scene as
they then are. -/
theorem secures_ask {request : Request} {Q : request.Answer → Engine → Scene → Prop}
    (next : ∀ answer e' s', request.Admits answer → Happens e (s.asked request) e' s' →
      Q answer e' (s'.answered request answer)) : Secures Q E (ask request e) s :=
  next

/-- A choice is secured if both routines are, each where it is chosen. -/
@[simp]
theorem secures_ite (c : Prop) [Decidable c] (a b : Work α) (e : Engine) (s : Scene) :
    Secures Q E ((if c then a else b) e) s ↔
      (c → Secures Q E (a e) s) ∧ (¬c → Secures Q E (b e) s) := by
  split <;> simp_all

/-- A routine whose fault is caught ends in the same ways, and always returns. -/
@[simp]
theorem secures_attempt (routine : Work α) {Q : Except Fault α → Engine → Scene → Prop}
    (e : Engine) (s : Scene) :
    Secures Q E (Routine.attempt routine e) s ↔
      Secures (fun v => Q (.ok v)) (fun f => Q (.error f)) (routine e) s := by
  unfold Routine.attempt
  generalize routine e = o
  induction o generalizing s with
  | returned value e => exact Iff.rfl
  | raised fault e => exact Iff.rfl
  | paused e request resume ih =>
      constructor
      · intro secured answer e' s' admits happens
        exact (ih _ _ _).1 (secured answer e' s' admits happens)
      · intro secured answer e' s' admits happens
        exact (ih _ _ _).2 (secured answer e' s' admits happens)

/-- A success goes on with `true`, a fault of the transport with `false`. -/
theorem secures_succeeded {answer : Except Fault Unit} (admits : FailsAsTransport answer)
    {Q : Bool → Engine → Scene → Prop} (e : Engine) (s : Scene) :
    Secures Q E (succeeded answer e) s ↔ Q answer.isOk e s := by
  rcases FailsAsTransport.cases admits with ⟨value, rfl⟩ | ⟨fault, rfl⟩ <;> exact Iff.rfl

/-! ## What is left alone -/

/-- What depends on the view alone, and is kept by what happens during a permitted request, is
secured by a routine that leaves the view alone. -/
theorem Leaves.secures {R : Request → Prop} {view : Engine → V} {routine : Work α}
    {I : Engine → Scene → Prop} (leaves : Leaves R view routine)
    (depends : ∀ {e e' s}, view e' = view e → I e s → I e' s)
    (asked : ∀ {e e' s s' request answer}, R request → request.Admits answer →
      Happens e (s.asked request) e' s' → I e s → I e' (s'.answered request answer))
    (hI : I e s) :
    Secures (fun _ e' s' => I e' s') (fun fault e' s' => fault.IsViolation ∧ I e' s')
      (routine e) s := by
  have all : ∀ (o : Outcome requests Engine Fault α) (e : Engine) (s : Scene),
      Abides R view (view e) o → I e s →
      Secures (fun _ e' s' => I e' s') (fun fault e' s' => fault.IsViolation ∧ I e' s') o s := by
    intro o
    induction o with
    | returned value e' => exact fun e s abides hI => depends abides hI
    | raised fault e' => exact fun e s abides hI => ⟨abides.2, depends abides.1 hI⟩
    | paused e₁ request resume ih =>
        intro e s abides hI answer e' s' admits happens
        obtain ⟨hview, permitted, rest⟩ := abides
        exact ih answer e' e' _ (rest answer e' admits)
          (asked permitted admits happens (depends hview hI))
  exact all (routine e) e s (leaves e) hI

end ScannerDiscovery.Engine
