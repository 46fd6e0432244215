import ScannerDiscovery.Proofs.Engine.Runs

/-!
# What a routine ensures

A routine ensures something if it holds at the end of all its runs with admissible answers.
This is the weakest precondition of the routine: it follows the routine from request to request,
for every answer and for everything that may happen beside the engine meanwhile.

Main results:

- `Ensures.of_runs` : what is ensured holds at the end of every admissible run.
- `ensures_bind`, `Ensures.mono` : routines one after another, and weaker ends.
-/

namespace ScannerDiscovery.Engine

variable {α β : Type}

/-- Whether a routine, from where it stands and with a history, ends as stated: with `Q` if it
returns, and with `E` if it fails. -/
def Ensures (Q : α → Engine → History → Prop) (E : Fault → Engine → History → Prop) :
    Outcome requests Engine Fault α → History → Prop
  | .returned value e, h => Q value e h
  | .raised fault e, h => E fault e h
  | .paused e request resume, h =>
    ∀ answer e', request.Admits answer → Disturbed e e' →
      Ensures Q E (resume answer e') (.asked e request answer :: h)

/-- Whether an end is as stated. -/
def Ends (Q : α → Engine → History → Prop) (E : Fault → Engine → History → Prop) :
    Except Fault α → Engine → History → Prop
  | .ok value => Q value
  | .error fault => E fault

variable {Q Q' : α → Engine → History → Prop} {E E' : Fault → Engine → History → Prop}

/-! ## Soundness -/

/-- What is ensured holds at the end of every run that has gone on in an admissible way, -/
theorem Ensures.of_runs_since {o : Outcome requests Engine Fault α} {h h' : History}
    {r : Except Fault α} {e' : Engine} (runs : Runs o h r e' h')
    (admissible : Since Entry.Admitted h h') (ensured : Ensures Q E o h) : Ends Q E r e' h' := by
  induction runs with
  | returned => exact ensured
  | raised => exact ensured
  | paused disturbed rest ih =>
      obtain ⟨entry, others⟩ := admissible.divide (List.suffix_cons _ _) rest.suffix
      have admits := entry.of_cons (List.suffix_refl _)
      exact ih others (ensured _ _ admits.1 disturbed)

/-- and so at the end of every admissible run. -/
theorem Ensures.of_runs {o : Outcome requests Engine Fault α} {h h' : History}
    {r : Except Fault α} {e' : Engine} (runs : Runs o h r e' h') (ha : Admissible h')
    (ensured : Ensures Q E o h) : Ends Q E r e' h' :=
  ensured.of_runs_since runs (ha.since runs.suffix)

/-- A weaker end is ensured as well. -/
theorem Ensures.mono {o : Outcome requests Engine Fault α} {h : History}
    (ensured : Ensures Q E o h) (hQ : ∀ v e h, Q v e h → Q' v e h)
    (hE : ∀ f e h, E f e h → E' f e h) : Ensures Q' E' o h := by
  induction o generalizing h with
  | returned value e => exact hQ _ _ _ ensured
  | raised fault e => exact hE _ _ _ ensured
  | paused e request resume ih =>
      intro answer e' admits disturbed
      exact ih _ _ (ensured answer e' admits disturbed)

/-- A weaker end is ensured as well, failures being as they were. -/
theorem Ensures.imp {o : Outcome requests Engine Fault α} {h : History}
    (ensured : Ensures Q E o h) (hQ : ∀ v e h, Q v e h → Q' v e h) : Ensures Q' E o h :=
  ensured.mono hQ fun _ _ _ => id

/-- What holds of every end is ensured. -/
theorem Ensures.of_forall {o : Outcome requests Engine Fault α} {h : History}
    (hQ : ∀ v e h, Q v e h) (hE : ∀ f e h, E f e h) : Ensures Q E o h := by
  induction o generalizing h with
  | returned value e => exact hQ value e h
  | raised fault e => exact hE fault e h
  | paused e request resume ih => exact fun answer e' _ _ => ih answer e'

/-! ## Rules -/

/-- Returning ends as stated if its result is. -/
@[simp]
theorem ensures_pure (v : α) (e : Engine) (h : History) :
    Ensures Q E ((pure v : Work α) e) h ↔ Q v e h :=
  Iff.rfl

/-- One routine after another ends as stated if the second one does, wherever the first one ends. -/
theorem ensures_outcome_bind (o : Outcome requests Engine Fault α) (next : α → Work β)
    {Q : β → Engine → History → Prop} (h : History) :
    Ensures Q E (o.bind next) h ↔ Ensures (fun v e h => Ensures Q E (next v e) h) E o h := by
  induction o generalizing h with
  | returned value e => exact Iff.rfl
  | raised fault e => exact Iff.rfl
  | paused e request resume ih =>
      constructor
      · intro ensured answer e' admits disturbed
        exact (ih _ _ _).1 (ensured answer e' admits disturbed)
      · intro ensured answer e' admits disturbed
        exact (ih _ _ _).2 (ensured answer e' admits disturbed)

/-- The second of two routines starts where the first has ended. -/
@[simp]
theorem ensures_bind (first : Work α) (next : α → Work β) {Q : β → Engine → History → Prop}
    (e : Engine) (h : History) :
    Ensures Q E ((first >>= next) e) h ↔
      Ensures (fun v e h => Ensures Q E (next v e) h) E (first e) h :=
  ensures_outcome_bind (first e) next h

/-- A look at the engine returns the engine as it is. -/
@[simp]
theorem ensures_get {Q : Engine → Engine → History → Prop} (e : Engine) (h : History) :
    Ensures Q E ((Routine.get : Work Engine) e) h ↔ Q e e h :=
  Iff.rfl

/-- A change of the engine ends with the changed engine. -/
@[simp]
theorem ensures_modify {Q : Unit → Engine → History → Prop} (change : Engine → Engine)
    (e : Engine) (h : History) :
    Ensures Q E ((Routine.modify change : Work Unit) e) h ↔ Q () (change e) h :=
  Iff.rfl

/-- A routine that fails ends as stated of its fault. -/
@[simp]
theorem ensures_raise (fault : Fault) (e : Engine) (h : History) :
    Ensures Q E ((Routine.raise fault : Work α) e) h ↔ E fault e h :=
  Iff.rfl

/-- After a request the routine goes on with any admissible answer, and with the engine as it
then is. -/
theorem ensures_routine_ask {request : Request} {Q : request.Answer → Engine → History → Prop}
    {e : Engine} {h : History}
    (next : ∀ answer e', request.Admits answer → Disturbed e e' →
      Q answer e' (.asked e request answer :: h)) :
    Ensures Q E ((Routine.ask (I := requests) request : Work request.Answer) e) h :=
  next

/-- A request ends as stated if it does on every admissible answer, whatever happens meanwhile. -/
theorem ensures_ask {request : Request} {Q : request.Answer → Engine → History → Prop}
    {e : Engine} {h : History}
    (next : ∀ answer e', request.Admits answer → Disturbed e e' →
      Q answer e' (.asked e request answer :: h)) : Ensures Q E (ask request e) h :=
  next

/-- A choice ends as stated if both routines do, each where it is chosen. -/
@[simp]
theorem ensures_ite (c : Prop) [Decidable c] (a b : Work α) (e : Engine) (h : History) :
    Ensures Q E ((if c then a else b) e) h ↔
      (c → Ensures Q E (a e) h) ∧ (¬c → Ensures Q E (b e) h) := by
  split <;> simp_all

/-- A routine whose fault is caught ends in the same ways, and always returns. -/
@[simp]
theorem ensures_attempt (routine : Work α) {Q : Except Fault α → Engine → History → Prop}
    (e : Engine) (h : History) :
    Ensures Q E (Routine.attempt routine e) h ↔
      Ensures (fun v => Q (.ok v)) (fun f => Q (.error f)) (routine e) h := by
  unfold Routine.attempt
  generalize routine e = o
  induction o generalizing h with
  | returned value e => exact Iff.rfl
  | raised fault e => exact Iff.rfl
  | paused e request resume ih =>
      constructor
      · intro ensured answer e' admits disturbed
        exact (ih _ _ _).1 (ensured answer e' admits disturbed)
      · intro ensured answer e' admits disturbed
        exact (ih _ _ _).2 (ensured answer e' admits disturbed)

/-- To go on with a result, or to fail with it, ends as stated of the result. -/
@[simp]
theorem ensures_ofExcept (result : Except Fault α) (e : Engine) (h : History) :
    Ensures Q E ((Routine.ofExcept result : Work α) e) h ↔ Ends Q E result e h := by
  cases result <;> exact Iff.rfl

/-- A success goes on with `true`, a fault of the transport with `false`. -/
theorem ensures_succeeded {answer : Except Fault Unit} (admits : FailsAsTransport answer)
    {Q : Bool → Engine → History → Prop} (e : Engine) (h : History) :
    Ensures Q E (succeeded answer e) h ↔ Q answer.isOk e h := by
  unfold succeeded
  split
  · exact Iff.rfl
  · exact Iff.rfl
  · rename_i fault hne
    cases fault <;> simp_all [FailsAsTransport]

/-! ## The books -/

/-- A look at the books returns the books as they are. -/
@[simp]
theorem ensures_books_get {Q : Books → Engine → History → Prop} (e : Engine) (h : History) :
    Ensures Q E ((Books.get : Work Books) e) h ↔ Q e.books e h :=
  Iff.rfl

/-- A new gate takes the place of the old one. -/
@[simp]
theorem ensures_setGate {Q : Unit → Engine → History → Prop} (gate : Gate) (e : Engine)
    (h : History) :
    Ensures Q E ((Books.setGate gate : Work Unit) e) h ↔ Q () { e with books.gate := gate } h :=
  Iff.rfl

/-- A new registry takes the place of the old one. -/
@[simp]
theorem ensures_setRegistry {Q : Unit → Engine → History → Prop} (registry : Registry)
    (e : Engine) (h : History) :
    Ensures Q E ((Books.setRegistry registry : Work Unit) e) h ↔
      Q () { e with books.registry := registry } h :=
  Iff.rfl

/-- A finding is changed in the registry. -/
@[simp]
theorem ensures_modifyFinding {Q : Unit → Engine → History → Prop} (number : Nat)
    (change : Finding → Finding) (e : Engine) (h : History) :
    Ensures Q E ((Books.modifyFinding number change : Work Unit) e) h ↔
      Q () { e with books.registry := e.books.registry.modify number change } h :=
  Iff.rfl

end ScannerDiscovery.Engine
