import Mathlib.Data.List.TakeWhile
import ScannerDiscovery.Proofs.Registry.Keeper

/-!
# Refused withdrawals

A published finding is withdrawn from the catalog before anything else is done to delete it.  So if
the catalog refuses, the deletion has left no trace and can be tried again.  Deleting all findings
ends at the first published one if the catalog refuses, with the findings before it deleted.

Main definitions:

- `Keeper.withPast` : a keeper that has heard something before.
- `Keeper.Unmindful` : routines that do not depend on what has been heard.
- `Keeper.Deleted` : what deleting the first live findings leads to.
- `Keeper.Empties` : deleting the first live finding, as long as there is one.

Main results:

- `Books.run_delete_refused` : a refused deletion, whoever keeps the books.
- `unmindful_delete` : a deletion does not depend on what has been heard.
- `Ready.deleted` : the first live findings are deleted one after another.
- `Ready.empties_iff` : deleting all findings is deleting the first one as long as there is one.
- `deletions_and_refusals` : what deletions do, whether the catalog refuses or not.
-/

namespace ScannerDiscovery

/-! ## Refused deletions -/

namespace Books

variable {σ ω : Type} [KeepsBooks σ]
  {answer : (request : Request) → σ → ω → request.Answer × σ × ω} {state : σ} {world : ω}
  {f : Finding} {fault : Fault}

/-- A withdrawal that the catalog refuses. -/
theorem run_unpublish_refused (published : f.isPublished = true)
    (refused : (answer (.withdraw f.snapshot) state world).1 = .error fault) :
    (unpublish f state).run answer world =
      (.error fault, (answer (.withdraw f.snapshot) state world).2) := by
  unfold unpublish
  rw [if_pos published]
  generalize asked : answer (.withdraw f.snapshot) state world = answered at refused ⊢
  obtain ⟨reply, state', world'⟩ := answered
  obtain rfl : reply = .error fault := refused
  change (let (reply, state, world) := answer (.withdraw f.snapshot) state world
    ((Routine.ofExcept reply >>= fun _ => modifyFinding f.number fun f =>
      { f with isPublished := false } : Work σ Unit) state).run answer world) = _
  rw [asked]
  rfl

/-- A deletion that the catalog refuses ends there, and leaves everything as the catalog has left
it. -/
theorem run_delete_refused (release : Finding → List Ticket → Work σ Unit) {number : Nat}
    (found : (KeepsBooks.books state).registry.get? number = some f)
    (published : f.isPublished = true)
    (refused : (answer (.withdraw f.snapshot) state world).1 = .error fault) :
    (delete release number state).run answer world =
      (.error fault, (answer (.withdraw f.snapshot) state world).2) := by
  have opens (next : Books → Work σ Unit) :
      (get >>= next : Work σ Unit) state = next (KeepsBooks.books state) state := rfl
  rw [delete, opens, found]
  change ((unpublish f state).bind _).run answer world = _
  rw [Outcome.run_bind, run_unpublish_refused published refused]

end Books

namespace Keeper

variable {α β : Type} {k k' : Keeper} {f : Finding} {fault : Fault}

/-- A keeper hears of a refused deletion that the finding was to be withdrawn, and nothing else. -/
theorem perform_delete_refused {number : Nat} (found : k.registry.get? number = some f)
    (published : f.isPublished = true) (unwilling : k.refusal = some fault) :
    k.perform (Books.delete release number) =
      (.error fault, k.hear [.withdrawn f.snapshot k.live]) := by
  have refused : (answer (.withdraw f.snapshot) k ()).1 = .error fault := by
    change k.refusal.elim _ _ = _
    rw [unwilling, Option.elim_some]
  rw [perform, Books.run_delete_refused release found published refused]
  rfl

/-! ## Trying again -/

/-- The keeper, had it heard something before. -/
def withPast (k : Keeper) (past : List Callback) : Keeper :=
  { k with heard := past ++ k.heard }

/-- Whether a routine does not depend on what has been heard. -/
def Unmindful (work : Books.Work Keeper α) : Prop :=
  ∀ (k : Keeper) (past : List Callback),
    (k.withPast past).perform work = ((k.perform work).1, (k.perform work).2.withPast past)

/-- A keeper with a past hears what it would hear without. -/
theorem hear_withPast (k : Keeper) (past callbacks : List Callback) :
    (k.withPast past).hear callbacks = (k.hear callbacks).withPast past := by
  rw [hear, hear, withPast, withPast, List.append_assoc]

namespace Unmindful

/-- Two routines that do not depend on the past, one after the other. -/
theorem bind {work : Books.Work Keeper α} {next : α → Books.Work Keeper β} (first : Unmindful work)
    (others : ∀ value, Unmindful (next value)) : Unmindful (work >>= next) := by
  intro k past
  rw [perform_bind, perform_bind, first k past]
  obtain ⟨fault | value, k'⟩ := k.perform work
  · rfl
  · exact others value k' past

/-- Returning does not depend on the past. -/
theorem pure (value : α) : Unmindful (pure value) := fun _ _ => rfl

/-- Failing does not depend on the past. -/
theorem raise (fault : Fault) : Unmindful (Routine.raise (α := α) fault) := fun _ _ => rfl

/-- A look at the books does not depend on the past. -/
theorem get : Unmindful Books.get := fun _ _ => rfl

/-- A change of the books does not depend on the past. -/
theorem modify (change : Books → Books) : Unmindful (Books.modify change) := fun _ _ => rfl

/-- Going on with a result does not depend on the past. -/
theorem ofExcept (result : Except Fault α) : Unmindful (Routine.ofExcept result) := by
  cases result with
  | ok value => exact pure value
  | error fault => exact raise fault

/-- The answer to a request does not depend on the past. -/
theorem ask (request : Request) : Unmindful (Routine.ask (I := requests) request) := by
  intro k past
  cases request with
  | scanDone m => exact congrArg (Prod.mk _) (hear_withPast k past _)
  | withdraw snapshot => exact congrArg (Prod.mk _) (hear_withPast k past _)
  | _ => rfl

/-- Releasing resolves does not depend on the past. -/
theorem release (f : Finding) (ops : List Ticket) : Unmindful (release f ops) :=
  fun k past => congrArg (Prod.mk _) (hear_withPast k past _)

/-- Reporting methods as done does not depend on the past. -/
theorem report (methods : List Method) : Unmindful (Books.report methods) := by
  induction methods with
  | nil => exact pure ()
  | cons m rest ih => exact (ask _).bind fun _ => ih

/-- Counting a task off does not depend on the past. -/
theorem lower (m : Method) : Unmindful (Books.lower m) := by
  refine get.bind fun books => ?_
  split
  · exact raise _
  · exact (modify _).bind fun _ => report _

/-- Counting a finding off does not depend on the past. -/
theorem uncount (f : Finding) : Unmindful (Books.uncount f) := by
  unfold Books.uncount
  split
  · exact (modify _).bind fun _ => lower _
  · exact pure ()

/-- Withdrawing a finding does not depend on the past. -/
theorem unpublish (f : Finding) : Unmindful (Books.unpublish f) := by
  unfold Books.unpublish
  split
  · exact (ask _).bind fun reply => (ofExcept reply).bind fun _ => modify _
  · exact pure ()

end Unmindful

/-- A deletion does not depend on what has been heard. -/
theorem unmindful_delete (number : Nat) : Unmindful (Books.delete release number) := by
  refine Unmindful.get.bind fun books => ?_
  split
  · exact .pure ()
  · refine (Unmindful.unpublish _).bind fun _ => Unmindful.get.bind fun books => ?_
    split
    · exact .pure ()
    · exact (Unmindful.modify _).bind fun _ => (Unmindful.uncount _).bind fun _ => .release _ _

/-- A deletion that was refused does, when it is tried again, what it would have done. -/
theorem perform_delete_again {number : Nat} {result : Except Fault Unit} (past : List Callback)
    (done : k.perform (Books.delete release number) = (result, k')) :
    ∃ heard, k'.heard = k.heard ++ heard ∧
      (k.hear past).perform (Books.delete release number) =
        (result, { k' with heard := k.heard ++ past ++ heard }) := by
  let fresh : Keeper := { k with heard := [] }
  have first := unmindful_delete number fresh k.heard
  have again := unmindful_delete number fresh (k.heard ++ past)
  have same : fresh.withPast k.heard = k := by rw [withPast, List.append_nil]
  have later : fresh.withPast (k.heard ++ past) = k.hear past := by
    rw [withPast, List.append_nil]
    rfl
  rw [same, done] at first
  obtain ⟨rfl, rfl⟩ := Prod.mk.inj first
  exact ⟨_, rfl, later ▸ again⟩

end Keeper

/-! ## Deleting one after another -/

/-- The resolves that a callback is about, if they are released. -/
def Callback.released? : Callback → Option (Nat × List Ticket)
  | released number ops => some (number, ops)
  | withdrawn .. | done _ => none

/-- The finding that a callback is about, if it is withdrawn. -/
def Callback.withdrawn? : Callback → Option Snapshot
  | withdrawn snapshot _ => some snapshot
  | released .. | done _ => none

namespace Keeper

variable {k k' : Keeper} {f : Finding} {fault : Fault} {rest : List Finding}

/-- What deleting the first live findings leads to: they are removed one after another and counted
off, those that are published have been withdrawn, and all their resolves are released. -/
structure Deleted (k : Keeper) (findings : List Finding) (k' : Keeper) : Prop where
  live : k.registry.live = findings ++ k'.registry.live
  removed : k'.registry.removed = (findings.map Finding.gone).reverse ++ k.registry.removed
  gate : k'.gate = findings.foldl Gate.without k.gate
  counts : ∀ m, k.gate.count m =
    k'.gate.count m + findings.countP fun f => f.method == m && f.inInitialScan
  withdrawn : k'.heard.filterMap Callback.withdrawn? =
    k.heard.filterMap Callback.withdrawn? ++ (findings.filter (·.isPublished)).map (·.snapshot)
  released : k'.heard.filterMap Callback.released? =
    k.heard.filterMap Callback.released? ++ findings.map fun f => (f.number, f.tracker.pending)

/-- Deleting none leaves everything as it is. -/
theorem Deleted.nil (k : Keeper) : k.Deleted [] k := by
  constructor <;> simp

/-- Deleting a finding withdraws it if it is published, and no other. -/
theorem withdrawn?_without (k : Keeper) (f : Finding) :
    (k.without f).heard.filterMap Callback.withdrawn? =
      k.heard.filterMap Callback.withdrawn? ++
        if f.isPublished then [f.snapshot] else [] := by
  have reports : ((k.gate.fired f).map Callback.done).filterMap Callback.withdrawn? = [] := by
    simp [List.filterMap_map, Callback.withdrawn?]
  simp only [without, List.filterMap_append, reports, withdrawal]
  split <;> rfl

/-- Deleting a finding releases what it waits for, and nothing else. -/
theorem released?_without (k : Keeper) (f : Finding) :
    (k.without f).heard.filterMap Callback.released? =
      k.heard.filterMap Callback.released? ++ [(f.number, f.tracker.pending)] := by
  have reports : ((k.gate.fired f).map Callback.done).filterMap Callback.released? = [] := by
    simp [List.filterMap_map, Callback.released?]
  simp only [without, List.filterMap_append, reports, withdrawal]
  split <;> rfl

/-- Counting off a finding, whether it is counted or not. -/
theorem count_without {g : Gate} (counted : f.inInitialScan = true → 0 < g.count f.method)
    (m : Method) : g.count m =
      (g.without f).count m + if f.method == m && f.inInitialScan then 1 else 0 := by
  unfold Gate.without
  cases initial : f.inInitialScan with
  | false => simp
  | true =>
      have positive := counted initial
      simp only [if_true, Gate.count_lowered, Bool.and_true, beq_iff_eq]
      split
      · rename_i same
        subst same
        omega
      · rfl

/-- Deleting one finding, and then others. -/
theorem Deleted.cons {findings : List Finding} (ready : k.Ready)
    (hlive : k.registry.live = f :: rest) (others : (k.without f).Deleted findings k') :
    k.Deleted (f :: findings) k' where
  live := by rw [hlive, ← ready.live_without hlive, others.live, List.cons_append]
  removed := by
    rw [others.removed, List.map_cons, List.reverse_cons, List.append_assoc]
    rfl
  gate := others.gate
  counts m := by
    have counted := ready.counted (hlive ▸ List.mem_cons_self : f ∈ k.registry.live)
    rw [count_without counted m, List.countP_cons, ← Nat.add_assoc]
    exact congrArg (· + _) (others.counts m)
  withdrawn := by
    rw [others.withdrawn, withdrawn?_without, List.append_assoc, List.filter_cons]
    split <;> rfl
  released := by rw [others.released, released?_without, List.append_assoc, List.map_cons,
    List.singleton_append]

/-- The first live findings are deleted one after another. -/
theorem Ready.deleted {findings : List Finding} (ready : k.Ready)
    (hlive : k.registry.live = findings ++ rest) :
    k.Deleted findings (findings.foldl Keeper.without k) := by
  induction findings generalizing k with
  | nil => exact .nil k
  | cons f findings ih =>
      have later := ready.without (hlive ▸ List.mem_cons_self : f ∈ k.registry.live)
      exact .cons ready hlive (ih later (ready.live_without hlive))

/-! ## Deleting all findings -/

/-- Deleting all findings, the first of which cannot be withdrawn. -/
theorem Ready.perform_deleteAll_refused (ready : k.Ready)
    (hlive : k.registry.live = f :: rest) (published : f.isPublished = true)
    (unwilling : k.refusal = some fault) :
    k.perform (Books.deleteAll release) =
      (.error fault, k.hear [.withdrawn f.snapshot k.live]) := by
  have found : k.registry.get? f.number = some f :=
    ready.numbered.get?_number (List.mem_append_left _ (hlive ▸ List.mem_cons_self))
  rw [Books.deleteAll, perform_bind_ok (perform_get k)]
  change k.perform (Books.deleteEach release (k.registry.live.map (·.number))) = _
  rw [hlive, List.map_cons, Books.deleteEach, perform_bind,
    perform_delete_refused found published unwilling]

/-- Deleting the first live finding, as long as there is one. -/
inductive Empties : Keeper → Except Fault Unit → Keeper → Prop
  | done {k : Keeper} (empty : k.registry.live = []) : Empties k (.ok ()) k
  | failed {k k' : Keeper} {f : Finding} {rest : List Finding} {fault : Fault}
      (first : k.registry.live = f :: rest)
      (failure : k.perform (Books.delete release f.number) = (.error fault, k')) :
      Empties k (.error fault) k'
  | next {k k' k'' : Keeper} {f : Finding} {rest : List Finding} {result : Except Fault Unit}
      (first : k.registry.live = f :: rest)
      (deleted : k.perform (Books.delete release f.number) = (.ok (), k'))
      (later : Empties k' result k'') : Empties k result k''

/-- Without live findings nothing is deleted. -/
theorem empties_nil_iff {result : Except Fault Unit} (empty : k.registry.live = []) :
    k.Empties result k' ↔ result = .ok () ∧ k' = k := by
  constructor
  · rintro (- | ⟨first, -⟩ | ⟨first, -, -⟩)
    · exact ⟨rfl, rfl⟩
    · simp [empty] at first
    · simp [empty] at first
  · rintro ⟨rfl, rfl⟩
    exact .done empty

/-- The first live finding is deleted, and then the others, unless that fails. -/
theorem empties_cons_iff {result : Except Fault Unit} (hlive : k.registry.live = f :: rest) :
    k.Empties result k' ↔ match k.perform (Books.delete release f.number) with
      | (.ok _, left) => left.Empties result k'
      | (.error fault, left) => result = .error fault ∧ k' = left := by
  constructor
  · rintro (empty | ⟨first, failure⟩ | ⟨first, deleted, later⟩)
    · simp [hlive] at empty
    · obtain ⟨rfl, rfl⟩ := List.cons.inj (hlive.symm.trans first)
      rw [failure]
      exact ⟨rfl, rfl⟩
    · obtain ⟨rfl, rfl⟩ := List.cons.inj (hlive.symm.trans first)
      rw [deleted]
      exact later
  · intro ended
    split at ended
    · rename_i deleted
      exact .next hlive deleted ended
    · rename_i failure
      obtain ⟨rfl, rfl⟩ := ended
      exact .failed hlive failure

/-- Deleting all findings is deleting the first one as long as there is one. -/
theorem Ready.empties_iff {result : Except Fault Unit} (ready : k.Ready) :
    k.Empties result k' ↔ k.perform (Books.deleteAll release) = (result, k') := by
  generalize all : k.registry.live = findings
  induction findings generalizing k with
  | nil =>
      rw [empties_nil_iff all, perform_deleteAll_nil all, Prod.mk.injEq]
      exact and_congr eq_comm eq_comm
  | cons f rest ih =>
      have live : f ∈ k.registry.live := all ▸ List.mem_cons_self
      rw [empties_cons_iff all]
      by_cases willing : f.isPublished = true → k.refusal = none
      · rw [ready.perform_delete live willing, ready.perform_deleteAll_cons all willing]
        exact ih (ready.without live) (ready.live_without all)
      · obtain ⟨published, unwilling⟩ := Classical.not_imp.1 willing
        obtain ⟨fault, unwilling⟩ := Option.ne_none_iff_exists'.1 unwilling
        have found := ready.numbered.get?_number (List.mem_append_left k.registry.removed live)
        rw [perform_delete_refused found published unwilling,
          ready.perform_deleteAll_refused all published unwilling, Prod.mk.injEq]
        exact and_congr eq_comm eq_comm

/-- Deletions change nothing about what the catalog refuses. -/
theorem refusal_foldl_without (k : Keeper) (findings : List Finding) :
    (findings.foldl Keeper.without k).refusal = k.refusal := by
  induction findings generalizing k with
  | nil => rfl
  | cons f findings ih => exact ih (k.without f)

/-- Deleting all findings, while the catalog refuses: those before the first published one are
deleted, and the others are left as they are. -/
theorem Ready.perform_deleteAll_unwilling (ready : k.Ready) (unwilling : k.refusal = some fault) :
    ∃ left, k.Deleted (k.registry.live.takeWhile fun f => !f.isPublished) left ∧
      k.perform (Books.deleteAll release) = match left.registry.live with
        | [] => (.ok (), left)
        | f :: _ => (.error fault, left.hear [.withdrawn f.snapshot left.live]) := by
  have divided := (List.takeWhile_append_dropWhile (p := fun f : Finding => !f.isPublished)
    (l := k.registry.live)).symm
  have unpublished : ∀ f ∈ k.registry.live.takeWhile (fun f => !f.isPublished),
      f.isPublished = true → k.refusal = none := by
    intro f hf published
    have := List.mem_takeWhile_imp hf
    simp [published] at this
  obtain ⟨later, others, ran⟩ := ready.perform_deleteAll_append divided unpublished
  refine ⟨_, ready.deleted divided, ?_⟩
  have first := List.head?_dropWhile_not (fun f : Finding => !f.isPublished) k.registry.live
  rw [← others] at first
  rw [ran]
  split
  · rename_i empty
    exact perform_deleteAll_nil empty
  · rename_i f rest remaining
    rw [remaining, List.head?_cons] at first
    exact later.perform_deleteAll_refused remaining (by simpa using first)
      ((refusal_foldl_without k _).trans unwilling)

/-- Deleting all findings, while the catalog does not refuse. -/
theorem Ready.perform_deleteAll_willing (ready : k.Ready) (willing : k.refusal = none) :
    ∃ left, k.Deleted k.registry.live left ∧ left.registry.live = [] ∧
      k.perform (Books.deleteAll release) = (.ok (), left) := by
  obtain ⟨-, empty, ran⟩ := ready.perform_deleteAll_append (List.append_nil _).symm
    fun _ _ _ => willing
  exact ⟨_, ready.deleted (List.append_nil _).symm, empty, ran.trans (perform_deleteAll_nil empty)⟩

/-- What deletions do, whether the catalog refuses or not.  A refused deletion ends with the
refusal, whoever keeps the books, and changes nothing; when it is tried again it does what it would
have done, and a live finding is deleted.  Deleting all findings is deleting the first one as long
as there is one.  It deletes all of them, or those before the first published one if the catalog
refuses. -/
theorem deletions_and_refusals :
    (∀ (σ ω : Type) [KeepsBooks σ]
        (answer : (request : Request) → σ → ω → request.Answer × σ × ω)
        (release : Finding → List Ticket → Books.Work σ Unit) (state : σ) (world : ω) (number : Nat)
        (f : Finding) (fault : Fault),
      (KeepsBooks.books state).registry.get? number = some f → f.isPublished = true →
      (answer (.withdraw f.snapshot) state world).1 = .error fault →
      (Books.delete release number state).run answer world =
        (.error fault, (answer (.withdraw f.snapshot) state world).2)) ∧
    (∀ (k : Keeper) (number : Nat) (f : Finding) (fault : Fault),
      k.registry.get? number = some f → f.isPublished = true → k.refusal = some fault →
      k.perform (Books.delete release number) =
          (.error fault, k.hear [.withdrawn f.snapshot k.live]) ∧
        (∀ result k', { k with refusal := none }.perform (Books.delete release number) =
            (result, k') →
          ∃ heard, k'.heard = k.heard ++ heard ∧
            { k.hear [.withdrawn f.snapshot k.live] with refusal := none }.perform
                (Books.delete release number) =
              (result, { k' with
                heard := k.heard ++ [.withdrawn f.snapshot k.live] ++ heard })) ∧
        (k.Ready → f ∈ k.registry.live →
          { k.hear [.withdrawn f.snapshot k.live] with refusal := none }.perform
              (Books.delete release number) =
            (.ok (), { k.hear [.withdrawn f.snapshot k.live] with refusal := none }.without f))) ∧
    ∀ k : Keeper, k.Ready →
      (∀ result k', k.Empties result k' ↔ k.perform (Books.deleteAll release) = (result, k')) ∧
      (∀ fault, k.refusal = some fault →
        ∃ left, k.Deleted (k.registry.live.takeWhile fun f => !f.isPublished) left ∧
          k.perform (Books.deleteAll release) = match left.registry.live with
            | [] => (.ok (), left)
            | f :: _ => (.error fault, left.hear [.withdrawn f.snapshot left.live])) ∧
      (k.refusal = none →
        ∃ left, k.Deleted k.registry.live left ∧ left.registry.live = [] ∧
          k.perform (Books.deleteAll release) = (.ok (), left)) := by
  refine ⟨?_, fun k number f fault found published unwilling => ⟨?_, ?_, ?_⟩, ?_⟩
  · intro σ ω _ answer release state world number f fault found published refused
    exact Books.run_delete_refused release found published refused
  · exact perform_delete_refused found published unwilling
  · intro result k' done
    exact perform_delete_again [.withdrawn f.snapshot k.live] done
  · intro ready live
    obtain ⟨-, rfl⟩ := Registry.mem_of_get? found
    exact Ready.perform_delete ⟨ready.numbered, ready.covered⟩ live fun _ => rfl
  · intro k ready
    exact ⟨fun result k' => ready.empties_iff, fun fault => ready.perform_deleteAll_unwilling,
      ready.perform_deleteAll_willing⟩

/-- A scanner in the hall, of the initial scan. -/
def hallScanner (number : Nat) : Finding where
  number := number
  service := .uscan
  ifindex := 2
  name := "Hall"
  inInitialScan := true

/-- A published scanner in the hall, with a resolve to complete. -/
def heldScanner : Finding :=
  { hallScanner 1 with isPublished := true, tracker := ⟨[.number 7]⟩ }

/-- The second of three scanners is published, and the catalog does not let go of it. -/
def stubborn : Keeper where
  books := ⟨⟨⟨0, 3, 0⟩, .const true, .const false⟩, [hallScanner 0, heldScanner, hallScanner 2], []⟩
  refusal := some (.foreign "refused")

/-- Deleting the published scanner alone fails until the catalog lets go of it, and deleting all of
them removes the one before it. -/
theorem stubborn_catalog_keeps_two :
    stubborn.Ready ∧
      (Books.delete release 1 stubborn).run answer () =
        (.error (.foreign "refused"), stubborn.hear [.withdrawn heldScanner.snapshot [0, 1, 2]],
          ()) ∧
      (∃ left, { stubborn.hear [.withdrawn heldScanner.snapshot [0, 1, 2]] with
          refusal := none }.perform (Books.delete release 1) = (.ok (), left) ∧
        left.live = [0, 2]) ∧
      (stubborn.perform (Books.deleteAll release)).1 = .error (.foreign "refused") ∧
      (stubborn.perform (Books.deleteAll release)).2.live = [1, 2] ∧
      ({ stubborn with refusal := none }.perform (Books.deleteAll release)).2.live = [] := by
  have ready : stubborn.Ready := by
    refine ⟨⟨by decide, by decide⟩, fun m => ?_⟩
    cases m <;> decide
  obtain ⟨anywhere, refused, all⟩ := deletions_and_refusals
  obtain ⟨-, -, again⟩ := refused stubborn 1 heldScanner _ rfl rfl rfl
  obtain ⟨-, unwilling, -⟩ := all stubborn ready
  obtain ⟨left, deleted, ran⟩ := unwilling _ rfl
  obtain ⟨-, -, willing⟩ := all { stubborn with refusal := none } ⟨ready.numbered, ready.covered⟩
  obtain ⟨emptied, -, empty, done⟩ := willing rfl
  have remaining : left.registry.live = [heldScanner, hallScanner 2] :=
    List.append_cancel_left (show [hallScanner 0] ++ _ = [hallScanner 0] ++ _ from
      deleted.live.symm)
  refine ⟨ready, anywhere Keeper Unit answer release stubborn () 1 heldScanner _ rfl rfl rfl,
    ⟨_, again ready (by decide), by decide⟩, ?_, ?_, ?_⟩
  · rw [ran, remaining]
  · rw [ran, remaining]
    exact congrArg (List.map (·.number)) remaining
  · rw [done]
    exact congrArg (List.map (·.number)) empty

end Keeper

end ScannerDiscovery
