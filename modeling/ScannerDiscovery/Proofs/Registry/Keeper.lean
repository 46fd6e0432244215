import ScannerDiscovery.Proofs.Gate
import ScannerDiscovery.Proofs.Registry

/-!
# Keeping findings

Whoever keeps findings has the books and is called back: before a published finding is removed, when
resolves are released, and when methods are done.  The catalog may refuse to withdraw a finding.

Main definitions:

- `Callback`, `Keeper` : what is heard, and the books beside it.
- `Keeper.without` : what deleting a live finding leads to.
- `Keeper.Ready` : what deletions need.
- `Keeper.Sound` : what holds between the operations.

Main results:

- `perform_delete_live`, `perform_delete_gone` : deleting a finding, by whether it is live.
- `Ready.perform_deleteAll_append` : deleting all findings begins with the first ones.
- `Sound.obtained`, `Sound.without` : the operations keep what holds between them.
-/

namespace ScannerDiscovery

/-! ## Findings that are deleted -/

/-- What a finding is after it has been deleted. -/
def Finding.gone (f : Finding) : Finding :=
  { f with state := .deleted, tracker := .empty, inInitialScan := false, isPublished := false }

/-- The registry after a live finding has been deleted. -/
def Registry.without (r : Registry) (f : Finding) : Registry :=
  ⟨r.live.filter (·.number ≠ f.number), f.gone :: r.removed⟩

/-- The gate after a finding has been deleted. -/
def Gate.without (g : Gate) (f : Finding) : Gate :=
  if f.inInitialScan then g.lowered f.method else g

/-- The methods that are reported done when a finding is deleted. -/
def Gate.fired (g : Gate) (f : Finding) : List Method :=
  if f.inInitialScan then ((g.dec f.method).map (·.2)).getD [] else []

namespace Registry

variable {r : Registry} {f : Finding}

/-- Deleting a live finding drops it. -/
theorem drops_without (numbered : r.WellNumbered) (live : f ∈ r.live) :
    r.Drops f f.gone (r.without f) := by
  obtain ⟨before, after, hlive⟩ := List.append_of_mem live
  refine ⟨before, after, hlive, ?_⟩
  rw [without, numbered.filter_split hlive]

/-- Withdrawing, removing and counting off a live finding, one after another. -/
theorem remove_unpublished (numbered : r.WellNumbered) (live : f ∈ r.live) :
    ∃ r', (if f.isPublished then r.modify f.number fun f => { f with isPublished := false }
        else r).remove f.number = some (r', { f with isPublished := false }) ∧
      (if f.inInitialScan then r'.modify f.number fun f => { f with inInitialScan := false }
        else r') = r.without f := by
  let f' : Finding := { f with isPublished := false }
  have withdrawn : r.Replaces f f' (if f.isPublished then
      r.modify f.number fun f => { f with isPublished := false } else r) := by
    split
    · exact modify_replaces numbered live _
    · rename_i unpublished
      have : f' = f := by
        obtain ⟨⟩ := f
        simp_all [f']
      rw [this]
      exact replaces_self live
  obtain ⟨r', removed, drops⟩ := remove_drops (numbered.replaces withdrawn rfl) withdrawn.mem'
  have dropped := withdrawn.drops numbered rfl drops
  refine ⟨r', removed, Drops.eq numbered ?_⟩
  split
  · exact dropped.modify numbered rfl _
  · rename_i uncounted
    have : f.gone = { f' with state := .deleted, tracker := .empty } := by
      obtain ⟨⟩ := f
      simp_all [Finding.gone, f']
    rw [this]
    exact dropped

end Registry

/-! ## Keepers -/

/-- What whoever keeps findings is called back for: a finding is withdrawn while some findings are
live, resolves are released, a method is done. -/
inductive Callback
  | withdrawn (snapshot : Snapshot) (live : List Nat)
  | released (number : Nat) (ops : List Ticket)
  | done (m : Method)
  deriving DecidableEq

/-- The books, how the catalog refuses to withdraw a finding, if it does, and what has been heard
so far. -/
structure Keeper where
  books : Books
  refusal : Option Fault := none
  heard : List Callback := []

instance : KeepsBooks Keeper where
  books := Keeper.books
  withBooks keeper books := { keeper with books }

namespace Keeper

variable {α β : Type} {k : Keeper} {f : Finding}

/-- The registry. -/
def registry (k : Keeper) : Registry := k.books.registry

/-- The gate. -/
def gate (k : Keeper) : Gate := k.books.gate

/-- The numbers of the live findings, in order of creation. -/
def live (k : Keeper) : List Nat :=
  k.registry.live.map (·.number)

/-- The keeper after some callbacks. -/
def hear (k : Keeper) (callbacks : List Callback) : Keeper :=
  { k with heard := k.heard ++ callbacks }

/-- Answers a request of the books. -/
def answer (request : Request) (k : Keeper) (_ : Unit) : request.Answer × Keeper × Unit :=
  match request with
  | .scanDone m => ((), k.hear [.done m], ())
  | .withdraw snapshot =>
    (k.refusal.elim (.ok ()) .error, k.hear [.withdrawn snapshot k.live], ())
  | .startClient | .stopClient | .stopBrowse _ | .publish _ => (.ok (), k, ())
  | .hear .. => (.ok (), k, ())
  | .startBrowse _ | .resolve .. => (.ok (.number 0), k, ())
  | .cancelResolve _ | .armRestart _ | .disarmRestart _ | .settle .. => ((), k, ())

/-- Takes note of the resolves of a deleted finding. -/
def release (f : Finding) (ops : List Ticket) : Books.Work Keeper Unit :=
  Routine.modify (·.hear [.released f.number ops])

/-- Runs a routine of the books. -/
def perform (k : Keeper) (work : Books.Work Keeper α) : Except Fault α × Keeper :=
  let (result, k, _) := (work k).run answer ()
  (result, k)

/-! ## Running routines -/

/-- One routine after another. -/
theorem perform_bind (k : Keeper) (work : Books.Work Keeper α) (next : α → Books.Work Keeper β) :
    k.perform (work >>= next) =
      match k.perform work with
      | (.ok value, k) => k.perform (next value)
      | (.error fault, k) => (.error fault, k) := by
  have ran := Outcome.run_bind answer (work k) next ()
  unfold perform
  change (match ((work k).bind next).run answer () with | (result, k, _) => (result, k)) = _
  rw [ran]
  generalize (work k).run answer () = ended
  obtain ⟨_ | _, k', _⟩ := ended <;> rfl

/-- What a routine leads to that does not fail. -/
theorem perform_bind_ok {work : Books.Work Keeper α} {next : α → Books.Work Keeper β} {k' : Keeper}
    {value : α} (first : k.perform work = (.ok value, k')) :
    k.perform (work >>= next) = k'.perform (next value) := by
  rw [perform_bind, first]

theorem perform_pure (k : Keeper) (value : α) : k.perform (pure value) = (.ok value, k) := rfl

theorem perform_get (k : Keeper) : k.perform Books.get = (.ok k.books, k) := rfl

theorem perform_modify (k : Keeper) (change : Books → Books) :
    k.perform (Books.modify change) = (.ok (), { k with books := change k.books }) := rfl

theorem perform_withdraw (k : Keeper) (snapshot : Snapshot) :
    k.perform (Routine.ask (I := requests) (.withdraw snapshot)) =
      (.ok (k.refusal.elim (.ok ()) .error), k.hear [.withdrawn snapshot k.live]) := rfl

/-- Methods are reported one after another. -/
theorem perform_report (k : Keeper) (methods : List Method) :
    k.perform (Books.report methods) = (.ok (), k.hear (methods.map .done)) := by
  induction methods generalizing k with
  | nil => simp [Books.report, perform_pure, hear]
  | cons m rest ih =>
      have first : k.perform (Routine.ask (I := requests) (.scanDone m)) =
          (.ok (), k.hear [.done m]) := rfl
      rw [Books.report, perform_bind_ok first, ih]
      simp [hear]

/-- The gate is replaced before what it reports is heard. -/
theorem perform_setGate_report (k : Keeper) (gate : Gate) (methods : List Method) :
    k.perform (Books.setGate gate >>= fun _ => Books.report methods) = (.ok (), { k with
      books.gate := gate
      heard := k.heard ++ methods.map .done }) := by
  rw [Books.setGate, perform_bind_ok (perform_modify k _), perform_report]
  rfl

/-- A task that is counted is counted off. -/
theorem perform_lower {m : Method} (counted : 0 < k.gate.count m) :
    k.perform (Books.lower m) = (.ok (), { k with
      books.gate := k.gate.lowered m
      heard := k.heard ++ (((k.gate.dec m).map (·.2)).getD []).map .done }) := by
  rw [Books.lower, perform_bind_ok (perform_get k)]
  cases dec : k.books.gate.dec m with
  | none =>
      have := (Gate.dec_refused_iff _ _).1 dec
      exact absurd counted (by rw [gate, this]; exact Nat.lt_irrefl 0)
  | some lowered =>
      obtain ⟨gate, fired⟩ := lowered
      refine (perform_setGate_report k gate fired).trans ?_
      simp [Keeper.gate, Gate.lowered, dec]

/-- What is heard when a finding is withdrawn, if it is published. -/
def withdrawal (k : Keeper) (f : Finding) : List Callback :=
  if f.isPublished then [.withdrawn f.snapshot k.live] else []

/-- A published finding is withdrawn, if the catalog does not refuse. -/
theorem perform_unpublish (willing : f.isPublished = true → k.refusal = none) :
    k.perform (Books.unpublish f) = (.ok (), { k with
      books.registry := if f.isPublished
        then k.registry.modify f.number fun f => { f with isPublished := false } else k.registry
      heard := k.heard ++ k.withdrawal f }) := by
  unfold Books.unpublish
  cases published : f.isPublished with
  | false =>
      simp only [withdrawal, published, Bool.false_eq_true, if_false, List.append_nil]
      rfl
  | true =>
      simp only [withdrawal, published, if_true]
      have answered := k.perform_withdraw f.snapshot
      rw [willing published, Option.elim_none] at answered
      rw [perform_bind_ok answered]
      rfl

/-- A finding that is counted is counted off. -/
theorem perform_uncount (counted : f.inInitialScan = true → 0 < k.gate.count f.method) :
    k.perform (Books.uncount f) = (.ok (), { k with
      books := ⟨k.gate.without f, if f.inInitialScan
        then k.registry.modify f.number fun f => { f with inInitialScan := false } else k.registry⟩
      heard := k.heard ++ (k.gate.fired f).map .done }) := by
  unfold Books.uncount
  cases initial : f.inInitialScan with
  | false =>
      simp only [Gate.without, Gate.fired, initial, Bool.false_eq_true, if_false, List.map_nil,
        List.append_nil]
      rfl
  | true =>
      simp only [Gate.without, Gate.fired, initial, if_true]
      rw [Books.modifyFinding, perform_bind_ok (perform_modify k _)]
      exact perform_lower (k := { k with books.registry := _ }) (counted initial)

/-- What deleting a live finding leads to: it is withdrawn if it is published, counted off, and its
resolves are released. -/
def without (k : Keeper) (f : Finding) : Keeper where
  books := ⟨k.gate.without f, k.registry.without f⟩
  refusal := k.refusal
  heard := k.heard ++ (k.withdrawal f ++ (k.gate.fired f).map .done ++
    [.released f.number f.tracker.pending])

/-- Deleting a live finding. -/
theorem perform_delete_live (numbered : k.registry.WellNumbered) (live : f ∈ k.registry.live)
    (willing : f.isPublished = true → k.refusal = none)
    (counted : f.inInitialScan = true → 0 < k.gate.count f.method) :
    k.perform (Books.delete release f.number) = (.ok (), k.without f) := by
  have found : k.books.registry.get? f.number = some f :=
    numbered.get?_number (List.mem_append_left _ live)
  rw [Books.delete, perform_bind_ok (perform_get k), found]
  dsimp only
  rw [perform_bind_ok (perform_unpublish willing), perform_bind_ok (perform_get _)]
  obtain ⟨r', removed, rest⟩ := Registry.remove_unpublished numbered live
  rw [removed]
  dsimp only
  rw [Books.setRegistry, perform_bind_ok (perform_modify _ _),
    perform_bind_ok (perform_uncount (by exact counted))]
  change (Except.ok (), Keeper.mk ⟨k.gate.without f, if f.inInitialScan
      then r'.modify f.number fun f => { f with inInitialScan := false } else r'⟩ k.refusal
    (k.heard ++ k.withdrawal f ++ (k.gate.fired f).map .done ++
      [.released f.number f.tracker.pending])) = _
  rw [rest, List.append_assoc, List.append_assoc, ← List.append_assoc (k.withdrawal f)]
  rfl

/-- Deleting a finding that is not live, and not published either: nothing is done, and nothing is
heard of it. -/
theorem perform_delete_gone {number : Nat}
    (withdrawn : ∀ f ∈ k.registry.removed, f.isPublished = false) (gone : number ∉ k.live) :
    k.perform (Books.delete release number) = (.ok (), k) := by
  rw [Books.delete, perform_bind_ok (perform_get k)]
  cases found : k.books.registry.get? number with
  | none => rfl
  | some f =>
      obtain ⟨mem, rfl⟩ := Registry.mem_of_get? found
      have removed : f ∈ k.registry.removed :=
        (List.mem_append.1 mem).resolve_left fun live => gone (List.mem_map_of_mem live)
      have unpublished : k.perform (Books.unpublish f) = (.ok (), k) := by
        rw [Books.unpublish, withdrawn f removed]
        rfl
      have absent : k.books.registry.remove f.number = none := by
        rw [Registry.remove, Option.map_eq_none_iff, List.find?_eq_none]
        intro g live number
        exact gone (List.mem_map.2 ⟨g, live, by simpa using number⟩)
      dsimp only
      rw [perform_bind_ok unpublished, perform_bind_ok (perform_get k), absent]
      rfl

/-- Of no live findings, none is deleted. -/
theorem perform_deleteAll_nil (empty : k.registry.live = []) :
    k.perform (Books.deleteAll release) = (.ok (), k) := by
  rw [Books.deleteAll, perform_bind_ok (perform_get k)]
  change k.perform (Books.deleteEach release (k.registry.live.map (·.number))) = _
  rw [empty]
  rfl

end Keeper

/-- Whether the gate counts, for each method, all its live findings of the initial scan. -/
def Books.Covered (b : Books) : Prop :=
  ∀ m, b.registry.live.countP (fun f => f.method == m && f.inInitialScan) ≤ b.gate.count m

namespace Keeper

variable {k : Keeper} {f : Finding}

/-! ## Deletions -/

/-- Whether live findings can be deleted: their numbers tell them apart, and the gate counts those
of the initial scan. -/
structure Ready (k : Keeper) : Prop where
  numbered : k.registry.WellNumbered
  covered : k.books.Covered

namespace Ready

/-- A live finding of the initial scan is counted. -/
theorem counted (ready : k.Ready) (live : f ∈ k.registry.live) (initial : f.inInitialScan = true) :
    0 < k.gate.count f.method := by
  refine Nat.lt_of_lt_of_le ?_ (ready.covered f.method)
  exact List.countP_pos_iff.2 ⟨f, live, by simp [initial]⟩

/-- Deleting a live finding. -/
theorem perform_delete (ready : k.Ready) (live : f ∈ k.registry.live)
    (willing : f.isPublished = true → k.refusal = none) :
    k.perform (Books.delete release f.number) = (.ok (), k.without f) :=
  perform_delete_live ready.numbered live willing (ready.counted live)

/-- A finding that has been deleted is counted no longer. -/
theorem covered_without (ready : k.Ready) (live : f ∈ k.registry.live) :
    (k.without f).books.Covered := by
  intro m
  obtain ⟨before, after, hlive⟩ := List.append_of_mem live
  have all := ready.covered m
  have counted := ready.counted live
  change (k.registry.live.filter (·.number ≠ f.number)).countP _ ≤ (k.gate.without f).count m
  rw [ready.numbered.filter_split hlive]
  change k.registry.live.countP _ ≤ k.gate.count m at all
  rw [hlive, List.countP_append, List.countP_cons] at all
  rw [List.countP_append]
  unfold Gate.without
  cases initial : f.inInitialScan with
  | false =>
      simp only [initial, Bool.and_false, Bool.false_eq_true, if_false] at all ⊢
      omega
  | true =>
      have := counted initial
      simp only [initial, Bool.and_true, beq_iff_eq, if_true] at all ⊢
      rw [Gate.count_lowered]
      split at all
      · rename_i hm
        subst hm
        rw [if_pos rfl]
        omega
      · rename_i hm
        rw [if_neg hm]
        omega

/-- After a live finding has been deleted, others can be. -/
theorem without (ready : k.Ready) (live : f ∈ k.registry.live) : (k.without f).Ready :=
  ⟨ready.numbered.drops (Registry.drops_without ready.numbered live) rfl,
    ready.covered_without live⟩

/-- The first live finding having been deleted, the others are left. -/
theorem live_without (ready : k.Ready) {rest : List Finding} (hlive : k.registry.live = f :: rest) :
    (k.without f).registry.live = rest :=
  ready.numbered.filter_split (hlive.trans (List.nil_append _).symm)

/-- Deleting all findings begins with the first one. -/
theorem perform_deleteAll_cons (ready : k.Ready) {rest : List Finding}
    (hlive : k.registry.live = f :: rest) (willing : f.isPublished = true → k.refusal = none) :
    k.perform (Books.deleteAll release) = (k.without f).perform (Books.deleteAll release) := by
  have live : f ∈ k.registry.live := hlive ▸ List.mem_cons_self
  have others : (k.without f).books.registry.live = rest := ready.live_without hlive
  rw [Books.deleteAll, perform_bind_ok (perform_get k), perform_bind_ok (perform_get _), others]
  change k.perform (Books.deleteEach release (k.registry.live.map (·.number))) = _
  rw [hlive, List.map_cons, Books.deleteEach, perform_bind_ok (ready.perform_delete live willing)]

/-- Deleting all findings begins with the first ones, one after another. -/
theorem perform_deleteAll_append {before rest : List Finding} (ready : k.Ready)
    (hlive : k.registry.live = before ++ rest)
    (willing : ∀ f ∈ before, f.isPublished = true → k.refusal = none) :
    (before.foldl Keeper.without k).Ready ∧
      (before.foldl Keeper.without k).registry.live = rest ∧
      k.perform (Books.deleteAll release) =
        (before.foldl Keeper.without k).perform (Books.deleteAll release) := by
  induction before generalizing k with
  | nil => exact ⟨ready, hlive, rfl⟩
  | cons f before ih =>
      obtain ⟨first, others⟩ := List.forall_mem_cons.1 willing
      rw [ready.perform_deleteAll_cons hlive first]
      exact ih (ready.without (hlive ▸ List.mem_cons_self)) (ready.live_without hlive) others

end Ready

/-! ## Between the operations -/

/-- What holds between the operations. -/
structure Sound (k : Keeper) : Prop where
  numbered : k.registry.WellNumbered
  keys : (k.registry.live.map (·.key)).Nodup
  ascending : k.live.Pairwise (· < ·)
  withdrawn : ∀ f ∈ k.registry.removed, f.isPublished = false
  covered : k.books.Covered
  willing : k.refusal = none

/-- With an empty registry the gate may count whatever it does. -/
theorem Sound.initial (gate : Gate) : Sound { books := ⟨gate, .empty⟩ } where
  numbered := Registry.wellNumbered_empty
  keys := List.nodup_nil
  ascending := .nil
  withdrawn _ removed := absurd removed List.not_mem_nil
  covered _ := Nat.zero_le _
  willing := rfl

namespace Sound

theorem ready (sound : k.Sound) : k.Ready :=
  ⟨sound.numbered, sound.covered⟩

/-- Deleting a live finding. -/
theorem perform_delete (sound : k.Sound) (live : f ∈ k.registry.live) :
    k.perform (Books.delete release f.number) = (.ok (), k.without f) :=
  sound.ready.perform_delete live fun _ => sound.willing

/-- Deleting a live finding keeps what holds. -/
theorem without (sound : k.Sound) (live : f ∈ k.registry.live) : (k.without f).Sound where
  numbered := sound.numbered.drops (Registry.drops_without sound.numbered live) rfl
  keys := sound.keys.sublist (List.filter_sublist.map _)
  ascending := sound.ascending.sublist (List.filter_sublist.map _)
  withdrawn g removed := by
    rcases List.mem_cons.1 removed with rfl | removed
    · rfl
    · exact sound.withdrawn g removed
  covered := sound.ready.covered_without live
  willing := sound.willing

/-- The first live finding having been deleted, the others are left. -/
theorem live_without (sound : k.Sound) {rest : List Finding} (hlive : k.registry.live = f :: rest) :
    (k.without f).registry.live = rest :=
  sound.ready.live_without hlive

/-- Deleting all live findings is deleting one after another, in order of creation. -/
theorem perform_deleteAll (sound : k.Sound) :
    k.perform (Books.deleteAll release) = (.ok (), k.registry.live.foldl Keeper.without k) := by
  obtain ⟨-, empty, ran⟩ := sound.ready.perform_deleteAll_append (List.append_nil _).symm
    fun _ _ _ => sound.willing
  rw [ran, perform_deleteAll_nil empty]

/-- Deleting all live findings keeps what holds, and leaves none. -/
theorem withoutAll {findings : List Finding} (sound : k.Sound) (all : k.registry.live = findings) :
    (findings.foldl Keeper.without k).Sound ∧
      (findings.foldl Keeper.without k).registry.live = [] := by
  induction findings generalizing k with
  | nil => exact ⟨sound, all⟩
  | cons f rest ih =>
      exact ih (sound.without (all ▸ List.mem_cons_self)) (sound.live_without all)

/-- A finding is created after all others. -/
theorem ascending_created (sound : k.Sound) (service : Service) (ifindex : Int) (name : String)
    (counted : Bool) :
    ((k.registry.create service ifindex name counted).1.live.map (·.number)).Pairwise (· < ·) := by
  rw [Registry.create, List.map_append, List.pairwise_append]
  refine ⟨sound.ascending, List.pairwise_singleton _ _, ?_⟩
  intro n hn number hnumber
  obtain ⟨f, hf, rfl⟩ := List.mem_map.1 hn
  rw [List.mem_singleton.1 hnumber]
  exact sound.numbered.lt_made f (List.mem_append_left _ hf)

/-- A finding that is created in the initial phase of its service is counted. -/
theorem covered_created (sound : k.Sound) (service : Service) (ifindex : Int) (name : String) :
    Books.Covered
      ⟨if k.gate.inInitialScan service then k.gate.inc service.method else k.gate,
        (k.registry.create service ifindex name (k.gate.inInitialScan service)).1⟩ := by
  intro m
  have all := sound.covered m
  change k.registry.live.countP _ ≤ k.gate.count m at all
  rw [Registry.create, List.countP_append, List.countP_singleton]
  change _ + (if (service.method == m && k.gate.inInitialScan service) = true then 1 else 0) ≤ _
  cases k.gate.inInitialScan service with
  | false => simpa using all
  | true =>
      rw [if_pos rfl, Gate.count_inc, Bool.and_true]
      by_cases hm : service.method = m
      · subst hm
        simpa using all
      · simpa [hm] using all

/-- The finding of an instance is obtained, and what holds is kept. -/
theorem obtained (sound : k.Sound) (service : Service) (ifindex : Int) (name : String) :
    Sound { k with books := (k.books.getOrCreate service ifindex name).1 } := by
  cases known : k.books.registry.find? (.of service ifindex name) with
  | some f =>
      rw [Books.getOrCreate_of_some known]
      exact sound
  | none =>
      rw [Books.getOrCreate_of_none known]
      exact ⟨sound.numbered.create .., Registry.nodup_keys_create sound.keys known _,
        sound.ascending_created .., sound.withdrawn, sound.covered_created service ifindex name,
        sound.willing⟩

end Sound

/-- What may happen to the books between the operations: findings are changed, but keep their keys
and numbers, and only live ones become published; the gate still counts all it has to. -/
structure Meanwhile (b b' : Books) : Prop where
  live : b'.registry.live.map (fun f => (f.key, f.number)) =
    b.registry.live.map fun f => (f.key, f.number)
  removed : b'.registry.removed.map (fun f => (f.key, f.number)) =
    b.registry.removed.map fun f => (f.key, f.number)
  withdrawn : ∀ f ∈ b'.registry.removed, f.isPublished = false
  covered : b'.Covered

theorem Meanwhile.numbers {b b' : Books} (meanwhile : Meanwhile b b') :
    b'.registry.live.map (·.number) = b.registry.live.map (·.number) := by
  simpa [Function.comp_def] using congrArg (List.map Prod.snd) meanwhile.live

theorem Meanwhile.keys {b b' : Books} (meanwhile : Meanwhile b b') :
    b'.registry.live.map (·.key) = b.registry.live.map (·.key) := by
  simpa [Function.comp_def] using congrArg (List.map Prod.fst) meanwhile.live

theorem Meanwhile.removedNumbers {b b' : Books} (meanwhile : Meanwhile b b') :
    b'.registry.removed.map (·.number) = b.registry.removed.map (·.number) := by
  simpa [Function.comp_def] using congrArg (List.map Prod.snd) meanwhile.removed

/-- Whatever happens meanwhile keeps what holds. -/
theorem Sound.meanwhile (sound : k.Sound) {books : Books} (meanwhile : Meanwhile k.books books) :
    Sound { k with books } where
  numbered := sound.numbered.of_numbers <| by
    rw [List.map_append, List.map_append]
    exact congr (congrArg _ meanwhile.numbers) meanwhile.removedNumbers
  keys := by
    change (books.registry.live.map (·.key)).Nodup
    rw [meanwhile.keys]
    exact sound.keys
  ascending := by
    change (books.registry.live.map (·.number)).Pairwise (· < ·)
    rw [meanwhile.numbers]
    exact sound.ascending
  withdrawn := meanwhile.withdrawn
  covered := meanwhile.covered
  willing := sound.willing

end Keeper

end ScannerDiscovery
