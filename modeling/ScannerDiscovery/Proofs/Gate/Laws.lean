import Mathlib.Data.List.Nodup
import ScannerDiscovery.Proofs.Gate.Calls
import ScannerDiscovery.Proofs.Registry.Keeper

/-!
# Laws of the gate

A gate counts exactly what its calls say: each count is the number of tasks added less the number
taken off, and a call is refused exactly if it would take a count below zero.  Each method is
reported by the first call that takes its count down to zero or reports everything, and by no
other.  The books make the calls, so that a refused one raises and each report is called back.

Main definitions:

- `Gate.Call.enact`, `Gate.keeperAfter` : the books make calls, one after another.
- `Gate.Lawful` : what holds after any calls.

Main results:

- `perform_enact`, `keeperAfter_eq` : what the books do is what the calls say.
- `lawful_after_any_calls` : the laws of the gate.
-/

namespace ScannerDiscovery.Gate

/-! ## The books make the calls -/

/-- The routine of the books that makes a call. -/
def Call.enact {σ : Type} [KeepsBooks σ] : Call → Books.Work σ Unit
  | .inc m => Books.modify fun books => { books with gate := books.gate.inc m }
  | .dec m => Books.lower m
  | .allForNow s => Books.allForNow s
  | .fireAll => Books.fireAll

/-- What whoever makes a call gets: a refused one raises. -/
def Call.outcome : Call → Option (List Method) → Except Fault Unit
  | .dec m, none => .error (.invariant (.counterUnderflow m))
  | .allForNow s, none => .error (.invariant (.counterUnderflow s.method))
  | _, _ => .ok ()

/-- Whoever keeps nothing but a gate, after calls. What they raise is passed over. -/
def keeperAfter (calls : List Call) : Keeper :=
  calls.foldl (fun k call => (k.perform call.enact).2) { books := .initial }

open Keeper

/-- What a call leads to: what it reports is heard, and it raises if it is refused. -/
theorem perform_enact (k : Keeper) (call : Call) :
    k.perform call.enact = (call.outcome (k.gate.perform call).2, { k with
      books.gate := (k.gate.perform call).1
      heard := k.heard ++ ((k.gate.perform call).2.getD []).map .done }) := by
  cases call with
  | inc m =>
      rw [perform, Option.getD_some, List.map_nil, List.append_nil]
      rfl
  | dec m =>
      rw [Call.enact, Books.lower, perform_bind_ok (perform_get k)]
      cases dec : k.books.gate.dec m with
      | none =>
          have step : k.gate.perform (.dec m) = (k.gate, none) := by
            simp only [perform, Keeper.gate, dec]
          rw [step, Option.getD_none, List.map_nil, List.append_nil]
          rfl
      | some lowered =>
          have step : k.gate.perform (.dec m) = (lowered.1, some lowered.2) := by
            simp only [perform, Keeper.gate, dec]
          rw [step]
          exact perform_setGate_report k _ _
  | allForNow s =>
      rw [Call.enact, Books.allForNow, perform_bind_ok (perform_get k)]
      have step : k.gate.perform (.allForNow s) = k.books.gate.allForNow s := rfl
      rw [step]
      obtain ⟨gate, fired⟩ := k.books.gate.allForNow s
      cases fired with
      | none =>
          rw [Option.getD_none, List.map_nil, List.append_nil]
          rfl
      | some fired => exact perform_setGate_report k _ _
  | fireAll =>
      rw [Call.enact, Books.fireAll, perform_bind_ok (perform_get k)]
      exact perform_setGate_report k _ _

/-- The books keep the gate as its calls leave it, and what has been reported has been heard. -/
theorem keeperAfter_eq (calls : List Call) : keeperAfter calls =
    { books := { Books.initial with gate := (after calls).gate }
      heard := (after calls).fired.map .done } := by
  induction calls using List.reverseRecOn with
  | nil => rfl
  | append_singleton calls call ih =>
      rw [keeperAfter, List.foldl_append, ← keeperAfter, ih, gate_after_concat, fired_after_concat,
        List.map_append]
      exact congrArg Prod.snd (perform_enact _ call)

/-- Exactly the refused calls raise. -/
theorem raises_iff (calls : List Call) (call : Call) :
    (∃ fault, ((keeperAfter calls).perform call.enact).1 = .error fault) ↔ Refused calls call := by
  rw [keeperAfter_eq, perform_enact, Refused]
  change (∃ fault, call.outcome ((after calls).gate.perform call).2 = .error fault) ↔ _
  have refused := (performs (after calls).gate call).refused_iff
  generalize ((after calls).gate.perform call).2 = answer at refused ⊢
  cases answer with
  | none =>
      obtain ⟨m, lowers, -⟩ := refused.1 rfl
      refine iff_of_true ?_ rfl
      cases call with
      | inc n => cases lowers
      | fireAll => cases lowers
      | dec n => exact ⟨_, rfl⟩
      | allForNow s => exact ⟨_, rfl⟩
  | some fired => cases call <;> simp [Call.outcome]

/-! ## The laws -/

/-- What holds of a gate after calls, and of any call that comes next. -/
structure Lawful (calls : List Call) : Prop where
  /-- Each count is the number of increments less the number of tasks taken off. -/
  balanced (m : Method) :
    ((after calls).gate.count m : Int) = calls.count (.inc m) - taken calls m
  /-- A call is refused exactly if it would take a count below zero. -/
  refused_iff (call : Call) :
    Refused calls call ↔ ∃ m, takesOff calls call = some m ∧ (after calls).gate.count m = 0
  /-- A refused call changes no count, completes no method and reports none. -/
  unchanged (call : Call) (refused : Refused calls call) :
    (∀ m, (after (calls ++ [call])).gate.count m = (after calls).gate.count m) ∧
      (∀ m, (after (calls ++ [call])).gate.isDone m = (after calls).gate.isDone m) ∧
      (after (calls ++ [call])).fired = (after calls).fired
  /-- A call reports the methods that it completes and that no call before it has completed. -/
  reported (call : Call) : ∃ fired, (after (calls ++ [call])).fired = (after calls).fired ++ fired ∧
    ∀ m, m ∈ fired ↔ Completes calls call m ∧
      ∀ moment ∈ moments calls, ¬Completes moment.1 moment.2 m
  /-- No method is reported twice. -/
  once : (after calls).fired.Nodup
  /-- The methods that are done are those that have been reported. -/
  done_iff (m : Method) : (after calls).gate.isDone m = true ↔ m ∈ (after calls).fired
  /-- A phase lasts until its own call or that which reports everything. -/
  phase_iff (s : Service) : (after calls).gate.inInitialScan s = true ↔
    .allForNow s ∉ calls ∧ .fireAll ∉ calls
  /-- After either, the call for a service changes nothing at all. -/
  repeated (s : Service) (past : .allForNow s ∈ calls ∨ .fireAll ∈ calls) :
    after (calls ++ [.allForNow s]) = after calls
  /-- The books make the calls so, and what is reported is called back. -/
  enacted : (keeperAfter calls).gate = (after calls).gate ∧
    (keeperAfter calls).heard = (after calls).fired.map .done
  /-- Exactly the refused calls raise. -/
  raises_iff (call : Call) :
    (∃ fault, ((keeperAfter calls).perform call.enact).1 = .error fault) ↔ Refused calls call

/-- After any calls, refused ones among them, the gate has counted and reported what its laws say.
-/
theorem lawful_after_any_calls (calls : List Call) : Lawful calls where
  balanced m := by
    have := count_after calls m
    omega
  refused_iff call := by
    rw [Refused, (performs (after calls).gate call).refused_iff, lowers_after]
  unchanged call refused := by
    obtain ⟨counts, reports⟩ := (performs (after calls).gate call).unchanged refused
    rw [fired_after_concat, show ((after calls).gate.perform call).2 = none from refused]
    rw [gate_after_concat]
    exact ⟨counts, reports, List.append_nil _⟩
  reported call := by
    refine ⟨_, fired_after_concat calls call, fun m => ?_⟩
    rw [(performs (after calls).gate call).mem_fired_iff, ← gate_after_concat, isDone_after_concat,
      isDone_after]
    simp only [not_exists, not_and]
    tauto
  once := by
    rw [List.nodup_iff_count_le_one]
    intro m
    rw [count_fired_after]
    exact Bool.toNat_le _
  done_iff m := by
    rw [← List.count_pos_iff, count_fired_after]
    cases (after calls).gate.isDone m <;> simp
  phase_iff := inInitialScan_after calls
  repeated s past := by
    have ended : (after calls).gate.inInitialScan s = false := by
      rw [← Bool.not_eq_true, inInitialScan_after]
      tauto
    rw [after_concat, Course.next, perform_allForNow_ended ended]
    simp
  enacted := by
    rw [keeperAfter_eq]
    exact ⟨rfl, rfl⟩
  raises_iff := raises_iff calls

/-- A refused decrement leaves the gate to the calls after it, and a phase ends only once. -/
example : (after [.dec .uscanTcp, .inc .uscanTcp, .inc .uscanTcp, .allForNow .uscan,
    .allForNow .uscan, .dec .uscanTcp, .fireAll]).fired = [.uscanTcp, .mdnsHint, .uscansTcp] := by
  decide

end ScannerDiscovery.Gate
