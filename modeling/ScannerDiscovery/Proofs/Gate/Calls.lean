import Mathlib.Data.List.Induction
import Mathlib.Tactic.Tauto
import ScannerDiscovery.Proofs.Gate

/-!
# Calls on the gate

Whatever calls are made on a gate, and in whatever order, those that are refused change no count and
report nothing, and those after them find the gate as it was.  What a call takes off, and which
phases it ends, can be told from the calls before it.

Main definitions:

- `Gate.Call`, `Gate.perform`, `Gate.after` : calls on a gate, and what they lead to.
- `Gate.takesOff`, `Gate.taken` : the tasks that calls take off.
- `Gate.Completes` : the calls by which a method is completed.
- `Gate.Performs` : the ways in which a call can act.

Main results:

- `performs`, `inInitialScan_perform` : what one call does.
- `count_after`, `isDone_after`, `inInitialScan_after` : what all calls have done.
-/

namespace ScannerDiscovery.Gate

/-! ## Calls -/

/-- A call on a gate. -/
inductive Call
  | inc (m : Method)
  | dec (m : Method)
  | allForNow (s : Service)
  | fireAll
  deriving DecidableEq

/-- What a call leads to, with the methods that it reports. It reports none if it is refused. -/
def perform (g : Gate) : Call → Gate × Option (List Method)
  | .inc m => (g.inc m, some [])
  | .dec m =>
    match g.dec m with
    | none => (g, none)
    | some (lowered, fired) => (lowered, some fired)
  | .allForNow s => g.allForNow s
  | .fireAll => (g.fireAll.1, some g.fireAll.2)

/-- A gate with the methods that it has reported, in order. -/
structure Course where
  gate : Gate
  fired : List Method

/-- The course of a gate after one more call. -/
def Course.next (c : Course) (call : Call) : Course :=
  let (gate, fired) := c.gate.perform call
  ⟨gate, c.fired ++ fired.getD []⟩

/-- The course of a gate after calls. Those that are refused do not keep the others from being
made. -/
def after (calls : List Call) : Course :=
  calls.foldl Course.next ⟨initial, []⟩

/-- The course after one more call. -/
@[simp]
theorem after_concat (calls : List Call) (call : Call) :
    after (calls ++ [call]) = (after calls).next call := by
  simp [after]

/-- Whether a call is refused after others. -/
def Refused (calls : List Call) (call : Call) : Prop :=
  ((after calls).gate.perform call).2 = none

instance (calls : List Call) (call : Call) : Decidable (Refused calls call) :=
  inferInstanceAs (Decidable (_ = _))

/-- The calls of a list, each with those before it. -/
def moments : List Call → List (List Call × Call)
  | [] => []
  | call :: later =>
    ([], call) :: (moments later).map fun (earlier, next) => (call :: earlier, next)

/-- With one more call there is one more moment: that call, after those before it. -/
@[simp]
theorem moments_concat (calls : List Call) (call : Call) :
    moments (calls ++ [call]) = moments calls ++ [(calls, call)] := by
  induction calls with
  | nil => rfl
  | cons first rest ih => simp [moments, ih]

/-- The method that a call takes a task off after others. The end of a phase takes one off, if the
phase has not been ended before. -/
def takesOff (calls : List Call) : Call → Option Method
  | .dec m => some m
  | .allForNow s =>
    if .allForNow s ∉ calls ∧ .fireAll ∉ calls then some s.method else none
  | _ => none

/-- The number of tasks that have been taken off a method. -/
def taken (calls : List Call) (m : Method) : Nat :=
  (moments calls).countP fun (earlier, call) =>
    takesOff earlier call = some m ∧ ¬Refused earlier call

/-- Whether a call after others completes a method: its count falls to zero, or everything is
reported. -/
def Completes (calls : List Call) (call : Call) (m : Method) : Prop :=
  call = .fireAll ∨
    (after calls).gate.count m ≠ 0 ∧ (after (calls ++ [call])).gate.count m = 0

/-! ## One call -/

/-- The method that a call takes a task off, by the phases of the gate. -/
def lowers (g : Gate) : Call → Option Method
  | .dec m => some m
  | .allForNow s => if g.inInitialScan s then some s.method else none
  | _ => none

variable {g : Gate} {call : Call} {r : Gate × Option (List Method)}

/-- Counting a task off is refused where nothing is counted, and lowers the count elsewhere. -/
theorem perform_dec (g : Gate) (m : Method) :
    g.perform (.dec m) = (g.lowered m, (g.dec m).map (·.2)) := by
  rw [perform, lowered]
  cases g.dec m <;> rfl

/-- The end of a phase is a decrement in the gate without the phase. -/
theorem perform_allForNow {s : Service} (initial : g.inInitialScan s = true) :
    g.perform (.allForNow s) = (g.endPhase s).perform (.dec s.method) := by
  cases dec : (g.endPhase s).dec s.method <;> simp [perform, allForNow, initial, dec]

/-- To hear once more of the end of a phase changes nothing and reports nothing. -/
theorem perform_allForNow_ended {s : Service} (ended : g.inInitialScan s = false) :
    g.perform (.allForNow s) = (g, some []) := by
  simp only [perform, allForNow, ended, Bool.false_eq_true, if_false]

/-- What a call can do: it takes a task off, in a gate with the same counts and reports, it adds
one, it comes after the end of its phase, or it reports everything. -/
inductive Performs (g : Gate) : Call → Gate × Option (List Method) → Prop
  | takes {call : Call} {m : Method} {g' : Gate} (lowers : g.lowers call = some m)
      (counts : ∀ n, g'.count n = g.count n) (reports : ∀ n, g'.isDone n = g.isDone n) :
      Performs g call (g'.lowered m, (g'.dec m).map (·.2))
  | adds (m : Method) : Performs g (.inc m) (g.inc m, some [])
  | idles {s : Service} (lowers : g.lowers (.allForNow s) = none) :
      Performs g (.allForNow s) (g, some [])
  | completes : Performs g .fireAll (g.fireAll.1, some g.fireAll.2)

/-- What a call returns is what the rules of its kind say. -/
theorem performs (g : Gate) (call : Call) : Performs g call (g.perform call) := by
  cases call with
  | inc m => exact .adds m
  | dec m =>
      rw [perform_dec]
      exact .takes rfl (fun _ => rfl) (fun _ => rfl)
  | allForNow s =>
      cases phase : g.inInitialScan s with
      | true =>
          rw [perform_allForNow phase, perform_dec]
          exact .takes (if_pos phase) (fun _ => rfl) (fun _ => rfl)
      | false =>
          rw [perform_allForNow_ended phase]
          exact .idles (by simp [lowers, phase])
  | fireAll => exact .completes

namespace Performs

/-- A call is refused exactly if it takes a task off where none is counted. -/
theorem refused_iff (acts : Performs g call r) :
    r.2 = none ↔ ∃ m, g.lowers call = some m ∧ g.count m = 0 := by
  cases acts with
  | takes lowers counts =>
      rw [Option.map_eq_none_iff, dec_refused_iff, counts, lowers]
      simp
  | adds m => simp [lowers]
  | idles lowers => simp [lowers]
  | completes => simp [lowers]

/-- A call that is not refused adds or takes off what it says; others change no count. -/
theorem count (acts : Performs g call r) (n : Method) :
    r.1.count n + (if g.lowers call = some n ∧ r.2 ≠ none then 1 else 0) =
      g.count n + if call = .inc n then 1 else 0 := by
  have refused := acts.refused_iff
  cases acts with
  | takes lowers counts reports =>
      rename_i m g'
      have other : call ≠ .inc n := by rintro rfl; cases lowers
      rw [lowers] at refused
      rw [lowers, count_lowered, counts, counts, if_neg other]
      by_cases same : m = n
      · subst same
        simp only [Ne, refused, Option.some.injEq, exists_eq_left']
        by_cases zero : g.count m = 0
        · simp [zero]
        · simp only [zero, if_true, not_false_eq_true, and_self]
          omega
      · simp [same]
  | adds m =>
      rw [count_inc]
      by_cases same : m = n <;> simp [lowers, same]
  | idles lowers => simp [lowers]
  | completes => simp [lowers]

/-- A method is done once its count has fallen to zero or everything has been reported. -/
theorem isDone_iff (acts : Performs g call r) (n : Method) :
    r.1.isDone n = true ↔ g.isDone n = true ∨ call = .fireAll ∨
      g.count n ≠ 0 ∧ r.1.count n = 0 := by
  cases acts with
  | takes lowers counts reports =>
      rename_i m g'
      have other : call ≠ .fireAll := by rintro rfl; cases lowers
      rw [isDone_lowered, count_lowered, counts, counts, reports]
      by_cases same : m = n
      · subst same
        have falls : g.count m = 1 ↔ g.count m ≠ 0 ∧ g.count m - 1 = 0 := by omega
        simp [other, falls]
      · simp [same, other]
  | adds m =>
      rw [isDone_inc, count_inc]
      by_cases same : m = n <;> simp [same]
  | idles lowers => simp +contextual
  | completes => simp [isDone_fireAll]

/-- A call reports what is done by it, once. -/
theorem reports (acts : Performs g call r) (n : Method) :
    g.reports (r.2.getD []) n = (r.1.isDone n).toNat := by
  cases acts with
  | takes lowers counts reports =>
      rename_i m g'
      rw [Gate.reports, ← reports]
      exact reports_lowered g' m n
  | adds m => exact Nat.add_zero _
  | idles lowers => exact Nat.add_zero _
  | completes => exact reports_fireAll g n

/-- A refused call changes no count and completes no method. -/
theorem unchanged (acts : Performs g call r) (refused : r.2 = none) :
    (∀ n, r.1.count n = g.count n) ∧ ∀ n, r.1.isDone n = g.isDone n := by
  cases acts with
  | takes lowers counts reports =>
      rename_i m g'
      have same : g'.lowered m = g' := by rw [lowered, Option.map_eq_none_iff.1 refused]; rfl
      rw [same]
      exact ⟨counts, reports⟩
  | _ => cases refused

/-- A call reports exactly what is done by it. -/
theorem mem_fired_iff (acts : Performs g call r) (n : Method) :
    n ∈ r.2.getD [] ↔ r.1.isDone n = true ∧ ¬g.isDone n = true := by
  have once := acts.reports n
  have kept := acts.isDone_iff n
  rw [Gate.reports] at once
  rw [← List.count_pos_iff]
  cases before : g.isDone n <;> cases done : r.1.isDone n <;> simp_all

end Performs

/-- A phase is ended by its own call and by that which reports everything. -/
theorem inInitialScan_perform (g : Gate) (call : Call) (r : Service) :
    (g.perform call).1.inInitialScan r = true ↔
      g.inInitialScan r = true ∧ call ≠ .allForNow r ∧ call ≠ .fireAll := by
  cases call with
  | inc m => simp [perform]
  | dec m =>
      rw [perform_dec]
      simp [inInitialScan, phases_lowered]
  | allForNow s =>
      rw [perform, inInitialScan_allForNow]
      simp
  | fireAll =>
      simp [perform]

/-! ## All calls -/

/-- The gate after one more call is what that call makes of it. -/
theorem gate_after_concat (calls : List Call) (call : Call) :
    (after (calls ++ [call])).gate = ((after calls).gate.perform call).1 := by
  rw [after_concat]
  rfl

/-- One more call adds what it reports to what has been reported. -/
theorem fired_after_concat (calls : List Call) (call : Call) :
    (after (calls ++ [call])).fired =
      (after calls).fired ++ ((after calls).gate.perform call).2.getD [] := by
  rw [after_concat]
  rfl

/-- A phase lasts until its own call or that which reports everything. -/
theorem inInitialScan_after (calls : List Call) (s : Service) :
    (after calls).gate.inInitialScan s = true ↔ .allForNow s ∉ calls ∧ .fireAll ∉ calls := by
  induction calls using List.reverseRecOn with
  | nil => simp [after, initial, inInitialScan]
  | append_singleton calls call ih =>
      rw [gate_after_concat, inInitialScan_perform, ih]
      simp only [List.mem_append, List.mem_singleton, not_or]
      tauto

/-- What a call takes off can be told from the calls before it. -/
theorem lowers_after (calls : List Call) (call : Call) :
    (after calls).gate.lowers call = takesOff calls call := by
  cases call with
  | allForNow s => simp only [lowers, takesOff, inInitialScan_after]
  | _ => rfl

/-- One more call takes off one task at most, and none if it is refused. -/
theorem taken_concat (calls : List Call) (call : Call) (m : Method) :
    taken (calls ++ [call]) m =
      taken calls m + if takesOff calls call = some m ∧ ¬Refused calls call then 1 else 0 := by
  simp [taken, List.countP_append, List.countP_cons]

/-- What has been added is still counted or has been taken off. -/
theorem count_after (calls : List Call) (m : Method) :
    (after calls).gate.count m + taken calls m = calls.count (.inc m) := by
  induction calls using List.reverseRecOn with
  | nil => cases m <;> rfl
  | append_singleton calls call ih =>
      have step := (performs (after calls).gate call).count m
      rw [lowers_after] at step
      change _ + (if takesOff calls call = some m ∧ ¬Refused calls call then 1 else 0) = _ at step
      rw [gate_after_concat, taken_concat, List.count_append, ← ih, List.count_singleton]
      simp only [beq_iff_eq]
      omega

/-- After one more call a method is done if it was done before or the call completes it. -/
theorem isDone_after_concat (calls : List Call) (call : Call) (m : Method) :
    (after (calls ++ [call])).gate.isDone m = true ↔
      (after calls).gate.isDone m = true ∨ Completes calls call m := by
  rw [Completes, gate_after_concat, (performs (after calls).gate call).isDone_iff m]

/-- A method is done once a call has completed it. -/
theorem isDone_after (calls : List Call) (m : Method) :
    (after calls).gate.isDone m = true ↔
      ∃ moment ∈ moments calls, Completes moment.1 moment.2 m := by
  induction calls using List.reverseRecOn with
  | nil => cases m <;> simp [after, initial, isDone, moments]
  | append_singleton calls call ih =>
      rw [isDone_after_concat, ih, moments_concat]
      simp [or_and_right, exists_or]

/-- Every method that is done has been reported once, and no other has been. -/
theorem count_fired_after (calls : List Call) (m : Method) :
    (after calls).fired.count m = ((after calls).gate.isDone m).toNat := by
  induction calls using List.reverseRecOn with
  | nil => cases m <;> rfl
  | append_singleton calls call ih =>
      rw [fired_after_concat, gate_after_concat, List.count_append, ih]
      exact (performs (after calls).gate call).reports m

end ScannerDiscovery.Gate
