import ScannerDiscovery.Gate

/-!
# Laws of the gate

What each operation of the gate does to counts, phases and reports.

Main definitions:

- `Gate.reports` : how often a method is reported, or has been.
- `Gate.lowered` : the gate with a task of a method counted off.

Main results:

- `inInitialScan_dec`, `count_of_mem_fired` : a decrement leaves the phases alone, and reports
  its method only at zero.
- `count_fireAll` : reporting everything leaves the counts alone.
- `reports_dec`, `reports_fireAll` : what is reported had not been reported before, and is done.
- `mem_fired_iff` : a decrement reports its method if it is done by it.
- `lowered_comm` : tasks can be counted off in any order.
-/

namespace ScannerDiscovery.Gate

/-- A task begun ends no initial phase. -/
@[simp]
theorem inInitialScan_inc (g : Gate) (m : Method) (s : Service) :
    (g.inc m).inInitialScan s = g.inInitialScan s :=
  rfl

/-- Counting a task or not leaves the phases alone. -/
theorem inInitialScan_ite_inc (g : Gate) (counted : Bool) (m : Method) (s : Service) :
    (if counted then g.inc m else g).inInitialScan s = g.inInitialScan s := by
  split
  · exact inInitialScan_inc g m s
  · rfl

/-- The end of a phase alone changes no count, -/
@[simp]
theorem count_endPhase (g : Gate) (s : Service) (m : Method) :
    (g.endPhase s).count m = g.count m :=
  rfl

/-- and ends no other phase. -/
@[simp]
theorem inInitialScan_endPhase (g : Gate) (s r : Service) :
    (g.endPhase s).inInitialScan r = (g.inInitialScan r && s != r) := by
  unfold endPhase inInitialScan
  rw [PerService.get_set]
  by_cases h : s = r <;> simp [h]

/-- Reporting a method reports no other. -/
theorem mem_fire {g : Gate} {m n : Method} (h : n ∈ (g.fire m).2) : n = m := by
  unfold fire at h
  split at h
  · simp at h
  · simpa using h

/-- A decrement that is not refused lowers the count, and fires at zero. -/
theorem dec_of_count {g : Gate} {m : Method} {k : Nat} (h : g.count m = k + 1) :
    g.dec m = some (if k = 0 then fire { g with counts := g.counts.set m k } m
      else ({ g with counts := g.counts.set m k }, [])) := by
  unfold dec
  rw [h]

/-- A decrement leaves the phases alone. -/
theorem inInitialScan_dec {g : Gate} {m : Method} {r : Gate × List Method}
    (dec : g.dec m = some r) (s : Service) : r.1.inInitialScan s = g.inInitialScan s := by
  cases hcount : g.count m with
  | zero => simp [(dec_refused_iff g m).2 hcount] at dec
  | succ k =>
      rw [dec_of_count hcount] at dec
      obtain rfl := Option.some.inj dec
      split
      · exact inInitialScan_fire _ m s
      · rfl

/-- A decrement reports no method but its own, and that only at zero. -/
theorem count_of_mem_fired {g : Gate} {m n : Method} {r : Gate × List Method}
    (dec : g.dec m = some r) (hn : n ∈ r.2) : n = m ∧ r.1.count n = 0 := by
  have hlowered := count_dec dec n
  cases hcount : g.count m with
  | zero => simp [(dec_refused_iff g m).2 hcount] at dec
  | succ k =>
      rw [dec_of_count hcount] at dec
      obtain rfl := Option.some.inj dec
      by_cases hzero : k = 0
      · rw [if_pos hzero] at hn
        obtain rfl := mem_fire hn
        refine ⟨rfl, ?_⟩
        rw [hlowered, if_pos rfl, hcount, hzero]
      · rw [if_neg hzero] at hn
        simp at hn

/-- Whether its decrement is refused or not, the end of a phase is that of one service. -/
theorem inInitialScan_allForNow (g : Gate) (s r : Service) :
    (g.allForNow s).1.inInitialScan r = (g.inInitialScan r && s != r) := by
  unfold allForNow
  cases initial : g.inInitialScan s with
  | false =>
      by_cases h : s = r
      · subst h
        simp [initial]
      · simp [h]
  | true =>
      rw [← inInitialScan_endPhase]
      cases dec : (g.endPhase s).dec s.method with
      | none => simp [dec]
      | some result =>
          simp only [if_true, dec]
          exact inInitialScan_dec dec r

/-- Reporting methods leaves the counts alone. -/
theorem count_fireEach (methods : List Method) (g : Gate) (n : Method) :
    (fireEach methods g).1.count n = g.count n := by
  induction methods generalizing g with
  | nil => rfl
  | cons m rest ih =>
      rw [fireEach, ih, count_fire]

/-- Reporting everything changes no count. -/
@[simp]
theorem count_fireAll (g : Gate) (n : Method) : g.fireAll.1.count n = g.count n :=
  count_fireEach _ _ _

/-- Reporting methods leaves the phases alone. -/
theorem inInitialScan_fireEach (methods : List Method) (g : Gate) (s : Service) :
    (fireEach methods g).1.inInitialScan s = g.inInitialScan s := by
  induction methods generalizing g with
  | nil => rfl
  | cons m rest ih => rw [fireEach, ih, inInitialScan_fire]

/-- Reporting everything ends all phases. -/
@[simp]
theorem inInitialScan_fireAll (g : Gate) (s : Service) : g.fireAll.1.inInitialScan s = false := by
  rw [fireAll, inInitialScan_fireEach, inInitialScan, PerService.get_const]

/-! ## Reports -/

/-- The number of times that a method has been reported by an operation, or before it. -/
def reports (g : Gate) (fired : List Method) (m : Method) : Nat :=
  (g.isDone m).toNat + fired.count m

/-- A task begun makes no method done, -/
@[simp]
theorem isDone_inc (g : Gate) (m n : Method) : (g.inc m).isDone n = g.isDone n :=
  rfl

/-- and neither does the end of a phase alone. -/
@[simp]
theorem isDone_endPhase (g : Gate) (s : Service) (m : Method) :
    (g.endPhase s).isDone m = g.isDone m :=
  rfl

/-- Reporting a method makes it done, and undoes none. -/
theorem isDone_fire (g : Gate) (m n : Method) :
    (g.fire m).1.isDone n = (g.isDone n || m == n) := by
  unfold fire
  split
  · rename_i done
    by_cases h : m = n
    · simp [← h, done]
    · simp [h]
  · by_cases h : m = n <;> simp [isDone, h]

/-- A method is reported only if it has not been, and is done then. -/
theorem reports_fire (g : Gate) (m n : Method) :
    g.reports (g.fire m).2 n = ((g.fire m).1.isDone n).toNat := by
  rw [isDone_fire, reports]
  unfold fire
  by_cases h : m = n
  · subst h
    cases hdone : g.isDone m <;> simp
  · rw [beq_eq_false_iff_ne.2 h, Bool.or_false]
    cases hdone : g.isDone m <;> simp [h]

/-- A decrement reports only what has not been reported. -/
theorem reports_dec {g : Gate} {m : Method} {r : Gate × List Method} (dec : g.dec m = some r)
    (n : Method) : g.reports r.2 n = (r.1.isDone n).toNat := by
  cases hcount : g.count m with
  | zero => simp [(dec_refused_iff g m).2 hcount] at dec
  | succ k =>
      rw [dec_of_count hcount] at dec
      obtain rfl := Option.some.inj dec
      split
      · exact reports_fire { g with counts := g.counts.set m k } m n
      · exact Nat.add_zero _

/-- A method whose count has been taken down to zero is done. -/
theorem isDone_of_dec {g : Gate} {m : Method} {r : Gate × List Method} (dec : g.dec m = some r)
    (zero : r.1.count m = 0) : r.1.isDone m = true := by
  have hlowered := count_dec dec m
  cases hcount : g.count m with
  | zero => simp [(dec_refused_iff g m).2 hcount] at dec
  | succ k =>
      rw [if_pos rfl, hcount, zero] at hlowered
      rw [dec_of_count hcount, if_pos (by omega)] at dec
      rw [← Option.some.inj dec, isDone_fire]
      simp

/-- A decrement undoes nothing. -/
theorem isDone_dec {g : Gate} {m n : Method} {r : Gate × List Method} (dec : g.dec m = some r)
    (done : g.isDone n = true) : r.1.isDone n = true := by
  have hreports := reports_dec dec n
  rw [reports, done] at hreports
  cases hdone : r.1.isDone n with
  | true => rfl
  | false =>
      rw [hdone, Bool.toNat_true, Bool.toNat_false] at hreports
      omega

/-- When methods are reported one after another, one that is done then has been reported once, any
other one never. -/
theorem reports_fireEach (methods : List Method) (g : Gate) (n : Method) :
    g.reports (fireEach methods g).2 n = ((fireEach methods g).1.isDone n).toNat := by
  induction methods generalizing g with
  | nil => exact Nat.add_zero _
  | cons m rest ih =>
      have first := reports_fire g m n
      have others := ih (g.fire m).1
      simp only [fireEach]
      rw [← others, reports, reports, ← first, reports, List.count_append, Nat.add_assoc]

/-- When methods are reported one after another, exactly these become done. -/
theorem isDone_fireEach (methods : List Method) (g : Gate) (n : Method) :
    (fireEach methods g).1.isDone n = (g.isDone n || methods.contains n) := by
  induction methods generalizing g with
  | nil => simp [fireEach]
  | cons m rest ih =>
      rw [fireEach, ih, isDone_fire, List.contains_cons, Bool.or_assoc, BEq.comm]

/-- Reporting everything reports only what has not been reported, -/
theorem reports_fireAll (g : Gate) (n : Method) :
    g.reports g.fireAll.2 n = (g.fireAll.1.isDone n).toNat :=
  reports_fireEach Method.all { g with phases := PerService.const false } n

/-- and then every method is done. -/
theorem isDone_fireAll (g : Gate) (n : Method) : g.fireAll.1.isDone n = true := by
  rw [fireAll, isDone_fireEach]
  cases n <;> simp [Method.all]

/-- A decrement reports exactly what has been done by it. -/
theorem mem_fired_iff {g : Gate} {m : Method} {r : Gate × List Method} (dec : g.dec m = some r)
    (n : Method) : n ∈ r.2 ↔ r.1.isDone n = true ∧ g.isDone n = false := by
  have hreports := reports_dec dec n
  rw [reports] at hreports
  rw [← List.count_pos_iff]
  cases before : g.isDone n with
  | true =>
      rw [before, isDone_dec dec before] at hreports
      simp only [Bool.toNat_true] at hreports
      simp only [isDone_dec dec before, Bool.true_eq_false, and_false, iff_false]
      omega
  | false =>
      cases after : r.1.isDone n <;> simp [before, after] at hreports <;> simp [hreports]

/-! ## Decrements in any order -/

/-- The gate after a decrement, as it was if that is refused. -/
def lowered (g : Gate) (m : Method) : Gate :=
  ((g.dec m).map (·.1)).getD g

/-- Gates with the same counts, phases and reports are the same. -/
theorem ext_of {g g' : Gate} (counts : ∀ m, g.count m = g'.count m) (phases : g.phases = g'.phases)
    (reported : ∀ m, g.isDone m = g'.isDone m) : g = g' := by
  have same {α : Type} {s t : PerMethod α} (each : ∀ m, s.get m = t.get m) : s = t := by
    obtain ⟨a, b, c⟩ := s
    obtain ⟨a', b', c'⟩ := t
    simpa [PerMethod.get] using ⟨each .mdnsHint, each .uscanTcp, each .uscansTcp⟩
  obtain ⟨c, p, r⟩ := g
  obtain ⟨c', p', r'⟩ := g'
  obtain rfl : p = p' := phases
  rw [same (s := c) counts, same (s := r) reported]

/-- Lowering a count takes one off, if there is one. -/
theorem count_lowered (g : Gate) (m n : Method) :
    (g.lowered m).count n = if m = n then g.count m - 1 else g.count n := by
  unfold lowered
  cases dec : g.dec m with
  | none =>
      have zero := (dec_refused_iff g m).1 dec
      by_cases h : m = n
      · subst h
        simp [zero]
      · simp [h]
  | some r => exact count_dec dec n

/-- Lowering a count to zero makes the method done. -/
theorem isDone_lowered (g : Gate) (m n : Method) :
    (g.lowered m).isDone n = (g.isDone n || (m == n && g.count m == 1)) := by
  unfold lowered
  cases hcount : g.count m with
  | zero => simp [(dec_refused_iff g m).2 hcount]
  | succ k =>
      rw [dec_of_count hcount, Option.map_some, Option.getD_some]
      by_cases zero : k = 0
      · rw [if_pos zero, isDone_fire, zero]
        simp [isDone]
      · rw [if_neg zero]
        simp [isDone, zero]

/-- Lowering a count ends no phase. -/
theorem phases_lowered (g : Gate) (m : Method) : (g.lowered m).phases = g.phases := by
  unfold lowered
  cases hcount : g.count m with
  | zero => simp [(dec_refused_iff g m).2 hcount]
  | succ k =>
      rw [dec_of_count hcount, Option.map_some, Option.getD_some]
      unfold fire
      repeat' split
      all_goals rfl

/-- A decrement reports only what has not been reported, refused or not. -/
theorem reports_lowered (g : Gate) (m n : Method) :
    g.reports (((g.dec m).map (·.2)).getD []) n = ((g.lowered m).isDone n).toNat := by
  unfold lowered
  cases dec : g.dec m with
  | none => exact Nat.add_zero _
  | some r => exact reports_dec dec n

/-- What has been done stays done. -/
theorem isDone_lowered_of_isDone {g : Gate} {n : Method} (done : g.isDone n = true) (m : Method) :
    (g.lowered m).isDone n = true := by
  rw [isDone_lowered, done, Bool.true_or]

/-- Decrements can be made in any order. -/
theorem lowered_comm (g : Gate) (m n : Method) :
    (g.lowered m).lowered n = (g.lowered n).lowered m := by
  by_cases h : m = n
  · rw [h]
  · have h' : n ≠ m := fun heq => h heq.symm
    apply ext_of
    · intro k
      simp only [count_lowered, if_neg h, if_neg h']
      by_cases hn : n = k <;> by_cases hm : m = k <;> simp_all
    · simp only [phases_lowered]
    · intro k
      simp only [isDone_lowered, count_lowered, if_neg h, if_neg h', Bool.or_assoc]
      rw [Bool.or_comm (m == k && _)]

end ScannerDiscovery.Gate
