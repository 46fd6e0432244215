import ScannerDiscovery.Proofs.Engine.CatalogAgreement
import ScannerDiscovery.Proofs.Engine.Stages.Handlers

/-!
# The signals of the initial scan

A method is reported done at most once, over any number of sessions, and it has been by the time
that the initial phases of all its services have ended and no finding of that time is left.  If a
finding is what was waited for, it has been published before, if it is to be; and the catalog is
ready once all methods have been reported done.

Main definitions:

- `signals` : the methods that have been reported done.
- `Signalled` : the reports that the gate knows of have been given, or are about to be.

Main results:

- `Signalled.move` : what every move keeps.
- `signals_once_in_time` : the signals at every moment of a run.
-/

namespace ScannerDiscovery.Engine

/-! ## Signals -/

/-- The method that is reported done. -/
def Entry.signalled? : Entry → Option Method
  | .asked _ (.scanDone m) _ => some m
  | _ => none

/-- The methods that have been reported done, the latest first. -/
def signals (h : History) : List Method :=
  h.filterMap Entry.signalled?

/-- Requests that change nothing report no method done. -/
theorem IsMinor.signalled? {request : Request} {answer : request.Answer}
    (minor : IsMinor request answer) (e : Engine) :
    (Entry.asked e request answer).signalled? = none := by
  cases request with
  | scanDone m => exact minor.elim
  | _ => rfl

/-- The methods that the catalog takes for done are those that have been reported. -/
theorem isDone_catalogAfter (h : History) (m : Method) :
    (catalogAfter h).isDone m = true ↔ m ∈ signals h := by
  induction h with
  | nil => simp [catalogAfter, Catalog.empty, Catalog.isDone, signals]
  | cons entry h ih =>
      cases entry with
      | called e call => exact ih
      | asked e request answer =>
          cases request with
          | scanDone n =>
              have hsignals : signals (.asked e (.scanDone n) answer :: h) = n :: signals h := rfl
              rw [hsignals, List.mem_cons, ← ih]
              simp only [catalogAfter, Catalog.scanDone, Catalog.isDone, PerMethod.get_set]
              by_cases heq : n = m
              · simp [heq]
              · simp [heq, Ne.symm heq]
          | withdraw s =>
              have same : ((catalogAfter h).withdraw s).1.isDone m = (catalogAfter h).isDone m := by
                unfold Catalog.withdraw
                split <;> rfl
              exact (Eq.congr_left same).trans ih
          | _ => exact ih

/-- The catalog is ready once all methods have been reported done. -/
theorem isReady_catalogAfter (h : History) :
    (catalogAfter h).isReady = true ↔ ∀ m, m ∈ signals h := by
  simp only [Catalog.isReady_iff, isDone_catalogAfter]

/-! ## What every move keeps -/

/-- Whether each report that the gate knows of has been given, or is about to be; and a method of
which a phase has ended and nothing is left has been reported. -/
structure Signalled (p : Point) : Prop where
  count : ∀ m, (signals p.history).count m + p.debt.signals.count m =
    (p.holdings.gate.isDone m).toNat
  ended : ∀ s, p.holdings.gate.inInitialScan s = false → p.holdings.gate.count s.method = 0 →
    p.holdings.gate.isDone s.method = true

variable {d d' : Debt} {w w' : Holdings} {h h' : History}

/-- Nothing changes while the gate is left alone and nothing is reported. -/
theorem Signalled.same (signalled : Signalled ⟨d, w, h⟩) (hdebt : d'.signals = d.signals)
    (hgate : w'.gate = w.gate) (hsignals : signals h' = signals h) : Signalled ⟨d', w', h'⟩ := by
  obtain ⟨count, ended⟩ := signalled
  refine ⟨?_, ?_⟩
  · rw [hdebt, hgate, hsignals]
    exact count
  · rw [hgate]
    exact ended

/-- Something begins that may be a task. -/
theorem Signalled.begin {service : Service} (signalled : Signalled ⟨d, w, h⟩)
    (hdebt : d'.signals = d.signals)
    (hgate : w'.gate = if w.gate.inInitialScan service then w.gate.inc service.method else w.gate)
    (hsignals : signals h' = signals h) : Signalled ⟨d', w', h'⟩ := by
  obtain ⟨count, ended⟩ := signalled
  have hdone (m : Method) : w'.gate.isDone m = w.gate.isDone m := by
    rw [hgate]
    split
    · exact Gate.isDone_inc _ _ _
    · rfl
  refine ⟨fun m => ?_, fun s hs hcount => ?_⟩
  · rw [hdebt, hsignals, hdone]
    exact count m
  · rw [hdone]
    rw [hgate, Gate.inInitialScan_ite_inc] at hs
    apply ended s hs
    rw [hgate] at hcount
    split at hcount
    · rw [Gate.count_inc] at hcount
      split at hcount
      · omega
      · exact hcount
    · exact hcount

/-- A phase ends of which the browse is still to be counted off. -/
theorem Signalled.endPhase {service : Service} (signalled : Signalled ⟨d, w, h⟩)
    (hdebt : d'.signals = d.signals) (left : w.gate.count service.method ≠ 0) :
    Signalled ⟨d', { w with gate := w.gate.endPhase service }, h⟩ := by
  obtain ⟨count, ended⟩ := signalled
  refine ⟨fun m => ?_, fun s hs hcount => ?_⟩
  · rw [hdebt, Gate.isDone_endPhase]
    exact count m
  · rw [Gate.inInitialScan_endPhase] at hs
    rw [Gate.count_endPhase] at hcount
    rw [Gate.isDone_endPhase]
    have hne : service ≠ s := by
      rintro rfl
      exact left hcount
    exact ended s (by simpa [hne] using hs) hcount

/-- A task is counted off. -/
theorem Signalled.countOff {m : Method} {gate : Gate} (signalled : Signalled ⟨d, w, h⟩)
    (hdebt : d.signals = []) (dec : w.gate.dec m = some (gate, d'.signals)) :
    Signalled ⟨d', { w with gate := gate }, h⟩ := by
  obtain ⟨count, ended⟩ := signalled
  refine ⟨fun n => ?_, fun s hs hcount => ?_⟩
  · have hreports := Gate.reports_dec dec n
    have hcount := count n
    simp only [hdebt, List.count_nil, Nat.add_zero] at hcount
    rw [Gate.reports, ← hcount] at hreports
    exact hreports
  · by_cases heq : m = s.method
    · subst heq
      exact Gate.isDone_of_dec dec hcount
    · apply Gate.isDone_dec dec
      refine ended s ((Gate.inInitialScan_dec dec s).symm.trans hs) ?_
      have hlowered := Gate.count_dec dec s.method
      rw [if_neg heq] at hlowered
      exact hlowered.symm.trans hcount

/-- Every move keeps account of the signals. -/
theorem Signalled.move {p q : Point} (move : Move p q) (balanced : Balanced p)
    (signalled : Signalled p) : Signalled q := by
  have after := balanced.move move
  cases move with
  | noted at_e minor => exact signalled.same rfl rfl (List.filterMap_cons_none (minor.signalled? _))
  | created service ifindex name new => exact signalled.begin rfl rfl rfl
  | countedOff dec => exact signalled.countOff rfl dec
  | @signalled w h e m rest ops at_e =>
      obtain ⟨count, ended⟩ := signalled
      refine ⟨fun n => ?_, ended⟩
      have hcount : (signals h).count n + (m :: rest).count n = (w.gate.isDone n).toNat := count n
      have hsignals : signals (.asked e (.scanDone m) () :: h) = m :: signals h := rfl
      change (signals (.asked e (.scanDone m) () :: h)).count n + rest.count n =
        (w.gate.isDone n).toNat
      rw [List.count_cons] at hcount
      rw [hsignals, List.count_cons]
      omega
  | @phaseEnded w h service initial browsing =>
      refine signalled.endPhase rfl ?_
      have hafter := after.count service.method
      rw [Gate.count_endPhase, if_pos rfl] at hafter
      omega
  | @phasesEnded w h browsers live =>
      refine ⟨fun n => ?_, fun s _ _ => Gate.isDone_fireAll _ _⟩
      have hcount := signalled.count n
      simp only [List.count_nil, Nat.add_zero] at hcount
      have hreports := Gate.reports_fireAll w.gate n
      rw [Gate.reports, ← hcount] at hreports
      exact hreports
  | opened at_e client new => exact signalled.begin rfl rfl rfl
  | _ => exact signalled.same rfl rfl rfl

/-! ## Signals at every moment -/

/-- A method is counted off once no phase of its services goes on and no finding of that time is
left. -/
theorem Balanced.count_eq_zero {m : Method} (balanced : Balanced ⟨d, w, h⟩) (htask : d.task = none)
    (phases : ∀ s : Service, s.method = m → w.gate.inInitialScan s = false)
    (findings : ∀ f ∈ w.registry.live, f.method = m → f.inInitialScan = false) :
    w.gate.count m = 0 := by
  have hbrowses : w.browseTasks m = 0 := by
    rw [Holdings.browseTasks, List.countP_eq_zero]
    intro s _ hs
    rw [Bool.and_eq_true, beq_iff_eq] at hs
    simp [phases s hs.1] at hs
  have hfindings : w.findingTasks m = 0 := by
    rw [Holdings.findingTasks, List.countP_eq_zero]
    intro f hf hcounted
    rw [Bool.and_eq_true, beq_iff_eq] at hcounted
    simp [findings f hf hcounted.1] at hcounted
  have hcount : w.gate.count m = w.browseTasks m + w.findingTasks m + _ := balanced.count m
  rw [hcount, hbrowses, hfindings, htask]
  simp

/-- The signals at every moment of a run.  Each method has been reported done at most once, and it
has been if the initial phases of all its services have ended and no live finding is left that is
attributed to the initial scan.  A finding that was being concluded when a method was reported done
was live then and, if it is to be published, in the catalog.  And the catalog has been ready exactly
when all methods had been reported. -/
theorem signals_once_in_time {m : Moment} (reached : Reached m)
    (admissible : Admissible m.history) :
    (signals m.history).Nodup ∧
    (∀ method, (∀ s : Service, s.method = method → m.engine.gate.inInitialScan s = false) →
      (∀ f ∈ m.engine.registry.live, f.method = method → f.inInitialScan = false) →
        method ∈ signals m.history) ∧
    (∀ e method answer before, .asked e (.scanDone method) answer :: before <:+ m.history →
      ∀ n, concluding? before = some n → ∃ f ∈ e.registry.live, f.number = n ∧
        (f.isPublishable = true → f.isPublished = true ∧
          (catalogAfter before).findings.get? f.key = some f.snapshot)) ∧
    ∀ before, before <:+ m.history →
      ((catalogAfter before).isReady = true ↔ ∀ method, method ∈ signals before) := by
  have both : Balanced ⟨{}, m.engine.holdings, m.history⟩ ∧
      Signalled ⟨{}, m.engine.holdings, m.history⟩ := by
    refine reached.keeps (I := fun p => Balanced p ∧ Signalled p) ?_ ?_ admissible
    · refine ⟨Sound.initial.balanced, fun method => ?_, fun s hs => ?_⟩
      · cases method <;> rfl
      · cases s <;> cases hs
    · rintro p q move ⟨balanced, signalled⟩
      exact ⟨balanced.move move, signalled.move move balanced⟩
  obtain ⟨balanced, count, ended⟩ := both
  refine ⟨?_, ?_, ?_, fun before _ => isReady_catalogAfter before⟩
  · rw [List.nodup_iff_count_le_one]
    intro method
    have hcount := count method
    have hle := Bool.toNat_le (m.engine.gate.isDone method)
    simp only [List.count_nil, Nat.add_zero] at hcount
    exact Nat.le_trans (Nat.le_of_eq hcount) hle
  · intro method phases findings
    have zero := balanced.count_eq_zero rfl phases findings
    obtain ⟨s, rfl⟩ : ∃ s : Service, s.method = method := by
      cases method with
      | mdnsHint => exact ⟨.ipp, rfl⟩
      | uscanTcp => exact ⟨.uscan, rfl⟩
      | uscansTcp => exact ⟨.uscans, rfl⟩
    have done := ended s (phases s rfl) zero
    have hcount : (signals m.history).count s.method + 0 = _ := count s.method
    rw [done, Bool.toNat_true] at hcount
    exact List.count_pos_iff.1 (by omega)
  · intro e method answer before hsuffix n hn
    obtain ⟨now, hand, staged, -⟩ := reached.accounted admissible
    obtain ⟨f, hf, hnumber, hpublished⟩ := staged.timely e method answer before hsuffix n hn
    refine ⟨f, hf, hnumber, fun publishable => ⟨hpublished publishable, ?_⟩⟩
    have agrees := (reached.agrees admissible).2 e (.scanDone method) answer before hsuffix
      (by simp)
    exact (agrees f.key f.snapshot).2 ⟨f, hf, hpublished publishable, rfl, rfl⟩

/-- At the office one method has been reported done, by the second scanner being concluded. -/
theorem office_signals :
    signals office.history = [.uscanTcp] ∧ concluded office.history = [1, 0] ∧
    (signals office.history).Nodup ∧
    (∀ method, (∀ s : Service, s.method = method → office.engine.gate.inInitialScan s = false) →
      (∀ f ∈ office.engine.registry.live, f.method = method → f.inInitialScan = false) →
        method ∈ signals office.history) ∧
    (∀ e method answer before, .asked e (.scanDone method) answer :: before <:+ office.history →
      ∀ n, concluding? before = some n → ∃ f ∈ e.registry.live, f.number = n ∧
        (f.isPublishable = true → f.isPublished = true ∧
          (catalogAfter before).findings.get? f.key = some f.snapshot)) ∧
    ∀ before, before <:+ office.history →
      ((catalogAfter before).isReady = true ↔ ∀ method, method ∈ signals before) :=
  ⟨by decide +kernel, by decide +kernel, signals_once_in_time office_reached office_admissible⟩

end ScannerDiscovery.Engine
