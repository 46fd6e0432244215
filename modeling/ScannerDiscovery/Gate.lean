import ScannerDiscovery.Service

/-!
# The gate of the initial scan

Until every method has enumerated the devices already present, the gate counts for each method
what still blocks that: browses that have not yet reported all they had cached, and findings of
that time that are not yet resolved. When a count falls to zero the method is reported done,
once for the lifetime of the gate.

Main results:

- `count_dec` : a decrement that is not refused lowers its own count by one and no other.
- `dec_refused_iff` : it is refused exactly at zero.
-/

namespace ScannerDiscovery

/-- Counts of outstanding tasks, the services still in their initial phase, and the methods
reported done. -/
structure Gate where
  counts : PerMethod Nat
  phases : PerService Bool
  reported : PerMethod Bool
  deriving DecidableEq

namespace Gate

/-- The gate before discovery: every service is in its initial phase. -/
def initial : Gate :=
  ⟨PerMethod.const 0, PerService.const true, PerMethod.const false⟩

/-- The number of outstanding tasks of a method. -/
def count (g : Gate) (m : Method) : Nat :=
  g.counts.get m

/-- Whether browsing for a service is still in its initial phase. -/
def inInitialScan (g : Gate) (s : Service) : Bool :=
  g.phases.get s

/-- Whether a method has been reported done. -/
def isDone (g : Gate) (m : Method) : Bool :=
  g.reported.get m

/-- One more outstanding task. -/
def inc (g : Gate) (m : Method) : Gate :=
  { g with counts := g.counts.set m (g.count m + 1) }

/-- Marks a method as reported, and says whether it is to be reported now. -/
def fire (g : Gate) (m : Method) : Gate × List Method :=
  if g.isDone m then (g, []) else ({ g with reported := g.reported.set m true }, [m])

/-- One outstanding task less, with the methods to report now. Refused at zero. -/
def dec (g : Gate) (m : Method) : Option (Gate × List Method) :=
  match g.count m with
  | 0 => none
  | n + 1 =>
    let lowered := { g with counts := g.counts.set m n }
    some (if n = 0 then lowered.fire m else (lowered, []))

/-- Ends the initial phase of a service. -/
def endPhase (g : Gate) (s : Service) : Gate :=
  { g with phases := g.phases.set s false }

/-- Takes note that a service has reported all it had cached, with the methods to report now.
Nothing happens after its initial phase; the phase ends even if the decrement is refused. -/
def allForNow (g : Gate) (s : Service) : Gate × Option (List Method) :=
  if g.inInitialScan s then
    let ended := g.endPhase s
    match ended.dec s.method with
    | none => (ended, none)
    | some (lowered, fired) => (lowered, some fired)
  else (g, some [])

/-- Reports all methods of a list, in order. -/
def fireEach : List Method → Gate → Gate × List Method
  | [], g => (g, [])
  | m :: rest, g =>
    let fired := g.fire m
    let others := fireEach rest fired.1
    (others.1, fired.2 ++ others.2)

/-- Ends all phases and reports every method that is not yet done. -/
def fireAll (g : Gate) : Gate × List Method :=
  fireEach Method.all { g with phases := PerService.const false }

/-! ## Counts -/

/-- A task begun counts for its method only. -/
@[simp]
theorem count_inc (g : Gate) (m n : Method) :
    (g.inc m).count n = if m = n then g.count m + 1 else g.count n := by
  simp [inc, count]

/-- Reporting a method changes no count, -/
@[simp]
theorem count_fire (g : Gate) (m n : Method) : (g.fire m).1.count n = g.count n := by
  unfold fire
  split <;> rfl

/-- and ends no initial phase. -/
@[simp]
theorem inInitialScan_fire (g : Gate) (m : Method) (s : Service) :
    (g.fire m).1.inInitialScan s = g.inInitialScan s := by
  unfold fire
  split <;> rfl

/-- A decrement is refused exactly at zero. -/
theorem dec_refused_iff (g : Gate) (m : Method) : g.dec m = none ↔ g.count m = 0 := by
  unfold dec
  split <;> simp_all

/-- A decrement that is not refused lowers its own count by one and no other. -/
theorem count_dec {g : Gate} {m : Method} {r : Gate × List Method} (h : g.dec m = some r)
    (n : Method) : r.1.count n = if m = n then g.count m - 1 else g.count n := by
  unfold dec at h
  split at h
  · simp at h
  · rename_i k hk
    obtain rfl := Option.some.inj h
    have hc : g.counts.get m = k + 1 := hk
    have lowered : ({ g with counts := g.counts.set m k } : Gate).count n =
        if m = n then g.count m - 1 else g.count n := by
      simp [count, hc]
    split
    · rw [count_fire, lowered]
    · exact lowered

end Gate

end ScannerDiscovery
