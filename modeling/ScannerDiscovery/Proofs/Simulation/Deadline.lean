import ScannerDiscovery.Proofs.Number.Rounding
import ScannerDiscovery.Simulation.Progress
import ScannerDiscovery.Simulation.Schedule

/-!
# A deadline put off

Of two schedules the one trails the other if they are the same but for a deadline that it has later
or not at all.  Then the same alarms ring until the deadline of the other one does.

Main definitions:

- `Trails` : alarms with a deadline put off.
- `Schedule.withDeadline` : a schedule with the deadline of a wait armed.
- `AtMost` : the order of timeouts.

Main results:

- `Trails.earliest` : the same alarm is next, unless it is the deadline.
- `trailedBy_withDeadline` : a longer timeout puts the deadline off.
-/

namespace ScannerDiscovery.Simulation

variable {κ : Type} {deadline : κ} {xs ys zs : List (Alarm Binary64 κ)}
  {first : Alarm Binary64 κ} {others : List (Alarm Binary64 κ)}

/-! ## Alarms -/

/-- Alarms, and the same alarms with at most one deadline put off, be it forever. -/
inductive Trails (deadline : κ) : List (Alarm Binary64 κ) → List (Alarm Binary64 κ) → Prop
  | same (xs : List (Alarm Binary64 κ)) : Trails deadline xs xs
  | never {due : Binary64} (reached : due ≠ .undefined) (rest : List (Alarm Binary64 κ)) :
      Trails deadline (⟨due, deadline⟩ :: rest) rest
  | later {due due' : Binary64} (h : due ≤ due') (rest : List (Alarm Binary64 κ)) :
      Trails deadline (⟨due, deadline⟩ :: rest) (⟨due', deadline⟩ :: rest)
  | past (alarm : Alarm Binary64 κ) {xs ys : List (Alarm Binary64 κ)}
      (rest : Trails deadline xs ys) : Trails deadline (alarm :: xs) (alarm :: ys)

/-- Alarms that are armed afterwards come after the deadline. -/
theorem Trails.append (trails : Trails deadline xs ys) (zs : List (Alarm Binary64 κ)) :
    Trails deadline (xs ++ zs) (ys ++ zs) := by
  induction trails with
  | same xs => exact .same _
  | never reached rest => exact .never reached _
  | later h rest => exact .later h _
  | past alarm rest ih => exact .past alarm ih

/-- Alarms that were armed before come before the deadline. -/
theorem Trails.after (trails : Trails deadline xs ys) (zs : List (Alarm Binary64 κ)) :
    Trails deadline (zs ++ xs) (zs ++ ys) := by
  induction zs with
  | nil => exact trails
  | cons alarm rest ih => exact .past alarm ih

/-- What is taken away of both does not matter, as long as the deadline stays. -/
theorem Trails.filter {keeps : Alarm Binary64 κ → Bool} (trails : Trails deadline xs ys)
    (stays : ∀ due, keeps ⟨due, deadline⟩ = true) :
    Trails deadline (xs.filter keeps) (ys.filter keeps) := by
  induction trails with
  | same xs => exact .same _
  | never reached rest => rw [List.filter_cons_of_pos (stays _)]; exact .never reached _
  | later h rest =>
      rw [List.filter_cons_of_pos (stays _), List.filter_cons_of_pos (stays _)]
      exact .later h _
  | past alarm rest ih =>
      rw [List.filter_cons, List.filter_cons]
      split
      · exact .past alarm ih
      · exact ih

/-- Without their deadlines the alarms are the same. -/
theorem Trails.filter_eq {keeps : Alarm Binary64 κ → Bool} (trails : Trails deadline xs ys)
    (goes : ∀ due, keeps ⟨due, deadline⟩ = false) : xs.filter keeps = ys.filter keeps := by
  induction trails with
  | same xs => rfl
  | never reached rest => exact List.filter_cons_of_neg (by simp [goes])
  | later h rest =>
      rw [List.filter_cons_of_neg (by simp [goes]), List.filter_cons_of_neg (by simp [goes])]
  | past alarm rest ih => rw [List.filter_cons, List.filter_cons, ih]

/-- There are no more alarms with the deadline put off. -/
theorem Trails.length_le (trails : Trails deadline xs ys) : ys.length ≤ xs.length := by
  induction trails with
  | same xs => exact le_rfl
  | never reached rest => exact Nat.le_succ _
  | later h rest => exact le_rfl
  | past alarm rest ih => exact Nat.succ_le_succ ih

/-! ## The next alarm -/

theorem earliest_eq_none (h : Schedule.earliest xs = none) : xs = [] := by
  cases xs with
  | nil => rfl
  | cons alarm rest =>
      rw [Schedule.earliest] at h
      split at h
      · cases h
      · split at h <;> cases h

/-- An alarm is next if none behind it is due before. -/
theorem earliest_of_foremost {alarm : Alarm Binary64 κ}
    (foremost : ∀ next behind, Schedule.earliest xs = some (next, behind) → ¬next.due < alarm.due) :
    Schedule.earliest (alarm :: xs) = some (alarm, xs) := by
  cases hrest : Schedule.earliest xs with
  | none =>
      rw [earliest_eq_none hrest]
      rfl
  | some found =>
      rw [Schedule.earliest, hrest]
      exact if_neg (foremost _ _ hrest)

/-- An alarm is not next if the next one behind it is due before. -/
theorem earliest_of_lt {alarm : Alarm Binary64 κ}
    (next : Schedule.earliest xs = some (first, others)) (h : first.due < alarm.due) :
    Schedule.earliest (alarm :: xs) = some (first, alarm :: others) := by
  rw [Schedule.earliest, next]
  exact if_pos h

/-- Which alarm is next. -/
theorem earliest_cases {alarm : Alarm Binary64 κ}
    (next : Schedule.earliest (alarm :: xs) = some (first, others)) :
    (∃ behind, Schedule.earliest xs = some (first, behind) ∧ first.due < alarm.due ∧
      others = alarm :: behind) ∨
    (first = alarm ∧ others = xs ∧
      ∀ next behind, Schedule.earliest xs = some (next, behind) → ¬next.due < alarm.due) := by
  by_cases h : ∃ next behind, Schedule.earliest xs = some (next, behind) ∧ next.due < alarm.due
  · obtain ⟨found, behind, hrest, hlt⟩ := h
    rw [earliest_of_lt hrest hlt] at next
    cases next
    exact .inl ⟨behind, hrest, hlt, rfl⟩
  · have foremost : ∀ next behind, Schedule.earliest xs = some (next, behind) →
        ¬next.due < alarm.due := fun found behind hrest hlt => h ⟨found, behind, hrest, hlt⟩
    rw [earliest_of_foremost foremost] at next
    cases next
    exact .inr ⟨rfl, rfl, foremost⟩

/-- The next alarm is one of those armed, and the others are one less. -/
theorem length_of_earliest (next : Schedule.earliest xs = some (first, others)) :
    xs.length = others.length + 1 := by
  induction xs generalizing first others with
  | nil => cases next
  | cons alarm rest ih =>
      rcases earliest_cases next with ⟨behind, hrest, -, rfl⟩ | ⟨-, rfl, -⟩
      · rw [List.length_cons, List.length_cons, ih hrest]
      · rfl

/-- The deadline is next, and of the alarms that trail none is due before it. -/
structure DeadlineNext (deadline : κ) (first : Alarm Binary64 κ)
    (ys : List (Alarm Binary64 κ)) : Prop where
  about : first.about = deadline
  reached : first.due ≠ .undefined
  foremost : ∀ next others, Schedule.earliest ys = some (next, others) → ¬next.due < first.due

/-- The same alarm is next, unless it is the deadline. -/
theorem Trails.earliest (trails : Trails deadline xs ys)
    (next : Schedule.earliest xs = some (first, others)) :
    (∃ others', Schedule.earliest ys = some (first, others') ∧ Trails deadline others others') ∨
    DeadlineNext deadline first ys := by
  induction trails generalizing first others with
  | same xs => exact .inl ⟨others, next, .same _⟩
  | never reached rest =>
      rcases earliest_cases next with ⟨behind, hrest, -, rfl⟩ | ⟨rfl, -, foremost⟩
      · exact .inl ⟨behind, hrest, .never reached _⟩
      · exact .inr ⟨rfl, reached, foremost⟩
  | later h rest =>
      rcases earliest_cases next with ⟨behind, hrest, hlt, rfl⟩ | ⟨rfl, -, foremost⟩
      · exact .inl ⟨_, earliest_of_lt hrest (Binary64.lt_of_lt_of_le hlt h), .later h _⟩
      · refine .inr ⟨rfl, Binary64.left_defined h, fun alarm behind found => ?_⟩
        rcases earliest_cases found with ⟨_, hrest, -, -⟩ | ⟨rfl, -, -⟩
        · exact foremost _ _ hrest
        · exact Binary64.not_lt_of_le h
  | past alarm rest ih =>
      rcases earliest_cases next with ⟨behind, hrest, hlt, rfl⟩ | ⟨rfl, rfl, foremost⟩
      · rcases ih hrest with ⟨behind', hrest', trails⟩ | due
        · exact .inl ⟨_, earliest_of_lt hrest' hlt, .past alarm trails⟩
        · refine .inr ⟨due.about, due.reached, fun alarm' behind' found => ?_⟩
          rcases earliest_cases found with ⟨_, hrest', -, -⟩ | ⟨rfl, -, -⟩
          · exact due.foremost _ _ hrest'
          · exact Binary64.not_lt_of_le (Binary64.le_of_lt hlt)
      · refine .inl ⟨_, earliest_of_foremost fun alarm' behind' found => ?_, rest⟩
        cases hrest : Schedule.earliest others with
        | none =>
            rw [earliest_eq_none hrest] at rest
            cases rest
            cases found
        | some next =>
            rcases ih hrest with ⟨_, hrest', -⟩ | due
            · obtain rfl : alarm' = next.1 := by
                rw [found] at hrest'
                cases hrest'
                rfl
              exact foremost _ _ hrest
            · exact Binary64.not_lt_of_not_lt due.reached (due.foremost _ _ found)
                (foremost _ _ hrest)

/-! ## Schedules -/

/-- A schedule, and another one that is the same but for a deadline put off. -/
structure Schedule.TrailedBy (deadline : κ) (s t : Schedule Binary64 κ) : Prop where
  now : t.now = s.now
  alarms : Trails deadline s.alarms t.alarms

variable {s s' t : Schedule Binary64 κ} {short long : Option Binary64}

/-- What rings is the next alarm, if it is due by the limit. -/
theorem ring?_eq_some {limit : Option Binary64} {bell : κ} (rings : s.ring? limit = some (bell, s')) :
    ∃ first others, Schedule.earliest s.alarms = some (first, others) ∧
      limit.all (first.due ≤ ·) = true ∧ bell = first.about ∧
      s' = ⟨if s.now < first.due then first.due else s.now, others⟩ := by
  unfold Schedule.ring? at rings
  split at rings
  · cases rings
  · rename_i first others next
    split at rings
    · cases rings
      exact ⟨first, others, next, ‹_›, rfl, rfl⟩
    · cases rings

/-- Whatever rings but the deadline also rings in the schedule that trails. -/
theorem Schedule.TrailedBy.ring {limit : Option Binary64} {bell : κ}
    (trailed : s.TrailedBy deadline t) (rings : s.ring? limit = some (bell, s'))
    (other : bell ≠ deadline) :
    ∃ t', t.ring? limit = some (bell, t') ∧ s'.TrailedBy deadline t' := by
  obtain ⟨first, others, next, hlimit, rfl, rfl⟩ := ring?_eq_some rings
  rcases trailed.alarms.earliest next with ⟨others', next', trails⟩ | due
  · refine ⟨⟨if s.now < first.due then first.due else s.now, others'⟩, ?_, rfl, trails⟩
    rw [Schedule.ring?, next', trailed.now]
    exact if_pos hlimit
  · exact absurd due.about other

/-- With each alarm that rings one less is left. -/
theorem length_of_ring? {limit : Option Binary64} {bell : κ}
    (rings : s.ring? limit = some (bell, s')) : s'.alarms.length < s.alarms.length := by
  obtain ⟨first, others, next, -, -, rfl⟩ := ring?_eq_some rings
  rw [length_of_earliest next]
  exact Nat.lt_succ_self _

/-- A schedule with the deadline of a wait armed, if the wait has a timeout. -/
def Schedule.withDeadline (s : Schedule Binary64 κ) (timeout : Option Binary64) (deadline : κ) :
    Schedule Binary64 κ :=
  match timeout with
  | some t => s.arm t deadline
  | none => s

/-- No time passes while a deadline is armed. -/
theorem now_withDeadline (s : Schedule Binary64 κ) (timeout : Option Binary64) (deadline : κ) :
    (s.withDeadline timeout deadline).now = s.now := by
  cases timeout <;> rfl

/-- An alarm is due when its delay is over, or at once if that is undefined. -/
theorem due?_cases {delay due : Binary64} (found : s.due? delay = some due) :
    s.now + delay ≠ .undefined ∧ due = s.now + delay ∨
      s.now + delay = .undefined ∧ s.now ≠ .undefined ∧ due = s.now := by
  by_cases defined : s.now + delay = .undefined
  · have later : ¬s.now + delay ≤ s.now + delay := fun h => Binary64.le_self_iff.1 h defined
    rw [Schedule.due?, List.find?_cons_of_neg (by simpa using later)] at found
    have isTime : due ≤ due := by simpa using List.find?_some found
    obtain rfl : due = s.now := List.mem_singleton.1 (List.mem_of_find?_eq_some found)
    exact .inr ⟨defined, Binary64.le_self_iff.1 isTime, rfl⟩
  · rw [Schedule.due?_of_le (Binary64.le_self_iff.2 defined)] at found
    exact .inl ⟨defined, (Option.some.inj found).symm⟩

/-- Unless the clock shows no time, every alarm has a due time, and that is defined. -/
theorem exists_due? (clock : s.now ≠ .undefined) (delay : Binary64) :
    ∃ due, s.due? delay = some due ∧ due ≠ .undefined := by
  have found : (s.due? delay).isSome = true :=
    List.find?_isSome.2 ⟨s.now, by simp, by simpa using Binary64.le_self_iff.2 clock⟩
  obtain ⟨due, hdue⟩ := Option.isSome_iff_exists.1 found
  refine ⟨due, hdue, ?_⟩
  rcases due?_cases hdue with ⟨defined, rfl⟩ | ⟨-, -, rfl⟩
  · exact defined
  · exact clock

/-- There is no due time if the clock shows none. -/
theorem due?_of_undefined (clock : s.now = .undefined) (delay : Binary64) :
    s.due? delay = none := by
  rw [Schedule.due?, clock]
  rfl

/-- A longer delay is not over earlier. -/
theorem due_le_due {t u due due' : Binary64} (h : t ≤ u) (positive : ¬t ≤ 0)
    (found : s.due? t = some due) (found' : s.due? u = some due') : due ≤ due' := by
  rcases due?_cases found with ⟨defined, rfl⟩ | ⟨undefined, clock, rfl⟩
  · rcases due?_cases found' with ⟨defined', rfl⟩ | ⟨undefined', clock, rfl⟩
    · exact Binary64.add_le_add_left _ h defined defined'
    · rw [Binary64.add_eq_left_of_undefined clock (Binary64.right_defined h) undefined' defined]
      exact Binary64.le_self_iff.2 clock
  · have undefined' := Binary64.add_eq_undefined_of_le h positive undefined
    obtain rfl : due' = s.now :=
      ((due?_cases found').resolve_left fun both => both.1 undefined').2.2
    exact Binary64.le_self_iff.2 clock

/-- Whether one timeout is at most another. No timeout is more than any. -/
def AtMost : Option Binary64 → Option Binary64 → Prop
  | _, none => True
  | some t, some u => t ≤ u
  | none, some _ => False

theorem isOver_eq_false_of_atMost (atMost : AtMost short long) (begins : isOver short = false) :
    isOver long = false := by
  cases long with
  | none => rfl
  | some u =>
      cases short with
      | none => exact atMost.elim
      | some t =>
          simp only [isOver, decide_eq_false_iff_not] at begins ⊢
          exact fun hu => begins (Binary64.le_trans atMost hu)

/-- A longer timeout puts the deadline off. -/
theorem trailedBy_withDeadline (s : Schedule Binary64 κ) (atMost : AtMost short long)
    (begins : isOver short = false) :
    (s.withDeadline short deadline).TrailedBy deadline (s.withDeadline long deadline) := by
  by_cases clock : s.now = .undefined
  · have unarmed (timeout : Option Binary64) : s.withDeadline timeout deadline = s := by
      cases timeout with
      | none => rfl
      | some t => simp [Schedule.withDeadline, Schedule.arm, due?_of_undefined clock]
    rw [unarmed, unarmed]
    exact ⟨rfl, .same _⟩
  · cases short with
    | none =>
        cases long with
        | none => exact ⟨rfl, .same _⟩
        | some u => exact atMost.elim
    | some t =>
        obtain ⟨due, found, defined⟩ := exists_due? clock t
        have armed : s.withDeadline (some t) deadline =
            { s with alarms := s.alarms ++ [⟨due, deadline⟩] } := Schedule.arm_of_due? found _
        cases long with
        | none =>
            rw [armed]
            refine ⟨rfl, ?_⟩
            change Trails deadline (s.alarms ++ [⟨due, deadline⟩]) s.alarms
            simpa using Trails.after (.never defined []) s.alarms
        | some u =>
            obtain ⟨due', found', -⟩ := exists_due? clock u
            have armed' : s.withDeadline (some u) deadline =
                { s with alarms := s.alarms ++ [⟨due', deadline⟩] } := Schedule.arm_of_due? found' _
            have positive : ¬t ≤ 0 := by simpa [isOver] using begins
            rw [armed, armed']
            exact ⟨rfl, .after (.later (due_le_due atMost positive found found') []) _⟩

end ScannerDiscovery.Simulation
