/-!
# Alarms in virtual time

A schedule holds a clock and the alarms that have been armed, in order of arming. Alarms ring in
order of their due time, and at equal times in the order they were armed. Time may be any type
with addition and an order.

Main definitions:

- `due?` : when an alarm is due that is armed with a delay.
- `arm`, `disarm`, `ring?` : what is done with alarms.

Main results:

- `earliest_mem` : the alarm that rings next is one of those armed, and so are the others.
-/

namespace ScannerDiscovery.Simulation

/-- An alarm: when it is due and what it is about. -/
structure Alarm (τ κ : Type) where
  due : τ
  about : κ

/-- A clock and the alarms armed, in order of arming. -/
structure Schedule (τ κ : Type) where
  now : τ
  alarms : List (Alarm τ κ)

namespace Schedule

variable {τ κ : Type} [Add τ] [LE τ] [LT τ] [DecidableLE τ] [DecidableLT τ]

/-- The alarm that rings first, and the others. -/
def earliest : List (Alarm τ κ) → Option (Alarm τ κ × List (Alarm τ κ))
  | [] => none
  | alarm :: rest =>
    match earliest rest with
    | none => some (alarm, [])
    | some (first, others) =>
      if first.due < alarm.due then some (first, alarm :: others) else some (alarm, rest)

/-- When an alarm is due that is armed with a delay. If adding the delay gives a time that is not
even equal to itself, the alarm is due at once; there is no due time if the clock shows none. -/
def due? (s : Schedule τ κ) (delay : τ) : Option τ :=
  [s.now + delay, s.now].find? fun time => time ≤ time

/-- The schedule with an alarm armed that is due after a delay. -/
def arm (s : Schedule τ κ) (delay : τ) (about : κ) : Schedule τ κ :=
  { s with alarms := s.alarms ++ (s.due? delay).toList.map (⟨·, about⟩) }

/-- The schedule without the alarms about certain things. -/
def disarm (s : Schedule τ κ) (cancelled : κ → Bool) : Schedule τ κ :=
  { s with alarms := s.alarms.filter fun alarm => !cancelled alarm.about }

/-- What the next alarm is about that is due by a limit, if there is one, with the clock at its
due time. The clock never goes back. -/
def ring? (s : Schedule τ κ) (limit : Option τ) : Option (κ × Schedule τ κ) :=
  match earliest s.alarms with
  | none => none
  | some (alarm, others) =>
    if limit.all (alarm.due ≤ ·) then
      some (alarm.about, ⟨if s.now < alarm.due then alarm.due else s.now, others⟩)
    else none

/-! ## Due times -/

omit [LT τ] [DecidableLT τ] in
/-- An alarm is due when its delay is over, if that is a time. -/
theorem due?_of_le {s : Schedule τ κ} {delay : τ} (h : s.now + delay ≤ s.now + delay) :
    s.due? delay = some (s.now + delay) :=
  List.find?_cons_of_pos (decide_eq_true h)

omit [LT τ] [DecidableLT τ] in
/-- An alarm that has a due time comes last among the alarms armed. -/
theorem arm_of_due? {s : Schedule τ κ} {delay due : τ} (found : s.due? delay = some due)
    (about : κ) : s.arm delay about = { s with alarms := s.alarms ++ [⟨due, about⟩] } := by
  rw [arm, found]
  rfl

omit [LT τ] [DecidableLT τ] in
/-- No time passes while an alarm is armed. -/
@[simp]
theorem now_arm (s : Schedule τ κ) (delay : τ) (about : κ) : (s.arm delay about).now = s.now :=
  rfl

/-! ## Order -/

omit [Add τ] [LE τ] [DecidableLE τ] in
/-- The alarm that rings next is one of those armed, and so are the others. -/
theorem earliest_mem {alarms : List (Alarm τ κ)} {first : Alarm τ κ} {others : List (Alarm τ κ)}
    (h : earliest alarms = some (first, others)) (x : Alarm τ κ) :
    x ∈ alarms ↔ x = first ∨ x ∈ others := by
  induction alarms generalizing first others with
  | nil => simp [earliest] at h
  | cons alarm rest ih =>
    unfold earliest at h
    split at h
    · rename_i hr
      have hrest : rest = [] := by
        cases rest with
        | nil => rfl
        | cons head tail =>
          unfold earliest at hr
          split at hr
          · simp at hr
          · split at hr <;> simp at hr
      simp only [Option.some.injEq, Prod.mk.injEq] at h
      obtain ⟨rfl, rfl⟩ := h
      simp [hrest]
    · rename_i f o hr
      split at h
      · simp only [Option.some.injEq, Prod.mk.injEq] at h
        obtain ⟨rfl, rfl⟩ := h
        rw [List.mem_cons, ih hr, List.mem_cons]
        exact or_left_comm
      · simp only [Option.some.injEq, Prod.mk.injEq] at h
        obtain ⟨rfl, rfl⟩ := h
        exact List.mem_cons

end Schedule

end ScannerDiscovery.Simulation
