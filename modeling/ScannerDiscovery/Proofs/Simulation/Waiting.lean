import ScannerDiscovery.Proofs.Simulation.Trailing
import ScannerDiscovery.Simulation.ScanWait

/-!
# Waiting for the initial scan answers truthfully, unless it does not wait

Whoever waits for the initial scan is told whether every method is done at the moment the waiting
ends; at once, if that is so when it begins.  A longer timeout never turns the answer from true to
false.  But a timeout that is over before the waiting begins is answered with false, even if every
method is done.

Main definition:

- `AnswersUnlessOver` : what the answers of a function mean that waits for a catalog.

Main results:

- `eq_holds_of_ringUntil` : the answer says whether what is waited for holds.
- `ringUntil_related` : the same is waited for in states that ring alike.
- `ScanWait.isSome_wait` : a wait with a deadline ends.
- `waits_answer_unless_over` : waiting for a catalog, for a run, and for the time that the settings
  say.
-/

namespace ScannerDiscovery.Simulation

/-! ## Letting alarms ring -/

section Ringing

variable {σ : Type} {holds : σ → Bool} {ring? : σ → Option (Bool × σ)} {s t : σ} {n : Nat}

/-- The answer says whether what is waited for holds, if the deadline does not change that. -/
theorem eq_holds_of_ringUntil (idle : ∀ {s t}, ring? s = some (true, t) → holds t = holds s)
    {b : Bool} (ends : ringUntil holds ring? n s = some (b, t)) : b = holds t := by
  induction n generalizing s with
  | zero => simp [ringUntil] at ends
  | succ n ih =>
      unfold ringUntil at ends
      split at ends
      · rename_i hs
        cases ends
        exact hs.symm
      · rename_i hs
        split at ends
        · cases ends
        · rename_i found
          cases ends
          rw [idle found]
          simpa using hs
        · exact ih ends

/-- The same is waited for in states that ring alike, up to the deadline. -/
theorem ringUntil_related {R : σ → σ → Prop} (same : ∀ {s t}, R s t → holds t = holds s)
    (alike : ∀ {s t s'}, R s t → ring? s = some (false, s') →
      ∃ t', ring? t = some (false, t') ∧ R s' t')
    (related : R s t) {s' : σ} (ends : ringUntil holds ring? n s = some (true, s')) :
    ∃ t', ringUntil holds ring? n t = some (true, t') ∧ R s' t' := by
  induction n generalizing s t with
  | zero => simp [ringUntil] at ends
  | succ n ih =>
      unfold ringUntil at ends ⊢
      rw [same related]
      split at ends
      · rename_i hs
        cases ends
        exact ⟨t, if_pos hs, related⟩
      · rename_i hs
        rw [if_neg hs]
        split at ends
        · cases ends
        · cases ends
        · rename_i rung
          obtain ⟨t₁, rung', related₁⟩ := alike related rung
          rw [rung']
          exact ih related₁ ends

/-- Only a wait that begins ends with true. -/
theorem isOver_of_answer {timeout : Option Binary64} {waited : Option (Bool × σ)}
    (ends : (if isOver timeout then some (false, s) else waited) = some (true, t)) :
    isOver timeout = false := by
  rw [Bool.eq_false_iff]
  intro hover
  rw [if_pos hover] at ends
  cases ends

/-- Waiting does not depend on the number of alarms that may ring, if it is greater than what is
left to ring. -/
theorem ringUntil_eq_of_lt {left : σ → Nat}
    (falls : ∀ {s b t}, ring? s = some (b, t) → left t < left s) {m : Nat} (hn : left s < n)
    (hm : left s < m) : ringUntil holds ring? n s = ringUntil holds ring? m s := by
  induction n generalizing s m with
  | zero => omega
  | succ n ih =>
      obtain ⟨m, rfl⟩ : ∃ k, m = k + 1 := ⟨m - 1, by omega⟩
      unfold ringUntil
      split
      · rfl
      · split
        · rfl
        · rfl
        · rename_i rung
          have := falls rung
          exact ih (by omega) (by omega)

end Ringing

/-! ## What the answers mean -/

/-- What the answers of a function mean that waits for a catalog in some state. It is given a
timeout by which another one is meant; the state has a catalog and a clock. -/
structure AnswersUnlessOver {σ τ : Type} (wait : σ → τ → Option (Bool × σ))
    (meant : σ → τ → Option Binary64) (catalog : σ → Catalog) (now : σ → Binary64) (s : σ) :
    Prop where
  /-- A timeout that is over at once is answered with false, whatever is done. -/
  expired : ∀ timeout, isOver (meant s timeout) = true →
    ∃ s', wait s timeout = some (false, s') ∧ now s' = now s
  /-- Otherwise the answer is whether every method is done when the waiting ends. -/
  truthful : ∀ timeout b s', isOver (meant s timeout) = false →
    wait s timeout = some (b, s') → (b = true ↔ ∀ m, (catalog s').isDone m = true)
  /-- It is given at once if every method is done when the waiting begins. -/
  atOnce : ∀ timeout, isOver (meant s timeout) = false →
    (∀ m, (catalog s).isDone m = true) → ∃ s', wait s timeout = some (true, s') ∧ now s' = now s
  /-- A longer timeout changes nothing about a wait that ends with true. -/
  longer : ∀ short long s', AtMost (meant s short) (meant s long) →
    wait s short = some (true, s') → wait s long = some (true, s')

/-- A function that waits for a timeout that is meant by another one. -/
theorem AnswersUnlessOver.meant {σ τ : Type} {wait : σ → Option Binary64 → Option (Bool × σ)}
    {catalog : σ → Catalog} {now : σ → Binary64} {s : σ}
    (answers : AnswersUnlessOver wait (fun _ timeout => timeout) catalog now s)
    (meant : σ → τ → Option Binary64) :
    AnswersUnlessOver (fun s timeout => wait s (meant s timeout)) meant catalog now s where
  expired timeout := answers.expired (meant s timeout)
  truthful timeout := answers.truthful (meant s timeout)
  atOnce timeout := answers.atOnce (meant s timeout)
  longer short long := answers.longer (meant s short) (meant s long)

/-! ## A catalog and calls to come -/

namespace ScanWait

variable {w w' w₁ : ScanWait} {limit timeout short long : Option Binary64} {b : Bool}

/-- What rings is a deadline, or a call that reports a method done. -/
theorem ringBy?_cases (rings : ringBy? limit w = some (b, w₁)) :
    ∃ bell schedule, w.schedule.ring? limit = some (bell, schedule) ∧
      b = bell.isNone ∧ w₁ = ⟨bell.elim w.catalog w.catalog.scanDone, schedule⟩ := by
  unfold ringBy? at rings
  rw [Option.map_eq_some_iff] at rings
  obtain ⟨⟨bell, schedule⟩, rung, heq⟩ := rings
  cases bell <;> cases heq <;> exact ⟨_, schedule, rung, rfl, rfl⟩

theorem ringBy?_eq {bell : Option Method} {schedule : Schedule Binary64 (Option Method)}
    (rung : w.schedule.ring? limit = some (bell, schedule)) :
    ringBy? limit w =
      some (bell.isNone, ⟨bell.elim w.catalog w.catalog.scanDone, schedule⟩) := by
  unfold ringBy?
  rw [rung]
  cases bell <;> rfl

/-- A wait in three steps: the deadline is armed, alarms ring, the deadline is disarmed. -/
theorem wait_eq (w : ScanWait) (begins : isOver timeout = false) :
    w.wait timeout =
      (ringUntil (·.catalog.isReady) (ringBy? none)
        ((w.schedule.withDeadline timeout none).alarms.length + 1)
        { w with schedule := w.schedule.withDeadline timeout none }).map
      fun (result, w) => (result, { w with schedule := w.schedule.disarm Option.isNone }) := by
  unfold wait
  rw [begins]
  cases timeout <;> rfl

/-- Two waits that are the same but for the deadline. -/
structure TrailedBy (w w' : ScanWait) : Prop where
  catalog : w'.catalog = w.catalog
  schedule : w.schedule.TrailedBy none w'.schedule

theorem TrailedBy.ring (trailed : w.TrailedBy w') (rings : ringBy? none w = some (false, w₁)) :
    ∃ w₁', ringBy? none w' = some (false, w₁') ∧ w₁.TrailedBy w₁' := by
  obtain ⟨bell, schedule, rung, hbell, rfl⟩ := ringBy?_cases rings
  have other : bell ≠ none := by
    rintro rfl
    cases hbell
  obtain ⟨schedule', rung', after⟩ := trailed.schedule.ring rung other
  refine ⟨_, (ringBy?_eq rung').trans (by rw [hbell]), ?_, after⟩
  exact congrArg (fun c => bell.elim c c.scanDone) trailed.catalog

theorem TrailedBy.disarm_eq (trailed : w.TrailedBy w') :
    ({ w with schedule := w.schedule.disarm Option.isNone } : ScanWait) =
      { w' with schedule := w'.schedule.disarm Option.isNone } := by
  obtain ⟨catalog, ⟨now, alarms⟩⟩ := w
  obtain ⟨catalog', ⟨now', alarms'⟩⟩ := w'
  obtain ⟨rfl, rfl, trails⟩ := trailed
  simp only [Schedule.disarm, ScanWait.mk.injEq, Schedule.mk.injEq, true_and]
  exact trails.filter_eq fun _ => rfl

/-- With each alarm that rings one less is left. -/
theorem length_of_ringBy? (rings : ringBy? limit w = some (b, w₁)) :
    w₁.schedule.alarms.length < w.schedule.alarms.length := by
  obtain ⟨bell, schedule, rung, -, rfl⟩ := ringBy?_cases rings
  exact length_of_ring? rung

/-- A deadline does not change what is done. -/
theorem isReady_of_deadline (rings : ringBy? limit w = some (true, w₁)) :
    w₁.catalog.isReady = w.catalog.isReady := by
  obtain ⟨bell, schedule, -, hbell, rfl⟩ := ringBy?_cases rings
  cases bell with
  | none => rfl
  | some m => cases hbell

/-- A longer timeout changes nothing about a wait that ends with true. -/
theorem wait_longer (atMost : AtMost short long) (ends : w.wait short = some (true, w')) :
    w.wait long = some (true, w') := by
  have begins := isOver_of_answer ends
  rw [wait_eq w begins, Option.map_eq_some_iff] at ends
  obtain ⟨⟨b, w₁⟩, ends, heq⟩ := ends
  cases heq
  have trailed : TrailedBy { w with schedule := w.schedule.withDeadline short none }
      { w with schedule := w.schedule.withDeadline long none } :=
    ⟨rfl, trailedBy_withDeadline w.schedule atMost begins⟩
  obtain ⟨w₁', ends', trailed₁⟩ := ringUntil_related (R := TrailedBy)
    (fun trailed => by rw [trailed.catalog]) TrailedBy.ring trailed ends
  -- The longer wait may have one alarm less to let ring.
  have length := trailed.schedule.alarms.length_le
  rw [ringUntil_eq_of_lt length_of_ringBy? (Nat.lt_succ_of_le length) (Nat.lt_succ_self _)] at ends'
  rw [wait_eq w (isOver_eq_false_of_atMost atMost begins), ends', trailed₁.disarm_eq]
  rfl

/-- A wait with a deadline ends: the deadline rings at the latest. -/
theorem isSome_ringUntil {n : Nat} (deadline : ∃ a ∈ w.schedule.alarms, a.about = none)
    (h : w.schedule.alarms.length < n) :
    (ringUntil (·.catalog.isReady) (ringBy? none) n w).isSome = true := by
  induction n generalizing w with
  | zero => omega
  | succ n ih =>
      obtain ⟨a, mem, about⟩ := deadline
      unfold ringUntil
      split
      · rfl
      · cases next : Schedule.earliest w.schedule.alarms with
        | none => rw [earliest_eq_none next] at mem; cases mem
        | some found =>
            obtain ⟨first, others⟩ := found
            have rung : w.schedule.ring? none = some (first.about,
                ⟨if w.schedule.now < first.due then first.due else w.schedule.now, others⟩) := by
              rw [Schedule.ring?, next]
              rfl
            rw [ringBy?_eq rung]
            cases call : first.about with
            | none => rfl
            | some m =>
                refine ih ⟨a, ?_, about⟩ ?_
                · refine ((Schedule.earliest_mem next a).1 mem).resolve_left ?_
                  rintro rfl
                  cases about.symm.trans call
                · have : w.schedule.alarms.length = others.length + 1 := length_of_earliest next
                  change others.length < n
                  omega

/-- A wait with a timeout ends, if the clock shows a time. -/
theorem isSome_wait (w : ScanWait) (clock : w.schedule.now ≠ .undefined) (timeout : Binary64) :
    (w.wait (some timeout)).isSome = true := by
  cases hover : isOver (some timeout) with
  | true =>
      unfold wait
      rw [hover]
      rfl
  | false =>
      rw [wait_eq w hover, Option.isSome_map]
      obtain ⟨due, found, -⟩ := exists_due? clock timeout
      have armed : w.schedule.withDeadline (some timeout) none =
          { w.schedule with alarms := w.schedule.alarms ++ [⟨due, none⟩] } :=
        Schedule.arm_of_due? found none
      refine isSome_ringUntil ⟨⟨due, none⟩, ?_, rfl⟩ (Nat.lt_succ_self _)
      rw [armed]
      exact List.mem_append_right _ List.mem_cons_self

/-- The answers of a wait for a catalog with calls to come. -/
theorem answers (w : ScanWait) :
    AnswersUnlessOver wait (fun _ timeout => timeout) (·.catalog) (·.schedule.now) w where
  expired timeout hover := ⟨w, if_pos hover, rfl⟩
  truthful timeout b w' begins ends := by
    rw [wait_eq w begins, Option.map_eq_some_iff] at ends
    obtain ⟨⟨b, w₁⟩, ends, heq⟩ := ends
    cases heq
    rw [eq_holds_of_ringUntil isReady_of_deadline ends]
    exact w₁.catalog.isReady_iff
  atOnce timeout begins done := by
    have ready : w.catalog.isReady = true := w.catalog.isReady_iff.2 done
    refine ⟨⟨w.catalog, (w.schedule.withDeadline timeout none).disarm Option.isNone⟩, ?_,
      now_withDeadline _ _ _⟩
    rw [wait_eq w begins, ringUntil]
    exact congrArg (Option.map _) (if_pos ready)
  longer short long w' atMost ends := wait_longer atMost ends

end ScanWait

/-! ## Runs -/

namespace Run

variable {r r' r₁ : Run} {timeout short long : Option Binary64} {b : Bool}

/-- A run with the deadline of a wait armed. -/
def withDeadline (r : Run) (timeout : Option Binary64) : Run :=
  r.withLoop fun l => { l with schedule := l.schedule.withDeadline timeout .deadline }

/-- A wait in four steps: the deadline is armed, ready work is done, alarms ring, the deadline is
disarmed. -/
theorem wait_eq (r : Run) (begins : isOver timeout = false) :
    r.wait timeout =
      (ringUntil (·.catalog.isReady) ring? alarmLimit (r.withDeadline timeout).work).map
        fun (result, r) => (result, r.withLoop (·.disarm (· matches .deadline))) := by
  unfold wait
  rw [begins]
  cases timeout <;> rfl

/-- Nothing but the alarms of a run depends on how long it waits. -/
theorem trailedBy_withDeadline (r : Run) (atMost : AtMost short long)
    (begins : isOver short = false) :
    TrailedBy r.catalog r.now (r.withDeadline short) (r.withDeadline long) := by
  refine ⟨⟨fun _ hm => hm, _, ⟨(r.withDeadline long).loop, ⟨?_, rfl, ?_⟩, rfl⟩, rfl⟩, rfl⟩
  · exact now_withDeadline _ _ _
  · exact Simulation.trailedBy_withDeadline _ atMost begins

theorem TrailedBy.disarm_eq {past : Catalog} {now : Binary64} (trailed : TrailedBy past now r r') :
    r.withLoop (·.disarm (· matches .deadline)) = r'.withLoop (·.disarm (· matches .deadline)) := by
  have same : r.loop.disarm (· matches .deadline) = r'.loop.disarm (· matches .deadline) :=
    trailed.loop.disarm_eq rfl
  obtain ⟨⟨-, s, ⟨l, -, rfl⟩, hw⟩, rest⟩ := trailed
  have hl : r'.loop = l := congrArg (·.site.loop) hw
  rw [hl] at same
  rw [rest, hw]
  exact congrArg (fun l => r.withLoop fun _ => l) same

/-- A deadline does not change what is done. -/
theorem isReady_of_deadline (rings : r.ring? = some (true, r₁)) :
    r₁.catalog.isReady = r.catalog.isReady := by
  cases next : r.loop.ring? none with
  | none => simp [Run.ring?, next] at rings
  | some found =>
      rcases ring?_eq_some next with ⟨-, rung⟩ | ⟨-, rung⟩ <;> rw [rung] at rings <;> cases rings
      rfl

/-- A longer timeout changes nothing about a wait that ends with true. -/
theorem wait_longer (atMost : AtMost short long) (ends : r.wait short = some (true, r')) :
    r.wait long = some (true, r') := by
  have begins := isOver_of_answer ends
  rw [wait_eq r begins, Option.map_eq_some_iff] at ends
  obtain ⟨⟨b, r₁⟩, ends, heq⟩ := ends
  cases heq
  have trailed := (trailedBy_withDeadline r atMost begins).work
  obtain ⟨r₁', ends', _, trailed₁⟩ :=
    ringUntil_related (R := fun r₁ r₂ => ∃ now, TrailedBy r.catalog now r₁ r₂)
      (fun ⟨_, trailed⟩ => by rw [trailed.catalog]) (fun ⟨_, trailed⟩ => trailed.ring) ⟨_, trailed⟩ ends
  rw [wait_eq r (isOver_eq_false_of_atMost atMost begins), ends', trailed₁.disarm_eq]
  rfl

/-- The answers of a wait for the catalog of a run. -/
theorem answers (r : Run) : AnswersUnlessOver wait (fun _ timeout => timeout) catalog now r where
  expired timeout hover := ⟨r.work, if_pos hover, now_work r⟩
  truthful timeout b r' begins ends := by
    rw [wait_eq r begins, Option.map_eq_some_iff] at ends
    obtain ⟨⟨b, r₁⟩, ends, heq⟩ := ends
    cases heq
    rw [eq_holds_of_ringUntil isReady_of_deadline ends]
    exact r₁.catalog.isReady_iff
  atOnce timeout begins done := by
    have ready : (r.withDeadline timeout).work.catalog.isReady = true :=
      (Catalog.isReady_iff _).2 fun m => isDone_work (done m)
    have clock : (r.withDeadline timeout).work.now = r.now :=
      (now_work (r.withDeadline timeout)).trans (now_withDeadline _ _ _)
    refine ⟨(r.withDeadline timeout).work.withLoop (·.disarm (· matches .deadline)), ?_, clock⟩
    rw [wait_eq r begins, alarmLimit, ringUntil]
    exact congrArg (Option.map _) (if_pos ready)
  longer short long r' atMost ends := wait_longer atMost ends

end Run

/-! ## Every wait for the initial scan -/

/-- Waiting for the initial scan is answered truthfully unless the timeout is over at once, for a
catalog with calls to come, for a run, and for a run whose settings give the timeout.  For a catalog
with calls to come it is also answered whenever there is a timeout and the clock shows a time. -/
theorem waits_answer_unless_over (w : ScanWait) (r : Run) :
    AnswersUnlessOver ScanWait.wait (fun _ timeout => timeout) (·.catalog) (·.schedule.now) w ∧
    AnswersUnlessOver Run.wait (fun _ timeout => timeout) Run.catalog Run.now r ∧
    AnswersUnlessOver Run.waitReady (fun r timeout => some (timeout.getD r.settings.readyTimeout))
      Run.catalog Run.now r ∧
    ∀ timeout : Binary64,
      w.schedule.now = .undefined ∨ (w.wait (some timeout)).isSome = true := by
  refine ⟨w.answers, r.answers, r.answers.meant _, fun timeout => ?_⟩
  exact or_iff_not_imp_left.2 fun clock => w.isSome_wait clock timeout

/-- A catalog of which every method is done, with no calls to come. -/
def scanned : ScanWait :=
  ⟨Method.all.foldl Catalog.scanDone .empty, ⟨0, []⟩⟩

/-- Every method is done, and the answer to a timeout of zero is false. -/
theorem scanned_but_answered_false :
    (∀ m, scanned.catalog.isDone m = true) ∧ scanned.wait (some 0) = some (false, scanned) := by
  constructor
  · intro m
    cases m <;> rfl
  · rfl

end ScannerDiscovery.Simulation
