import Mathlib.Tactic.Linarith
import ScannerDiscovery.Proofs.Mdns.Timers

/-!
# When a browse tells that it has seen everything

A browse tells so once at most, one quiet period after it was started or has told of its latest new
instance.  That is neither too early nor too late: it has told so when time has passed a whole quiet
period in which it was open and told of no new instance.

Main definitions:

- `Measured` : alarms are due one quiet period after their browse was roused the last time.
- `ToldInTime` : browses tell that they have seen everything once, and in time.
- `Complete` : no quiet period has passed unnoticed.
- `TellsInTime` : what is promised of a browse.

Main results:

- `Reached.quiet` : all this holds at every moment of every run.
- `all_for_now_is_told_in_time` : every browse tells in time that it has seen everything.
-/

namespace ScannerDiscovery.Mdns

open Simulation (Schedule Alarm)

variable {quietPeriod : ℚ} {m m' : Moment} {number : Nat}

/-! ## Entries -/

namespace Entry

variable {entry : Entry}

/-- An entry starts the quiet period of one browse at most. -/
theorem Rouses.unique {k : Nat} (first : entry.Rouses number) (second : entry.Rouses k) :
    k = number := by
  obtain starts | tells := first <;> obtain starts' | tells' := second
  · exact Client.handle_inj (Option.some.inj
      ((given?_of_starts starts').symm.trans (given?_of_starts starts)))
  · cases (tells?_of_starts starts).symm.trans tells'
  · cases (tells?_of_starts starts').symm.trans tells
  · cases tells.symm.trans tells'
    rfl

/-- What starts a quiet period does not tell that everything has been seen. -/
theorem Rouses.tells?_ne {k : Nat} (rouses : entry.Rouses number) :
    entry.tells? ≠ some (k, .allForNow) := by
  intro tells
  obtain starts | tells' := rouses
  · cases (tells?_of_starts starts).symm.trans tells
  · cases tells.symm.trans tells'

/-- What a report tells is what its event says. -/
theorem kind_of_tells? {activity : Activity} {event : BrowseEvent} {kind : BrowseKind}
    (tells : (reported activity (.browse event)).tells? = some (number, kind)) :
    event.kind = kind := by
  obtain ⟨_, _, same, rfl⟩ := reported_of_tells? tells
  cases same
  rfl

end Entry

/-- Whether the handle of a browse has been given. -/
def StartedIn (number : Nat) (h : History) : Prop :=
  ∃ line ∈ h, line.entry.Starts number

/-- The handle of a browse that has been started has been given out. -/
theorem StartedIn.givenIn {h : History} (started : StartedIn number h) :
    GivenIn (Browse.handle number) h := by
  obtain ⟨line, hmem, starts⟩ := started
  exact ⟨line, hmem, Entry.given?_of_starts starts⟩

/-- A browse whose handle has been given has its watcher as long as it is open. -/
theorem Silent.isWatched (silent : Silent m) (started : StartedIn number m.history)
    {browse : Browse} (found : m.client.browse? number = some browse) :
    browse.isWatched = true := by
  obtain ⟨other, same, -, watched⟩ | ⟨op, same, -⟩ := silent.issued _ started.givenIn
  · obtain rfl := Client.handle_inj same
    exact watched browse found
  · cases same

/-! ## The times of alarms -/

/-- Whether nothing that has been seen lies ahead and no alarm lies behind, and every alarm is due
one quiet period after its browse was roused the last time. -/
structure Measured (quietPeriod : ℚ) (m : Moment) : Prop where
  past : ∀ line ∈ m.history, line.time ≤ m.now
  future : ∀ alarm ∈ m.schedule.alarms, m.now ≤ alarm.due
  after : ∀ alarm ∈ m.schedule.alarms, ∀ line ∈ m.history, line.entry.Rouses alarm.about →
    line.time + quietPeriod ≤ alarm.due
  since : ∀ alarm ∈ m.schedule.alarms, ∃ line ∈ m.history, line.entry.Rouses alarm.about ∧
    alarm.due = line.time + quietPeriod

/-- Alarms stay measured if browses are roused and have new alarms armed at the same time. -/
theorem Measured.changed (measured : Measured quietPeriod m) (positive : 0 < quietPeriod)
    (recent : History) (history : m'.history = recent ++ m.history)
    (times : ∀ line ∈ recent, line.time = m.now) (now : m'.now = m.now)
    (alarms : ∀ alarm ∈ m'.schedule.alarms,
      (alarm ∈ m.schedule.alarms ∧ ∀ line ∈ recent, ¬line.entry.Rouses alarm.about) ∨
        (∃ line ∈ recent, line.entry.Rouses alarm.about) ∧ alarm.due = m.now + quietPeriod) :
    Measured quietPeriod m' := by
  have past : ∀ line ∈ m'.history, line.time ≤ m.now := by
    intro line hmem
    obtain recent | before := List.mem_append.1 (history ▸ hmem)
    · exact (times line recent).le
    · exact measured.past line before
  refine ⟨now ▸ past, fun alarm hmem => ?_, fun alarm hmem line seen rouses => ?_,
    fun alarm hmem => ?_⟩
  · rw [now]
    obtain ⟨before, -⟩ | ⟨-, due⟩ := alarms alarm hmem
    · exact measured.future alarm before
    · linarith
  · obtain ⟨before, quiet⟩ | ⟨-, due⟩ := alarms alarm hmem
    · obtain recent | earlier := List.mem_append.1 (history ▸ seen)
      · exact (quiet line recent rouses).elim
      · exact measured.after alarm before line earlier rouses
    · have := past line seen
      linarith
  · rw [history]
    obtain ⟨before, -⟩ | ⟨⟨line, recent, rouses⟩, due⟩ := alarms alarm hmem
    · obtain ⟨line, earlier, rouses, due⟩ := measured.since alarm before
      exact ⟨line, List.mem_append_right _ earlier, rouses, due⟩
    · exact ⟨line, List.mem_append_left _ recent, rouses, times line recent ▸ due⟩

/-- A move keeps alarms measured. -/
theorem Move.measured (orderly : Orderly m) (alarmsMatch : AlarmsMatch m)
    (positive : 0 < quietPeriod) (move : Move quietPeriod m m')
    (measured : Measured quietPeriod m) : Measured quietPeriod m' := by
  cases move.tends orderly alarmsMatch with
  | aside recent history idle browses next schedule =>
      refine measured.changed positive recent history (fun line hmem => (idle line hmem).2)
        (congrArg Schedule.now schedule) fun alarm hmem => .inl ⟨schedule ▸ hmem, ?_⟩
      exact fun line hmem => (idle line hmem).1.not_rouses
  | passes time later punctual same =>
      subst same
      exact ⟨fun line hmem => (measured.past line hmem).trans later, punctual, measured.after,
        measured.since⟩
  | attaches browse unarmed unwatched unreported history browses next schedule =>
      exact measured.changed positive [] history (by simp) (congrArg Schedule.now schedule)
        fun alarm hmem => .inl ⟨schedule ▸ hmem, by simp⟩
  | drops number browse found recent history idle closed browses next schedule =>
      have now : m'.now = m.now := by
        rw [Moment.now, schedule]
        rfl
      refine measured.changed positive recent history (fun line hmem => (idle line hmem).2) now
        fun alarm hmem => .inl ⟨?_, ?_⟩
      · exact (Moment.mem_disarmed.1 (schedule ▸ hmem)).1
      · exact fun line hmem => (idle line hmem).1.not_rouses
  | rouses number browse after found entry rouses fresh history browses next roused reported =>
      have quiet {alarm : Alarm ℚ Nat} (other : alarm.about ≠ number) :
          ∀ line ∈ [Line.mk m.now entry], ¬line.entry.Rouses alarm.about := by
        simp only [List.mem_singleton, forall_eq]
        exact fun rouses' => other (rouses.unique rouses')
      cases already : browse.hasReported with
      | true =>
          obtain ⟨-, schedule⟩ := reported already
          have unarmed : ∀ alarm ∈ m.schedule.alarms, alarm.about ≠ number := by
            refine alarmsMatch.unarmed fun other found' => ?_
            obtain rfl := Option.some.inj (found.symm.trans found')
            exact .inr already
          refine measured.changed positive [⟨m.now, entry⟩] history (by simp)
            (congrArg Schedule.now schedule) fun alarm hmem => ?_
          exact .inl ⟨schedule ▸ hmem, quiet (unarmed alarm (schedule ▸ hmem))⟩
      | false =>
          obtain ⟨-, -, schedule⟩ := roused already
          have now : m'.now = m.now := (congrArg Schedule.now schedule).trans (Schedule.now_arm ..)
          refine measured.changed positive [⟨m.now, entry⟩] history (by simp) now
            fun alarm hmem => ?_
          rw [schedule, Moment.mem_arm] at hmem
          obtain before | rfl := hmem
          · obtain ⟨before, other⟩ := Moment.mem_disarmed.1 before
            exact .inl ⟨before, quiet other⟩
          · exact .inr ⟨⟨_, List.mem_singleton_self _, rouses⟩, rfl⟩
  | rings number browse found due entry tells history browses next schedule =>
      have now : m'.now = m.now := by
        rw [Moment.now, schedule]
        rfl
      refine measured.changed positive [⟨m.now, entry⟩] history (by simp) now
        fun alarm hmem => .inl ⟨?_, ?_⟩
      · exact (Moment.mem_disarmed.1 (schedule ▸ hmem)).1
      · simp only [List.mem_singleton, forall_eq]
        exact fun rouses => rouses.tells?_ne tells

/-! ## What browses have told -/

/-- Whether a browse has told that it has seen everything. -/
def HasTold (number : Nat) (h : History) : Prop :=
  ∃ line ∈ h, line.entry.tells? = some (number, .allForNow)

/-- Entries that tell nothing of the kind do not change what a browse has told. -/
theorem hasTold_append {recent h : History}
    (untold : ∀ line ∈ recent, line.entry.tells? ≠ some (number, .allForNow)) :
    HasTold number (recent ++ h) ↔ HasTold number h := by
  constructor
  · rintro ⟨line, hmem, tells⟩
    obtain recent | before := List.mem_append.1 hmem
    · exact (untold line recent tells).elim
    · exact ⟨line, before, tells⟩
  · rintro ⟨line, hmem, tells⟩
    exact ⟨line, List.mem_append_right recent hmem, tells⟩

/-- An entry that tells nothing of the kind does not change what a browse has told. -/
theorem hasTold_cons {line : Line} {h : History}
    (untold : line.entry.tells? ≠ some (number, .allForNow)) :
    HasTold number (line :: h) ↔ HasTold number h := by
  change HasTold number ([line] ++ h) ↔ _
  exact hasTold_append fun other hmem => List.mem_singleton.1 hmem ▸ untold

/-- Whether exactly those open browses have told that they have seen everything of which the client
knows so, and no browse that is yet to be opened. -/
structure Told (m : Moment) : Prop where
  known : ∀ number, HasTold number m.history → number < m.client.nextBrowse ∧
    ∀ browse, m.client.browse? number = some browse → browse.hasReported = true
  done : ∀ number browse, m.client.browse? number = some browse → browse.hasReported = true →
    HasTold number m.history

/-- A change of one browse concerns only what that browse has told. -/
theorem Told.changed (told : Told m) (number : Nat)
    (tellings : ∀ k ≠ number, HasTold k m'.history ↔ HasTold k m.history)
    (browses : ∀ k ≠ number, m'.client.browse? k = m.client.browse? k)
    (next : ∀ k ≠ number, k < m.client.nextBrowse → k < m'.client.nextBrowse)
    (known : HasTold number m'.history → number < m'.client.nextBrowse ∧
      ∀ browse, m'.client.browse? number = some browse → browse.hasReported = true)
    (done : ∀ browse, m'.client.browse? number = some browse → browse.hasReported = true →
      HasTold number m'.history) : Told m' where
  known := by
    intro k tells
    by_cases same : k = number
    · subst same
      exact known tells
    · obtain ⟨below, reported⟩ := told.known k ((tellings k same).1 tells)
      exact ⟨next k same below, browses k same ▸ reported⟩
  done := by
    intro k browse found reported
    by_cases same : k = number
    · subst same
      exact done browse found reported
    · exact (tellings k same).2 (told.done k browse (browses k same ▸ found) reported)

/-- A move keeps the client's knowledge of what browses have told. -/
theorem Move.told (orderly : Orderly m) (alarmsMatch : AlarmsMatch m) (move : Move quietPeriod m m')
    (told : Told m) : Told m' := by
  cases move.tends orderly alarmsMatch with
  | aside recent history idle browses next =>
      have tellings (k : Nat) : HasTold k m'.history ↔ HasTold k m.history :=
        history ▸ hasTold_append fun line hmem => (idle line hmem).1.tells?_ne (by decide)
      refine ⟨fun k tells => ?_, fun k browse found reported => ?_⟩
      · rw [browses, next]
        exact told.known k ((tellings k).1 tells)
      · exact (tellings k).2 (told.done k browse (browses k ▸ found) reported)
  | passes time later punctual same =>
      subst same
      exact ⟨told.known, told.done⟩
  | attaches browse unarmed unwatched unreported history browses next =>
      refine told.changed m.client.nextBrowse (fun k _ => by rw [history])
        (fun k other => by rw [browses, if_neg other])
        (fun k _ below => next ▸ Nat.lt_succ_of_lt below) (fun tells => ?_)
        fun after found reported => ?_
      · cases Nat.lt_irrefl _ (told.known _ (history ▸ tells)).1
      · rw [browses, if_pos rfl] at found
        cases found
        cases unreported.symm.trans reported
  | drops number browse found recent history idle closed browses next =>
      have tellings (k : Nat) : HasTold k m'.history ↔ HasTold k m.history :=
        history ▸ hasTold_append fun line hmem => (idle line hmem).1.tells?_ne (by decide)
      have absent : m'.client.browse? number = none := (browses number).trans (if_pos rfl)
      refine told.changed number (fun k _ => tellings k)
        (fun k other => by rw [browses, if_neg other]) (fun k other below => by omega)
        (fun tells => ?_) fun after found => by cases absent.symm.trans found
      obtain ⟨below, reported⟩ := told.known number ((tellings number).1 tells)
      refine ⟨?_, fun after found => by cases absent.symm.trans found⟩
      -- the number of a browse that is taken back is used again, but it has told nothing
      obtain next | ⟨-, unreported, -⟩ := next
      · exact next ▸ below
      · cases unreported.symm.trans (reported browse found)
  | rouses number browse after found entry rouses fresh history browses next roused reported =>
      have tellings (k : Nat) : HasTold k m'.history ↔ HasTold k m.history :=
        history ▸ hasTold_cons rouses.tells?_ne
      have unique {other : Browse} (found : m'.client.browse? number = some other) :
          after = other :=
        Option.some.inj (((browses number).trans (if_pos rfl)).symm.trans found)
      refine told.changed number (fun k _ => tellings k)
        (fun k other => by rw [browses, if_neg other]) (fun k _ below => next ▸ below)
        (fun tells => ?_) fun other found' done => ?_
      · obtain ⟨below, known⟩ := told.known number ((tellings number).1 tells)
        refine ⟨next ▸ below, fun other found' => ?_⟩
        exact unique found' ▸ (reported (known browse found)).1
      · refine (tellings number).2 (told.done number browse found (by_contra fun unreported => ?_))
        have unreported := (roused (by simpa using unreported)).1
        cases (unique found' ▸ unreported).symm.trans done
  | rings number browse found due entry tells history browses next =>
      have told_now : HasTold number m'.history := by
        rw [history]
        exact ⟨_, List.mem_cons_self, tells⟩
      refine told.changed number (fun k other => ?_) (fun k other => by rw [browses, if_neg other])
        (fun k _ below => next ▸ below) (fun _ => ⟨?_, fun after found' => ?_⟩)
        fun _ _ _ => told_now
      · rw [history]
        refine hasTold_cons fun tells' => ?_
        cases tells.symm.trans tells'
        exact other rfl
      · exact next ▸ orderly.browses number (Option.isSome_of_eq_some found)
      · rw [browses, if_pos rfl] at found'
        cases found'
        rfl

/-! ## How browses keep time -/

/-- Whether all browses have kept time: each has been started once, and has told that it has seen
everything once, after it was started and one quiet period after it was roused the last time. -/
def ToldInTime (quietPeriod : ℚ) : History → Prop
  | [] => True
  | line :: h =>
    (∀ number, line.entry.tells? = some (number, .allForNow) →
      (∀ earlier ∈ h, earlier.entry.tells? ≠ some (number, .allForNow)) ∧
      (∀ earlier ∈ h, earlier.entry.Rouses number → earlier.time + quietPeriod ≤ line.time) ∧
      ∃ earlier ∈ h, earlier.entry.Rouses number ∧ line.time = earlier.time + quietPeriod) ∧
    (∀ number, line.entry.Starts number → ¬StartedIn number h ∧
      ∀ earlier ∈ h, earlier.entry.tells? ≠ some (number, .allForNow)) ∧
    ToldInTime quietPeriod h

/-- Idle entries let browses keep time. -/
theorem ToldInTime.append {recent h : History} (timed : ToldInTime quietPeriod h)
    (idle : ∀ line ∈ recent, line.entry.IsIdle) : ToldInTime quietPeriod (recent ++ h) := by
  induction recent with
  | nil => exact timed
  | cons line recent ih =>
      have idle' := idle line List.mem_cons_self
      refine ⟨fun number tells => ?_, fun number starts => ?_, ih fun other hmem => ?_⟩
      · exact (idle'.tells?_ne (by decide) tells).elim
      · exact (idle'.not_starts starts).elim
      · exact idle other (List.mem_cons_of_mem line hmem)

/-- A browse is started once. -/
theorem ToldInTime.start_unique {h : History} (timed : ToldInTime quietPeriod h)
    {first second : Line} (hfirst : first ∈ h) (hsecond : second ∈ h)
    (starts : first.entry.Starts number) (starts' : second.entry.Starts number) :
    first = second := by
  induction h with
  | nil => cases hfirst
  | cons line h ih =>
      obtain rfl | before := List.mem_cons.1 hfirst <;>
        obtain rfl | before' := List.mem_cons.1 hsecond
      · rfl
      · exact ((timed.2.1 number starts).1 ⟨second, before', starts'⟩).elim
      · exact ((timed.2.1 number starts').1 ⟨first, before, starts⟩).elim
      · exact ih timed.2.2 before before'

/-- A move lets browses keep time. -/
theorem Move.toldInTime (orderly : Orderly m) (alarmsMatch : AlarmsMatch m) (silent : Silent m)
    (measured : Measured quietPeriod m) (told : Told m) (move : Move quietPeriod m m')
    (timed : ToldInTime quietPeriod m.history) : ToldInTime quietPeriod m'.history := by
  cases move.tends orderly alarmsMatch with
  | aside recent history idle =>
      rw [history]
      exact timed.append fun line hmem => (idle line hmem).1
  | passes time later punctual same =>
      subst same
      exact timed
  | attaches browse unarmed unwatched unreported history => exact history ▸ timed
  | drops number browse found recent history idle =>
      rw [history]
      exact timed.append fun line hmem => (idle line hmem).1
  | rouses number browse after found entry rouses fresh history =>
      rw [history]
      refine ⟨fun k tells => (rouses.tells?_ne tells).elim, fun k starts => ?_, timed⟩
      obtain rfl := rouses.unique (.inl starts)
      obtain ⟨unwatched, unreported⟩ := fresh starts
      refine ⟨fun started => ?_, fun earlier hmem tells => ?_⟩
      · cases unwatched.symm.trans (silent.isWatched started found)
      · cases unreported.symm.trans ((told.known k ⟨earlier, hmem, tells⟩).2 browse found)
  | rings number browse found due entry tells history =>
      rw [history]
      obtain ⟨alarm, hmem, rfl, due⟩ := due
      have now : m.now = alarm.due := le_antisymm (measured.future alarm hmem) due
      refine ⟨fun k tells' => ?_, fun k starts => ?_, timed⟩
      · cases tells.symm.trans tells'
        refine ⟨fun earlier seen tells => ?_, fun earlier seen rouses => ?_, ?_⟩
        · obtain ⟨pending, found', -, unreported⟩ := alarmsMatch.pending alarm hmem
          cases unreported.symm.trans ((told.known _ ⟨earlier, seen, tells⟩).2 pending found')
        · exact now ▸ measured.after alarm hmem earlier seen rouses
        · exact now ▸ measured.since alarm hmem
      · cases tells.symm.trans (Entry.tells?_of_starts starts)

/-! ## Browses that are no longer open -/

/-- Whether every browse that has been started and is no longer open has been closed. -/
def Dismissed (m : Moment) : Prop :=
  ∀ number, StartedIn number m.history → m.client.browse? number = none →
    ClosedIn (Browse.handle number) m.history

/-- What closes a handle, closes it for good. -/
theorem closedIn_of_mem {recent h : History} {handle : Ticket} (given : GivenIn handle h)
    {line : Line} (hmem : line ∈ recent) (closes : line.entry.Closes handle) :
    ClosedIn handle (recent ++ h) := by
  induction recent with
  | nil => cases hmem
  | cons first recent ih =>
      obtain rfl | later := List.mem_cons.1 hmem
      · exact .inl ⟨closes, given.append recent⟩
      · exact .inr (ih later)

/-- No browse is started by idle entries. -/
theorem StartedIn.of_idle {recent h : History} (started : StartedIn number (recent ++ h))
    (idle : ∀ line ∈ recent, line.entry.IsIdle) : StartedIn number h := by
  obtain ⟨line, hmem, starts⟩ := started
  obtain recent | before := List.mem_append.1 hmem
  · exact ((idle line recent).not_starts starts).elim
  · exact ⟨line, before, starts⟩

/-- A move keeps what is known of browses that are no longer open. -/
theorem Move.dismissed (orderly : Orderly m) (alarmsMatch : AlarmsMatch m) (silent : Silent m)
    (move : Move quietPeriod m m') (dismissed : Dismissed m) : Dismissed m' := by
  intro k started absent
  cases move.tends orderly alarmsMatch with
  | aside recent history idle browses =>
      rw [history] at started ⊢
      rw [browses] at absent
      have before := started.of_idle fun line hmem => (idle line hmem).1
      exact (dismissed k before absent).append recent
  | passes time later punctual same =>
      subst same
      exact dismissed k started absent
  | attaches browse unarmed unwatched unreported history browses =>
      rw [history] at started ⊢
      rw [browses] at absent
      split at absent
      · cases absent
      · exact dismissed k started absent
  | drops number browse found recent history idle closed browses =>
      rw [history] at started ⊢
      have before := started.of_idle fun line hmem => (idle line hmem).1
      by_cases same : k = number
      · subst same
        obtain ⟨line, hmem, closes⟩ := closed (silent.isWatched before found)
        exact closedIn_of_mem before.givenIn hmem closes
      · rw [browses, if_neg same] at absent
        exact (dismissed k before absent).append recent
  | rouses number browse after found entry rouses fresh history browses =>
      rw [history] at started ⊢
      rw [browses] at absent
      split at absent
      · cases absent
      · next other =>
          obtain ⟨line, hmem, starts⟩ := started
          obtain rfl | before := List.mem_cons.1 hmem
          · exact (other (rouses.unique (.inl starts))).elim
          · exact .inr (dismissed k ⟨line, before, starts⟩ absent)
  | rings number browse found due entry tells history browses =>
      rw [history] at started ⊢
      rw [browses] at absent
      split at absent
      · cases absent
      · obtain ⟨line, hmem, starts⟩ := started
        obtain rfl | before := List.mem_cons.1 hmem
        · cases tells.symm.trans (Entry.tells?_of_starts starts)
        · exact .inr (dismissed k ⟨line, before, starts⟩ absent)

/-! ## Quiet periods that have passed -/

/-- Whether a browse has not been closed by a time. -/
def StaysOpen (number : Nat) (time : ℚ) (h : History) : Prop :=
  ∀ {later earlier : History} {line : Line}, h = later ++ line :: earlier →
    GivenIn (Browse.handle number) earlier → line.entry.Closes (Browse.handle number) →
      time < line.time

/-- Whether a browse has told of no new instance after one time and by another. -/
def TellsNoNew (number : Nat) (after limit : ℚ) (h : History) : Prop :=
  ∀ line ∈ h, line.entry.tells? = some (number, .new) → after < line.time → limit < line.time

/-- Whether every browse has told that it has seen everything when it had been quiet for a quiet
period. -/
def Complete (quietPeriod : ℚ) (m : Moment) : Prop :=
  ∀ number time, (∃ line ∈ m.history, line.entry.Starts number ∧ line.time ≤ time) →
    time + quietPeriod < m.now → StaysOpen number (time + quietPeriod) m.history →
      TellsNoNew number time (time + quietPeriod) m.history →
        ∃ line ∈ m.history, line.entry.tells? = some (number, .allForNow) ∧
          line.time ≤ time + quietPeriod

/-- As long as no time passes, no quiet period does. -/
theorem Complete.grows (complete : Complete quietPeriod m) (positive : 0 < quietPeriod)
    {recent : History} (history : m'.history = recent ++ m.history)
    (times : ∀ line ∈ recent, line.time = m.now) (now : m'.now = m.now) :
    Complete quietPeriod m' := by
  rintro number time ⟨start, hmem, starts, early⟩ past stays quiet
  -- a browse that is started now has not been quiet for any time
  rw [now] at past
  rw [history] at hmem stays quiet ⊢
  obtain recently | before := List.mem_append.1 hmem
  · have := times start recently
    linarith
  · obtain ⟨line, told, tells, inTime⟩ := complete number time ⟨start, before, starts, early⟩ past
      (fun cut => stays (cut ▸ (List.append_assoc ..).symm))
      fun line earlier => quiet line (List.mem_append_right recent earlier)
    exact ⟨line, List.mem_append_right recent told, tells, inTime⟩

/-- A handle that has been closed was closed by an entry of the history. -/
theorem ClosedIn.exists {h : History} {handle : Ticket} (closed : ClosedIn handle h) :
    ∃ later earlier line, h = later ++ line :: earlier ∧ GivenIn handle earlier ∧
      line.entry.Closes handle := by
  induction h with
  | nil => cases closed
  | cons line h ih =>
      obtain ⟨closes, given⟩ | before := closed
      · exact ⟨[], h, line, rfl, given, closes⟩
      · obtain ⟨later, earlier, line', rfl, given, closes⟩ := ih before
        exact ⟨line :: later, earlier, line', rfl, given, closes⟩

/-- When time passes, the alarms that are not yet due see to it that no quiet period does. -/
theorem Complete.passes (complete : Complete quietPeriod m) (alarmsMatch : AlarmsMatch m)
    (silent : Silent m) (measured : Measured quietPeriod m) (told : Told m)
    (timed : ToldInTime quietPeriod m.history) (dismissed : Dismissed m) {later : ℚ}
    (punctual : ∀ alarm ∈ m.schedule.alarms, later ≤ alarm.due) :
    Complete quietPeriod { m with schedule := { m.schedule with now := later } } := by
  rintro number time ⟨start, hmem, starts, early⟩ past stays quiet
  by_cases before : time + quietPeriod < m.now
  · exact complete number time ⟨start, hmem, starts, early⟩ before stays quiet
  have inTime {line : Line} (hmem : line ∈ m.history) : line.time ≤ time + quietPeriod :=
    (measured.past line hmem).trans (not_lt.1 before)
  have started : StartedIn number m.history := ⟨start, hmem, starts⟩
  cases found : m.client.browse? number with
  | none =>
      obtain ⟨recent, earlier, line, cut, given, closes⟩ := (dismissed number started found).exists
      have closed := stays cut given closes
      have := inTime (cut ▸ List.mem_append_right recent List.mem_cons_self)
      linarith
  | some browse =>
      obtain reported | ⟨alarm, armed, rfl⟩ :=
        alarmsMatch.timed number browse found (.inr (silent.isWatched started found))
      · obtain ⟨line, hmem, tells⟩ := told.done number browse found reported
        exact ⟨line, hmem, tells, inTime hmem⟩
      · -- the alarm is still ahead, so the browse was roused too late for the stretch to be quiet
        obtain ⟨line, seen, rouses, due⟩ := measured.since alarm armed
        have notDue := punctual alarm armed
        change time + quietPeriod < later at past
        have late : time < line.time := by linarith
        obtain starts' | tells := rouses
        · rw [timed.start_unique seen hmem starts' starts] at late
          linarith
        · have := quiet line seen tells late
          have := inTime seen
          linarith

/-- A move lets no quiet period pass unnoticed. -/
theorem Move.complete (orderly : Orderly m) (alarmsMatch : AlarmsMatch m) (silent : Silent m)
    (positive : 0 < quietPeriod) (measured : Measured quietPeriod m) (told : Told m)
    (timed : ToldInTime quietPeriod m.history) (dismissed : Dismissed m)
    (move : Move quietPeriod m m') (complete : Complete quietPeriod m) :
    Complete quietPeriod m' := by
  obtain ⟨time, -, punctual, rfl⟩ | ⟨recent, history, times, now⟩ :=
    (move.tends orderly alarmsMatch).passes_or_adds
  · exact complete.passes alarmsMatch silent measured told timed dismissed punctual
  · exact complete.grows positive history times now

/-! ## Who tells what -/

/-- Whether every browse report tells something of a browse, and every call that starts a browse has
returned the handle of one. -/
structure Attributed (h : History) : Prop where
  reports : ∀ line ∈ h, ∀ activity event, line.entry = .reported activity (.browse event) →
    ∃ number, line.entry.tells? = some (number, event.kind)
  starts : ∀ line ∈ h, ∀ service handle,
    line.entry = .ended (.startBrowse service) (.ok (some handle)) →
      ∃ number, handle = Browse.handle number

/-- A new entry is idle, rouses a browse, or tells that one has seen everything. -/
theorem Moment.Tends.new_entry (tends : m.Tends quietPeriod m') {line : Line}
    (hmem : line ∈ m'.history) : line ∈ m.history ∨ line.entry.IsIdle ∨
      ∃ number, line.entry.Rouses number ∨ line.entry.tells? = some (number, .allForNow) := by
  cases tends with
  | aside recent history idle | drops _ _ _ recent history idle =>
      obtain recent | before := List.mem_append.1 (history ▸ hmem)
      · exact .inr (.inl (idle line recent).1)
      · exact .inl before
  | passes time later punctual same =>
      subst same
      exact .inl hmem
  | attaches browse unarmed unwatched unreported history => exact .inl (history ▸ hmem)
  | rouses number browse after found entry rouses fresh history =>
      obtain rfl | before := List.mem_cons.1 (history ▸ hmem)
      · exact .inr (.inr ⟨number, .inl rouses⟩)
      · exact .inl before
  | rings number browse found due entry tells history =>
      obtain rfl | before := List.mem_cons.1 (history ▸ hmem)
      · exact .inr (.inr ⟨number, .inr tells⟩)
      · exact .inl before

/-- A move attributes what it reports, and the handles it gives out, to browses. -/
theorem Move.attributed (orderly : Orderly m) (alarmsMatch : AlarmsMatch m)
    (move : Move quietPeriod m m') (attributed : Attributed m.history) : Attributed m'.history where
  reports := by
    intro line hmem activity event same
    obtain before | idle | ⟨number, (starts | tells) | tells⟩ :=
      (move.tends orderly alarmsMatch).new_entry hmem
    · exact attributed.reports line before activity event same
    · obtain ⟨kind, number, tells⟩ := idle.gone activity event same
      exact ⟨number, kind ▸ tells⟩
    · obtain ⟨service, other⟩ := starts
      cases same.symm.trans other
    · exact ⟨number, Entry.kind_of_tells? (same ▸ tells) ▸ tells⟩
    · exact ⟨number, Entry.kind_of_tells? (same ▸ tells) ▸ tells⟩
  starts := by
    intro line hmem service handle same
    obtain before | idle | ⟨number, (⟨service', starts⟩ | tells) | tells⟩ :=
      (move.tends orderly alarmsMatch).new_entry hmem
    · exact attributed.starts line before service handle same
    · exact (idle.unstarted service handle same).elim
    · cases same.symm.trans starts
      exact ⟨number, rfl⟩
    · obtain ⟨_, _, other, -⟩ := Entry.reported_of_tells? tells
      cases same.symm.trans other
    · obtain ⟨_, _, other, -⟩ := Entry.reported_of_tells? tells
      cases same.symm.trans other

/-! ## At every moment -/

/-- All that is known of browses at a moment. -/
structure Quiet (quietPeriod : ℚ) (m : Moment) : Prop where
  silent : Silent m
  alarmsMatch : AlarmsMatch m
  measured : Measured quietPeriod m
  told : Told m
  toldInTime : ToldInTime quietPeriod m.history
  dismissed : Dismissed m
  complete : Complete quietPeriod m
  attributed : Attributed m.history

/-- All this holds of a new client. -/
theorem Quiet.new (ipVersion : IpVersion) (resolveTimeout : Binary64) :
    Quiet quietPeriod (.new ipVersion resolveTimeout) where
  silent := (Reached.new ipVersion resolveTimeout : Reached quietPeriod _).isSilent
  alarmsMatch := .new ipVersion resolveTimeout
  measured := ⟨List.forall_mem_nil _, List.forall_mem_nil _, List.forall_mem_nil _,
    List.forall_mem_nil _⟩
  told := by
    refine ⟨?_, fun _ _ found => by cases found⟩
    rintro number ⟨line, hmem, -⟩
    cases hmem
  toldInTime := trivial
  dismissed := by
    rintro number ⟨line, hmem, -⟩
    cases hmem
  complete := by
    rintro number time ⟨line, hmem, -⟩
    cases hmem
  attributed := ⟨List.forall_mem_nil _, List.forall_mem_nil _⟩

/-- A move keeps all that is known of browses. -/
theorem Move.quiet (positive : 0 < quietPeriod) (orderly : Orderly m)
    (move : Move quietPeriod m m') (quiet : Quiet quietPeriod m) : Quiet quietPeriod m' where
  silent := move.silent quiet.silent
  alarmsMatch := move.alarmsMatch orderly quiet.alarmsMatch
  measured := move.measured orderly quiet.alarmsMatch positive quiet.measured
  told := move.told orderly quiet.alarmsMatch quiet.told
  toldInTime := move.toldInTime orderly quiet.alarmsMatch quiet.silent quiet.measured quiet.told
    quiet.toldInTime
  dismissed := move.dismissed orderly quiet.alarmsMatch quiet.silent quiet.dismissed
  complete := move.complete orderly quiet.alarmsMatch quiet.silent positive quiet.measured
    quiet.told quiet.toldInTime quiet.dismissed quiet.complete
  attributed := move.attributed orderly quiet.alarmsMatch quiet.attributed

/-- All that is known of browses holds at every moment of every run. -/
theorem Reached.quiet (positive : 0 < quietPeriod) (reached : Reached quietPeriod m) :
    Quiet quietPeriod m :=
  reached.preserves Quiet.new fun orderly move => move.quiet positive orderly

/-! ## What is promised of a browse -/

/-- What is promised of a browse that has been started at a time. -/
structure TellsInTime (quietPeriod : ℚ) (number : Nat) (start : ℚ) (m : Moment) : Prop where
  /-- It tells once at most that it has seen everything. -/
  once : (m.history.filter (·.entry.tells? = some (number, .allForNow))).length ≤ 1
  /-- It does so no earlier than a quiet period after it was started and after each new instance it
  told of before, and just when a quiet period is over that began with one of these. -/
  notEarly : ∀ {later earlier : History} {line : Line}, m.history = later ++ line :: earlier →
    line.entry.tells? = some (number, .allForNow) →
      start + quietPeriod ≤ line.time ∧
      (∀ before ∈ earlier, before.entry.tells? = some (number, .new) →
        before.time + quietPeriod ≤ line.time) ∧
      ∃ before ∈ earlier, before.entry.Rouses number ∧ line.time = before.time + quietPeriod
  /-- It has done so once a quiet period has passed in which it was open and told of no new
  instance. -/
  notLate : ∀ time, start ≤ time → time + quietPeriod < m.now →
    StaysOpen number (time + quietPeriod) m.history →
      TellsNoNew number time (time + quietPeriod) m.history →
        ∃ line ∈ m.history, line.entry.tells? = some (number, .allForNow) ∧
          line.time ≤ time + quietPeriod
  /-- Changes other than new instances leave everything as it is, its quiet period included. -/
  indifferent : ∀ {fullName : String} {change : Change} {answers : Answers} {m' : Moment},
    m.act quietPeriod (.begin (.notify number fullName change) answers) = some m' →
      change ≠ .added → ∃ recent, m' = { m with history := recent ++ m.history } ∧
        ∀ line ∈ recent, ∀ k, line.entry.tells? ≠ some (k, .allForNow)
  /-- After it has been stopped, or the session has been closed, it tells nothing, in that session
  or a later one. -/
  silent : ∀ {later earlier : History} {line : Line}, m.history = later ++ line :: earlier →
    GivenIn (Browse.handle number) earlier → line.entry.Closes (Browse.handle number) →
      ∀ report ∈ later, ∀ kind, report.entry.tells? ≠ some (number, kind)

/-- A browse that keeps time tells once at most that it has seen everything. -/
theorem ToldInTime.once {h : History} (timed : ToldInTime quietPeriod h) (number : Nat) :
    (h.filter (·.entry.tells? = some (number, .allForNow))).length ≤ 1 := by
  induction h with
  | nil => simp
  | cons line h ih =>
      by_cases tells : line.entry.tells? = some (number, .allForNow)
      · have none : h.filter (·.entry.tells? = some (number, .allForNow)) = [] := by
          simpa [List.filter_eq_nil_iff] using (timed.1 number tells).1
        rw [List.filter_cons_of_pos (by simpa using tells), none]
        rfl
      · rw [List.filter_cons_of_neg (by simpa using tells)]
        exact ih timed.2.2

/-- Browses that have kept time had kept it at every earlier moment. -/
theorem ToldInTime.of_append {later h : History} (timed : ToldInTime quietPeriod (later ++ h)) :
    ToldInTime quietPeriod h := by
  induction later with
  | nil => exact timed
  | cons line later ih => exact ih timed.2.2

/-- A browse is started before it tells that it has seen everything. -/
theorem ToldInTime.started_before {later earlier : History} {line start : Line}
    (timed : ToldInTime quietPeriod (later ++ line :: earlier)) (starts : start.entry.Starts number)
    (hmem : start ∈ later ++ line :: earlier)
    (tells : line.entry.tells? = some (number, .allForNow)) : start ∈ earlier := by
  induction later with
  | nil =>
      obtain rfl | before := List.mem_cons.1 hmem
      · cases tells.symm.trans (Entry.tells?_of_starts starts)
      · exact before
  | cons first later ih =>
      obtain rfl | hmem := List.mem_cons.1 hmem
      · have untold := (timed.2.1 number starts).2 line (by simp)
        exact (untold tells).elim
      · exact ih timed.2.2 hmem

/-- What a watcher sees other than new instances changes nothing but the history. -/
theorem Moment.told_of_ne_added {fullName : String} {change : Change} (other : change ≠ .added) :
    ∃ recent, m.told quietPeriod number fullName change =
      { m with history := recent ++ m.history } ∧ ∀ line ∈ recent, line.entry.IsIdle := by
  unfold told
  split
  · exact (other rfl).elim
  · refine ⟨[_], rfl, ?_⟩
    simp only [List.mem_singleton, forall_eq]
    refine ⟨fun activity event same => ?_, fun service handle same => by cases same⟩
    cases same
    exact ⟨rfl, number, rfl⟩
  · exact ⟨[], rfl, List.forall_mem_nil _⟩

/-- A watcher that reports anything but a new instance leaves everything but the history. -/
theorem Orderly.indifferent (orderly : Orderly m) {fullName : String} {change : Change}
    {answers : Answers}
    (acted : m.act quietPeriod (.begin (.notify number fullName change) answers) = some m')
    (other : change ≠ .added) : ∃ recent, m' = { m with history := recent ++ m.history } ∧
      ∀ line ∈ recent, line.entry.IsIdle := by
  let activity := Activity.notify number fullName change
  have permitted : m.permits answers activity = true := rfl
  rw [Moment.act, if_pos permitted] at acted
  obtain rfl := Option.some.inj acted
  change ∃ recent, (m.record (.begun activity)).run _ _ _ _ _ = _ ∧ _
  rw [Moment.run_notify (orderly.record _)]
  obtain ⟨recent, told, idle⟩ : ∃ recent,
      (m.record (.begun activity)).told quietPeriod number fullName change = _ ∧ _ :=
    Moment.told_of_ne_added other
  rw [told]
  refine ⟨⟨m.now, .ended activity (.ok none)⟩ :: (recent ++ [⟨m.now, .begun activity⟩]), ?_,
    fun line hmem => ?_⟩
  · rw [List.cons_append, List.append_assoc]
    rfl
  · have plain {entry : Entry} (silent : entry.isReport = false) (ungiven : entry.given? = none)
        (same : line = ⟨m.now, entry⟩) : line.entry.IsIdle :=
      same ▸ Entry.isIdle_of_not_isReport silent ungiven
    obtain ended | hmem := List.mem_cons.1 hmem
    · exact plain rfl rfl ended
    · obtain hmem | begun := List.mem_append.1 hmem
      · exact idle line hmem
      · exact plain rfl rfl (List.mem_singleton.1 begun)

/-- Every browse tells in time that it has seen everything. -/
theorem all_for_now_is_told_in_time (positive : 0 < quietPeriod) (reached : Reached quietPeriod m)
    {line : Line} {service : Service} {handle : Ticket} (given : line ∈ m.history)
    (gives : line.entry = .ended (.startBrowse service) (.ok (some handle))) :
    ∃ number, handle = Browse.handle number ∧ TellsInTime quietPeriod number line.time m := by
  have quiet := reached.quiet positive
  obtain ⟨number, rfl⟩ := quiet.attributed.starts line given service handle gives
  have starts : line.entry.Starts number := ⟨service, gives⟩
  refine ⟨number, rfl, quiet.toldInTime.once number, ?notEarly, ?notLate, ?indifferent, ?silent⟩
  case notEarly =>
    intro later earlier told history tells
    have timed : ToldInTime quietPeriod (later ++ told :: earlier) := history ▸ quiet.toldInTime
    have before := timed.started_before starts (history ▸ given) tells
    obtain ⟨-, after, since⟩ := timed.of_append.1 number tells
    exact ⟨after line before (.inl starts), fun new seen news => after new seen (.inr news), since⟩
  case notLate =>
    intro time later
    exact quiet.complete number time ⟨line, given, starts, later⟩
  case indifferent =>
    intro fullName change answers m' acted other
    obtain ⟨recent, same, idle⟩ := reached.orderly.indifferent acted other
    exact ⟨recent, same, fun line hmem k => (idle line hmem).tells?_ne (by decide)⟩
  case silent =>
    intro later earlier line history given closes report hmem kind tells
    exact reached.silent history closes given report hmem (Entry.handle?_of_tells? tells)

/-- A browse is started whose watcher sees an instance come and go, and the quiet period passes. -/
def seeingOne : List Moment.Deed :=
  [.begin .openSession {}, .begin (.startBrowse .uscan) {}, .pass 1,
    .begin (.notify 0 "Office._uscan._tcp.local." .added) {}, .pass 2,
    .begin (.notify 0 "Office._uscan._tcp.local." .removed) {}, .pass 3,
    .begin (.quiet 0) {}, .pass 4, .begin (.stopBrowse 0) {}, .reply 0 (.ok ())]

/-- That browse tells in time that it has seen everything. -/
theorem seeingOne_told_in_time :
    0 < (2 : ℚ) ∧ ∃ m line, seeingOne.foldlM (Moment.act 2) (.new .all 3) = some m ∧
      (m.history.filter (·.entry.tells? = some (0, .allForNow))).map (·.time) = [3] ∧
      line ∈ m.history ∧
      line.entry = .ended (.startBrowse .uscan) (.ok (some (Browse.handle 0))) ∧
      ∃ number, Browse.handle 0 = Browse.handle number ∧ TellsInTime 2 number line.time m := by
  obtain ⟨m, acted, told, given⟩ : ∃ m, seeingOne.foldlM (Moment.act 2) (.new .all 3) = some m ∧
      (m.history.filter (·.entry.tells? = some (0, .allForNow))).map (·.time) = [3] ∧
      m.history[12]? = some ⟨0, .ended (.startBrowse .uscan) (.ok (some (Browse.handle 0)))⟩ :=
    by with_unfolding_all exact ⟨_, rfl, rfl, rfl⟩
  have reached : Reached 2 m := (Reached.new .all 3).acts acted
  have hmem := List.mem_of_getElem? given
  exact ⟨two_pos, m, _, acted, told, hmem, rfl,
    all_for_now_is_told_in_time two_pos reached hmem rfl⟩

end ScannerDiscovery.Mdns
