import ScannerDiscovery.Proofs.Mdns.Silence

/-!
# The quiet timers of browses

Each alarm is that of an open browse that has not reported that it has seen everything, and no
browse has two.  So dropping a browse, starting its quiet period afresh and ringing its timer each
take away exactly the alarm of that browse, and leave those of the others alone.

Main definitions:

- `Entry.tells?` : what a report tells of which browse.
- `Entry.Rouses` : the entries with which a quiet period starts afresh.
- `AlarmsMatch` : the alarms are those of the browses that are quiet.
- `Moment.Tends` : what a move does to browses and to their alarms.

Main results:

- `Move.tends` : every move does one of six things.
- `Move.alarmsMatch` : moves leave the alarms those of the browses.
-/

namespace ScannerDiscovery.Mdns

open Simulation (Schedule Alarm)

variable {quietPeriod : ℚ} {m m' : Moment} {number : Nat}

/-! ## Entries about browses -/

namespace Entry

variable {entry : Entry}

/-- The browse that a report tells something of, and what it tells. -/
def tells? : Entry → Option (Nat × BrowseKind)
  | reported (.notify browse ..) (.browse event) => some (browse, event.kind)
  | reported (.quiet browse) (.browse event) => some (browse, event.kind)
  | _ => none

/-- Whether an entry gives the handle of a browse. -/
def Starts (number : Nat) (entry : Entry) : Prop :=
  ∃ service, entry = .ended (.startBrowse service) (.ok (some (Browse.handle number)))

/-- Whether the quiet period of a browse starts afresh: it is started, or tells of a new
instance. -/
def Rouses (number : Nat) (entry : Entry) : Prop :=
  entry.Starts number ∨ entry.tells? = some (number, .new)

/-- Whether an entry starts no browse, and tells of a browse at most that an instance has gone. -/
structure IsIdle (entry : Entry) : Prop where
  gone : ∀ activity event, entry = .reported activity (.browse event) →
    event.kind = .remove ∧ ∃ number, entry.tells? = some (number, .remove)
  unstarted : ∀ service handle, entry ≠ .ended (.startBrowse service) (.ok (some handle))

/-- A report that tells something of a browse is of its handle. -/
theorem handle?_of_tells? {kind : BrowseKind} (tells : entry.tells? = some (number, kind)) :
    entry.handle? = some (Browse.handle number) := by
  unfold tells? at tells
  split at tells <;> cases tells <;> rfl

/-- What tells something of a browse is a report of that kind. -/
theorem reported_of_tells? {kind : BrowseKind} (tells : entry.tells? = some (number, kind)) :
    ∃ activity event, entry = .reported activity (.browse event) ∧ event.kind = kind := by
  unfold tells? at tells
  split at tells <;> cases tells <;> exact ⟨_, _, rfl, rfl⟩

/-- What starts a browse gives its handle. -/
theorem given?_of_starts (starts : entry.Starts number) :
    entry.given? = some (Browse.handle number) := by
  obtain ⟨service, rfl⟩ := starts
  rfl

/-- What starts a browse is no report. -/
theorem tells?_of_starts (starts : entry.Starts number) : entry.tells? = none := by
  obtain ⟨service, rfl⟩ := starts
  rfl

/-- An entry that is no report and gives no handle is idle. -/
theorem isIdle_of_not_isReport (silent : entry.isReport = false) (ungiven : entry.given? = none) :
    entry.IsIdle where
  gone := by
    rintro activity event rfl
    cases silent
  unstarted := by
    rintro service handle rfl
    cases ungiven

namespace IsIdle

/-- An idle entry tells at most that an instance has gone. -/
theorem tells?_ne {kind : BrowseKind} (idle : entry.IsIdle) (other : kind ≠ .remove) :
    entry.tells? ≠ some (number, kind) := by
  intro tells
  obtain ⟨activity, event, rfl, rfl⟩ := reported_of_tells? tells
  exact other (idle.gone activity event rfl).1

/-- An idle entry starts no browse. -/
theorem not_starts (idle : entry.IsIdle) : ¬entry.Starts number := by
  rintro ⟨service, same⟩
  exact idle.unstarted _ _ same

/-- An idle entry starts no quiet period. -/
theorem not_rouses (idle : entry.IsIdle) : ¬entry.Rouses number := by
  rintro (starts | tells)
  · exact idle.not_starts starts
  · exact idle.tells?_ne (by decide) tells

end IsIdle

end Entry

/-! ## Alarms -/

/-- Whether the alarms are those of browses that are open, armed and have not reported, one of each
browse, and every such browse has one.  A browse is armed when it has got its watcher. -/
structure AlarmsMatch (m : Moment) : Prop where
  single : (m.schedule.alarms.map (·.about)).Nodup
  pending : ∀ alarm ∈ m.schedule.alarms, ∃ browse, m.client.browse? alarm.about = some browse ∧
    browse.isArmed = true ∧ browse.hasReported = false
  timed : ∀ number browse, m.client.browse? number = some browse →
    browse.isArmed = true ∨ browse.isWatched = true →
      browse.hasReported = true ∨ ∃ alarm ∈ m.schedule.alarms, alarm.about = number

/-- A new client has no alarms. -/
theorem AlarmsMatch.new (ipVersion : IpVersion) (resolveTimeout : Binary64) :
    AlarmsMatch (.new ipVersion resolveTimeout) where
  single := List.nodup_nil
  pending := fun _ hmem => by cases hmem
  timed := fun _ _ found => by cases found

/-- There is no alarm of a browse that is not open, is not armed or has reported. -/
theorem AlarmsMatch.unarmed (alarmsMatch : AlarmsMatch m)
    (idle : ∀ browse, m.client.browse? number = some browse →
      browse.isArmed = false ∨ browse.hasReported = true) :
    ∀ alarm ∈ m.schedule.alarms, alarm.about ≠ number := by
  rintro alarm hmem rfl
  obtain ⟨browse, found, armed, unreported⟩ := alarmsMatch.pending alarm hmem
  obtain unarmed | reported := idle browse found
  · cases armed.symm.trans unarmed
  · cases unreported.symm.trans reported

namespace Moment

/-- To disarm a browse takes its alarms away, and leaves all others. -/
theorem mem_disarmed {alarm : Alarm ℚ Nat} :
    alarm ∈ (m.disarmed number).schedule.alarms ↔
      alarm ∈ m.schedule.alarms ∧ alarm.about ≠ number := by
  simp [disarmed, Schedule.disarm]

/-- To disarm a browse that has no alarm changes nothing. -/
theorem disarmed_of_unarmed (unarmed : ∀ alarm ∈ m.schedule.alarms, alarm.about ≠ number) :
    (m.disarmed number).schedule = m.schedule := by
  have kept : m.schedule.alarms.filter (fun alarm => !(alarm.about == number)) =
      m.schedule.alarms :=
    List.filter_eq_self.2 fun alarm hmem => by simpa using unarmed alarm hmem
  rw [disarmed, Schedule.disarm, kept]

/-- An alarm that is armed is due after its delay, and leaves all others. -/
theorem mem_arm {s : Schedule ℚ Nat} {delay : ℚ} {alarm : Alarm ℚ Nat} :
    alarm ∈ (s.arm delay number).alarms ↔ alarm ∈ s.alarms ∨ alarm = ⟨s.now + delay, number⟩ := by
  simp [Schedule.arm_of_due? (Schedule.due?_of_le le_rfl)]

/-- The alarm of a browse that is due is the only one of that browse. -/
theorem eraseP_due {alarms : List (Alarm ℚ Nat)} {now : ℚ}
    (single : (alarms.map (·.about)).Nodup)
    (due : ∃ alarm ∈ alarms, alarm.about = number ∧ alarm.due ≤ now) :
    alarms.eraseP (fun alarm => alarm.about == number && alarm.due ≤ now) =
      alarms.filter fun alarm => !(alarm.about == number) := by
  induction alarms with
  | nil => simp at due
  | cons first rest ih =>
      obtain ⟨unlisted, single⟩ := List.nodup_cons.1 single
      obtain ⟨alarm, hmem, same, due⟩ := due
      by_cases head : first.about = number
      · have others : ∀ other ∈ rest, other.about ≠ number := by
          intro other remains same
          exact unlisted (List.mem_map.2 ⟨other, remains, same.trans head.symm⟩)
        obtain rfl | remains := List.mem_cons.1 hmem
        · -- no other alarm is of this browse, so nothing else is filtered out
          have kept : rest.filter (fun alarm => !(alarm.about == number)) = rest :=
            List.filter_eq_self.2 fun other remains => by simpa using others other remains
          rw [List.eraseP_cons_of_pos (by simp [head, due]),
            List.filter_cons_of_neg (by simp [head]), kept]
        · exact (others alarm remains same).elim
      · obtain rfl | remains := List.mem_cons.1 hmem
        · exact (head same).elim
        · rw [List.eraseP_cons_of_neg (by simp [head]), List.filter_cons_of_pos (by simp [head]),
            ih single ⟨alarm, remains, same, due⟩]

/-- When its timer rings, a browse loses its alarm. -/
theorem schedule_entered_quiet (alarmsMatch : AlarmsMatch m)
    (due : ∃ alarm ∈ m.schedule.alarms, alarm.about = number ∧ alarm.due ≤ m.now) :
    (m.entered (.quiet number)).schedule = (m.disarmed number).schedule := by
  simp only [entered, disarmed, Schedule.disarm, eraseP_due alarmsMatch.single due]

/-- A browse without an alarm loses none. -/
theorem schedule_entered_quiet_of_unarmed
    (unarmed : ∀ alarm ∈ m.schedule.alarms, alarm.about ≠ number) :
    (m.entered (.quiet number)).schedule = m.schedule := by
  have kept : m.schedule.alarms.eraseP (fun alarm =>
      alarm.about == number && alarm.due ≤ m.now) = m.schedule.alarms :=
    List.eraseP_of_forall_not fun alarm hmem => by simp [unarmed alarm hmem]
  simp only [entered, kept]

/-- A browse that is dropped loses its alarm. -/
theorem schedule_dropped (alarmsMatch : AlarmsMatch m) {browse : Browse}
    (found : m.client.browse? number = some browse) :
    (m.dropped browse).schedule = (m.disarmed number).schedule := by
  obtain rfl := Client.number_of_browse? found
  unfold dropped
  cases armed : browse.isArmed with
  | true => rfl
  | false =>
      refine (disarmed_of_unarmed (alarmsMatch.unarmed fun other found' => ?_)).symm
      obtain rfl := Option.some.inj (found.symm.trans found')
      exact .inl armed

/-- The quiet period of a browse that has reported does not start again. -/
theorem refreshed_of_reported {browse : Browse} (found : m.client.browse? number = some browse)
    (reported : browse.hasReported = true) : m.refreshed quietPeriod number = m := by
  simp [refreshed, found, reported]

/-- A browse whose quiet period starts afresh has a new alarm. -/
theorem schedule_refreshed {browse : Browse} (found : m.client.browse? number = some browse)
    (unreported : browse.hasReported = false)
    (unarmed : browse.isArmed = false → ∀ alarm ∈ m.schedule.alarms, alarm.about ≠ number) :
    (m.refreshed quietPeriod number).schedule =
      (m.disarmed number).schedule.arm quietPeriod number := by
  obtain rfl := Client.number_of_browse? found
  simp only [refreshed, found, unreported, Bool.false_eq_true, if_false, rearmed]
  cases armed : browse.isArmed with
  | true => rfl
  | false => rw [disarmed_of_unarmed (unarmed armed)]; rfl

/-- A browse whose quiet period starts afresh is armed. -/
theorem browse?_refreshed {browse : Browse} (found : m.client.browse? number = some browse)
    (unreported : browse.hasReported = false) (k : Nat) :
    (m.refreshed quietPeriod number).client.browse? k =
      if k = number then some browse.armed else m.client.browse? k := by
  obtain rfl := Client.number_of_browse? found
  simp only [refreshed, found, unreported, Bool.false_eq_true, if_false, rearmed_client]
  rw [Client.browse?_changing Browse.number_armed]
  by_cases same : k = browse.number
  · simp [same, found]
  · simp [same]

end Moment

/-! ## What moves do to browses -/

/-- What a move does to browses and their alarms: nothing; time passes; or one browse is opened,
dropped, has its quiet period started afresh, or tells that it has seen everything. -/
inductive Moment.Tends (quietPeriod : ℚ) (m m' : Moment) : Prop
  | aside (recent : History) (history : m'.history = recent ++ m.history)
      (idle : ∀ line ∈ recent, line.entry.IsIdle ∧ line.time = m.now)
      (browses : ∀ k, m'.client.browse? k = m.client.browse? k)
      (next : m'.client.nextBrowse = m.client.nextBrowse) (schedule : m'.schedule = m.schedule)
  | passes (time : ℚ) (later : m.now ≤ time)
      (punctual : ∀ alarm ∈ m.schedule.alarms, time ≤ alarm.due)
      (same : m' = { m with schedule := { m.schedule with now := time } })
  | attaches (browse : Browse) (unarmed : browse.isArmed = false)
      (unwatched : browse.isWatched = false) (unreported : browse.hasReported = false)
      (history : m'.history = m.history)
      (browses : ∀ k, m'.client.browse? k =
        if k = m.client.nextBrowse then some browse else m.client.browse? k)
      (next : m'.client.nextBrowse = m.client.nextBrowse + 1) (schedule : m'.schedule = m.schedule)
  | drops (number : Nat) (browse : Browse) (found : m.client.browse? number = some browse)
      (recent : History) (history : m'.history = recent ++ m.history)
      (idle : ∀ line ∈ recent, line.entry.IsIdle ∧ line.time = m.now)
      (closed : browse.isWatched = true →
        ∃ line ∈ recent, line.entry.Closes (Browse.handle number))
      (browses : ∀ k, m'.client.browse? k = if k = number then none else m.client.browse? k)
      (next : m'.client.nextBrowse = m.client.nextBrowse ∨
        m.client.nextBrowse = number + 1 ∧ browse.hasReported = false ∧
          m'.client.nextBrowse = number)
      (schedule : m'.schedule = (m.disarmed number).schedule)
  | rouses (number : Nat) (browse after : Browse)
      (found : m.client.browse? number = some browse) (entry : Entry)
      (rouses : entry.Rouses number)
      (fresh : entry.Starts number → browse.isWatched = false ∧ browse.hasReported = false)
      (history : m'.history = ⟨m.now, entry⟩ :: m.history)
      (browses : ∀ k, m'.client.browse? k = if k = number then some after else m.client.browse? k)
      (next : m'.client.nextBrowse = m.client.nextBrowse)
      (roused : browse.hasReported = false → after.hasReported = false ∧ after.isArmed = true ∧
        m'.schedule = (m.disarmed number).schedule.arm quietPeriod number)
      (reported : browse.hasReported = true → after.hasReported = true ∧ m'.schedule = m.schedule)
  | rings (number : Nat) (browse : Browse) (found : m.client.browse? number = some browse)
      (due : ∃ alarm ∈ m.schedule.alarms, alarm.about = number ∧ alarm.due ≤ m.now) (entry : Entry)
      (tells : entry.tells? = some (number, .allForNow))
      (history : m'.history = ⟨m.now, entry⟩ :: m.history)
      (browses : ∀ k, m'.client.browse? k =
        if k = number then some browse.reported else m.client.browse? k)
      (next : m'.client.nextBrowse = m.client.nextBrowse)
      (schedule : m'.schedule = (m.disarmed number).schedule)

/-- A move that makes one entry, which starts no quiet period afresh. -/
theorem Moment.Tends.single {entry : Entry} (history : m'.history = ⟨m.now, entry⟩ :: m.history)
    (idle : entry.IsIdle) (browses : ∀ k, m'.client.browse? k = m.client.browse? k)
    (next : m'.client.nextBrowse = m.client.nextBrowse) (schedule : m'.schedule = m.schedule) :
    m.Tends quietPeriod m' :=
  .aside [⟨m.now, entry⟩] history (by simpa using idle) browses next schedule

/-- Either time passes, or entries are made at the time. -/
theorem Moment.Tends.passes_or_adds (tends : m.Tends quietPeriod m') :
    (∃ time, m.now ≤ time ∧ (∀ alarm ∈ m.schedule.alarms, time ≤ alarm.due) ∧
      m' = { m with schedule := { m.schedule with now := time } }) ∨
      ∃ recent, m'.history = recent ++ m.history ∧ (∀ line ∈ recent, line.time = m.now) ∧
        m'.now = m.now := by
  cases tends with
  | aside recent history idle browses next schedule =>
      exact .inr ⟨recent, history, fun line hmem => (idle line hmem).2,
        congrArg Schedule.now schedule⟩
  | passes time later punctual same => exact .inl ⟨time, later, punctual, same⟩
  | attaches browse unarmed unwatched unreported history browses next schedule =>
      exact .inr ⟨[], history, by simp, congrArg Schedule.now schedule⟩
  | drops number browse found recent history idle closed browses next schedule =>
      refine .inr ⟨recent, history, fun line hmem => (idle line hmem).2, ?_⟩
      rw [now, schedule]
      rfl
  | rouses number browse after found entry rouses fresh history browses next roused reported =>
      refine .inr ⟨[⟨m.now, entry⟩], history, by simp, ?_⟩
      cases already : browse.hasReported with
      | true => exact congrArg Schedule.now (reported already).2
      | false => exact (congrArg Schedule.now (roused already).2.2).trans (Schedule.now_arm ..)
  | rings number browse found due entry tells history browses next schedule =>
      refine .inr ⟨[⟨m.now, entry⟩], history, by simp, ?_⟩
      rw [now, schedule]
      rfl

/-- Every move does one of these things to browses. -/
theorem Move.tends (orderly : Orderly m) (alarmsMatch : AlarmsMatch m)
    (move : Move quietPeriod m m') :
    m.Tends quietPeriod m' := by
  cases move with
  | note unheard ungiven =>
      exact .single rfl (Entry.isIdle_of_not_isReport unheard ungiven) (fun _ => rfl) rfl rfl
  | await | openUp | look | lose => exact .aside [] rfl (by simp) (fun _ => rfl) rfl rfl
  | @pass time later punctual => exact .passes time later punctual rfl
  | shut stopped =>
      have idle : (Entry.waits .closeSession .closeClient).IsIdle :=
        Entry.isIdle_of_not_isReport rfl rfl
      exact .single (Moment.history_record_allCancelled _ _) idle Moment.browse?_allCancelled
        Moment.nextBrowse_allCancelled Moment.schedule_allCancelled
  | attach opened calm service =>
      refine .attaches { number := m.client.nextBrowse, service } rfl rfl rfl rfl (fun k => ?_) rfl
        rfl
      refine (Client.browse?_attached service k).trans ?_
      by_cases fresh : k = m.client.nextBrowse
      · have absent : m.client.browse? k = none := by
          by_contra held
          have := orderly.browses k (Option.isSome_iff_ne_none.2 held)
          omega
        rw [absent, Option.none_or, if_pos fresh.symm, if_pos fresh]
      · simp [fresh, Ne.symm fresh]
  | @withdraw number browse found last unwatched unreported =>
      exact .drops number browse found [] (Moment.dropped_history browse) (by simp)
        (by simp [unwatched]) (Moment.browse?_dropped found) (.inr ⟨last, unreported, rfl⟩)
        (Moment.schedule_dropped alarmsMatch found)
  | @watch number browse found last unwatched unreported service =>
      have found' : (m.withClient (·.changing number Browse.watched)).client.browse? number =
          some browse.watched := by
        refine (Client.browse?_changing Browse.number_watched number).trans ?_
        simp [found]
      have starts : (Entry.ended (.startBrowse service)
          (.ok (some (Browse.handle number)))).Starts number :=
        ⟨service, rfl⟩
      refine .rouses number browse browse.watched.armed found _ (.inl starts)
        (fun _ => ⟨unwatched, unreported⟩) (Moment.history_record_refreshed _ _) (fun k => ?_)
        (Moment.shrinks_refreshed number).nextBrowse (fun _ => ⟨unreported, rfl, ?_⟩)
        fun reported => by cases unreported.symm.trans reported
      · refine (Moment.browse?_refreshed found' unreported k).trans ?_
        by_cases same : k = number
        · simp [same]
        · rw [if_neg same, if_neg same]
          refine (Client.browse?_changing Browse.number_watched k).trans ?_
          simp [same]
      · refine Moment.schedule_refreshed found' unreported fun unarmed => ?_
        refine alarmsMatch.unarmed fun other found'' => ?_
        obtain rfl := Option.some.inj (found.symm.trans found'')
        exact .inl unarmed
  | @tellNew number browse found fullName event kind =>
      have tells : (Entry.reported (.notify number fullName .added) (.browse event)).tells? =
          some (number, .new) :=
        congrArg (fun kind => some (number, kind)) kind
      have unstarted : ¬(Entry.reported (.notify number fullName .added)
          (.browse event)).Starts number := by
        rintro ⟨service, other⟩
        cases other
      cases reported : browse.hasReported with
      | true =>
          rw [Moment.refreshed_of_reported (m := m.record _) found reported]
          refine .rouses number browse browse found _ (.inr tells) (fun starts => ?_) rfl
            (fun k => ?_) rfl (fun unreported => by cases reported.symm.trans unreported)
            fun _ => ⟨reported, rfl⟩
          · exact (unstarted starts).elim
          · by_cases same : k = number
            · rw [if_pos same, same]
              exact found
            · rw [if_neg same]
              rfl
      | false =>
          refine .rouses number browse browse.armed found _ (.inr tells) (fun starts => ?_)
            (Moment.refreshed_history number) (Moment.browse?_refreshed found reported)
            (Moment.shrinks_refreshed number).nextBrowse (fun _ => ⟨reported, rfl, ?_⟩)
            fun reported' => by cases reported.symm.trans reported'
          · exact (unstarted starts).elim
          · refine Moment.schedule_refreshed (m := m.record _) found reported fun unarmed => ?_
            refine alarmsMatch.unarmed fun other found' => ?_
            obtain rfl := Option.some.inj (found.symm.trans found')
            exact .inl unarmed
  | @tellGone number browse found fullName event kind =>
      refine .single rfl ⟨fun activity event' same => ?_, fun service handle same => by cases same⟩
        (fun _ => rfl) rfl rfl
      cases same
      exact ⟨kind, number, congrArg (fun kind => some (number, kind)) kind⟩
  | @ring number absent =>
      refine .aside [] rfl (by simp) (fun _ => rfl) rfl ?_
      refine Moment.schedule_entered_quiet_of_unarmed (alarmsMatch.unarmed fun browse found => ?_)
      cases absent.symm.trans found
  | @tellAll number browse found due event kind =>
      refine .rings number browse found due (.reported (.quiet number) (.browse event))
        (congrArg (fun kind => some (number, kind)) kind) rfl (fun k => ?_) rfl
        (Moment.schedule_entered_quiet alarmsMatch due)
      refine (Client.browse?_changing Browse.number_reported k).trans ?_
      by_cases same : k = number
      · subst same
        change (m.client.browse? k).map _ = _
        simp [found]
      · change (m.client.browse? k).map _ = _
        simp [same]
  | @stop number browse found recent unheard ungiven closes closed =>
      rw [Moment.foldr_record]
      refine .drops number browse found (recent.map (Line.mk (m.dropped browse).now ·)) ?_ ?_ ?_
        (Moment.browse?_dropped found) (.inl ?_) (Moment.schedule_dropped alarmsMatch found)
      · change _ ++ (m.dropped browse).history = _
        rw [Moment.dropped_history]
      · intro line hmem
        obtain ⟨entry, listed, rfl⟩ := List.mem_map.1 hmem
        exact ⟨Entry.isIdle_of_not_isReport (unheard entry listed) (ungiven entry listed),
          Moment.dropped_now browse⟩
      · intro watched
        obtain ⟨activity, listed⟩ := closed watched
        exact ⟨_, List.mem_map.2 ⟨_, listed, rfl⟩, rfl⟩
      · change (m.dropped browse).client.nextBrowse = _
        rw [Moment.dropped_client]
        rfl
  | resolve | conclude =>
      exact .single rfl
        ⟨fun _ _ same => (by cases same), fun _ _ same => by cases same⟩
        (fun _ => rfl) rfl rfl
  | @cancel op =>
      have apart := Moment.apart_cancelled (m := m.record (.begun (.cancelResolve op))) op
      exact .single (Moment.cancelled_history op) (Entry.isIdle_of_not_isReport rfl rfl)
        (fun k => congrArg (fun view => view.1.browse? k) apart)
        (congrArg (fun view => view.1.nextBrowse) apart) (congrArg (fun view => view.2.1) apart)

/-! ## Alarms and browses stay alarmsMatch -/

/-- A change of one browse, whose alarm is replaced by at most one, leaves the alarms those of the
browses. -/
theorem AlarmsMatch.changed (alarmsMatch : AlarmsMatch m) (number : Nat) (due? : Option ℚ)
    (others : ∀ k ≠ number, m'.client.browse? k = m.client.browse? k)
    (alarms : m'.schedule.alarms =
      (m.disarmed number).schedule.alarms ++ (due?.map (Alarm.mk · number)).toList)
    (pending : due?.isSome → ∃ after, m'.client.browse? number = some after ∧
      after.isArmed = true ∧ after.hasReported = false)
    (timed : ∀ after, m'.client.browse? number = some after →
      after.isArmed = true ∨ after.isWatched = true → after.hasReported = true ∨ due?.isSome) :
    AlarmsMatch m' where
  single := by
    have kept : ((m.disarmed number).schedule.alarms.map (·.about)).Nodup :=
      alarmsMatch.single.sublist (List.filter_sublist.map _)
    rw [alarms, List.map_append, List.nodup_append]
    refine ⟨kept, ?_, ?_⟩
    · cases due? <;> simp
    · intro k before k' after same
      obtain ⟨alarm, hmem, rfl⟩ := List.mem_map.1 before
      refine (Moment.mem_disarmed.1 hmem).2 (same.trans ?_)
      cases due? <;> simp_all
  pending := by
    intro alarm hmem
    rw [alarms, List.mem_append] at hmem
    obtain before | own := hmem
    · obtain ⟨hmem, other⟩ := Moment.mem_disarmed.1 before
      rw [others _ other]
      exact alarmsMatch.pending alarm hmem
    · cases due? with
      | none => cases own
      | some due =>
          obtain rfl := List.mem_singleton.1 own
          exact pending rfl
  timed := by
    intro k browse found armed
    rw [alarms]
    by_cases same : k = number
    · subst same
      obtain reported | own := timed browse found armed
      · exact .inl reported
      · obtain ⟨due, rfl⟩ := Option.isSome_iff_exists.1 own
        exact .inr ⟨⟨due, k⟩, by simp, rfl⟩
    · obtain reported | ⟨alarm, hmem, about⟩ :=
        alarmsMatch.timed k browse ((others k same).symm.trans found) armed
      · exact .inl reported
      · have kept := Moment.mem_disarmed.2 ⟨hmem, about.trans_ne same⟩
        exact .inr ⟨alarm, List.mem_append_left _ kept, about⟩

/-- Moves leave the alarms those of the browses. -/
theorem Move.alarmsMatch (orderly : Orderly m) (move : Move quietPeriod m m')
    (alarmsMatch : AlarmsMatch m) :
    AlarmsMatch m' := by
  cases move.tends orderly alarmsMatch with
  | aside recent history idle browses next schedule =>
      refine ⟨schedule ▸ alarmsMatch.single, fun alarm hmem => ?_, fun k browse found => ?_⟩
      · rw [browses]
        exact alarmsMatch.pending alarm (schedule ▸ hmem)
      · rw [schedule]
        exact alarmsMatch.timed k browse ((browses k).symm.trans found)
  | passes time later punctual same =>
      subst same
      exact ⟨alarmsMatch.single, alarmsMatch.pending, alarmsMatch.timed⟩
  | attaches browse unarmed unwatched unreported history browses next schedule =>
      have fresh : ∀ alarm ∈ m.schedule.alarms, alarm.about ≠ m.client.nextBrowse := by
        refine alarmsMatch.unarmed fun other found => ?_
        cases Nat.lt_irrefl _ (orderly.browses _ (Option.isSome_of_eq_some found))
      refine alarmsMatch.changed m.client.nextBrowse none
        (fun k other => by rw [browses, if_neg other]) ?_ (by simp) fun after found armed => ?_
      · rw [schedule, Moment.disarmed_of_unarmed fresh]
        simp
      · rw [browses, if_pos rfl] at found
        obtain rfl := Option.some.inj found
        simp [unarmed, unwatched] at armed
  | drops number browse found recent history idle closed browses next schedule =>
      refine alarmsMatch.changed number none
        (fun k other => by rw [browses, if_neg other]) (by simp [schedule]) (by simp)
        fun after found => ?_
      rw [browses, if_pos rfl] at found
      cases found
  | rouses number browse after found entry rouses fresh history browses next roused reported =>
      have after_unique {other : Browse} (found : m'.client.browse? number = some other) :
          after = other := by
        rw [browses, if_pos rfl] at found
        exact Option.some.inj found
      cases already : browse.hasReported with
      | true =>
          obtain ⟨reported, schedule⟩ := reported already
          have unarmed : ∀ alarm ∈ m.schedule.alarms, alarm.about ≠ number := by
            refine alarmsMatch.unarmed fun other found' => ?_
            obtain rfl := Option.some.inj (found.symm.trans found')
            exact .inr already
          refine alarmsMatch.changed number none
            (fun k other => by rw [browses, if_neg other]) ?_ (by simp) fun other found _ => ?_
          · rw [schedule, Moment.disarmed_of_unarmed unarmed]
            simp
          · exact .inl (after_unique found ▸ reported)
      | false =>
          obtain ⟨unreported, armed, schedule⟩ := roused already
          refine alarmsMatch.changed number (some (m.now + quietPeriod))
            (fun k other => by rw [browses, if_neg other]) ?_ (fun _ => ⟨after, ?_⟩)
            fun _ _ _ => .inr rfl
          · rw [schedule, Schedule.arm_of_due? (Schedule.due?_of_le le_rfl)]
            rfl
          · exact ⟨(browses number).trans (if_pos rfl), armed, unreported⟩
  | rings number browse found due entry tells history browses next schedule =>
      refine alarmsMatch.changed number none
        (fun k other => by rw [browses, if_neg other]) (by simp [schedule]) (by simp)
        fun after found _ => ?_
      rw [browses, if_pos rfl] at found
      exact .inl (Option.some.inj found ▸ rfl)

end ScannerDiscovery.Mdns
