import ScannerDiscovery.Proofs.Engine.Frame.Handlers
import ScannerDiscovery.Proofs.Engine.InitialScan
import ScannerDiscovery.Proofs.Engine.Signals

/-!
# Reported done, and enumerated

A service has been enumerated once the report has been handled that says so.  That ends its initial
phase, and nothing else does.  So a method whose browses are all open is reported done only after
all its services have been enumerated.  But a session that is torn down ends the tasks of its
browses as well, and the method is reported done though nothing has been enumerated.

Main definitions:

- `enumerated` : the services that a history has enumerated.
- `KeepsBrowsing` : histories whose last call has stopped no browse.
- `faltered` : a moment after the client has failed in the initial scan.

Main results:

- `Reached.surveyed` : only a service that has been enumerated has left its initial phase.
- `reported_done_while_browsing` : what has been enumerated when a method is reported done.
- `failure_reports_done` : a method can be reported done before anything has been enumerated.
-/

namespace ScannerDiscovery.Engine

variable {e : Engine} {h : History}

/-! ## Enumerated services -/

/-- The service that is enumerated by the event which a call handles, if it is browsed. -/
def Entry.enumerated? : Entry → Option Service
  | .called e .turn =>
    match e.next? with
    | some (.notice (.browse event)) =>
      if event.kind = .allForNow ∧ e.browserRunning = true then some event.service else none
    | _ => none
  | _ => none

/-- The services that have been enumerated, the latest first. -/
def enumerated (h : History) : List Service :=
  h.filterMap Entry.enumerated?

theorem enumerated_of_suffix {h h' : History} (hs : h <:+ h') {s : Service}
    (hmem : s ∈ enumerated h) : s ∈ enumerated h' :=
  (hs.sublist.filterMap _).subset hmem

/-- A call that takes the report of a service which is browsed enumerates it. -/
theorem mem_enumerated_called {event : BrowseEvent}
    (next : e.next? = some (.notice (.browse event)))
    (ends : event.kind = .allForNow) (browsing : e.browserRunning = true) :
    event.service ∈ enumerated (.called e .turn :: h) := by
  apply List.mem_filterMap.2
  refine ⟨_, List.mem_cons_self, ?_⟩
  simp [Entry.enumerated?, next, ends, browsing]

/-! ## Phases and enumerated services -/

/-- Whether only services that have been enumerated have left their initial phase, and whether this
was so whenever something was asked for. -/
structure Surveyed (e : Engine) (h : History) : Prop where
  now : ∀ s, e.gate.inInitialScan s = false → s ∈ enumerated h
  asked : ∀ e₁ request answer before, .asked e₁ request answer :: before <:+ h →
    ∀ s, e₁.gate.inInitialScan s = false → s ∈ enumerated before

/-- The phases of an engine. -/
def phases (e : Engine) (s : Service) : Bool :=
  e.gate.inInitialScan s

/-- Most of what the engine does leaves the phases alone. -/
theorem remote_phases : Remote phases where
  client _ _ := rfl
  timer _ _ _ := rfl
  counts _ _ same := funext same
  registry _ _ := rfl
  resolving _ _ := rfl
  browsers _ _ := rfl
  browserRunning _ _ := rfl
  mailbox _ _ := rfl
  failure _ _ := rfl

theorem Disturbed.phases {e e' : Engine} (disturbed : Disturbed e e') : e'.phases = e.phases := by
  funext s
  rw [Engine.phases, gate, disturbed.books]
  rfl

/-- The survey depends on the phases alone. -/
theorem Surveyed.of_phases {e' : Engine} (surveyed : Surveyed e h) (same : e'.phases = e.phases) :
    Surveyed e' h := by
  refine ⟨?_, surveyed.asked⟩
  intro s ended
  apply surveyed.now
  rw [← ended]
  exact (congrFun same s).symm

/-- A request changes nothing of it, -/
theorem Surveyed.after {e' : Engine} (surveyed : Surveyed e h) (disturbed : Disturbed e e')
    (request : Request) (answer : request.Answer) :
    Surveyed e' (.asked e request answer :: h) := by
  have later := surveyed.of_phases disturbed.phases
  constructor
  · intro s ended
    exact enumerated_of_suffix (List.suffix_cons _ _) (later.now s ended)
  · intro e₁ request₁ answer₁ before hsuffix s ended
    rcases List.suffix_cons_iff.1 hsuffix with heq | hsuffix
    · cases heq
      exact surveyed.now s ended
    · exact surveyed.asked e₁ request₁ answer₁ before hsuffix s ended

/-- and neither does the beginning of a call. -/
theorem Surveyed.called (surveyed : Surveyed e h) (call : Call) :
    Surveyed e (.called e call :: h) := by
  constructor
  · intro s ended
    exact enumerated_of_suffix (List.suffix_cons _ _) (surveyed.now s ended)
  · intro e₁ request answer before hsuffix
    rcases List.suffix_cons_iff.1 hsuffix with heq | hsuffix
    · cases heq
    · exact surveyed.asked e₁ request answer before hsuffix

/-! ## Calls -/

/-- How a routine ends that keeps the survey, whether it returns or fails. -/
def KeepsSurvey {α : Type} (o : Outcome requests Engine Fault α) (h : History) : Prop :=
  Ensures (fun _ e' h' => Surveyed e' h') (fun _ e' h' => Surveyed e' h') o h

/-- What leaves the phases alone keeps the survey. -/
theorem Abides.keepsSurvey {α : Type} {R : Request → Prop} {o : Outcome requests Engine Fault α}
    (abides : Abides R phases e.phases o) (surveyed : Surveyed e h) : KeepsSurvey o h := by
  apply (abides.ensures (I := Surveyed) _ _ surveyed).mono
  · exact fun _ _ _ => id
  · exact fun _ _ _ failed => failed.2
  · exact fun same surveyed => surveyed.of_phases same
  · exact fun _ _ disturbed surveyed => surveyed.after disturbed _ _

/-- The end of an initial phase keeps it if the service has been enumerated. -/
theorem keepsSurvey_allForNow {s : Service} (surveyed : Surveyed e h) (hmem : s ∈ enumerated h) :
    KeepsSurvey ((Books.allForNow s : Work Unit) e) h := by
  have ended : Surveyed { e with books.gate := (e.books.gate.allForNow s).1 } h := by
    refine ⟨?_, surveyed.asked⟩
    intro r hr
    have hphase : (e.books.gate.inInitialScan r && s != r) = false :=
      (e.books.gate.inInitialScan_allForNow s r).symm.trans hr
    by_cases heq : s = r
    · rw [← heq]
      exact hmem
    · have before : e.books.gate.inInitialScan r = false := by simpa [heq] using hphase
      exact surveyed.now r before
  have report (methods : List Method) :
      Leaves (fun _ => True) phases (Books.report methods : Work Unit) :=
    leaves_report (remote_phases.apart fun _ _ => trivial).toDetached methods
  rw [KeepsSurvey, Books.allForNow, bind_getBooks]
  cases hfired : (e.books.gate.allForNow s).2 with
  | none =>
      simp only [hfired, ensures_bind, ensures_setGate, ensures_raise]
      exact ended
  | some fired =>
      simp only [hfired, ensures_bind, ensures_setGate]
      exact (report fired _).keepsSurvey ended

/-- Handling an event keeps the survey. -/
theorem keepsSurvey_dispatch {event : Event} (mailbox : Option Mailbox)
    (next : e.next? = some event) (surveyed : Surveyed e h) :
    KeepsSurvey (dispatch event { e with mailbox }) (.called e .turn :: h) := by
  have called : Surveyed { e with mailbox } (.called e .turn :: h) :=
    (surveyed.called .turn).of_phases rfl
  have other (ends : ¬event.EndsPhase) :
      KeepsSurvey (dispatch event { e with mailbox }) (.called e .turn :: h) := by
    apply (leaves_dispatch remote_phases event _ _).keepsSurvey called
    exact fun h => absurd h ends
  by_cases ends : event.EndsPhase
  · cases event with
    | notice notice =>
        cases notice with
        | browse event =>
            have hkind : event.kind = .allForNow := ends
            simp only [dispatch, onBrowse, bind_get, hkind]
            split
            · rename_i browsing
              exact keepsSurvey_allForNow called (mem_enumerated_called next hkind browsing)
            · exact called
        | resolve event => exact False.elim ends
        | client state => exact False.elim ends
    | _ => exact False.elim ends
  · exact other ends

theorem keepsSurvey_turn (surveyed : Surveyed e h) :
    KeepsSurvey (turn e) (.called e .turn :: h) := by
  rw [KeepsSurvey, turn, bind_get]
  cases htake : e.mailbox.bind Mailbox.take? with
  | none => exact surveyed.called .turn
  | some taken =>
      have next : e.next? = some taken.1 := by
        simp [next?, htake]
      have finished {e₁ : Engine} {h₁ : History} (surveyed₁ : Surveyed e₁ h₁) :
          KeepsSurvey (finish e₁) h₁ :=
        (leaves_finish (R := fun _ => True) remote_phases e₁).keepsSurvey surveyed₁
      simp only [bind_modify, handle, ensures_bind, ensures_attempt]
      apply (keepsSurvey_dispatch (some taken.2) next surveyed).mono
      · exact fun _ _ _ => finished
      · intro fault e₁ h₁ surveyed₁
        cases fault with
        | invariant broken =>
            rw [ensures_bind]
            have halted := (leaves_halt (R := fun _ => True) remote_phases
              (fun _ _ => trivial) broken e₁).keepsSurvey surveyed₁
            exact halted.imp fun _ _ _ => finished
        | interrupted => exact (finished surveyed₁).imp fun _ _ _ => id
        | _ => exact finished surveyed₁

/-- Starting an engine that is enabled keeps the survey. -/
theorem keepsSurvey_start (enabled : e.enabled = true) (surveyed : Surveyed e h) :
    KeepsSurvey (start e) h := by
  rw [KeepsSurvey, start, bind_get]
  simp only [ensures_ite, ensures_pure, ensures_bind, ensures_modify]
  refine ⟨fun _ => surveyed, fun _ => ⟨by simp [enabled], fun _ => ?_⟩⟩
  apply ensures_ask
  intro answer e' admits disturbed
  have began : Surveyed { e with mailbox := some .empty, stopping := false, failure := none } h :=
    surveyed.of_phases rfl
  have after := began.after disturbed .startClient answer
  rcases FailsAsTransport.cases admits with ⟨value, rfl⟩ | ⟨fault, rfl⟩
  · exact after.of_phases rfl
  · exact after.of_phases rfl

/-- Every call of an engine that is enabled keeps the survey. -/
theorem Call.keepsSurvey (call : Call) (enabled : e.enabled = true) (surveyed : Surveyed e h) :
    KeepsSurvey (call.routine e) (.called e call :: h) := by
  have called := surveyed.called call
  cases call with
  | turn => exact keepsSurvey_turn surveyed
  | start => exact keepsSurvey_start enabled called
  | stop => exact (leaves_stop remote_phases (fun _ _ _ => rfl) e).keepsSurvey called
  | query ticket question =>
      exact (leaves_query remote_phases ticket question e).keepsSurvey called

/-- At every moment of a run of an engine that is enabled, only services that have been enumerated
have left their initial phase. -/
theorem Reached.surveyed {m : Moment} (reached : Reached m) (admissible : Admissible m.history)
    (enabled : m.engine.enabled = true) : Surveyed m.engine m.history := by
  induction reached with
  | new enabled ipVersion =>
      constructor
      · intro s ended
        cases s <;> cases ended
      · intro e₁ request answer before hsuffix
        simp at hsuffix
  | step before step ih =>
      have enabled' := (step.enabled admissible).symm.trans enabled
      have surveyed := ih (admissible.of_suffix step.suffix) enabled'
      cases step with
      | call call possible runs =>
          have ends := (call.keepsSurvey enabled' surveyed).of_runs runs admissible
          rename_i r
          cases r with
          | ok value => exact ends
          | error fault => exact ends
      | beside e h d => exact surveyed.of_phases (d.disturbed e).phases

/-! ## Calls that stop no browse -/

/-- Whether the last call of a history began while the engine was browsing, and has stopped no
browse since. -/
def KeepsBrowsing : History → Prop
  | .asked _ (.stopBrowse _) _ :: _ => False
  | .asked _ _ _ :: h => KeepsBrowsing h
  | .called e _ :: _ => e.browserRunning = true
  | [] => False

/-- Whether all services are browsed. -/
def BrowsesAll (w : Holdings) : Prop :=
  ∀ s, (w.browsers.get? s).isSome = true

/-- Whether every call that began while the engine was browsing found all services browsed. -/
def CallsBrowsing (h : History) : Prop :=
  ∀ e call, .called e call ∈ h → e.browserRunning = true → BrowsesAll e.holdings

/-- Whether all services are browsed while the last call has stopped no browse, and were whenever
a method was reported done. -/
structure Browsed (p : Point) : Prop where
  now : KeepsBrowsing p.history → BrowsesAll p.holdings
  signalled : ∀ e m answer before, .asked e (.scanDone m) answer :: before <:+ p.history →
    KeepsBrowsing before → BrowsesAll e.holdings

theorem KeepsBrowsing.of_asked {request : Request} {answer : request.Answer}
    (keeps : KeepsBrowsing (.asked e request answer :: h)) : KeepsBrowsing h := by
  cases request with
  | stopBrowse handle => exact keeps.elim
  | _ => exact keeps

/-- All services are browsed while browses and history are left alone, -/
theorem Browsed.same {d d' : Debt} {w w' : Holdings} (browsed : Browsed ⟨d, w, h⟩)
    (hbrowsers : w'.browsers = w.browsers) : Browsed ⟨d', w', h⟩ := by
  refine ⟨?_, browsed.signalled⟩
  intro keeps s
  rw [hbrowsers]
  exact browsed.now keeps s

/-- after a request that takes none of the browses away, -/
theorem Browsed.asked {d d' : Debt} {w w' : Holdings} {request : Request} {answer : request.Answer}
    (browsed : Browsed ⟨d, w, h⟩) (hbrowsers : e.holdings.browsers = w.browsers)
    (grows : ∀ s, (w.browsers.get? s).isSome = true → (w'.browsers.get? s).isSome = true) :
    Browsed ⟨d', w', .asked e request answer :: h⟩ := by
  constructor
  · intro keeps s
    exact grows s (browsed.now keeps.of_asked s)
  · intro e₁ m answer₁ before hsuffix keeps
    rcases List.suffix_cons_iff.1 hsuffix with heq | hsuffix
    · cases heq
      intro s
      rw [hbrowsers]
      exact browsed.now keeps s
    · exact browsed.signalled e₁ m answer₁ before hsuffix keeps

/-- and at the beginning of a call. -/
theorem Browsed.called {d d' : Debt} {w w' : Holdings} {call : Call} (browsed : Browsed ⟨d, w, h⟩)
    (at_e : e.holdings = w) (calls : CallsBrowsing (.called e call :: h))
    (hbrowsers : w'.browsers = w.browsers) : Browsed ⟨d', w', .called e call :: h⟩ := by
  constructor
  · intro browsing s
    rw [hbrowsers, ← at_e]
    exact calls e call List.mem_cons_self browsing s
  · intro e₁ m answer before hsuffix
    rcases List.suffix_cons_iff.1 hsuffix with heq | hsuffix
    · cases heq
    · exact browsed.signalled e₁ m answer before hsuffix

/-- Every move but the stop of a browse leaves the browses that there are. -/
theorem Browsed.move {p q : Point} (move : Move p q) (calls : CallsBrowsing q.history)
    (browsed : Browsed p) : Browsed q := by
  cases move with
  | noted at_e minor => exact browsed.asked (by rw [at_e]) fun _ => id
  | called at_e stale => exact browsed.called at_e calls rfl
  | accepted at_e next resolving pending replaces => exact browsed.called at_e calls rfl
  | created service ifindex name new => exact browsed.same rfl
  | begun at_e replaces => exact browsed.asked (by rw [at_e]) fun _ => id
  | revised revision replaces => exact browsed.same rfl
  | left => exact browsed.same rfl
  | published idle form replaces at_e => exact browsed.asked (by rw [at_e]) fun _ => id
  | uncounted counted replaces => exact browsed.same rfl
  | withdrawn at_e published replaces => exact browsed.asked (by rw [at_e]) fun _ => id
  | removed unpublished form drops => exact browsed.same rfl
  | countedOff dec => exact browsed.same rfl
  | signalled at_e => exact browsed.asked (by rw [at_e]) fun _ => id
  | cancelled at_e => exact browsed.asked (by rw [at_e]) fun _ => id
  | phaseEnded initial browsing => exact browsed.same rfl
  | phasesEnded browsers live => exact browsed.same rfl
  | opened at_e client new =>
      apply browsed.asked (by rw [at_e])
      intro s hs
      rw [OrderedMap.get?_insert]
      split
      · rfl
      · exact hs
  | closed current at_e =>
      refine ⟨False.elim, ?_⟩
      intro e₁ m answer before hsuffix
      rcases List.suffix_cons_iff.1 hsuffix with heq | hsuffix
      · cases heq
      · exact browsed.signalled e₁ m answer before hsuffix
  | clientStarted at_e down => exact browsed.asked (by rw [at_e]) fun _ => id
  | clientStopped up browsers at_e => exact browsed.asked (by rw [at_e]) fun _ => id
  | forgotten live => exact browsed.same rfl

theorem CallsBrowsing.of_suffix {h h' : History} (calls : CallsBrowsing h') (hs : h <:+ h') :
    CallsBrowsing h :=
  fun e call hcalled => calls e call (hs.subset hcalled)

/-- In a run every call that begins while the engine is browsing finds all services browsed. -/
theorem Reached.callsBrowsing {m : Moment} (reached : Reached m)
    (admissible : Admissible m.history) : CallsBrowsing m.history := by
  induction reached with
  | new enabled ipVersion =>
      intro e call hcalled
      exact absurd hcalled List.not_mem_nil
  | step before step ih =>
      have calls := ih (admissible.of_suffix step.suffix)
      cases step with
      | @call e e' h h' r call possible runs =>
          intro e₁ call₁ hcalled
          rcases List.mem_cons.1 (runs.called_mem hcalled) with heq | hcalled
          · obtain ⟨rfl, rfl⟩ := Entry.called.inj heq
            exact (before.conducted (runs.admissible_before admissible)).2.browsed
          · exact calls e₁ call₁ hcalled
      | beside e h d => exact calls

/-- So all services are browsed until one of the browses is stopped. -/
theorem Reached.browsed {m : Moment} (reached : Reached m) (admissible : Admissible m.history) :
    Browsed ⟨{}, m.engine.holdings, m.history⟩ := by
  apply reached.keeps (I := fun p => CallsBrowsing p.history → Browsed p) _ _ admissible
  · exact reached.callsBrowsing admissible
  · intro calls
    constructor
    · exact False.elim
    · intro e m answer before hsuffix
      simp at hsuffix
  · intro p q move browsed calls
    exact (browsed (calls.of_suffix move.suffix)).move move calls

/-! ## Reports -/

/-- A service that is browsed when its method has no tasks left is past its initial phase. -/
theorem inInitialScan_of_no_task {s : Service} (none : e.browseTasks s.method = 0)
    (browsed : (e.browsers.get? s).isSome = true) : e.gate.inInitialScan s = false := by
  have untasked := List.countP_eq_zero.1 none s (OrderedMap.mem_keys_iff.2 browsed)
  simpa using untasked

/-- Whenever an engine that is enabled reports a method done, each service of the method has been
enumerated, or is not browsed.  So all have been enumerated if the engine was browsing when the
call began and has stopped no browse since. -/
theorem reported_done_while_browsing {m : Moment} (reached : Reached m)
    (admissible : Admissible m.history) (enabled : m.engine.enabled = true) :
    ∀ e method answer before, .asked e (.scanDone method) answer :: before <:+ m.history →
      (∀ s, s.method = method → s ∈ enumerated before ∨ e.browsers.get? s = none) ∧
      (KeepsBrowsing before → ∀ s, s.method = method → s ∈ enumerated before) := by
  intro e method answer before hsuffix
  have surveyed := reached.surveyed admissible enabled
  have done := reached.doneWithoutTasks admissible
  have none := (done e method answer (hsuffix.subset List.mem_cons_self)).1
  -- what is browsed has been enumerated, since its task has ended
  have enumerates : ∀ s, s.method = method → (e.browsers.get? s).isSome = true →
      s ∈ enumerated before := by
    rintro s rfl browsed
    apply surveyed.asked e _ answer before hsuffix
    exact inInitialScan_of_no_task none browsed
  constructor
  · intro s hs
    cases hbrowser : e.browsers.get? s with
    | none => exact .inr rfl
    | some handle => exact .inl (enumerates s hs (by simp [hbrowser]))
  · intro keeps s hs
    apply enumerates s hs
    exact (reached.browsed admissible).signalled e method answer before hsuffix keeps s

/-- At the office one method has been reported done, after its service had been enumerated. -/
theorem office_reported :
    office.engine.enabled = true ∧ signals office.history = [.uscanTcp] ∧
    enumerated office.history = [.uscan] ∧
    ∀ e method answer before, .asked e (.scanDone method) answer :: before <:+ office.history →
      (∀ s, s.method = method → s ∈ enumerated before ∨ e.browsers.get? s = none) ∧
      (KeepsBrowsing before → ∀ s, s.method = method → s ∈ enumerated before) := by
  have enabled : office.engine.enabled = true := by decide +kernel
  refine ⟨enabled, by decide +kernel, by decide +kernel, ?_⟩
  exact reported_done_while_browsing office_reached office_admissible enabled

/-! ## Failures in the initial scan -/

/-- Whether methods have been reported done only after all their services had been enumerated. -/
def DoneAfterEnumeration (h : History) : Prop :=
  ∀ e method answer before, .asked e (.scanDone method) answer :: before <:+ h →
    ∀ s, s.method = method → s ∈ enumerated before

/-- What has been reported done by then has been enumerated. -/
theorem DoneAfterEnumeration.mem {method : Method} (after : DoneAfterEnumeration h)
    (reported : method ∈ signals h) {s : Service} (hs : s.method = method) : s ∈ enumerated h := by
  obtain ⟨entry, hentry, heq⟩ := List.mem_filterMap.1 reported
  obtain ⟨later, before, rfl⟩ := List.append_of_mem hentry
  have hsuffix : entry :: before <:+ later ++ entry :: before := List.suffix_append _ _
  cases entry with
  | called e call => cases heq
  | asked e request answer =>
      cases request with
      | scanDone m =>
          cases heq
          have hmem := after e method answer before hsuffix s hs
          exact enumerated_of_suffix ((List.suffix_cons _ _).trans hsuffix) hmem
      | _ => cases heq

/-- The client fails as soon as all services are browsed. -/
def faltered : Moment :=
  Plan.willing.carryOut <|
    [.call .start] ++ told (.notice (.client .running)) ++ told (.notice (.client .failure))

/-- Whether a call is to stop the engine. -/
def Entry.isStop : Entry → Bool
  | .called _ .stop => true
  | _ => false

/-- A failure in the initial scan reports methods done whose services have not been enumerated,
though the engine has not been stopped. -/
theorem failure_reports_done :
    ¬∀ m, Reached m → Admissible m.history → m.engine.enabled = true →
      (∀ e, .called e .stop ∉ m.history) → DoneAfterEnumeration m.history := by
  intro always
  have reached : Reached faltered := Plan.willing.reached _
  have admissible : Admissible faltered.history := Plan.admissible Plan.willing_admits _
  have unstopped : faltered.history.all (!·.isStop) = true := by decide +kernel
  have after := always faltered reached admissible (by decide +kernel) <| by
    intro e hcalled
    have := List.all_eq_true.1 unstopped _ hcalled
    cases this
  have reported : Method.uscanTcp ∈ signals faltered.history := by decide +kernel
  have hmem : Service.uscan ∈ enumerated faltered.history := after.mem reported rfl
  have none : enumerated faltered.history = [] := by decide +kernel
  rw [none] at hmem
  exact List.not_mem_nil hmem

end ScannerDiscovery.Engine
