import ScannerDiscovery.Proofs.Engine.Findings.Chronicle
import ScannerDiscovery.Proofs.Engine.Conduct.Books

/-!
# How the engine keeps the chronicle

Every call of the engine keeps the chronicle of its findings, whatever its surroundings answer: a
handler that fails half way leaves it in order as well.

Main definitions:

- `Told` : the chronicle, of the engine as it is.

Main results:

- `keeps_deleteFinding`, `keeps_resolveEach`, `keeps_onResolve` : the routines that change it.
- `keeps_turn`, `keeps_stop` : calls.
- `Reached.chronicled` : every moment of a run.
-/

namespace ScannerDiscovery.Engine

variable {hand : Option Nat} {e : Engine} {h : History}

/-- The chronicle, of an engine as it is. -/
def Told (hand : Option Nat) (e : Engine) (h : History) : Prop :=
  Chronicled hand e.books.registry h

/-! ## Routines that are not concerned with it -/

/-- The registry shows nothing of the gate, the transport and the restart timer. -/
theorem registry_blind : Blind Engine.registry where
  client _ _ := rfl
  timer _ _ _ := rfl
  gate _ _ := rfl
  resolving _ _ := rfl
  browsers _ _ := rfl
  browserRunning _ _ := rfl

/-- What happens beside the engine leaves the chronicle alone. -/
theorem Told.disturbed {e' : Engine} (told : Told hand e h) (disturbed : Disturbed e e') :
    Told hand e' h := by
  rw [Told, disturbed.books]
  exact told

/-- A routine that spares the registry and makes plain requests keeps the chronicle. -/
theorem Spares.keeps_told {α : Type} {routine : Work α}
    (spares : Spares Request.IsPlain Engine.registry routine) (told : Told hand e h) :
    Keeps (Told hand) (routine e) h := by
  refine (spares e).keeps (fun {e e' h} same before => ?_) (fun plain disturbed before => ?_) told
  · have registry : e'.books.registry = e.books.registry := same
    rw [Told, registry]
    exact before
  · exact Chronicled.asked (before.disturbed disturbed) plain _

/-- So does the discarding of events. -/
theorem keeps_failEach (fault : Fault) (events : List Event) (told : Told hand e h) :
    Keeps (Told hand) (failEach fault events e) h := by
  induction events generalizing e h with
  | nil => exact told
  | cons event rest ih =>
      cases event with
      | query ticket question =>
          exact fun _ e' disturbed => ih (Chronicled.settled (told.disturbed disturbed) _ _)
      | notice notice => exact ih told
      | restartDue generation => exact ih told
      | unknown => exact ih told

/-! ## Deleting findings -/

/-- Taking a finding out of the initial scan. -/
theorem keeps_uncount (f : Finding) (told : Told none e h) :
    Keeps (Told none) ((Books.uncount f : Work Unit) e) h := by
  have uncounted : Told none (changing f.number (fun f => { f with inInitialScan := false }) e) h :=
    Chronicled.modify told (fun _ => id) (fun _ _ _ => rfl) (fun _ _ _ => ⟨rfl, rfl⟩)
      fun _ _ _ _ => ⟨rfl, rfl, fun faithful => faithful.uncounted false⟩
  unfold Books.uncount
  split
  · exact (spares_lower registry_blind (fun _ => id) f.method).keeps_told uncounted
  · exact told

/-- Taking a finding out of the registry, counting it off and releasing what it waits for. -/
def remove (number : Nat) : Work Unit := do
  match (← Books.get).registry.remove number with
  | none => pure ()
  | some (registry, f) =>
    Books.setRegistry registry
    Books.uncount f
    releaseEach f.tracker.pending

/-- The finding at hand is removed. -/
theorem keeps_remove {f : Finding} (told : Told (some f.number) e h)
    (live : f ∈ e.books.registry.live) (unpublished : f.isPublished = false) :
    Keeps (Told none) (remove f.number e) h := by
  obtain ⟨r, hremove, drops⟩ := Registry.remove_drops told.numbered live
  rw [remove, bind_getBooks, hremove]
  have dropped : Told none { e with books.registry := r } h :=
    Chronicled.drop told drops rfl rfl unpublished
  exact (keeps_uncount f dropped).bind fun _ _ _ told =>
    (spares_releaseEach registry_blind (fun _ => id) _).keeps_told told

/-- A finding that has been removed is not removed again. -/
theorem remove_of_removed {f : Finding} (numbered : e.books.registry.WellNumbered)
    (removed : f ∈ e.books.registry.removed) : remove f.number e = .returned () e := by
  have absent : e.books.registry.live.find? (fun g => g.number == f.number) = none :=
    List.find?_eq_none.2 fun g hg heq => numbered.removed_ne hg removed (beq_iff_eq.1 heq).symm
  rw [remove, bind_getBooks, Registry.remove, absent]
  rfl

/-- Deleting a finding: it is withdrawn if it is published, and at hand until it is removed. -/
theorem keeps_deleteFinding (number : Nat) (told : Told none e h) :
    Keeps (Told none) (deleteFinding number e) h := by
  rw [deleteFinding, Books.delete, bind_getBooks]
  cases hget : e.books.registry.get? number with
  | none => exact told
  | some f =>
      obtain ⟨hmem, rfl⟩ := Registry.mem_of_get? hget
      change Keeps (Told none) ((Books.unpublish f >>= fun _ => remove f.number) e) h
      rcases List.mem_append.1 hmem with live | removed
      · by_cases published : f.isPublished = true
        · rw [Books.unpublish, if_pos published]
          intro answer e' disturbed
          have told' : Told none e' h := told.disturbed disturbed
          have live' : f ∈ e'.books.registry.live := disturbed.books ▸ live
          cases answer with
          | error fault => exact Chronicled.withdraw_failed told' live' fault
          | ok value =>
              have withdrawn := Chronicled.withdraw (e := e) told' live' (.ok value)
              have replaces := Registry.modify_replaces told'.numbered live'
                fun f => { f with isPublished := false }
              have revised := withdrawn.revise live' { f with isPublished := false } rfl rfl
              rw [← told'.numbered.modify_eq live' fun f => { f with isPublished := false }]
                at revised
              exact keeps_remove (f := { f with isPublished := false }) revised replaces.mem' rfl
        · have unpublished : f.isPublished = false := Bool.eq_false_iff.2 published
          rw [Books.unpublish, if_neg published]
          exact keeps_remove (Chronicled.take told live unpublished) live unpublished
      · rw [Books.unpublish, if_neg (by simp [(told.gone f removed).2])]
        exact (congrArg (Keeps (Told none) · h) (remove_of_removed told.numbered removed)).mpr told

/-- Deleting all findings keeps the chronicle. -/
theorem keeps_deleteFindings (told : Told none e h) : Keeps (Told none) (deleteFindings e) h := by
  have each (numbers : List Nat) {e : Engine} {h : History} (told : Told none e h) :
      Keeps (Told none)
        ((Books.deleteEach (fun _ ops => releaseEach ops) numbers : Work Unit) e) h := by
    induction numbers generalizing e h with
    | nil => exact told
    | cons number rest ih => exact (keeps_deleteFinding number told).bind fun _ _ _ told => ih told
  exact each _ told

/-! ## Client and browses -/

/-- Stopping the browser keeps the chronicle. -/
theorem keeps_browserStop (told : Told none e h) : Keeps (Told none) (browserStop e) h := by
  have stopped : Keeps (Told none) (stopEach e.browsers.entries e) h :=
    (spares_stopEach registry_blind (fun _ => id) _).keeps_told told
  exact stopped.bind fun _ _ _ told => (keeps_deleteFindings told).bind fun _ _ _ told => told

/-- Tearing the session down keeps the chronicle. -/
theorem keeps_restartDefer (told : Told none e h) : Keeps (Told none) (restartDefer e) h := by
  refine (keeps_browserStop told).bind fun _ _ _ told => ?_
  have stopped := (spares_clientStop registry_blind fun _ => id).keeps_told told
  exact stopped.bind fun _ _ _ told =>
    (spares_armRestartTimer registry_blind fun _ => id).keeps_told told

/-- The handler of client states keeps the chronicle. -/
theorem keeps_onClientState (state : ClientState) (told : Told none e h) :
    Keeps (Told none) (onClientState state e) h := by
  have up (e : Engine) (h : History) (told : Told none e h) : Keeps (Told none) ((do
      if !(← Routine.get).browserRunning then
        if !(← browserStart) then restartDefer : Work Unit) e) h := by
    rw [bind_get]
    split
    · refine ((spares_browserStart registry_blind fun _ => id).keeps_told told).bind
        fun all _ _ told => ?_
      split
      · exact keeps_restartDefer told
      · exact told
    · exact told
  unfold onClientState
  rw [bind_get]
  split
  · cases state with
    | registering => exact up e h told
    | running => exact up e h told
    | collision => exact up e h told
    | failure => exact keeps_restartDefer told
    | connecting => exact told
  · exact told

/-! ## New instances -/

/-- The resolves of a finding that is being discovered are begun. -/
theorem keeps_resolveEach {f g : Finding} (families : List Ip.Family) (told : Told none e h)
    (live : g ∈ e.books.registry.live) (hnumber : g.number = f.number)
    (gathered : g = harvest g (reports f.number h)) :
    Keeps (Told none) (resolveEach f families e) h := by
  induction families generalizing e h g with
  | nil => exact told
  | cons family rest ih =>
      intro answer e' disturbed
      have live' : g ∈ e'.books.registry.live := disturbed.books ▸ live
      have plain : (Request.resolve f.service f.name f.ifindex family).IsPlain := trivial
      have asked : Told none e'
          (.asked e (.resolve f.service f.name f.ifindex family) answer :: h) :=
        Chronicled.asked (told.disturbed disturbed) plain answer
      rcases answer with fault | op
      · cases fault with
        | transport fault => exact keeps_restartDefer asked
        | _ => exact asked
      · have begun := Finding.tracking_eq_harvest gathered (g.tracker.begin op)
        have replaces := Registry.modify_replaces asked.numbered live'
          fun f => { f with tracker := f.tracker.begin op }
        have placed : { g with tracker := g.tracker.begin op } ∈ (e'.books.registry.modify f.number
            fun f => { f with tracker := f.tracker.begin op }).live := by
          rw [← hnumber]
          exact replaces.mem'
        refine ih (g := { g with tracker := g.tracker.begin op }) ?_ placed hnumber begun
        refine Chronicled.modify asked (fun _ => id) (fun _ _ _ => rfl) (fun f' hf' hn => ?_)
          fun _ f' hf' hn => ⟨rfl, rfl, fun _ => .inl ?_⟩
        · exact absurd (hn.trans hnumber.symm) (asked.numbered.removed_ne live' hf')
        · rw [Chronicled.eq_of_number asked live' hf' (hn.trans hnumber.symm)]
          exact begun

/-- A finding is created for a new instance. -/
theorem keeps_browseNew (event : BrowseEvent) (told : Told none e h) :
    Keeps (Told none) (browseNew event e) h := by
  rw [browseNew, bind_get]
  cases hfind : e.books.registry.find? (.of event.service event.ifindex (event.name.getD "")) with
  | some f =>
      rw [Books.getOrCreate_of_some hfind]
      exact told
  | none =>
      rw [Books.getOrCreate_of_none hfind]
      let f : Finding := (e.books.registry.create event.service event.ifindex (event.name.getD "")
        (e.books.gate.inInitialScan event.service)).2
      have unheard : reports f.number h = [] := told.unheard _ (Nat.le_refl _)
      have gathered : f = harvest f (reports f.number h) := by
        rw [unheard]
        rfl
      exact keeps_resolveEach _ (told.create hfind _) (List.mem_append_right _ List.mem_cons_self)
        rfl gathered

/-- The handler of browse events keeps the chronicle. -/
theorem keeps_onBrowse (event : BrowseEvent) (told : Told none e h) :
    Keeps (Told none) (onBrowse event e) h := by
  unfold onBrowse
  rw [bind_get]
  split
  · cases event.kind with
    | new => exact keeps_browseNew event told
    | remove =>
        simp only [bind_get]
        cases e.registry.find? (.of event.service event.ifindex (event.name.getD "")) with
        | none => exact told
        | some f => exact keeps_deleteFinding f.number told
    | failure => exact keeps_restartDefer told
    | cacheExhausted => exact told
    | allForNow => exact (spares_allForNow registry_blind (fun _ => id) _).keeps_told told
  · exact told

/-! ## Completions -/

/-- A finding at hand is concluded: it is published, or put back as it is. -/
theorem keeps_conclude {f : Finding} (told : Told (some f.number) e h)
    (live : finalForm f ∈ e.books.registry.live)
    (faithful : (finalForm f).IsFaithful (reports f.number h))
    (unpublished : f.isPublished = false) : Keeps (Told none) (conclude f e) h := by
  rw [← number_finalForm] at told faithful
  unfold conclude
  by_cases publishable : (f.isPublishable && !f.isPublished) = true
  · have published : (finalForm f).isPublished = true := by
      rw [finalForm, if_pos publishable]
    rw [if_pos publishable]
    intro answer e' disturbed
    have shown : Told none e' (.asked e (.publish (finalForm f).snapshot) answer :: h) :=
      Chronicled.publish (told.disturbed disturbed) (disturbed.books ▸ live) published faithful live
        answer
    cases answer with
    | error fault => exact shown
    | ok value => exact keeps_uncount _ shown
  · have hidden : (finalForm f).isPublished = false := by
      rw [finalForm, if_neg publishable]
      exact unpublished
    rw [if_neg publishable]
    exact keeps_uncount _ (Chronicled.put told live hidden faithful)

/-- A completion that is received neither publishes nor withdraws. -/
theorem isPublished_received (event : ResolveEvent) (f : Finding) :
    (received event f).isPublished = f.isPublished :=
  congrArg Standing.isPublished (standing_received event f)

/-- A completion that is received leaves a finding its key. -/
theorem key_received (event : ResolveEvent) (f : Finding) : (received event f).key = f.key :=
  congrArg (fun s : Standing => FindingKey.of s.service s.ifindex s.name)
    (standing_received event f)

/-- The final form of a finding has its key. -/
theorem key_finalForm (f : Finding) : (finalForm f).key = f.key :=
  congrArg (fun s : Standing => FindingKey.of s.service s.ifindex s.name)
    (unconcluded_finalForm f)

/-- A completion that is absorbed leaves a finding its key. -/
theorem key_absorbed (event : ResolveEvent) (f : Finding) : (absorbed event f).key = f.key := by
  unfold absorbed
  split
  · rw [key_finalForm, key_received]
  · exact key_received event f

/-- What follows on a completion that a finding at hand has received. -/
theorem keeps_followUp {f : Finding} {event : ResolveEvent} (told : Told (some f.number) e h)
    (live : absorbed event f ∈ e.books.registry.live)
    (faithful : (absorbed event f).IsFaithful (reports f.number h))
    (unpublished : f.isPublished = false) : Keeps (Told none) (followUp event f e) h := by
  have tell {e : Engine} {h : History} (told : Told none e h) :
      Keeps (Told none) (tellFound f event e) h :=
    (spares_tellFound (fun _ => id) f event).keeps_told told
  rw [← isPublished_received event] at unpublished
  rw [← number_received event] at told faithful
  unfold followUp absorbed at *
  split at live
  · rename_i last
    rw [if_pos last] at faithful ⊢
    exact (keeps_conclude told live faithful unpublished).bind fun _ _ _ told => tell told
  · rename_i more
    rw [if_neg more] at faithful ⊢
    exact tell (Chronicled.put told live unpublished faithful)

/-- The next event of an engine is the completion of a resolve: its report, if it is one, is
accepted by the finding that waits for it. -/
theorem report?_of_resolve {event : ResolveEvent}
    (next : e.next? = some (.notice (.resolve event))) :
    report? e = if event.kind = .found then (receiver? e event).map fun f => (f.number, event)
      else none := by
  rw [report?, next]

/-- A turn that takes a completion in adds its report, if it is one, to those of the finding. -/
theorem reports_of_report? {f : Finding} {event : ResolveEvent}
    (report : report? e = if event.kind = .found then some (f.number, event) else none)
    (h : History) :
    reports f.number (.called e .turn :: h) = Finding.reportsWith (reports f.number h) event := by
  rw [reports_called, report, Finding.reportsWith]
  by_cases found : event.kind = .found <;> simp [found]

/-- The finding that accepts the report is taken in hand. -/
theorem told_of_report? {f : Finding} {event : ResolveEvent} (told : Told none e h)
    (live : f ∈ e.books.registry.live) (unpublished : f.isPublished = false)
    (report : report? e = if event.kind = .found then some (f.number, event) else none) :
    Told (some f.number) e (.called e .turn :: h) := by
  have taken := Chronicled.take told live unpublished
  by_cases found : event.kind = .found
  · rw [if_pos found] at report
    exact Chronicled.accepted taken live report
  · rw [if_neg found] at report
    exact Chronicled.called taken fun _ => report

/-- A completion is handled in the turn that takes it in. -/
theorem keeps_onResolve {event : ResolveEvent} (told : Told none e h)
    (next : e.next? = some (.notice (.resolve event))) (mailbox : Option Mailbox) :
    Keeps (Told none) (onResolve event { e with mailbox }) (.called e .turn :: h) := by
  have report := report?_of_resolve next
  cases receives : receiver? e event with
  | none =>
      rw [receives] at report
      rw [onResolve_of_none (e := { e with mailbox }) receives]
      refine Chronicled.called told fun _ => ?_
      rw [report]
      split <;> rfl
  | some f =>
      rw [receives] at report
      obtain ⟨-, got, pending⟩ := receiver?_eq_some receives
      have live := Registry.mem_live_of_pending (fun f hf => (told.gone f hf).1) got pending
      have faithful := told.faithful f live nofun
      have unpublished := (faithful.waiting (List.ne_nil_of_mem pending)).2
      have heard := told_of_report? told live unpublished report
      have with_report := reports_of_report? report h
      have after (f' : Finding) (hnumber : f'.number = f.number) (hkey : f'.key = f.key) :=
        Chronicled.revise heard live f' hnumber hkey
      have placed (f' : Finding) : f' ∈ (e.books.registry.modify f.number fun _ => f').live :=
        (Registry.modify_replaces told.numbered live fun _ => f').mem'
      rw [onResolve_of_some (e := { e with mailbox }) told.numbered receives live]
      cases refused? event f with
      | some broken =>
          have receivedFaithful := faithful.received pending
          have revised : Chronicled (some (received event f).number)
              (e.books.registry.modify f.number fun _ => received event f)
              (.called e .turn :: h) := by
            rw [number_received]
            exact after _ (number_received event f) (key_received event f)
          rw [← with_report, ← number_received event] at receivedFaithful
          exact Chronicled.put revised (placed _) ((isPublished_received event f).trans unpublished)
            receivedFaithful
      | none =>
          have absorbedFaithful := faithful.absorbed pending
          rw [← with_report] at absorbedFaithful
          exact keeps_followUp (after _ (number_absorbed event f) (key_absorbed event f))
            (placed _) absorbedFaithful unpublished

/-! ## Calls -/

/-- The next event is handled in the turn that takes it in. -/
theorem keeps_dispatch {event : Event} (told : Told none e h) (next : e.next? = some event)
    (mailbox : Option Mailbox) :
    Keeps (Told none) (dispatch event { e with mailbox }) (.called e .turn :: h) := by
  have called (other : ∀ event', event ≠ .notice (.resolve event')) :
      Told none { e with mailbox } (.called e .turn :: h) := by
    refine Chronicled.called told fun _ => ?_
    rw [report?, next]
    split
    · rename_i event' heq
      exact absurd (Option.some.inj heq) (other event')
    · rfl
  cases event with
  | notice notice =>
      cases notice with
      | browse event => exact keeps_onBrowse event (called (by simp))
      | resolve event => exact keeps_onResolve told next mailbox
      | client state => exact keeps_onClientState state (called (by simp))
  | restartDue generation =>
      exact (spares_onRestartDue registry_blind (fun _ => id) generation).keeps_told
        (called (by simp))
  | query ticket question =>
      exact fun _ _ disturbed =>
        Chronicled.settled ((called (by simp)).disturbed disturbed) ticket _
  | unknown => exact called (by simp)

/-- Halting keeps the chronicle. -/
theorem keeps_halt (broken : Violation) (told : Told none e h) :
    Keeps (Told none) (halt broken e) h := by
  rw [halt, bind_modify, bind_get]
  cases e.mailbox with
  | none => exact told
  | some box => exact keeps_failEach _ _ told

/-- A turn keeps the chronicle. -/
theorem keeps_turn (told : Told none e h) : Keeps (Told none) (turn e) (.called e .turn :: h) := by
  rw [turn, bind_get]
  cases htake : e.mailbox.bind Mailbox.take? with
  | none =>
      refine Chronicled.called told fun _ => ?_
      simp [report?, next?, htake]
  | some taken =>
      obtain ⟨event, box⟩ := taken
      have next : e.next? = some event := by
        simp [next?, htake]
      refine (keeps_dispatch told next (some box)).attempt_bind fun result e h told => ?_
      rcases result with fault | value
      · cases fault with
        | invariant broken => exact (keeps_halt broken told).bind fun _ _ _ told => told
        | _ => exact told
      · exact told

/-- Stopping the engine keeps the chronicle. -/
theorem keeps_stop (told : Told none e h) : Keeps (Told none) (stop e) h := by
  cases hstarted : e.started with
  | false =>
      rw [stop_of_not_started hstarted]
      exact told
  | true =>
      rw [stop_of_started hstarted]
      refine (keeps_failEach _ _ (e := { e with stopping := true, mailbox := none }) told).bind
        fun _ _ _ told => ?_
      refine ((spares_dropRestartTimer registry_blind fun _ => id).keeps_told told).bind
        fun _ _ _ told => (keeps_browserStop told).bind fun _ _ _ told => ?_
      exact ((spares_clientStop registry_blind fun _ => id).keeps_told told).bind
        fun _ _ _ told => (keeps_deleteFindings told).bind fun _ _ _ told => told

/-- Starting the engine keeps the chronicle. -/
theorem keeps_start (told : Told none e h) : Keeps (Told none) (start e) h := by
  rw [start, bind_get]
  split
  · exact told
  · split
    · exact ((spares_fireAll registry_blind fun _ => id).keeps_told told).bind
        fun _ _ _ told => told
    · intro answer e' disturbed
      have told' : Told none e' h := told.disturbed (e := { e with
        mailbox := some .empty
        stopping := false
        failure := none }) disturbed
      have plain : Request.startClient.IsPlain := trivial
      have asked (asking : Engine) : Told none e' (.asked asking .startClient answer :: h) :=
        Chronicled.asked told' plain answer
      rcases answer with fault | value
      · cases fault <;> exact asked _
      · exact asked _

/-- A question keeps the chronicle. -/
theorem keeps_query (ticket : Nat) (question : Question) (told : Told none e h) :
    Keeps (Told none) (query ticket question e) h := by
  have settled (outcome : Except Fault Reply) :
      Keeps (Told none) (ask (.settle ticket outcome) e) h :=
    fun _ _ disturbed => Chronicled.settled (told.disturbed disturbed) ticket outcome
  rw [query, bind_get]
  split
  · exact settled _
  · split
    · exact settled _
    · exact told.disturbed (Disturbance.disturbed (.post _) e)

/-- The chronicle is kept at every moment of a run, whatever the surroundings answer. -/
theorem Reached.chronicled {m : Moment} (reached : Reached m) :
    Chronicled none m.engine.books.registry m.history := by
  refine reached.invariant (I := Told none) (fun _ _ => .initial) (fun e h call told => ?_)
    fun e h d told => told.disturbed (d.disturbed e)
  cases call with
  | turn => exact keeps_turn told
  | start => exact keeps_start (Chronicled.called told nofun)
  | stop => exact keeps_stop (Chronicled.called told nofun)
  | query ticket question => exact keeps_query ticket question (Chronicled.called told nofun)

end ScannerDiscovery.Engine
