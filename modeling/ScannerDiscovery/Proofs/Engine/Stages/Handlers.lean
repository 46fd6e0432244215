import ScannerDiscovery.Proofs.Engine.Conduct.Calls
import ScannerDiscovery.Proofs.Engine.Stages.Conduct

/-!
# How the engine conducts findings through their stages

Every handler keeps the account of the stages, and so does every call.  A new finding is at hand
until its resolves have been begun, and a finding whose resolve is completed until it waits for
another or has been finalized.  Only a violation can leave a finding at hand, and the engine is
halted by it.

Main definitions:

- `AtHand` : where a handler stands that has a finding at hand.
- `Accounted` : the account of the stages between two calls.

Main results:

- `staged_browseNew`, `staged_finalize`, `staged_dispatch` : findings that come and are completed.
- `Reached.accounted` : all moments of a run.
-/

namespace ScannerDiscovery.Engine

variable {before now hand : Option Nat} {n : Nat} {t : Tracker} {e : Engine} {h : History}

/-! ## The finding at hand -/

/-- Where a handler stands that has a finding at hand, which is being discovered and waits for
some resolves. -/
structure AtHand (now : Option Nat) (n : Nat) (t : Tracker) (e : Engine) (h : History) : Prop where
  staged : Staged now (some n) e.books.registry h
  finding : ∃ f ∈ e.books.registry.live, f.number = n ∧ f.state = .discovering ∧
    f.isPublished = false ∧ f.tracker = t
  listed : n ∈ concluded h → now = some n

/-- The finding at hand is changed, but not in its stage. -/
theorem AtHand.revise (atHand : AtHand now n t e h) (change : Finding → Finding) (t' : Tracker)
    (same : ∀ f, (change f).number = f.number ∧ (change f).state = f.state ∧
      (change f).isPublished = f.isPublished)
    (tracker : ∀ f, f.tracker = t → (change f).tracker = t') :
    AtHand now n t' { e with books.registry := e.books.registry.modify n change } h := by
  obtain ⟨staged, ⟨f, live, rfl, hstate, unpublished, htracker⟩, listed⟩ := atHand
  obtain ⟨hnumber, hsame, hpublished⟩ := same f
  have replaces := Registry.modify_replaces staged.numbered live change
  refine ⟨?_, ⟨change f, replaces.mem', hnumber, hsame.trans hstate, hpublished.trans unpublished,
    tracker f htracker⟩, listed⟩
  exact staged.replaces replaces hnumber (.inl rfl) (.inl rfl) (absurd hstate)
    (fun hne => absurd (hsame.trans hstate) hne) fun _ => .inl rfl

/-- The finding at hand stays at hand during a request that is part of its discovery. -/
theorem AtHand.asked {e' : Engine} (request : Request) (atHand : AtHand now n t e h)
    (disturbed : Disturbed e e') (keeps : request.KeepsSession)
    (other : ∀ m, request ≠ .scanDone m) (answer : request.Answer) :
    AtHand now n t e' (.asked e request answer :: h) := by
  obtain ⟨staged, finding, listed⟩ := atHand
  refine ⟨?_, ?_, listed⟩
  · rw [disturbed.books]
    exact staged.asked (absurd · keeps) (fun m hm => absurd hm (other m)) answer
  · rw [disturbed.books]
    exact finding

/-- Nothing is at hand any more once the finding waits for something, unless it is being
concluded. -/
theorem AtHand.rest (atHand : AtHand now n t e h) (waits : t.pending ≠ []) (other : now ≠ some n) :
    Staged now none e.books.registry h := by
  obtain ⟨staged, ⟨f, live, rfl, hstate, unpublished, rfl⟩, listed⟩ := atHand
  refine staged.rest ?_ fun hn => absurd (listed hn) other
  intro g hg hnumber
  rw [staged.numbered.eq_of_number (List.mem_append_left _ hg) (List.mem_append_left _ live)
    hnumber]
  unfold Finding.IsTidy
  rw [hstate]
  exact ⟨waits, unpublished⟩

/-! ## New instances -/

/-- The resolves of a new finding are begun, or the session is torn down. -/
theorem staged_resolveEach {f : Finding} {families : List Ip.Family}
    (atHand : AtHand none f.number t e h) (waits : families ≠ [] ∨ t.pending ≠ []) :
    Ensures (fun _ e' h' => Staged none none e'.books.registry h') (Broken none)
      (resolveEach f families e) h := by
  induction families generalizing e h t with
  | nil => exact atHand.rest (waits.resolve_left (by simp)) (by simp)
  | cons family rest ih =>
      simp only [resolveEach, ensures_bind]
      refine ensures_ask fun answer e₁ admits disturbed => ?_
      have asked := atHand.asked (.resolve f.service f.name f.ifindex family) disturbed id
        (by simp) answer
      rcases FailsAsTransport.cases admits with ⟨op, rfl⟩ | ⟨fault, rfl⟩
      · simp only [ensures_bind, ensures_modifyFinding, ensures_modify]
        have begun := asked.revise (fun f => { f with tracker := f.tracker.begin op })
          (t.begin op) (fun _ => ⟨rfl, rfl, rfl⟩) (fun _ htracker => by rw [htracker])
        refine ih ⟨begun.staged, begun.finding, begun.listed⟩ (.inr ?_)
        exact List.ne_nil_of_mem (Tracker.mem_begin t op)
      · exact staged_restartDefer asked.staged

/-- A new instance gets a finding that waits for its resolves, unless it has one. -/
theorem staged_browseNew (event : BrowseEvent) (staged : Staged none none e.books.registry h) :
    Ensures (fun _ e' h' => Staged none none e'.books.registry h') (Broken none)
      (browseNew event e) h := by
  simp only [browseNew, ensures_bind, ensures_get]
  cases hfind : e.books.registry.find? (.of event.service event.ifindex (event.name.getD "")) with
  | some f =>
      rw [Books.getOrCreate_of_some hfind]
      exact staged
  | none =>
      rw [Books.getOrCreate_of_none hfind]
      simp only [if_true, ensures_bind, ensures_modify]
      have families : (if event.families.isEmpty = true then e.ipVersion.families
          else event.families) ≠ [] := by
        split
        · cases e.ipVersion <;> simp [IpVersion.families]
        · simp_all
      refine staged_resolveEach (t := .empty) ⟨staged.create .., ?_, ?_⟩ (.inl families)
      · exact ⟨_, List.mem_append_right _ List.mem_cons_self, rfl, rfl, rfl, rfl⟩
      · exact fun hmem => absurd hmem staged.made_notMem

/-- Handling a report of a browse. -/
theorem staged_onBrowse (event : BrowseEvent) (staged : Staged none none e.books.registry h) :
    Ensures (fun _ e' h' => Staged none none e'.books.registry h') (Broken none)
      (onBrowse event e) h := by
  simp only [onBrowse, ensures_bind, ensures_get, ensures_ite]
  refine ⟨fun _ => ?_, fun _ => staged⟩
  cases event.kind with
  | new => exact staged_browseNew event staged
  | remove =>
      simp only [ensures_bind, ensures_get]
      cases hfind : e.registry.find? (.of event.service event.ifindex (event.name.getD "")) with
      | none => exact staged
      | some f =>
          have live : f ∈ e.books.registry.live := List.mem_of_find?_eq_some hfind
          exact (staged_deleteFinding staged live).imp fun _ _ _ deleted => deleted.1
  | failure => exact staged_restartDefer staged
  | cacheExhausted => exact staged
  | allForNow =>
      refine (staged_of_keeps (leaves_allForNow detached_registry blind_registry _) (.inl rfl) staged).imp ?_
      exact fun _ _ _ staged' => staged'.1

/-! ## Completions -/

/-- What a resolve has found is taken over, unless its endpoint cannot be made. -/
theorem staged_resolveFound {f : Finding} (event : ResolveEvent)
    (atHand : AtHand now f.number t e h) :
    Ensures (fun _ e' h' => AtHand now f.number t e' h') (Broken now)
      (resolveFound f event e) h := by
  have revise {e : Engine} (atHand : AtHand now f.number t e h) (change : Finding → Finding)
      (same : ∀ f, (change f).number = f.number ∧ (change f).state = f.state ∧
        (change f).isPublished = f.isPublished ∧ (change f).tracker = f.tracker) :=
    atHand.revise change t (fun f => ⟨(same f).1, (same f).2.1, (same f).2.2.1⟩)
      fun f htracker => (same f).2.2.2.trans htracker
  have collected := revise atHand (collect event) fun _ => ⟨rfl, rfl, rfl, rfl⟩
  have marked := revise collected (fun f => { f with isPublishable := true })
    fun _ => ⟨rfl, rfl, rfl, rfl⟩
  simp only [resolveFound, ensures_bind, ensures_modifyFinding, ensures_ite]
  refine ⟨fun scan => ?_, fun _ => ⟨fun _ => ?_, fun _ => marked⟩⟩
  · cases event.address with
    | none => exact collected
    | some address =>
        simp only [addEndpoint, ensures_ite, ensures_pure]
        refine ⟨fun _ => collected, fun _ => ?_⟩
        cases Endpoint.make f.service address event.port (event.txt.value? "rs")
            (event.ifindex.getD f.ifindex) with
        | error broken => exact ⟨trivial, _, collected.staged⟩
        | ok endpoint => exact revise collected _ fun _ => ⟨rfl, rfl, rfl, rfl⟩
  · cases event.txt.value? "scan" with
    | none => exact collected
    | some flag =>
        simp only [ensures_ite]
        exact ⟨fun _ => marked, fun _ => collected⟩

/-- Taking a tidy finding out of the initial scan leaves it tidy. -/
theorem staged_uncount {f g : Finding} (staged : Staged now none e.books.registry h)
    (live : g ∈ e.books.registry.live) (hnumber : g.number = f.number) :
    Ensures (fun _ e' h' => Staged now none e'.books.registry h') (Broken now)
      ((Books.uncount f : Work Unit) e) h := by
  simp only [Books.uncount, ensures_ite, ensures_bind, ensures_modifyFinding, ensures_pure]
  refine ⟨fun _ => ?_, fun _ => staged⟩
  have replaces := Registry.modify_replaces staged.numbered live
    fun g => { g with inInitialScan := false }
  rw [← hnumber]
  have tidy := staged.isTidy live
  have uncounted : Staged now none _ h := staged.replaces replaces rfl (.inl rfl) (.inr tidy)
    (fun concluded => ⟨concluded, rfl⟩) .inl fun hn => .inr fun hstate =>
    staged.not_concluded live hstate hn
  refine (staged_of_keeps (e := { e with books.registry := _ }) (leaves_lower detached_registry _)
    (.inr rfl) uncounted).imp ?_
  exact fun _ _ _ staged' => staged'.1

/-- Finalizing a finding that is being concluded and waits for nothing leaves it tidy. -/
theorem staged_finalize (atHand : AtHand (some n) n t e h) (idle : t.pending = []) :
    Ensures (fun _ e' h' => Staged (some n) none e'.books.registry h') (Broken (some n))
      (finalize n e) h := by
  obtain ⟨staged, ⟨f, live, rfl, hstate, unpublished, rfl⟩, -⟩ := atHand
  have listed := mem_concluded_of_concluding? staged.current
  have replaces := Registry.modify_replaces staged.numbered live completed
  have finalizing := staged.replaces replaces rfl (.inl rfl) (.inl rfl) (absurd hstate)
    (fun _ => .inr listed) fun _ => .inl rfl
  have hget := finalizing.numbered.get?_number (List.mem_append_left _ replaces.mem')
  have hnumber : (completed f).number = f.number := rfl
  simp only [finalize, ensures_bind, ensures_modifyFinding, ensures_get]
  rw [hnumber] at hget
  simp only [registry, hget, ensures_ite, ensures_bind, ensures_modifyFinding]
  constructor
  · intro publishable
    rw [Bool.and_eq_true] at publishable
    have publishes := Registry.modify_replaces finalizing.numbered replaces.mem'
      fun _ => { completed f with isPublished := true, state := .published }
    have published : Staged (some f.number) none _ h := finalizing.replaces publishes rfl
      (.inr (.inr rfl))
      (.inr ⟨idle, rfl, publishable.1⟩) (fun _ => ⟨by simp, rfl⟩) (fun _ => .inr listed)
      fun _ => .inr (by simp)
    refine ensures_ask fun answer e₁ admits disturbed => ?_
    obtain rfl : answer = .ok () := admits
    simp only [ensures_ofExcept, Ends]
    refine staged_uncount (g := { completed f with isPublished := true, state := .published }) ?_ ?_
      rfl
    · rw [disturbed.books]
      exact published.asked False.elim (by simp) _
    · rw [disturbed.books]
      exact publishes.mem'
  · intro hidden
    have unpublishable : f.isPublishable = false := by
      simpa [completed, unpublished] using hidden
    have hides := Registry.modify_replaces finalizing.numbered replaces.mem'
      fun f => { f with state := .unpublished }
    have concluded : Staged (some f.number) none _ h := finalizing.replaces hides rfl
      (.inr (.inr rfl))
      (.inr ⟨idle, unpublished, unpublishable⟩) (fun _ => ⟨by simp, rfl⟩) (fun _ => .inr listed)
      fun _ => .inr (by simp)
    exact staged_uncount (e := { e with books.registry := _ }) concluded hides.mem' rfl

/-- What follows on a resolve being completed leaves nothing at hand. -/
theorem staged_followed {f : Finding} (event : ResolveEvent) (atHand : AtHand now f.number t e h)
    (concludes : t.pending = [] ↔ now = some f.number) :
    Ensures (fun _ e' h' => Staged now none e'.books.registry h') (Broken now)
      ((do
        if t.pending.isEmpty then finalize f.number
        tellFound f event : Work Unit) e) h := by
  have told : ∀ e₁ h₁, Staged now none e₁.books.registry h₁ →
      Ensures (fun _ e' h' => Staged now none e'.books.registry h') (Broken now)
        (tellFound f event e₁) h₁ := by
    intro e₁ h₁ staged₁
    refine (staged_of_keeps (leaves_tellFound (fun _ _ _ => id) f event) (.inr rfl) staged₁).imp ?_
    exact fun _ _ _ staged₂ => staged₂.1
  by_cases idle : t.pending = []
  · obtain rfl := concludes.1 idle
    simp only [idle, List.isEmpty_nil, if_true]
    rw [ensures_bind]
    exact (staged_finalize atHand idle).imp fun _ => told
  · have waits : t.pending.isEmpty = false := by simpa using idle
    simp only [waits]
    exact told e h (atHand.rest idle (mt concludes.2 idle))

/-- The engine once it has taken note that a resolve of a finding has been completed. -/
def accept (e : Engine) (mailbox : Option Mailbox) (f : Finding) (op : Ticket) : Engine :=
  { e with
    mailbox
    resolving := e.resolving.erase op
    books.registry := e.books.registry.modify f.number
      fun g => { g with tracker := ⟨f.tracker.pending.erase op⟩ } }

/-- The finding whose resolve has been completed is at hand.  It is concluded if it waited for
nothing else. -/
theorem Staged.accept {f : Finding} {event : ResolveEvent}
    (staged : Staged before none e.books.registry h) (mailbox : Option Mailbox)
    (next : e.next? = some (.notice (.resolve event)))
    (resolving : e.resolving.get? event.op = some f.number) (live : f ∈ e.books.registry.live)
    (pending : event.op ∈ f.tracker.pending) :
    AtHand (Call.turn.concluded? e) f.number ⟨f.tracker.pending.erase event.op⟩
      (e.accept mailbox f event.op) (.called e .turn :: h) ∧
    (f.tracker.pending.erase event.op = [] ↔ Call.turn.concluded? e = some f.number) := by
  have hget : e.registry.get? f.number = some f :=
    staged.numbered.get?_number (List.mem_append_left _ live)
  have hcall : Call.turn.concluded? e =
      if f.tracker.pending = [event.op] then some f.number else none := by
    simp [Call.concluded?, next, awaiting?, resolving, hget]
  have tidy := staged.isTidy live
  have hstate := tidy.discovering (List.ne_nil_of_mem pending)
  have unpublished : f.isPublished = false := by
    unfold Finding.IsTidy at tidy
    rw [hstate] at tidy
    exact tidy.2
  have called := staged.called .turn (.inl rfl)
  have replaces := Registry.modify_replaces staged.numbered live
    fun g => { g with tracker := ⟨f.tracker.pending.erase event.op⟩ }
  refine ⟨⟨?_, ⟨_, replaces.mem', rfl, hstate, unpublished, rfl⟩, ?_⟩, ?_⟩
  · refine called.replaces replaces rfl (.inr ?_) (.inl rfl) (absurd hstate) (absurd hstate)
      fun _ => .inl rfl
    rw [hcall]
    split
    · exact .inr rfl
    · exact .inl rfl
  · rw [concluded_called, List.mem_append, Option.mem_toList]
    rintro (hnow | hold)
    · exact hnow
    · exact absurd hold (staged.not_concluded live hstate)
  · have nonempty : f.tracker.pending ≠ [] := List.ne_nil_of_mem pending
    rw [List.erase_eq_nil_iff, or_iff_right nonempty, hcall]
    simp

/-- The completion of a resolve that a live finding waits for. -/
theorem staged_resolveCompleted {f : Finding} {event : ResolveEvent} (mailbox : Option Mailbox)
    (staged : Staged before none e.books.registry h)
    (next : e.next? = some (.notice (.resolve event)))
    (resolving : e.resolving.get? event.op = some f.number) (live : f ∈ e.books.registry.live)
    (pending : event.op ∈ f.tracker.pending) :
    Ensures (fun _ e' h' => ∃ now, Staged now none e'.books.registry h')
      (fun fault e' h' => ∃ now, Broken now fault e' h')
      (resolveCompleted f event { e with mailbox, resolving := e.resolving.erase event.op })
      (.called e .turn :: h) := by
  obtain ⟨atHand, concludes⟩ := staged.accept mailbox next resolving live pending
  have followed {e₁ : Engine} {h₁ : History}
      (atHand₁ : AtHand (Call.turn.concluded? e) f.number ⟨f.tracker.pending.erase event.op⟩ e₁
        h₁) :
      Ensures (fun _ e' h' => ∃ now, Staged now none e'.books.registry h')
        (fun fault e' h' => ∃ now, Broken now fault e' h')
        ((do
          if (f.tracker.pending.erase event.op).isEmpty then finalize f.number
          tellFound f event : Work Unit) e₁) h₁ :=
    (staged_followed event atHand₁ concludes).mono (fun _ _ _ staged' => ⟨_, staged'⟩)
      fun _ _ _ broken => ⟨_, broken⟩
  simp only [resolveCompleted, Tracker.complete, pending, decide_true, if_true, ensures_bind,
    ensures_modifyFinding]
  rw [ensures_ite]
  refine ⟨fun found => ?_, fun _ => followed atHand⟩
  rw [ensures_bind]
  exact (staged_resolveFound event atHand).mono (fun _ _ _ => followed) fun _ _ _ broken =>
    ⟨_, broken⟩

/-- Handling the completion of a resolve. -/
theorem staged_onResolve {event : ResolveEvent} (mailbox : Option Mailbox)
    (staged : Staged before none e.books.registry h)
    (next : e.next? = some (.notice (.resolve event))) :
    Ensures (fun _ e' h' => ∃ now, Staged now none e'.books.registry h')
      (fun fault e' h' => ∃ now, Broken now fault e' h')
      (onResolve event { e with mailbox }) (.called e .turn :: h) := by
  -- a completion that no finding waits for concludes none
  have stale (hcall : Call.turn.concluded? e = none) :
      ∃ now, Staged now none e.books.registry (.called e .turn :: h) :=
    ⟨_, staged.called_aside hcall⟩
  simp only [onResolve, ensures_bind, ensures_get]
  cases hresolving : e.resolving.get? event.op with
  | none => exact stale (by simp [Call.concluded?, next, awaiting?, hresolving])
  | some number =>
      simp only [ensures_bind, ensures_modify, ensures_get]
      have same : ({ e with mailbox, resolving := e.resolving.erase event.op } :
          Engine).registry = e.registry := rfl
      rw [same]
      cases hget : e.registry.get? number with
      | none => exact stale (by simp [Call.concluded?, next, awaiting?, hresolving, hget])
      | some f =>
          obtain ⟨hmem, rfl⟩ := Registry.mem_of_get? hget
          by_cases pending : event.op ∈ f.tracker.pending
          · rcases List.mem_append.1 hmem with live | removed
            · exact staged_resolveCompleted mailbox staged next hresolving live pending
            · simp [(staged.gone f removed).2.1] at pending
          · have waits : f.tracker.pending ≠ [event.op] := by
              intro heq
              simp [heq] at pending
            simp only [resolveCompleted, Tracker.complete, pending, decide_false,
              Bool.false_eq_true, if_false]
            exact stale (by simp [Call.concluded?, next, awaiting?, hresolving, hget, waits])

/-! ## Client states and the restart timer -/

/-- Handling a change of the client's state. -/
theorem staged_onClientState (state : ClientState) (staged : Staged none none e.books.registry h) :
    Ensures (fun _ e' h' => Staged none none e'.books.registry h') (Broken none)
      (onClientState state e) h := by
  have up : Ensures (fun _ e' h' => Staged none none e'.books.registry h') (Broken none) ((do
      if !(← Routine.get).browserRunning then
        if !(← browserStart) then restartDefer : Work Unit) e) h := by
    simp only [ensures_bind, ensures_get, ensures_ite, ensures_pure]
    refine ⟨fun _ => ?_, fun _ => staged⟩
    refine (staged_of_keeps (leaves_browserStart detached_registry) (.inl rfl) staged).imp ?_
    rintro all e₁ h₁ ⟨staged₁, -⟩
    exact ⟨fun _ => staged_restartDefer staged₁, fun _ => staged₁⟩
  simp only [onClientState, ensures_bind, ensures_get]
  rw [ensures_ite]
  refine ⟨fun _ => ?_, fun _ => staged⟩
  cases state with
  | registering => exact up
  | running => exact up
  | collision => exact up
  | failure => exact staged_restartDefer staged
  | connecting => exact staged

/-- Handling the end of a restart timer. -/
theorem staged_onRestartDue (generation : Int) (staged : Staged none none e.books.registry h)
    (orderly : Orderly e) :
    Ensures (fun _ e' h' => Staged none none e'.books.registry h') (Broken none)
      (onRestartDue generation e) h := by
  simp only [onRestartDue, ensures_bind, ensures_get, ensures_ite, ensures_modify, ensures_pure]
  refine ⟨fun _ => ⟨fun hdown => ?_, fun _ => staged⟩, fun _ => staged⟩
  obtain ⟨-, -, live⟩ := orderly.of_down (by simpa using hdown)
  refine (staged_of_idle (e := { e with restart := none })
    (leaves_clientStart offline_registry trivial (fun _ => trivial) fun _ => trivial) staged
    live).imp ?_
  exact fun _ _ _ staged' => staged'.1

/-! ## All events -/

/-- Handling an event. -/
theorem staged_dispatch {event : Event} (mailbox : Option Mailbox)
    (staged : Staged before none e.books.registry h) (orderly : Orderly e)
    (next : e.next? = some event) :
    Ensures (fun _ e' h' => ∃ now, Staged now none e'.books.registry h')
      (fun fault e' h' => ∃ now, Broken now fault e' h')
      (dispatch event { e with mailbox }) (.called e .turn :: h) := by
  -- all but the completion of a resolve conclude nothing
  have called (other : ∀ found, event ≠ .notice (.resolve found)) :
      Staged none none e.books.registry (.called e .turn :: h) := by
    apply staged.called_aside
    simp only [Call.concluded?, next, Option.bind_some]
    unfold awaiting?
    split
    · rename_i found
      exact absurd rfl (other found)
    · rfl
  have weaken {routine : Work Unit} {e₁ : Engine} {h₁ : History}
      (ensured : Ensures (fun _ e' h' => Staged none none e'.books.registry h') (Broken none)
        (routine e₁) h₁) :
      Ensures (fun _ e' h' => ∃ now, Staged now none e'.books.registry h')
        (fun fault e' h' => ∃ now, Broken now fault e' h') (routine e₁) h₁ :=
    ensured.mono (fun _ _ _ staged' => ⟨_, staged'⟩) fun _ _ _ broken => ⟨_, broken⟩
  cases event with
  | notice notice =>
      cases notice with
      | browse report =>
          exact weaken (staged_onBrowse (e := { e with mailbox }) report (called (by simp)))
      | resolve found => exact staged_onResolve mailbox staged next
      | client state =>
          exact weaken (staged_onClientState (e := { e with mailbox }) state (called (by simp)))
  | restartDue generation =>
      have orderly' : Orderly { e with mailbox } := orderly.of_session rfl id
      exact weaken (staged_onRestartDue generation (called (by simp)) orderly')
  | query ticket question =>
      apply weaken
      simp only [dispatch, ensures_bind, ensures_get]
      refine ensures_ask fun answer e' admits disturbed => ?_
      rw [disturbed.books]
      exact (called (by simp)).asked (e := { e with mailbox }) False.elim (by simp) answer
  | unknown => exact ⟨none, called (by simp)⟩

/-! ## Calls -/

/-- The account of the stages between two calls.  Only in a halted engine a finding is left at
hand. -/
def Accounted (e : Engine) (h : History) : Prop :=
  ∃ now hand, Staged now hand e.books.registry h ∧ (e.failure = none → hand = none)

theorem Staged.accounted (staged : Staged now none e.books.registry h) : Accounted e h :=
  ⟨now, none, staged, fun _ => rfl⟩

/-- How a call fails: with a violation, or with the stages accounted for. -/
def Fails (fault : Fault) (e : Engine) (h : History) : Prop :=
  fault.IsViolation ∨ Accounted e h

/-- Settling queries keeps the account, and leaves the engine as much halted as before. -/
theorem staged_failEach (fault : Fault) (events : List Event)
    (staged : Staged now hand e.books.registry h) :
    Ensures (fun _ e' h' => Staged now hand e'.books.registry h' ∧ e'.failure = e.failure) Fails
      (failEach fault events e) h := by
  have leaves : Leaves (fun request => ∃ ticket outcome, request = .settle ticket outcome)
      (fun e => (e.books.registry, e.failure)) (failEach fault events) :=
    leaves_failEach (fun ticket outcome => ⟨ticket, outcome, rfl⟩) _ _
  refine (leaves.ensures (I := fun e' h' => Staged now hand e'.books.registry h' ∧
    e'.failure = e.failure) ?_ ?_ ⟨staged, rfl⟩).mono (fun _ _ _ => id) fun _ _ _ failed =>
    .inl failed.1
  · rintro e₁ e₂ h₁ hview
    obtain ⟨hregistry, hfailure⟩ := Prod.mk.inj hview
    rw [hregistry, hfailure]
    exact id
  · rintro e₁ e₂ _ answer h₁ ⟨ticket, outcome, rfl⟩ - disturbed ⟨staged₁, hfailure⟩
    rw [disturbed.books]
    exact ⟨staged₁.asked False.elim (by simp) answer,
      (congrArg Session.failure disturbed.session).trans hfailure⟩

/-- Asking a question. -/
theorem accounted_query (ticket : Nat) (question : Question)
    (staged : Staged none hand e.books.registry h) (rests : e.failure = none → hand = none) :
    Ensures (fun _ e' h' => Accounted e' h') Fails (query ticket question e) h := by
  have same {e' : Engine} {h' : History} (disturbed : Disturbed e e')
      (staged' : Staged none hand e.books.registry h') : Accounted e' h' := by
    refine ⟨none, hand, disturbed.books ▸ staged', fun unfailed => rests ?_⟩
    exact (congrArg Session.failure disturbed.session).symm.trans unfailed
  have asked (outcome : Except Fault Reply) :
      Ensures (fun _ e' h' => Accounted e' h') Fails (ask (.settle ticket outcome) e) h :=
    ensures_ask fun answer e' admits disturbed =>
      same disturbed (staged.asked False.elim (by simp) answer)
  simp only [query, ensures_bind, ensures_get, ensures_ite, ensures_modify]
  refine ⟨fun _ => asked _, fun _ => ⟨fun _ => asked _, fun _ => ?_⟩⟩
  exact same (Disturbance.disturbed (.post (.query ticket question)) e) staged

/-- Halting the engine. -/
theorem accounted_halt (broken : Violation) (staged : Staged now hand e.books.registry h) :
    Ensures (fun _ e' h' => Accounted e' h' ∧ e'.failure = some broken) Fails ((do
      halt broken
      finish : Work Unit) e) h := by
  simp only [halt, finish, ensures_bind, ensures_modify, ensures_get]
  cases e.mailbox with
  | none => exact ⟨⟨now, hand, staged, by simp⟩, rfl⟩
  | some box =>
      simp only [ensures_bind, ensures_modify]
      refine (staged_failEach (e := { e with failure := some broken, mailbox := some _ }) _ _
        staged).imp ?_
      rintro - e₁ h₁ ⟨staged₁, halted⟩
      exact ⟨⟨now, hand, staged₁, by simp [halted]⟩, halted⟩

/-- Handling the next event. -/
theorem accounted_turn (staged : Staged before none e.books.registry h) (orderly : Orderly e) :
    Ensures (fun _ e' h' => Accounted e' h') Fails (turn e) (.called e .turn :: h) := by
  simp only [turn, ensures_bind, ensures_get]
  cases htake : e.mailbox.bind Mailbox.take? with
  | none =>
      have aside : Call.turn.concluded? e = none := by
        simp [Call.concluded?, next?, htake]
      exact (staged.called_aside aside).accounted
  | some taken =>
      obtain ⟨event, box⟩ := taken
      have next : e.next? = some event := by
        simp [next?, htake]
      simp only [ensures_bind, ensures_modify, handle, ensures_attempt]
      refine (staged_dispatch (some box) staged orderly next).mono ?_ ?_
      · rintro - e₁ h₁ ⟨now, staged₁⟩
        exact ⟨now, none, staged₁, fun _ => rfl⟩
      · rintro fault e₁ h₁ ⟨now, violation, hand, staged₁⟩
        cases fault with
        | invariant broken => exact (accounted_halt broken staged₁).imp fun _ _ _ => And.left
        | _ => exact violation.elim

/-- Starting the engine. -/
theorem accounted_start (staged : Staged none hand e.books.registry h)
    (rests : e.failure = none → hand = none) (orderly : Orderly e) :
    Ensures (fun _ e' h' => Accounted e' h') Fails (start e) h := by
  simp only [start, ensures_bind, ensures_get, ensures_ite, ensures_pure, ensures_modify]
  refine ⟨fun _ => ⟨_, _, staged, rests⟩, fun unstarted => ?_⟩
  -- an engine that is not started has no findings, even if it has been halted
  have down : e.clientRunning = false := by
    cases hclient : e.clientRunning with
    | false => rfl
    | true => exact absurd (orderly.started hclient) unstarted
  have idle := staged.of_live_nil (orderly.of_down down).2.2
  refine ⟨fun _ => ?_, fun _ => ?_⟩
  · refine (staged_of_keeps (leaves_fireAll detached_registry blind_registry) (.inl rfl) idle).mono ?_ ?_
    · rintro - e₁ h₁ ⟨staged₁, -⟩
      exact ⟨none, none, staged₁, fun _ => rfl⟩
    · exact fun _ _ _ broken => .inl broken.1
  · refine ensures_ask fun answer e₁ admits disturbed => ?_
    have asked : Staged none none e.books.registry (.asked _ .startClient answer :: h) :=
      idle.asked (e := { e with mailbox := some .empty, stopping := false, failure := none })
        False.elim (by simp) answer
    have hregistry : e₁.books.registry = e.books.registry :=
      congrArg Books.registry disturbed.books
    rcases FailsAsTransport.cases admits with ⟨value, rfl⟩ | ⟨fault, rfl⟩
    · exact ⟨none, none, by rw [hregistry]; exact asked, fun _ => rfl⟩
    · simp only [ensures_bind, ensures_modify, ensures_raise]
      exact .inr ⟨none, none, by rw [hregistry]; exact asked, fun _ => rfl⟩

/-- Stopping the engine. -/
theorem accounted_stop (staged : Staged none hand e.books.registry h)
    (rests : e.failure = none → hand = none) :
    Ensures (fun _ e' h' => Accounted e' h') Fails (stop e) h := by
  -- what follows once the mailbox has been emptied
  have release : ∀ e₁ h₁, Staged none hand e₁.books.registry h₁ →
      Ensures (fun _ e' h' => Accounted e' h') Fails ((do
        dropRestartTimer
        browserStop
        clientStop
        deleteFindings
        Routine.modify fun e => { e with resolving := .empty, started := false } : Work Unit) e₁)
        h₁ := by
    intro e₁ h₁ staged₁
    have broken : ∀ fault e' h', Broken none fault e' h' → Fails fault e' h' :=
      fun _ _ _ broken => .inl broken.1
    simp only [ensures_bind, ensures_modify]
    refine (staged_of_keeps (leaves_dropRestartTimer offline_registry fun _ => id) (.inl rfl)
      staged₁).mono ?_ broken
    rintro - e₂ h₂ ⟨staged₂, -⟩
    refine (staged_browserStop staged₂).mono ?_ broken
    rintro - e₃ h₃ ⟨staged₃, live₃⟩
    refine (staged_of_idle (leaves_clientStop offline_registry trivial) staged₃ live₃).mono ?_ broken
    rintro - e₄ h₄ ⟨staged₄, -⟩
    refine (staged_deleteFindings staged₄).mono ?_ broken
    rintro - e₅ h₅ ⟨staged₅, -⟩
    exact ⟨none, none, staged₅, fun _ => rfl⟩
  simp only [stop, ensures_bind, ensures_get]
  rw [ensures_ite]
  refine ⟨fun _ => ?_, fun _ => ⟨_, _, staged, rests⟩⟩
  simp only [ensures_bind, ensures_get, ensures_modify]
  cases e.mailbox with
  | none => exact release _ h staged
  | some box =>
      rw [ensures_bind]
      refine (staged_failEach (e := { e with stopping := true, mailbox := none }) _ _ staged).imp ?_
      rintro - e₁ h₁ ⟨staged₁, -⟩
      exact release e₁ h₁ staged₁

/-! ## Runs -/

/-- Every call keeps the account. -/
theorem Call.ensures_accounted {call : Call} (possible : call.IsPossible e)
    (accounted : Accounted e h) (orderly : Orderly e) :
    Ensures (fun _ e' h' => Accounted e' h') Fails (call.routine e) (.called e call :: h) := by
  obtain ⟨now, hand, staged, rests⟩ := accounted
  cases call with
  | turn =>
      have unfailed : e.failure = none := by
        simp only [Call.IsPossible, isConsuming, isRunning, Bool.and_eq_true] at possible
        simpa using possible.1.2
      obtain rfl := rests unfailed
      exact accounted_turn staged orderly
  | start => exact accounted_start (staged.called_aside rfl) rests orderly
  | stop => exact accounted_stop (staged.called_aside rfl) rests
  | query ticket question =>
      exact accounted_query ticket question (staged.called_aside rfl) rests

/-- The stages are accounted for at every moment of a run. -/
theorem Reached.accounted {m : Moment} (reached : Reached m) (admissible : Admissible m.history) :
    Accounted m.engine m.history := by
  induction reached with
  | new enabled ipVersion => exact Staged.initial.accounted (e := { enabled, ipVersion })
  | @step m n before step ih =>
      have accounted := ih (admissible.of_suffix step.suffix)
      cases step with
      | @call e e' h h' r call possible runs =>
          have earlier := runs.admissible_before admissible
          obtain ⟨path, orderly⟩ := before.conducted earlier
          have ends := (Call.ensures_accounted possible accounted orderly).of_runs runs admissible
          cases r with
          | ok value => exact ends
          | error fault =>
              obtain ⟨-, cause, rfl⟩ := before.call_eq_start possible runs admissible
              exact ends.resolve_left id
      | beside e h d =>
          have disturbed := d.disturbed e
          obtain ⟨now, hand, staged, rests⟩ := accounted
          refine ⟨now, hand, disturbed.books ▸ staged, fun unfailed => rests ?_⟩
          exact (congrArg Session.failure disturbed.session).symm.trans unfailed

end ScannerDiscovery.Engine
