import ScannerDiscovery.Proofs.Engine.Findings.Conduct

/-!
# Completions as entries in a ledger

What the completion of a resolve concerns is entered in a ledger: the books, the finding that each
resolve belongs to, what the catalog holds, and which methods it has been told of.  Taking a
completion in is a function of the ledger; a turn that handles one does just that, whatever
listeners do meanwhile, as long as the catalog takes what it is given.

Main definitions:

- `Ledger`, `ledger` : the ledger, and that of an engine with a history.
- `Ledger.take` : the ledger with a completion taken in.
- `Handles` : completions being handled one after another.

Main results:

- `ensures_turn_ledger` : a turn takes its completion in.
- `ledger_of_handles` : so do turns one after another.
-/

namespace ScannerDiscovery

/-- Whether a request asks for nothing but that somebody be told. -/
def Request.IsSilent : Request → Prop
  | .hear .. | .settle .. => True
  | _ => False

namespace Engine

/-! ## The ledger -/

/-- What completions of resolves concern. -/
@[ext] structure Ledger where
  registry : Registry
  gate : Gate
  resolving : OrderedMap Ticket Nat
  shown : FindingKey → Option Snapshot
  done : Method → Bool

/-- The ledger of an engine with a history. -/
def ledger (e : Engine) (h : History) : Ledger :=
  ⟨e.books.registry, e.books.gate, e.resolving, shownAs h, (catalogAfter h).isDone⟩

/-- A finding after a completion that it has been waiting for: after the last one it has been
concluded and is no longer counted. -/
def advanced (event : ResolveEvent) (f : Finding) : Finding :=
  if isLast event f then { finalForm (received event f) with inInitialScan := false }
  else received event f

/-- What is published on a completion, if anything is. -/
def issued? (event : ResolveEvent) (f : Finding) : Option Snapshot :=
  if isLast event f && ((received event f).isPublishable && !(received event f).isPublished) then
    some (finalForm (received event f)).snapshot
  else none

/-- The gate after a completion: a finding that is counted is counted off with the last one. -/
def gateAfter (event : ResolveEvent) (f : Finding) (gate : Gate) : Gate :=
  if isLast event f && f.inInitialScan then gate.lowered f.method else gate

namespace Ledger

/-- The finding that waits for a completion. -/
def receiver? (l : Ledger) (event : ResolveEvent) : Option Finding :=
  ((l.resolving.get? event.op).bind l.registry.get?).filter (event.op ∈ ·.tracker.pending)

/-- The ledger with another gate, and the methods that are done by it entered. -/
def regated (l : Ledger) (gate : Gate) : Ledger :=
  { l with gate, done := fun m => l.done m || (gate.isDone m && !l.gate.isDone m) }

/-- The ledger with a completion taken in that a finding waits for. -/
def revised (l : Ledger) (event : ResolveEvent) (f : Finding) : Ledger :=
  { l.regated (gateAfter event f l.gate) with
    registry := l.registry.modify f.number fun _ => advanced event f
    resolving := l.resolving.erase event.op
    shown := fun key => if key = f.key then (issued? event f).or (l.shown key) else l.shown key }

/-- The ledger with a completion taken in.  One that nothing waits for is forgotten. -/
def take (l : Ledger) (event : ResolveEvent) : Ledger :=
  match l.receiver? event with
  | some f => l.revised event f
  | none => { l with resolving := l.resolving.erase event.op }

/-- A completion that no finding waits for is forgotten. -/
theorem take_of_none {l : Ledger} {event : ResolveEvent} (forgotten : l.receiver? event = none) :
    l.take event = { l with resolving := l.resolving.erase event.op } := by
  rw [take, forgotten]

/-- A completion that a finding waits for is taken in. -/
theorem take_of_some {l : Ledger} {event : ResolveEvent} {f : Finding}
    (receives : l.receiver? event = some f) : l.take event = l.revised event f := by
  rw [take, receives]

end Ledger

variable {E : Fault → Engine → History → Prop} {e : Engine} {h : History} {T : Ledger}

/-! ## Requests that the ledger does not show -/

/-- What happens beside the engine does not show in the ledger. -/
theorem ledger_disturbed {e' : Engine} (disturbed : Disturbed e e') (h : History) :
    ledger e' h = ledger e h := by
  rw [disturbed.eq]
  rfl

/-- What depends on the ledger alone is kept by routines that leave books and resolves alone and
make silent requests. -/
theorem ensures_ledger_of_leaves {α : Type} {routine : Work α}
    (leaves : Leaves Request.IsSilent (fun e => (e.books, e.resolving)) routine)
    (at_ledger : ledger e h = T) :
    Ensures (fun _ e' h' => ledger e' h' = T) (fun _ e' h' => ledger e' h' = T) (routine e) h := by
  refine (leaves.ensures (I := fun e h => ledger e h = T) ?_ ?_ at_ledger).mono
    (fun _ _ _ => id) fun _ _ _ => And.right
  · intro e e' h same before
    obtain ⟨books, resolving⟩ := Prod.mk.inj same
    rw [← before, ledger, ledger, books, resolving]
  · intro e e' request answer h silent _ disturbed before
    have unseen : ledger e' (.asked e request answer :: h) = ledger e' h := by
      cases request with
      | hear => rfl
      | settle => rfl
      | _ => exact silent.elim
    rw [unseen, ledger_disturbed disturbed, before]

/-! ## Counting off -/

/-- Methods that are reported are entered as done. -/
theorem ensures_report_ledger (methods : List Method)
    (at_ledger : { ledger e h with
      done := fun m => (ledger e h).done m || methods.contains m } = T) :
    Ensures (fun _ e' h' => ledger e' h' = T) (fun _ e' h' => ledger e' h' = T)
      ((Books.report methods : Work Unit) e) h := by
  induction methods generalizing e h with
  | nil =>
      have same : ledger e h = T := by simpa using at_ledger
      exact same
  | cons m rest ih =>
      simp only [Books.report, ensures_bind]
      refine ensures_routine_ask fun answer e' admits disturbed => ih ?_
      have entered : ledger e' (.asked e (.scanDone m) () :: h) =
          { ledger e h with done := fun n => (ledger e h).done n || (m == n) } := by
        rw [← ledger_disturbed disturbed h]
        simp only [ledger, Ledger.mk.injEq, true_and]
        refine ⟨rfl, funext fun n => ?_⟩
        simp only [catalogAfter, Catalog.isDone, Catalog.scanDone, PerMethod.get_set]
        by_cases heq : m = n <;> simp [heq]
      rw [entered, ← at_ledger]
      simp only [Ledger.mk.injEq, true_and]
      funext n
      rw [List.contains_cons, Bool.or_assoc, BEq.comm]

/-- A task is counted off, or that is refused. -/
theorem ensures_lower_ledger (m : Method)
    (at_ledger : (ledger e h).regated (e.books.gate.lowered m) = T) :
    Ensures (fun _ e' h' => ledger e' h' = T) (fun _ e' h' => ledger e' h' = T)
      ((Books.lower m : Work Unit) e) h := by
  simp only [Books.lower, ensures_bind, ensures_books_get]
  cases dec : e.books.gate.dec m with
  | none =>
      have same : e.books.gate.lowered m = e.books.gate := by
        rw [Gate.lowered, dec]
        rfl
      rw [same] at at_ledger
      simpa [Ledger.regated, ledger] using at_ledger
  | some result =>
      obtain ⟨gate, fired⟩ := result
      have lowered : e.books.gate.lowered m = gate := by
        rw [Gate.lowered, dec]
        rfl
      simp only [ensures_bind, ensures_setGate]
      apply ensures_report_ledger
      rw [← at_ledger, lowered, Ledger.regated]
      simp only [ledger, Ledger.mk.injEq, true_and]
      funext n
      have fires := Gate.mem_fired_iff dec n
      rw [← List.contains_iff_mem] at fires
      congr 1
      rw [Bool.eq_iff_iff, fires]
      simp

/-! ## Conclusions -/

/-- A finding that has been concluded is no longer counted. -/
theorem ensures_uncount_ledger {f : Finding} (wn : e.books.registry.WellNumbered)
    (live : f ∈ e.books.registry.live)
    (at_ledger : { (ledger e h).regated
        (if f.inInitialScan then e.books.gate.lowered f.method else e.books.gate) with
      registry := e.books.registry.modify f.number fun _ =>
        { f with inInitialScan := false } } = T) :
    Ensures (fun _ e' h' => ledger e' h' = T) (fun _ e' h' => ledger e' h' = T)
      ((Books.uncount f : Work Unit) e) h := by
  simp only [Books.uncount, ensures_ite, ensures_bind, ensures_modifyFinding, ensures_pure]
  constructor
  · intro counted
    rw [if_pos counted] at at_ledger
    apply ensures_lower_ledger
    rw [wn.modify_eq live]
    exact at_ledger
  · intro uncounted
    have flag : f.inInitialScan = false := by simpa using uncounted
    have same : { f with inInitialScan := false } = f := by rw [← flag]
    rw [if_neg uncounted, same, ← wn.modify_eq live (fun f => f), Registry.modify_self] at at_ledger
    simpa [Ledger.regated, ledger] using at_ledger

/-- A finding that has been brought into its final form is published, if it is to be, and no longer
counted. -/
theorem ensures_conclude_ledger {f : Finding} (wn : e.books.registry.WellNumbered)
    (live : finalForm f ∈ e.books.registry.live)
    (at_ledger : { (ledger e h).regated
        (if f.inInitialScan then e.books.gate.lowered f.method else e.books.gate) with
      registry := e.books.registry.modify f.number
        fun _ => { finalForm f with inInitialScan := false }
      shown := fun key => if key = f.key then
          (if f.isPublishable && !f.isPublished then some (finalForm f).snapshot else none).or
            (shownAs h key)
        else shownAs h key } = T) :
    Ensures (fun _ e' h' => ledger e' h' = T) (fun _ e' h' => ledger e' h' = T)
      (conclude f e) h := by
  rw [← number_finalForm, ← inInitialScan_finalForm, ← method_finalForm] at at_ledger
  unfold conclude
  by_cases publishable : (f.isPublishable && !f.isPublished) = true
  · simp only [if_pos publishable] at at_ledger ⊢
    intro answer e' admits disturbed
    obtain rfl : answer = .ok () := admits
    have hbooks := disturbed.books
    refine ensures_uncount_ledger (e := e') (hbooks ▸ wn) (hbooks ▸ live) ?_
    have entered : ledger e' (.asked e (.publish (finalForm f).snapshot) (.ok ()) :: h) =
        { ledger e h with shown := fun key =>
            if key = f.key then some (finalForm f).snapshot else shownAs h key } := by
      rw [← ledger_disturbed disturbed h]
      simp only [ledger, Ledger.mk.injEq, true_and]
      refine ⟨funext fun key => ?_, rfl⟩
      rw [Chronicled.shownAs_publish, Finding.key_snapshot, key_finalForm]
    rw [entered, hbooks, ← at_ledger]
    rfl
  · simp only [if_neg publishable, Option.none_or, ite_self] at at_ledger ⊢
    exact ensures_uncount_ledger wn live at_ledger

/-! ## Completions -/

/-- A completion that is received leaves a finding counted as it is. -/
theorem inInitialScan_received (event : ResolveEvent) (f : Finding) :
    (received event f).inInitialScan = f.inInitialScan :=
  congrArg Standing.inInitialScan (standing_received event f)

/-- A completion that is received leaves a finding with its method. -/
theorem method_received (event : ResolveEvent) (f : Finding) :
    (received event f).method = f.method :=
  congrArg (fun s : Standing => s.service.method) (standing_received event f)

/-- A completion that a finding has received is followed up. -/
theorem ensures_followUp_ledger {f : Finding} {event : ResolveEvent}
    (wn : e.books.registry.WellNumbered) (live : absorbed event f ∈ e.books.registry.live)
    (at_ledger : { (ledger e h).regated (gateAfter event f e.books.gate) with
      registry := e.books.registry.modify f.number fun _ => advanced event f
      shown := fun key => if key = f.key then (issued? event f).or (shownAs h key)
        else shownAs h key } = T) :
    Ensures (fun _ e' h' => ledger e' h' = T) (fun _ e' h' => ledger e' h' = T)
      (followUp event f e) h := by
  have tell {e : Engine} {h : History} (at_ledger : ledger e h = T) :
      Ensures (fun _ e' h' => ledger e' h' = T) (fun _ e' h' => ledger e' h' = T)
        (tellFound f event e) h :=
    ensures_ledger_of_leaves (leaves_tellFound (fun _ _ _ => trivial) f event) at_ledger
  unfold followUp
  by_cases last : isLast event f = true
  · simp only [absorbed, if_pos last] at live
    simp only [gateAfter, advanced, issued?, last, Bool.true_and, if_true] at at_ledger
    rw [if_pos last, ensures_bind]
    refine (ensures_conclude_ledger wn live ?_).imp fun _ _ _ => tell
    rw [inInitialScan_received, method_received, number_received, key_received]
    exact at_ledger
  · simp only [absorbed, if_neg last] at live
    simp only [gateAfter, advanced, issued?, last, Bool.false_and, Bool.false_eq_true, if_false,
      Option.none_or, ite_self] at at_ledger
    rw [if_neg last]
    apply tell
    rw [← number_received event f, ← wn.modify_eq live (fun f => f), Registry.modify_self]
      at at_ledger
    simpa [Ledger.regated, ledger] using at_ledger

/-- A completion with a port that exists is taken in, if all findings that have been removed wait
for nothing. -/
theorem ensures_onResolve_ledger {event : ResolveEvent} (calling : Engine) (call : Call)
    (wn : e.books.registry.WellNumbered)
    (gone : ∀ f ∈ e.books.registry.removed, f.tracker.pending = [])
    (port : event.kind = .found → 0 ≤ event.port ∧ event.port ≤ 65535)
    (at_ledger : (ledger e h).take event = T) :
    Ensures (fun _ e' h' => ledger e' h' = T) (fun _ e' h' => ledger e' h' = T)
      (onResolve event e) (.called calling call :: h) := by
  have receiver : (ledger e h).receiver? event = receiver? e event := rfl
  rw [Ledger.take, receiver] at at_ledger
  cases receives : receiver? e event with
  | none =>
      rw [receives] at at_ledger
      rw [onResolve_of_none receives]
      exact at_ledger
  | some f =>
      rw [receives] at at_ledger
      obtain ⟨-, got, pending⟩ := receiver?_eq_some receives
      have live := Registry.mem_live_of_pending gone got pending
      have hnumber := number_absorbed event f
      have replaces := Registry.modify_replaces wn live fun _ => absorbed event f
      rw [onResolve_of_some wn receives live, refused?_of_port f port]
      refine ensures_followUp_ledger (wn.replaces replaces hnumber) replaces.mem' ?_
      have again : (e.books.registry.modify f.number fun _ => absorbed event f).modify f.number
          (fun _ => advanced event f) =
            e.books.registry.modify f.number fun _ => advanced event f :=
        Registry.modify_modify _ _ _ _ fun _ _ => hnumber
      rw [← at_ledger]
      exact congrArg (fun registry => { (ledger e h).revised event f with registry }) again

/-! ## Turns -/

/-- The end of a handler does not show in the ledger. -/
theorem ensures_turn_ledger {event : ResolveEvent} (wn : e.books.registry.WellNumbered)
    (gone : ∀ f ∈ e.books.registry.removed, f.tracker.pending = [])
    (next : e.next? = some (.notice (.resolve event)))
    (port : event.kind = .found → 0 ≤ event.port ∧ event.port ≤ 65535)
    (at_ledger : (ledger e h).take event = T) :
    Ensures (fun _ e' h' => ledger e' h' = T) (fun _ e' h' => ledger e' h' = T)
      (turn e) (.called e .turn :: h) := by
  simp only [turn, ensures_bind, ensures_get]
  cases htake : e.mailbox.bind Mailbox.take? with
  | none => simp [next?, htake] at next
  | some taken =>
      obtain ⟨event', box⟩ := taken
      obtain rfl : event' = .notice (.resolve event) := by simpa [next?, htake] using next
      simp only [ensures_bind, ensures_modify, handle, ensures_attempt]
      have handled := ensures_onResolve_ledger (e := { e with mailbox := some box }) e .turn
        wn gone port at_ledger
      refine handled.mono (fun _ e' h' at_ledger => at_ledger) fun fault e' h' at_ledger => ?_
      cases fault with
      | invariant broken =>
          simp only [ensures_bind, halt, ensures_modify, ensures_get]
          cases e'.mailbox with
          | none => exact at_ledger
          | some box =>
              simp only [ensures_bind, ensures_modify]
              refine (ensures_ledger_of_leaves (T := T) (leaves_failEach (fun _ _ => trivial)
                (.invariant broken) box.waiting) ?_).imp fun _ _ _ at_ledger => ?_
              · exact at_ledger
              · exact at_ledger
      | _ => exact at_ledger

/-- Whether one engine comes from another by changes of mailbox, restart timer and listeners
alone. -/
def Aside (e e' : Engine) : Prop :=
  e' = { e with mailbox := e'.mailbox, restart := e'.restart, listeners := e'.listeners }

/-- How completions are handled one after another from a moment on: each in a turn that comes upon
it, whatever is done to mailbox, restart timer and listeners in between. -/
inductive Handles (m : Moment) : List ResolveEvent → Moment → Prop
  | none : Handles m [] m
  | next {events : List ResolveEvent} {event : ResolveEvent} {n : Moment} {e e' : Engine}
      {h' : History} {r : Except Fault Unit} (before : Handles m events n)
      (aside : Aside n.engine e) (next : e.next? = some (.notice (.resolve event)))
      (runs : Runs (turn e) (.called e .turn :: n.history) r e' h') :
      Handles m (events ++ [event]) ⟨e', h'⟩

/-- Completions are handled after all that has happened before. -/
theorem Handles.suffix {m n : Moment} {events : List ResolveEvent} (handles : Handles m events n) :
    m.history <:+ n.history := by
  induction handles with
  | none => exact List.suffix_refl _
  | next _ _ _ runs ih => exact (ih.trans (List.suffix_cons _ _)).trans runs.suffix

/-! ## Sound ledgers -/

/-- A finding keeps its number through every completion. -/
theorem number_advanced (event : ResolveEvent) (f : Finding) :
    (advanced event f).number = f.number := by
  unfold advanced
  split
  · exact (number_finalForm _).trans (number_received event f)
  · exact number_received event f

/-- A finding keeps its key through every completion. -/
theorem key_advanced (event : ResolveEvent) (f : Finding) : (advanced event f).key = f.key := by
  unfold advanced
  split
  · exact (key_finalForm _).trans (key_received event f)
  · exact key_received event f

/-- A completion that is received is no longer waited for. -/
theorem tracker_received (event : ResolveEvent) (f : Finding) :
    (received event f).tracker = (f.tracker.complete event.op).1 :=
  congrArg Standing.tracker (standing_received event f)

/-- After any completion that it has been waiting for, a finding waits for the others. -/
theorem tracker_advanced (event : ResolveEvent) (f : Finding) :
    (advanced event f).tracker = (f.tracker.complete event.op).1 := by
  unfold advanced
  split
  · exact (congrArg Standing.tracker (unconcluded_finalForm (received event f))).trans
      (tracker_received event f)
  · exact tracker_received event f

/-- What a completion adds to the endpoints of a finding. -/
def broughtBy (service : Service) (ifindex : Int) (event : ResolveEvent) : List Endpoint :=
  if event.kind = .found ∧ service.isScan = true then
    match endpoint? service ifindex event with
    | some (.ok endpoint) => [endpoint]
    | _ => []
  else []

/-- A completion that is received adds the endpoint that it brings, if any, to those before. -/
theorem endpoints_received (event : ResolveEvent) (f : Finding) :
    (received event f).endpoints = broughtBy f.service f.ifindex event ++ f.endpoints := by
  unfold received broughtBy gathered marked
  by_cases found : event.kind = .found
  · by_cases scan : f.service.isScan = true
    · rw [if_pos found, if_pos scan, if_pos ⟨found, scan⟩]
      unfold equipped
      split <;> simp_all [collect]
    · have other : ¬(event.kind = .found ∧ f.service.isScan = true) := fun h => scan h.2
      rw [if_pos found, if_neg scan, if_neg other]
      unfold flagged
      repeat' split
      all_goals rfl
  · have other : ¬(event.kind = .found ∧ f.service.isScan = true) := fun h => found h.1
    rw [if_neg found, if_neg other]
    rfl

/-- What a completion brings is an eSCL endpoint. -/
theorem proto_of_mem_broughtBy {service : Service} {ifindex : Int} {event : ResolveEvent}
    {endpoint : Endpoint} (brought : endpoint ∈ broughtBy service ifindex event) :
    endpoint.proto = .escl := by
  unfold broughtBy at brought
  split at brought
  · rename_i scan
    split at brought
    · rename_i made
      rw [List.mem_singleton.1 brought]
      exact Adds.proto ⟨scan.2, made⟩
    · cases brought
  · cases brought

/-- A finding whose endpoints are all of one protocol receives only such. -/
theorem ofProto_received {f : Finding} (escl : Endpoint.OfProto .escl f.endpoints)
    (event : ResolveEvent) : Endpoint.OfProto .escl (received event f).endpoints := by
  intro endpoint hendpoint
  rw [endpoints_received] at hendpoint
  rcases List.mem_append.1 hendpoint with brought | known
  · exact proto_of_mem_broughtBy brought
  · exact escl endpoint known

/-- What holds of the ledger at every moment: findings are told apart by numbers and by keys, those
that have been removed wait for nothing, and live ones that wait for something are being
discovered. -/
structure Ledger.Sound (l : Ledger) : Prop where
  numbered : l.registry.WellNumbered
  keys : (l.registry.live.map (·.key)).Nodup
  gone : ∀ f ∈ l.registry.removed, f.tracker.pending = []
  waiting : ∀ f ∈ l.registry.live, f.tracker.pending ≠ [] →
    f.state = .discovering ∧ f.isPublished = false ∧ Endpoint.OfProto .escl f.endpoints

namespace Ledger.Sound

variable {l : Ledger} {event : ResolveEvent} {f : Finding}

/-- A completion is received by a live finding that waits for it. -/
theorem receiver (sound : l.Sound) (receives : l.receiver? event = some f) :
    l.resolving.get? event.op = some f.number ∧ f ∈ l.registry.live ∧
      event.op ∈ f.tracker.pending := by
  obtain ⟨found, pending⟩ := Option.filter_eq_some_iff.1 receives
  obtain ⟨number, resolving, got⟩ := Option.bind_eq_some_iff.1 found
  obtain ⟨-, rfl⟩ := Registry.mem_of_get? got
  have pending : event.op ∈ f.tracker.pending := of_decide_eq_true pending
  exact ⟨resolving, Registry.mem_live_of_pending sound.gone got pending, pending⟩

/-- A finding that has received a completion and waits for others is still being discovered. -/
theorem waiting_advanced (sound : l.Sound) (receives : l.receiver? event = some f)
    (waits : (advanced event f).tracker.pending ≠ []) :
    (advanced event f).state = .discovering ∧ (advanced event f).isPublished = false ∧
      Endpoint.OfProto .escl (advanced event f).endpoints := by
  obtain ⟨-, live, pending⟩ := sound.receiver receives
  obtain ⟨state, unpublished, escl⟩ := sound.waiting f live (List.ne_nil_of_mem pending)
  have more : isLast event f = false := by
    rw [tracker_advanced] at waits
    exact List.isEmpty_eq_false_iff.2 waits
  have stands := standing_received event f
  rw [advanced, if_neg (by simp [more])]
  exact ⟨(congrArg Standing.state stands).trans state,
    (congrArg Standing.isPublished stands).trans unpublished, ofProto_received escl event⟩

/-- Completions that are taken in leave a ledger sound. -/
theorem take (sound : l.Sound) (event : ResolveEvent) : (l.take event).Sound := by
  unfold Ledger.take
  cases receives : l.receiver? event with
  | none => exact ⟨sound.numbered, sound.keys, sound.gone, sound.waiting⟩
  | some f =>
      obtain ⟨-, live, -⟩ := sound.receiver receives
      have replaces := Registry.modify_replaces sound.numbered live fun _ => advanced event f
      refine ⟨sound.numbered.replaces replaces (number_advanced event f), ?_, ?_, ?_⟩
      · obtain ⟨before, after, hlive, hregistry⟩ := replaces
        have keys := sound.keys
        rw [hlive] at keys
        change ((l.registry.modify f.number fun _ => advanced event f).live.map (·.key)).Nodup
        rw [hregistry]
        simpa [key_advanced] using keys
      · intro g hg
        refine sound.gone g ?_
        rwa [← replaces.removed]
      · intro g hg waits
        rcases replaces.mem_cases sound.numbered hg with rfl | ⟨hmem, -⟩
        · exact sound.waiting_advanced receives waits
        · exact sound.waiting g hmem waits

/-- The ledger of every chronicle is sound. -/
theorem of_chronicled {e : Engine} {h : History}
    (chronicled : Chronicled none e.books.registry h) : (ledger e h).Sound where
  numbered := chronicled.numbered
  keys := chronicled.keys
  gone f hf := (chronicled.gone f hf).1
  waiting f hf waits := by
    have faithful := chronicled.faithful f hf nofun
    obtain ⟨state, unpublished⟩ := faithful.waiting waits
    refine ⟨state, unpublished, fun endpoint hendpoint => ?_⟩
    rw [faithful.of_pending waits] at hendpoint
    rcases (mem_endpoints_gatheredAll _ _ _).1 hendpoint with bare | ⟨event, -, adds⟩
    · cases bare
    · exact adds.proto

end Ledger.Sound

/-! ## Completions one after another -/

/-- Completions that are handled one after another are taken in by the ledger, if their ports exist
and the catalog takes what it is given. -/
theorem ledger_of_handles {m n : Moment} {events : List ResolveEvent}
    (handles : Handles m events n) (sound : (ledger m.engine m.history).Sound)
    (ports : ∀ event ∈ events, event.kind = .found → 0 ≤ event.port ∧ event.port ≤ 65535)
    (admitted : Since Entry.Admitted m.history n.history) :
    ledger n.engine n.history = events.foldl Ledger.take (ledger m.engine m.history) ∧
      (ledger n.engine n.history).Sound := by
  induction handles with
  | none => exact ⟨rfl, sound⟩
  | @next events event n e e' h' r before aside next runs ih =>
      have called : Since Entry.Admitted m.history (.called e .turn :: n.history) :=
        (admitted.divide (before.suffix.trans (List.suffix_cons _ _)) runs.suffix).1
      obtain ⟨reached, sound'⟩ := ih (fun event hevent => ports event (by simp [hevent]))
        (called.of_cons before.suffix).2
      have same : ledger e n.history = ledger n.engine n.history := by
        rw [aside]
        rfl
      rw [← same] at sound' reached
      have taken := (ensures_turn_ledger sound'.numbered sound'.gone next
        (ports event (by simp)) rfl).of_runs_since runs
        (admitted.divide (before.suffix.trans (List.suffix_cons _ _)) runs.suffix).2
      have now : ledger e' h' = (ledger e n.history).take event := by
        cases r <;> exact taken
      rw [List.foldl_append, ← reached]
      exact ⟨now, now ▸ sound'.take event⟩

end Engine

end ScannerDiscovery
