import ScannerDiscovery.Proofs.Engine.Findings.Ledger
import ScannerDiscovery.Proofs.Engine.Scripts

/-!
# Hearing of addresses

Listeners hear of every address that a resolve brings to light, after the completion has been taken
in.  They are told one after another, whatever each of them answers, and nothing is changed by it.
They are told of the interface of the finding, even if the report names another one that its
endpoint is reached through.

Main definitions:

- `hearings` : what listeners have heard, in order.
- `takeIn`, `TakenIn` : taking in a completion, and what that leads to.
- `FallsShort` : why a completion is not taken in to the end.
- `Tells` : how listeners are told of an address.
- `Notifies` : what listeners hear of a completion.

Main results:

- `Runs.takeIn` : a completion is taken in without anybody being told.
- `runs_tellEach_iff` : telling listeners goes on whatever they answer.
- `listeners_hear_addresses` : what listeners hear of a completion, and of which.
- `told_of_another_interface` : the interface may be another one than that of the endpoint.
-/

namespace ScannerDiscovery.Engine

variable {e e' : Engine} {f g : Finding} {event : ResolveEvent} {h h' : History}
  {r : Except Fault Unit}

/-! ## What listeners have heard -/

/-- What a listener hears, if an entry is about that. -/
def Entry.hearing? : Entry → Option (String × Int × Ip.Address)
  | .asked _ (.hear listener ifindex address) _ => some (listener, ifindex, address)
  | _ => none

/-- What listeners have heard, in order. -/
def hearings (h : History) : List (String × Int × Ip.Address) :=
  (h.filterMap Entry.hearing?).reverse

/-- Listeners hear what was told earlier before what was told later. -/
theorem hearings_append (later h : History) :
    hearings (later ++ h) = hearings h ++ hearings later := by
  rw [hearings, List.filterMap_append, List.reverse_append]
  rfl

/-! ## Counting off -/

/-- Books with a finding counted off, if it is counted. -/
def uncounted (f : Finding) (b : Books) : Books :=
  if f.inInitialScan then
    ⟨b.gate.lowered f.method, b.registry.modify f.number fun f => { f with inInitialScan := false }⟩
  else b

/-- Methods are reported, and nothing else is done. -/
theorem Runs.report {methods : List Method}
    (runs : Runs ((Books.report methods : Work Unit) e) h r e' h') :
    r = .ok () ∧ Disturbed e e' ∧ ∃ before, h' = before ++ h ∧ hearings before = [] := by
  induction methods generalizing e h with
  | nil =>
      cases runs
      exact ⟨rfl, .refl _, [], rfl, rfl⟩
  | cons m rest ih =>
      change Runs (.paused e (.scanDone m) fun _ => Books.report rest) h r e' h' at runs
      cases runs with
      | paused disturbed later =>
          obtain ⟨done, others, before, rfl, silent⟩ := ih later
          refine ⟨done, disturbed.trans others, before ++ [_], List.append_cons .., ?_⟩
          rw [hearings_append, silent]
          rfl

/-- A task is counted off, or that is refused. -/
theorem Runs.lower {m : Method} (runs : Runs ((Books.lower m : Work Unit) e) h r e' h') :
    ∃ before, h' = before ++ h ∧ hearings before = [] ∧
      (r = .error (.invariant (.counterUnderflow m)) ∧ e.gate.count m = 0 ∨
        r = .ok () ∧ Disturbed { e with books.gate := e.gate.lowered m } e') := by
  rw [Books.lower, bind_getBooks] at runs
  cases dec : e.books.gate.dec m with
  | none =>
      rw [dec] at runs
      cases runs
      exact ⟨[], rfl, rfl, .inl ⟨rfl, (Gate.dec_refused_iff _ _).1 dec⟩⟩
  | some result =>
      obtain ⟨gate, fired⟩ := result
      rw [dec] at runs
      obtain ⟨done, disturbed, before, rfl, silent⟩ := Runs.report runs
      have lowered : e.gate.lowered m = gate := by
        rw [Gate.lowered, Engine.gate, dec]
        rfl
      exact ⟨before, rfl, silent, .inr ⟨done, lowered ▸ disturbed⟩⟩

/-- A finding is counted off, or that is refused. -/
theorem Runs.uncount (runs : Runs ((Books.uncount f : Work Unit) e) h r e' h') :
    ∃ before, h' = before ++ h ∧ hearings before = [] ∧
      (r = .error (.invariant (.counterUnderflow f.method)) ∧ f.inInitialScan = true ∧
          e.gate.count f.method = 0 ∨
        r = .ok () ∧ Disturbed { e with books := uncounted f e.books } e') := by
  unfold Books.uncount at runs
  unfold uncounted
  by_cases initial : f.inInitialScan = true
  · rw [if_pos initial] at runs ⊢
    obtain ⟨before, rfl, silent, ended⟩ := Runs.lower (e := changing f.number _ e) runs
    exact ⟨before, rfl, silent, ended.imp_left fun ⟨refused, zero⟩ => ⟨refused, initial, zero⟩⟩
  · rw [if_neg initial] at runs ⊢
    cases runs
    exact ⟨[], rfl, rfl, .inr ⟨rfl, .refl e⟩⟩

/-! ## Concluding -/

/-- A finding is published if it is to be, and counted off, unless the catalog refuses or the gate
does not count it. -/
theorem Runs.conclude (runs : Runs (conclude f e) h r e' h') :
    ∃ before, h' = before ++ h ∧ hearings before = [] ∧
      ((∃ fault, r = .error fault ∧
          ((f.isPublishable && !f.isPublished) = true ∧
              (∃ e₁, before = [.asked e₁ (.publish (finalForm f).snapshot) (.error fault)]) ∨
            f.inInitialScan = true ∧ e.gate.count f.method = 0 ∧
              fault = .invariant (.counterUnderflow f.method))) ∨
        r = .ok () ∧ Disturbed { e with books := uncounted (finalForm f) e.books } e' ∧
          ((f.isPublishable && !f.isPublished) = true →
            ∃ e₁, .asked e₁ (.publish (finalForm f).snapshot) (.ok ()) ∈ before)) := by
  unfold Engine.conclude at runs
  by_cases publishable : (f.isPublishable && !f.isPublished) = true
  · rw [if_pos publishable] at runs
    change Runs (.paused e (.publish (finalForm f).snapshot) fun answer =>
      (Routine.ofExcept answer >>= fun _ => Books.uncount (finalForm f) : Work Unit))
        h r e' h' at runs
    cases runs with
    | @paused _ e₁ _ _ answer _ _ _ _ disturbed later =>
        rcases answer with fault | ⟨⟩
        · cases later
          exact ⟨[_], rfl, rfl, .inl ⟨fault, rfl, .inl ⟨publishable, e, rfl⟩⟩⟩
        · obtain ⟨before, rfl, silent, ended⟩ := Runs.uncount later
          refine ⟨before ++ [_], List.append_cons .., ?_, ?_⟩
          · rw [hearings_append, silent]
            rfl
          · rw [inInitialScan_finalForm, method_finalForm, Engine.gate, disturbed.books] at ended
            rcases ended with ⟨refused, initial, zero⟩ | ⟨done, others⟩
            · exact .inl ⟨_, refused, .inr ⟨initial, zero, rfl⟩⟩
            · refine .inr ⟨done, (disturbed.rebook _).trans others, fun _ => ⟨e, ?_⟩⟩
              simp
  · rw [if_neg publishable] at runs
    obtain ⟨before, rfl, silent, ended⟩ := Runs.uncount (f := finalForm f) runs
    rw [inInitialScan_finalForm, method_finalForm] at ended
    refine ⟨before, rfl, silent, ?_⟩
    rcases ended with ⟨refused, initial, zero⟩ | ⟨done, others⟩
    · exact .inl ⟨_, refused, .inr ⟨initial, zero, rfl⟩⟩
    · exact .inr ⟨done, others, fun contrary => absurd contrary publishable⟩

/-! ## Taking in a completion -/

/-- Takes in a completion that a finding waits for, before listeners are told of it. -/
def takeIn (f : Finding) (event : ResolveEvent) : Work Unit :=
  Books.modifyFinding f.number
      (fun g => { g with tracker := (f.tracker.complete event.op).1 }) >>= fun _ =>
    (if event.kind = .found then resolveFound f event else pure ()) >>= fun _ =>
    if isLast event f then finalize f.number else pure ()

/-- What becomes of a finding that a completion is received by. -/
def receiving (event : ResolveEvent) (f g : Finding) : Finding :=
  let g := { g with tracker := (f.tracker.complete event.op).1 }
  if event.kind = .found then gathered f.service f.ifindex event g else g

/-- A finding that receives a completion on its own account has received it. -/
theorem receiving_self (event : ResolveEvent) (f : Finding) :
    receiving event f f = received event f := rfl

/-- A completion that is taken in leaves a finding its number. -/
theorem number_receiving (event : ResolveEvent) (f g : Finding) :
    (receiving event f g).number = g.number := by
  unfold receiving
  split
  · exact congrArg Standing.number (standing_gathered _ _ _ _)
  · rfl

/-- Listeners are told of a completion after it has been taken in. -/
theorem resolveCompleted_eq_takeIn (pending : event.op ∈ f.tracker.pending) :
    resolveCompleted f event = (takeIn f event >>= fun _ => tellFound f event) := by
  rw [resolveCompleted_of_pending pending, takeIn]
  simp only [bind_assoc]

/-- Taking in a completion changes the finding, and finalizes it on the last one. -/
theorem takeIn_eq (accepted : refused? event f = none) (e : Engine) :
    takeIn f event e = (if isLast event f then finalize f.number else pure ())
      (changing f.number (receiving event f) e) := by
  let tracked : Engine :=
    changing f.number (fun g => { g with tracker := (f.tracker.complete event.op).1 }) e
  have taken : (if event.kind = .found then resolveFound f event else pure ()) tracked =
      .returned () (changing f.number (receiving event f) e) := by
    by_cases found : event.kind = .found
    · have same : receiving event f = fun g => gathered f.service f.ifindex event
          { g with tracker := (f.tracker.complete event.op).1 } := by
        funext g
        exact if_pos found
      rw [refused?, if_pos found] at accepted
      rw [if_pos found, resolveFound_eq, accepted, same]
      exact congrArg (Outcome.returned ()) (changing_changing f.number
        (fun g => { g with tracker := (f.tracker.complete event.op).1 }) _ (fun _ => id) e)
    · have same : receiving event f = fun g =>
          { g with tracker := (f.tracker.complete event.op).1 } := by
        funext g
        exact if_neg found
      rw [if_neg found, same]
      rfl
  exact congrArg (Outcome.bind · fun _ => if isLast event f then finalize f.number else pure ())
    taken

/-- What a completion that is taken in leads to: the finding is in its new form, and published and
counted off if it is finalized by that, and all else is as it was. -/
structure TakenIn (event : ResolveEvent) (f : Finding) (e : Engine) (before : List Entry)
    (e' : Engine) : Prop where
  finding : e'.registry.get? f.number = some (advanced event f)
  others : ∀ number, number ≠ f.number → e'.registry.get? number = e.registry.get? number
  gate : e'.gate = gateAfter event f e.gate
  rest : Disturbed { e with books := e'.books } e'
  published : ∀ snapshot, issued? event f = some snapshot →
    ∃ e₁, .asked e₁ (.publish snapshot) (.ok ()) ∈ before

/-- Why a completion is not taken in to the end: it is the last one, but the catalog refuses to
publish the finding, or the gate does not count it. -/
def FallsShort (event : ResolveEvent) (f : Finding) (e : Engine) (fault : Fault)
    (before : List Entry) : Prop :=
  isLast event f = true ∧
    ((∃ e₁ snapshot, issued? event f = some snapshot ∧
        before = [.asked e₁ (.publish snapshot) (.error fault)]) ∨
      f.inInitialScan = true ∧ e.gate.count f.method = 0 ∧
        fault = .invariant (.counterUnderflow f.method))

/-- An engine with one finding changed and other books for the gate is as the changed books say. -/
theorem TakenIn.of_change {change : Finding → Finding} {before : List Entry}
    (got : e.registry.get? f.number = some f)
    (same : ∀ g, g.number = f.number → (change g).number = f.number)
    (advances : change f = advanced event f)
    (disturbed : Disturbed { e with
      books := ⟨gateAfter event f e.gate, e.registry.modify f.number change⟩ } e')
    (published : ∀ snapshot, issued? event f = some snapshot →
      ∃ e₁, .asked e₁ (.publish snapshot) (.ok ()) ∈ before) :
    TakenIn event f e before e' where
  finding := by
    rw [registry, disturbed.books]
    exact (Registry.get?_modify _ same).trans (by rw [got, Option.map_some, advances])
  others number hne := by
    rw [registry, disturbed.books]
    exact Registry.get?_modify_of_ne _ same hne
  gate := by rw [Engine.gate, disturbed.books]
  rest := by
    rw [disturbed.books]
    exact disturbed
  published := published

/-- What is left once a completion has been received, and its finding has been finalized by some
change and counted off. -/
theorem exists_uncounted_eq {change : Finding → Finding} (last : isLast event f = true)
    (same : ∀ g, g.number = f.number → (change g).number = f.number)
    (final : change (received event f) = finalForm (received event f)) (e : Engine) :
    ∃ all : Finding → Finding, (∀ g, g.number = f.number → (all g).number = f.number) ∧
      all f = advanced event f ∧
      uncounted (finalForm (received event f))
          (changing f.number change (changing f.number (receiving event f) e)).books =
        ⟨gateAfter event f e.gate, e.registry.modify f.number all⟩ := by
  have receives : ∀ g, g.number = f.number → (receiving event f g).number = f.number :=
    fun g hg => (number_receiving event f g).trans hg
  have hnumber : (finalForm (received event f)).number = f.number :=
    (number_finalForm _).trans (number_received event f)
  have hcounted : (finalForm (received event f)).inInitialScan = f.inInitialScan :=
    (inInitialScan_finalForm _).trans (inInitialScan_received event f)
  have hmethod : (finalForm (received event f)).method = f.method :=
    (method_finalForm _).trans (method_received event f)
  have both : changing f.number change (changing f.number (receiving event f) e) =
      changing f.number (fun g => change (receiving event f g)) e :=
    changing_changing f.number _ _ receives e
  have kept : ∀ g, g.number = f.number → (change (receiving event f g)).number = f.number :=
    fun g hg => same _ (receives g hg)
  rw [both, uncounted, hcounted, hmethod, gateAfter, last, Bool.true_and]
  by_cases initial : f.inInitialScan = true
  · refine ⟨fun g => { change (receiving event f g) with inInitialScan := false }, kept, ?_, ?_⟩
    · rw [advanced, if_pos last, ← final]
      rfl
    · rw [if_pos initial, if_pos initial]
      exact congrArg (Books.mk _) ((congrArg (Registry.modify _ · _) hnumber).trans
        (Registry.modify_modify _ _ _ _ kept))
  · have flag : (finalForm (received event f)).inInitialScan = false :=
      hcounted.trans (by simpa using initial)
    refine ⟨fun g => change (receiving event f g), kept, ?_, ?_⟩
    · change change (received event f) = _
      rw [final, advanced, if_pos last, ← flag]
    · rw [if_neg initial, if_neg initial]
      rfl

/-- A completion is taken in before listeners hear anything: to the end, or not. -/
theorem Runs.takeIn (got : e.registry.get? f.number = some f) (accepted : refused? event f = none)
    (runs : Runs (takeIn f event e) h r e' h') :
    ∃ before, h' = before ++ h ∧ hearings before = [] ∧
      ((∃ fault, r = .error fault ∧ FallsShort event f e fault before) ∨
        r = .ok () ∧ TakenIn event f e before e') := by
  rw [takeIn_eq accepted] at runs
  have receives : ∀ g, g.number = f.number → (receiving event f g).number = f.number :=
    fun g hg => (number_receiving event f g).trans hg
  by_cases last : isLast event f = true
  · rw [if_pos last] at runs
    have received : (changing f.number (receiving event f) e).registry.get? f.number =
        some (received event f) :=
      (e.registry.get?_modify receives).trans (by rw [got]; rfl)
    obtain ⟨change, same, final, finalizes⟩ := exists_finalize_eq received
    rw [finalizes] at runs
    obtain ⟨before, rfl, silent, ended⟩ := Runs.conclude runs
    refine ⟨before, rfl, silent, ?_⟩
    have issues (publishable : ((Engine.received event f).isPublishable &&
        !(Engine.received event f).isPublished) = true) :
        issued? event f = some (finalForm (Engine.received event f)).snapshot := by
      rw [issued?, last, Bool.true_and, if_pos publishable]
    rcases ended with ⟨fault, failed, why⟩ | ⟨done, disturbed, published⟩
    · refine .inl ⟨fault, failed, last, ?_⟩
      rcases why with ⟨publishable, e₁, asked⟩ | ⟨initial, zero, refused⟩
      · exact .inl ⟨e₁, _, issues publishable, asked⟩
      · rw [inInitialScan_received] at initial
        rw [method_received] at zero refused
        exact .inr ⟨initial, zero, refused⟩
    · obtain ⟨all, kept, advances, books⟩ := exists_uncounted_eq last same final e
      rw [books] at disturbed
      refine .inr ⟨done, TakenIn.of_change got kept advances disturbed fun snapshot issued => ?_⟩
      rw [issued?, last, Bool.true_and] at issued
      obtain ⟨publishable, snapped⟩ := Option.ite_none_right_eq_some.1 issued
      obtain rfl := Option.some.inj snapped
      exact published publishable
  · rw [if_neg last] at runs
    cases runs
    refine ⟨[], rfl, rfl, .inr ⟨rfl, TakenIn.of_change got receives ?_ ?_ ?_⟩⟩
    · rw [receiving_self, advanced, if_neg last]
    · rw [gateAfter, if_neg (by simp [last])]
      exact .refl _
    · intro snapshot issued
      rw [issued?, if_neg (by simp [last])] at issued
      cases issued

/-! ## Telling listeners -/

/-- How listeners are told of an address, one after another: whatever they answer, and whatever
happens beside the engine meanwhile. -/
inductive Tells (ifindex : Int) (address : Ip.Address) :
    List String → Engine → List Entry → Engine → Prop
  | nil (e : Engine) : Tells ifindex address [] e [] e
  | cons {e e₁ e' : Engine} {listener : String} {rest : List String} {heard : List Entry}
      (answer : Except OrdinaryFault Unit) (disturbed : Disturbed e e₁)
      (others : Tells ifindex address rest e₁ heard e') :
      Tells ifindex address (listener :: rest) e
        (heard ++ [.asked e (.hear listener ifindex address) answer]) e'

/-- What an entry asks of whom, whatever is answered. -/
def Entry.question? : Entry → Option (Engine × Request)
  | .called .. => none
  | .asked e request _ => some (e, request)

section Tells

variable {ifindex : Int} {address : Ip.Address} {listeners : List String} {heard : List Entry}

/-- Telling listeners goes on whatever they answer. -/
theorem runs_tellEach_iff : Runs (tellEach ifindex address listeners e) h r e' h' ↔
    r = .ok () ∧ ∃ heard, h' = heard ++ h ∧ Tells ifindex address listeners e heard e' := by
  induction listeners generalizing e h with
  | nil =>
      constructor
      · intro runs
        cases runs
        exact ⟨rfl, [], rfl, .nil _⟩
      · rintro ⟨rfl, heard, rfl, tells⟩
        cases tells
        exact .returned () _ _
  | cons listener rest ih =>
      change Runs (.paused e (.hear listener ifindex address) fun _ =>
        tellEach ifindex address rest) h r e' h' ↔ _
      constructor
      · intro runs
        cases runs with
        | paused disturbed later =>
            obtain ⟨done, heard, rfl, tells⟩ := ih.1 later
            exact ⟨done, heard ++ [_], List.append_cons .., .cons _ disturbed tells⟩
      · rintro ⟨rfl, heard, rfl, tells⟩
        cases tells with
        | cons answer disturbed others =>
            refine .paused disturbed (ih.2 ⟨rfl, _, (List.append_cons ..).symm, others⟩)

/-- Every listener hears of the address once, in order. -/
theorem Tells.hearings (tells : Tells ifindex address listeners e heard e') :
    hearings heard = listeners.map fun listener => (listener, ifindex, address) := by
  induction tells with
  | nil => rfl
  | cons answer disturbed others ih =>
      rw [hearings_append, ih]
      rfl

/-- The engine is not changed by telling listeners, -/
theorem Tells.disturbed (tells : Tells ifindex address listeners e heard e') : Disturbed e e' := by
  induction tells with
  | nil => exact .refl _
  | cons answer disturbed others ih => exact disturbed.trans ih

/-- nor between two of them. -/
theorem Tells.during (tells : Tells ifindex address listeners e heard e') :
    ∀ entry ∈ heard, ∃ e₁ listener answer,
      entry = .asked e₁ (.hear listener ifindex address) answer ∧ Disturbed e e₁ := by
  induction tells with
  | nil => simp
  | cons answer disturbed others ih =>
      intro entry hentry
      rcases List.mem_append.1 hentry with later | first
      · obtain ⟨e₁, listener, answer, heq, during⟩ := ih entry later
        exact ⟨e₁, listener, answer, heq, disturbed.trans during⟩
      · exact ⟨_, _, _, List.mem_singleton.1 first, .refl _⟩

/-- Listeners may answer anything else. -/
theorem Tells.answered {heard' : List Entry} (tells : Tells ifindex address listeners e heard e')
    (same : heard'.map Entry.question? = heard.map Entry.question?) :
    Tells ifindex address listeners e heard' e' := by
  induction tells generalizing heard' with
  | nil =>
      obtain rfl := List.map_eq_nil_iff.1 same
      exact .nil _
  | cons answer disturbed others ih =>
      rw [List.map_append] at same
      obtain ⟨later, first, rfl, laters, firsts⟩ := List.map_eq_append_iff.1 same
      obtain ⟨entry, rfl, question⟩ := List.map_eq_singleton_iff.1 firsts
      cases entry with
      | called => cases question
      | asked e₁ request answer' =>
          obtain ⟨rfl, rfl⟩ := Prod.mk.inj (Option.some.inj question)
          exact .cons answer' disturbed (ih laters)

end Tells

/-! ## Completions -/

/-- What a completion leads to that a finding waits for. -/
theorem onResolve_eq_takeIn (receives : receiver? e event = some f) :
    onResolve event e =
      (takeIn f event >>= fun _ => tellFound f event) (forgetting event.op e) := by
  obtain ⟨resolving, got, pending⟩ := receiver?_eq_some receives
  rw [onResolve, bind_get, resolving]
  simp only [bind_modify, bind_get, registry, got]
  exact congrFun (resolveCompleted_eq_takeIn pending) _

/-- Listeners hear of an address that has been found, each once and in order, with the interface of
the finding, and with nothing changed by it.  It is the interface that the endpoint names only if
the report names no other one. -/
structure Notifies (event : ResolveEvent) (f : Finding) (address : Ip.Address) (start : Engine)
    (heard : List Entry) (e' : Engine) : Prop where
  calls : hearings heard = start.listeners.map fun listener => (listener, f.ifindex, address)
  effective : hearings heard = (start.listeners.map fun listener =>
      (listener, event.ifindex.getD f.ifindex, address)) ↔
    start.listeners = [] ∨ event.ifindex.getD f.ifindex = f.ifindex
  during : ∀ entry ∈ heard, ∃ e₁ listener answer,
    entry = .asked e₁ (.hear listener f.ifindex address) answer ∧ Disturbed start e₁
  after : Disturbed start e'

/-- Telling listeners one after another notifies them. -/
theorem Tells.notifies {address : Ip.Address} {heard : List Entry}
    (tells : Tells f.ifindex address e.listeners e heard e') :
    Notifies event f address e heard e' where
  calls := tells.hearings
  effective := by
    rw [tells.hearings]
    cases e.listeners with
    | nil => simp
    | cons listener rest =>
        constructor
        · intro same
          exact .inr (Prod.mk.inj (Prod.mk.inj (List.cons.inj same).1).2).1.symm
        · rintro (none | same)
          · cases none
          · rw [same]
  during := tells.during
  after := tells.disturbed

/-- Listeners are told of an address that has been found, one after another. -/
theorem tellFound_of_address {address : Ip.Address} (found : event.kind = .found)
    (given : event.address = some address) (e : Engine) :
    tellFound f event e = tellEach f.ifindex address e.listeners e := by
  rw [tellFound, if_pos found, given]
  rfl

/-- A completion that finds no address is not told to anybody. -/
theorem tellFound_of_none (none : event.kind ≠ .found ∨ event.address = none) (e : Engine) :
    tellFound f event e = .returned () e := by
  unfold tellFound
  by_cases found : event.kind = .found
  · rw [if_pos found, none.resolve_left (not_not.2 found)]
    rfl
  · rw [if_neg found]
    rfl

/-- A failure means that the catalog has refused, or that the gate does not count a finding that is
counted. -/
theorem FallsShort.absurd {fault : Fault} {before : List Entry}
    (fails : FallsShort event f e fault before)
    (admissible : Admissible (before ++ h))
    (counted : f.inInitialScan = true → 0 < e.gate.count f.method) : False := by
  rcases fails.2 with ⟨e₁, snapshot, -, rfl⟩ | ⟨initial, zero, -⟩
  · have admitted : Except.error fault = .ok () :=
      admissible (.asked e₁ (.publish snapshot) (.error fault)) (by simp)
    cases admitted
  · have := counted initial
    omega

/-- What comes of a completion with an address: it falls short before anybody is told, or it is
taken in and listeners are notified, who may answer anything else. -/
theorem Runs.onResolve_found {address : Ip.Address} (receives : receiver? e event = some f)
    (accepted : refused? event f = none) (found : event.kind = .found)
    (given : event.address = some address) (runs : Runs (onResolve event e) h r e' h') :
    (∃ fault before, r = .error fault ∧ h' = before ++ h ∧ hearings before = [] ∧
        FallsShort event f e fault before) ∨
      r = .ok () ∧ ∃ start before heard, h' = heard ++ (before ++ h) ∧ hearings before = [] ∧
        e.listeners <+: start.listeners ∧
        TakenIn event f (forgetting event.op e) before start ∧
        Notifies event f address start heard e' ∧
        ∀ heard', heard'.map Entry.question? = heard.map Entry.question? →
          Runs (onResolve event e) h (.ok ()) e' (heard' ++ (before ++ h)) := by
  obtain ⟨-, got, -⟩ := receiver?_eq_some receives
  rw [onResolve_eq_takeIn receives] at runs ⊢
  rcases runs.of_bind with ⟨fault, rfl, first⟩ | ⟨⟨⟩, start, h₁, first, second⟩
  · obtain ⟨before, rfl, silent, ⟨fault', same, fails⟩ | ⟨done, -⟩⟩ :=
      Runs.takeIn (e := forgetting event.op e) got accepted first
    · obtain rfl := Except.error.inj same
      exact .inl ⟨fault, before, rfl, rfl, silent, fails⟩
    · cases done
  · obtain ⟨before, rfl, silent, ⟨fault, failed, -⟩ | ⟨-, taken⟩⟩ :=
      Runs.takeIn (e := forgetting event.op e) got accepted first
    · cases failed
    · rw [tellFound_of_address found given] at second
      obtain ⟨rfl, heard, rfl, tells⟩ := runs_tellEach_iff.1 second
      refine .inr ⟨rfl, start, before, heard, rfl, silent, taken.rest.listeners, taken,
        tells.notifies, fun heard' same => first.bind ?_⟩
      rw [tellFound_of_address found given]
      exact runs_tellEach_iff.2 ⟨rfl, heard', rfl, tells.answered same⟩

/-- Of a completion that nobody waits for, or that brings no address, nobody hears. -/
theorem Runs.onResolve_silent (port : 0 ≤ event.port ∧ event.port ≤ 65535)
    (silence : receiver? e event = none ∨ event.kind ≠ .found ∨ event.address = none)
    (runs : Runs (onResolve event e) h r e' h') : hearings h' = hearings h := by
  cases receives : receiver? e event with
  | none =>
      rw [onResolve_of_none receives] at runs
      cases runs
      rfl
  | some f =>
      obtain ⟨-, got, -⟩ := receiver?_eq_some receives
      have nothing := silence.resolve_left (by simp [receives])
      rw [onResolve_eq_takeIn receives] at runs
      have taken {r : Except Fault Unit} {e₁ : Engine} {h₁ : History}
          (first : Runs (Engine.takeIn f event (forgetting event.op e)) h r e₁ h₁) :
          hearings h₁ = hearings h := by
        obtain ⟨before, rfl, silent, -⟩ :=
          Runs.takeIn (e := forgetting event.op e) got (refused?_of_port f fun _ => port) first
        rw [hearings_append, silent, List.append_nil]
      rcases runs.of_bind with ⟨fault, rfl, first⟩ | ⟨⟨⟩, start, h₁, first, second⟩
      · exact taken first
      · rw [tellFound_of_none nothing] at second
        cases second
        exact taken first

/-- Listeners hear of an address that a finding has been waiting for, after the completion has been
taken in, whether it is the last one or not and whether an endpoint comes of it or not, and whatever
the other listeners answer.  Nobody hears of anything else. -/
theorem listeners_hear_addresses (port : 0 ≤ event.port ∧ event.port ≤ 65535)
    (runs : Runs (onResolve event e) h r e' h') :
    (∀ f address, receiver? e event = some f → event.kind = .found →
      event.address = some address →
      ((∃ fault before, r = .error fault ∧ h' = before ++ h ∧ hearings before = [] ∧
          FallsShort event f e fault before) ∨
        r = .ok () ∧ ∃ start before heard,
          h' = heard ++ (before ++ h) ∧ hearings before = [] ∧
          e.listeners <+: start.listeners ∧
          TakenIn event f (forgetting event.op e) before start ∧
          Notifies event f address start heard e' ∧
          ∀ heard', heard'.map Entry.question? = heard.map Entry.question? →
            Runs (onResolve event e) h (.ok ()) e' (heard' ++ (before ++ h))) ∧
      (Admissible h' → (f.inInitialScan = true → 0 < e.gate.count f.method) → r = .ok ())) ∧
    (receiver? e event = none ∨ event.kind ≠ .found ∨ event.address = none →
      hearings h' = hearings h) := by
  refine ⟨fun f address receives found given => ?_, (runs.onResolve_silent port ·)⟩
  have outcome := runs.onResolve_found receives (refused?_of_port f fun _ => port) found
    given
  refine ⟨outcome, fun admissible counted => ?_⟩
  rcases outcome with ⟨fault, before, -, rfl, -, fails⟩ | ⟨done, -⟩
  · exact (fails.absurd admissible counted).elim
  · exact done

/-! ## Two listeners -/

/-- The plan by which everything succeeds, but one listener fails. -/
def Plan.moody : Plan
  | .hear listener .., _ =>
    if listener = "moody" then .error ⟨.foreign "moody", by decide⟩ else .ok ()
  | request, h => willing request h

/-- By this plan every answer is admissible. -/
theorem Plan.moody_admits (request : Request) (h : History) : request.Admits (moody request h) := by
  cases request with
  | hear => trivial
  | _ => exact willing_admits _ h

/-- A scanner has been seen, but not on which interface, and two listeners are waiting to hear of
its address. -/
def unplaced : Moment :=
  Plan.moody.carryOut <|
    [.call .start] ++ told (.notice (.client .running)) ++
    [.beside (.listener "moody"), .beside (.listener "calm")] ++
    told (.notice (.browse
      { service := .uscan, kind := .new, name := some "Library", families := [.ipv6],
        ifindex := unspecifiedInterface }))

/-- Until then every answer has been admissible. -/
theorem unplaced_admissible : Admissible unplaced.history :=
  Plan.admissible Plan.moody_admits _

/-- The scanner, of which nothing is known yet. -/
def libraryScanner : Finding where
  number := 0
  service := .uscan
  ifindex := unspecifiedInterface
  name := "Library"
  inInitialScan := true
  tracker := ⟨[.number 9]⟩

/-- A link-local address. -/
def nearby : Ip.Address :=
  .v6 ⟨[0xfe80, 0, 0, 0, 0, 0, 0, 1], rfl⟩ none

/-- The scanner has been found at a link-local address, on the third interface. -/
def placed : ResolveEvent where
  op := .number 9
  kind := .found
  address := some nearby
  port := 80
  ifindex := some 3

/-- What comes of that. -/
def placement : Except Fault Unit × Engine × History :=
  (onResolve placed unplaced.engine).run Plan.moody.surroundings unplaced.history

/-- The scanner waits for the completion that names its address. -/
theorem unplaced_receives : receiver? unplaced.engine placed = some libraryScanner := by
  decide +kernel

/-- This is how the completion is handled. -/
theorem placement_runs : Runs (onResolve placed unplaced.engine) unplaced.history placement.1
    placement.2.1 placement.2.2 :=
  Plan.moody.runs _ _

/-- Both listeners hear of the address, though the first one fails, with the interface of the
finding, though the endpoint names the third one.  Neither hears of it when the completion is
reported again. -/
theorem both_listeners_hear :
    receiver? unplaced.engine placed = some libraryScanner ∧
      (∃ start before heard, placement.2.2 = heard ++ (before ++ unplaced.history) ∧
        TakenIn placed libraryScanner (forgetting placed.op unplaced.engine) before start ∧
        Notifies placed libraryScanner nearby start heard placement.2.1) ∧
      placement.2.1.registry.published.map (·.endpoints.map (·.uri)) =
        [["http://[fe80::1%253]:80/eSCL/"]] ∧
      ∀ r e h, Runs (onResolve placed placement.2.1) placement.2.2 r e h →
        hearings h = [("moody", 0, nearby), ("calm", 0, nearby)] := by
  have admissible : Admissible placement.2.2 :=
    Plan.admissible_run Plan.moody_admits _ unplaced_admissible
  have counted : libraryScanner.inInitialScan = true →
      0 < unplaced.engine.gate.count libraryScanner.method := by decide +kernel
  obtain ⟨heard, succeeds⟩ := (listeners_hear_addresses (by decide) placement_runs).1
    libraryScanner nearby unplaced_receives rfl rfl
  refine ⟨unplaced_receives, ?_, by decide +kernel, fun r e h runs => ?_⟩
  · rcases heard with ⟨fault, before, failed, -⟩ | ⟨-, start, before, heard, history, -, -, rest⟩
    · rw [succeeds admissible counted] at failed
      cases failed
    · exact ⟨start, before, heard, history, rest.1, rest.2.1⟩
  · have duplicate : receiver? placement.2.1 placed = none := by decide +kernel
    rw [(listeners_hear_addresses (by decide) runs).2 (.inl duplicate)]
    decide +kernel

/-- Listeners are not always told of the interface that a report names. -/
theorem told_of_another_interface :
    ¬∀ (m : Moment) (event : ResolveEvent) (f : Finding) (address : Ip.Address) (e : Engine)
      (h : History), Reached m → Admissible h → 0 ≤ event.port ∧ event.port ≤ 65535 →
      Runs (onResolve event m.engine) m.history (.ok ()) e h →
      receiver? m.engine event = some f → event.kind = .found → event.address = some address →
      ∃ listeners, m.engine.listeners <+: listeners ∧ hearings h = hearings m.history ++
        listeners.map fun listener => (listener, event.ifindex.getD f.ifindex, address) := by
  intro always
  have done : placement.1 = .ok () := rfl
  have runs := placement_runs
  rw [done] at runs
  obtain ⟨listeners, -, heard⟩ := always unplaced placed libraryScanner nearby placement.2.1
    placement.2.2 (Plan.moody.reached _)
    (Plan.admissible_run Plan.moody_admits _ unplaced_admissible) (by decide) runs
    unplaced_receives rfl rfl
  have before : hearings unplaced.history = [] := by decide +kernel
  have after : ("moody", 0, nearby) ∈ hearings placement.2.2 := by decide +kernel
  rw [heard, before, List.nil_append] at after
  obtain ⟨listener, -, same⟩ := List.mem_map.1 after
  cases same

end ScannerDiscovery.Engine
