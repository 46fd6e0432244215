import ScannerDiscovery.Proofs.Engine.Findings.Ledger
import ScannerDiscovery.Proofs.Engine.Findings.Publication

/-!
# Ledgers that match

Two ledgers match if they differ in the order of addresses and, as long as a finding is being
discovered, of endpoints only.  Ledgers that match still do when a completion has been taken in.

Main definitions:

- `Finding.Matches`, `Snapshot.Matches`, `Ledger.Matches` : the same but for such an order.

Main results:

- `Finding.Matches.received`, `Finding.Matches.finalForm` : a completion leaves findings matching.
- `Ledger.Matches.take` : so it does ledgers.
-/

namespace ScannerDiscovery

namespace Ip.AddressSet

variable {s t : AddressSet}

/-- Sets in different order stay so when an address is added. -/
theorem perm_add (perm : s.toList.Perm t.toList) (x : Address) :
    (s.add x).1.toList.Perm (t.add x).1.toList := by
  simp only [toList_add, perm.mem_iff]
  split
  · exact perm
  · exact perm.append_right [x]

/-- Addresses can be added in either order. -/
theorem add_interchange (s : AddressSet) (x y : Address) :
    ((s.add x).1.add y).1.toList.Perm ((s.add y).1.add x).1.toList := by
  simp only [toList_add]
  by_cases hxy : x = y
  · rw [hxy]
  · have hyx : y ≠ x := fun heq => hxy heq.symm
    by_cases hx : x ∈ s.toList <;> by_cases hy : y ∈ s.toList <;>
      simp [hx, hy, hxy, hyx, List.perm_append_left_iff, List.Perm.swap]

end Ip.AddressSet

/-! ## Findings and snapshots -/

/-- Whether two findings are the same but for the order of addresses and, until they have been
finalized, of endpoints. -/
structure Finding.Matches (f g : Finding) : Prop where
  standing : f.standing = g.standing
  publishable : f.isPublishable = g.isPublishable
  model : f.model = g.model
  uuid : f.uuid = g.uuid
  addresses : f.addresses.toList.Perm g.addresses.toList
  endpoints : f.endpoints.Perm g.endpoints
  final : f.IsFinal → f.endpoints = g.endpoints

/-- Whether two snapshots are the same but for the order of addresses. -/
structure Snapshot.Matches (s t : Snapshot) : Prop where
  same : { s with addresses := t.addresses } = t
  addresses : s.addresses.Perm t.addresses

/-- A snapshot matches itself. -/
theorem Snapshot.Matches.refl (s : Snapshot) : s.Matches s :=
  ⟨rfl, .refl _⟩

/-- Matching snapshots is transitive. -/
theorem Snapshot.Matches.trans {s t u : Snapshot} (first : s.Matches t) (second : t.Matches u) :
    s.Matches u := by
  refine ⟨?_, first.addresses.trans second.addresses⟩
  rw [← second.same, ← first.same]

namespace Engine

variable {f g : Finding} {event : ResolveEvent}

/-! ## What a completion brings -/

/-- The address that a completion brings, if it does. -/
def namedBy (event : ResolveEvent) : Option Ip.Address :=
  if event.kind = .found then event.address else none

/-- The value under a key of the text record that a completion brings, if it does. -/
def saidBy (event : ResolveEvent) (key : String) : Option String :=
  if event.kind = .found then event.txt.value? key else none

/-- A completion adds the address that it brings to those before. -/
theorem addresses_received (event : ResolveEvent) (f : Finding) :
    (received event f).addresses = match namedBy event with
      | some address => (f.addresses.add address).1
      | none => f.addresses := by
  unfold received namedBy
  split
  · exact addresses_gathered _ _
  · rfl

/-- The model is the first one that a completion says. -/
theorem model_received (event : ResolveEvent) (f : Finding) :
    (received event f).model = f.model.or (saidBy event "ty") := by
  unfold received saidBy
  split
  · unfold gathered marked equipped flagged
    cases h : f.model <;> (repeat' split) <;> simp_all [collect]
  · simp

/-- The identifier is the first one that a completion says and that is well-formed. -/
theorem uuid_received (event : ResolveEvent) (f : Finding) :
    (received event f).uuid = f.uuid.or (Uuid.parse? (saidBy event "uuid")) := by
  unfold received saidBy
  split
  · unfold gathered marked equipped flagged
    cases h : f.uuid <;> (repeat' split) <;> simp_all [collect]
  · cases f.uuid <;> rfl

/-- A completion that is received leaves a finding its service. -/
theorem service_received (event : ResolveEvent) (f : Finding) :
    (received event f).service = f.service :=
  congrArg Standing.service (standing_received event f)

/-- A completion that is received leaves a finding its interface. -/
theorem ifindex_received (event : ResolveEvent) (f : Finding) :
    (received event f).ifindex = f.ifindex :=
  congrArg Standing.ifindex (standing_received event f)

/-- A completion makes a finding publishable if its report marks it. -/
theorem isPublishable_received (event : ResolveEvent) (f : Finding) :
    (received event f).isPublishable = true ↔
      f.isPublishable = true ∨ (event.kind = .found ∧ Marks f.service f.ifindex event) := by
  unfold received
  split
  · rename_i found
    exact (isPublishable_gathered _ _).trans (or_congr_right (by simp [found]))
  · rename_i missed
    simp [missed]

end Engine

namespace Finding.Matches

open Engine

variable {f g k : Finding}

/-- A finding matches itself. -/
theorem refl (f : Finding) : f.Matches f :=
  ⟨rfl, rfl, rfl, rfl, .refl _, .refl _, fun _ => rfl⟩

/-- Matching findings is transitive. -/
theorem trans (first : f.Matches g) (second : g.Matches k) : f.Matches k where
  standing := first.standing.trans second.standing
  publishable := first.publishable.trans second.publishable
  model := first.model.trans second.model
  uuid := first.uuid.trans second.uuid
  addresses := first.addresses.trans second.addresses
  endpoints := first.endpoints.trans second.endpoints
  final final := by
    have state : f.state = g.state := congrArg Standing.state first.standing
    have final' : g.IsFinal := by rwa [IsFinal, ← state]
    exact (first.final final).trans (second.final final')

/-- Matching findings have one number. -/
theorem number (matching : f.Matches g) : f.number = g.number :=
  congrArg Standing.number matching.standing

/-- Matching findings have one service. -/
theorem service (matching : f.Matches g) : f.service = g.service :=
  congrArg Standing.service matching.standing

/-- Matching findings have one interface. -/
theorem ifindex (matching : f.Matches g) : f.ifindex = g.ifindex :=
  congrArg Standing.ifindex matching.standing

/-- Matching findings have one key. -/
theorem key (matching : f.Matches g) : f.key = g.key :=
  congrArg (fun s : Standing => FindingKey.of s.service s.ifindex s.name) matching.standing

/-- Matching findings wait for the same completions. -/
theorem tracker (matching : f.Matches g) : f.tracker = g.tracker :=
  congrArg Standing.tracker matching.standing

/-- Snapshots of findings that match do so if the endpoints are the same. -/
theorem snapshot (matching : f.Matches g) (endpoints : f.endpoints = g.endpoints) :
    f.snapshot.Matches g.snapshot := by
  refine ⟨?_, matching.addresses⟩
  have name : f.name = g.name := congrArg Standing.name matching.standing
  simp only [Finding.snapshot, matching.service, matching.ifindex, name, matching.model,
    matching.uuid, endpoints]

/-! ## After a completion -/

/-- Findings that are being discovered and match still do when both have received a completion. -/
theorem received (matching : f.Matches g) (discovering : f.state = .discovering)
    (event : ResolveEvent) : (received event f).Matches (received event g) where
  standing := by
    rw [standing_received, standing_received, matching.standing, matching.tracker]
  publishable := by
    rw [Bool.eq_iff_iff, isPublishable_received, isPublishable_received, matching.publishable,
      matching.service, matching.ifindex]
  model := by
    rw [model_received, model_received, matching.model]
  uuid := by
    rw [uuid_received, uuid_received, matching.uuid]
  addresses := by
    rw [addresses_received, addresses_received]
    cases namedBy event with
    | none => exact matching.addresses
    | some address => exact Ip.AddressSet.perm_add matching.addresses address
  endpoints := by
    rw [endpoints_received, endpoints_received, matching.service, matching.ifindex]
    exact matching.endpoints.append_left _
  final final := by
    have state : (Engine.received event f).state = f.state :=
      congrArg Standing.state (standing_received event f)
    simp [IsFinal, state, discovering] at final

/-- Findings that match still do when both have been brought into their final form. -/
theorem finalForm (matching : f.Matches g) (escl : Endpoint.OfProto .escl f.endpoints) :
    (finalForm f).Matches (finalForm g) ∧
      (Engine.finalForm f).endpoints = (Engine.finalForm g).endpoints := by
  have published : f.isPublished = g.isPublished :=
    congrArg Standing.isPublished matching.standing
  have name : f.name = g.name := congrArg Standing.name matching.standing
  have counted : f.inInitialScan = g.inInitialScan :=
    congrArg Standing.inInitialScan matching.standing
  have endpoints : (Engine.finalForm f).endpoints = (Engine.finalForm g).endpoints := by
    rw [endpoints_finalForm, endpoints_finalForm]
    exact Endpoint.sortAndDedup_congr escl.unmixed fun e => matching.endpoints.mem_iff
  refine ⟨⟨?_, ?_, ?_, ?_, ?_, ?_, fun _ => endpoints⟩, endpoints⟩
  · unfold Engine.finalForm
    rw [matching.publishable, published]
    split <;> simp only [Finding.standing, completed, matching.number, matching.service,
      matching.ifindex, name, counted, published, matching.tracker]
  · unfold Engine.finalForm
    split <;> split <;> exact matching.publishable
  · rw [model_finalForm, model_finalForm, matching.model, name]
  · rw [uuid_finalForm, uuid_finalForm, matching.uuid, name]
  · rw [addresses_finalForm, addresses_finalForm]
    exact matching.addresses
  · rw [endpoints]

end Finding.Matches

namespace Engine

variable {f g : Finding} {a b : ResolveEvent}

/-- Whether a completion is the last one depends on what is waited for. -/
theorem isLast_congr (matching : f.Matches g) (event : ResolveEvent) :
    isLast event f = isLast event g := by
  rw [isLast, isLast, matching.tracker]

/-- Findings that match when they have received completions match when they have advanced. -/
theorem matches_advanced (last : isLast a f = isLast b g)
    (matching : (received a f).Matches (received b g))
    (escl : Endpoint.OfProto .escl (received a f).endpoints) :
    (advanced a f).Matches (advanced b g) := by
  unfold advanced
  rw [last]
  split
  · obtain ⟨⟨standing, publishable, model, uuid, addresses, endpoints, final⟩, -⟩ :=
      matching.finalForm escl
    refine ⟨?_, publishable, model, uuid, addresses, endpoints, final⟩
    exact congrArg (fun s : Standing => { s with inInitialScan := false }) standing
  · exact matching

/-- What is published of them matches, if anything is. -/
theorem rel_issued (last : isLast a f = isLast b g)
    (matching : (received a f).Matches (received b g))
    (escl : Endpoint.OfProto .escl (received a f).endpoints) :
    Option.Rel Snapshot.Matches (issued? a f) (issued? b g) := by
  have published : (received a f).isPublished = (received b g).isPublished :=
    congrArg Standing.isPublished matching.standing
  unfold issued?
  rw [last, matching.publishable, published]
  split
  · obtain ⟨final, endpoints⟩ := matching.finalForm escl
    exact .some (final.snapshot endpoints)
  · exact .none

/-- They are counted off alike. -/
theorem gateAfter_congr (last : isLast a f = isLast b g)
    (standing : (received a f).standing = (received b g).standing) (gate : Gate) :
    gateAfter a f gate = gateAfter b g gate := by
  have counted := congrArg Standing.inInitialScan standing
  have method := congrArg (fun s : Standing => s.service.method) standing
  have counted : f.inInitialScan = g.inInitialScan :=
    (inInitialScan_received a f).symm.trans (counted.trans (inInitialScan_received b g))
  have method : f.method = g.method :=
    (method_received a f).symm.trans (method.trans (method_received b g))
  rw [gateAfter, gateAfter, last, counted, method]

/-! ## Ledgers -/

/-- If a relation is transitive, so is its extension to lists. -/
theorem forall₂_trans {α : Type} {R : α → α → Prop} (trans : ∀ a b c, R a b → R b c → R a c)
    {l l' l'' : List α} (first : List.Forall₂ R l l') (second : List.Forall₂ R l' l'') :
    List.Forall₂ R l l'' := by
  induction first generalizing l'' with
  | nil => exact second
  | cons hab _ ih =>
      cases second with
      | cons hbc rest => exact .cons (trans _ _ _ hab hbc) (ih rest)

/-- Lists that are related entry by entry have related first entries of a kind. -/
theorem rel_find? {α : Type} {R : α → α → Prop} {p q : α → Bool} {l l' : List α}
    (related : List.Forall₂ R l l') (same : ∀ a b, R a b → p a = q b) :
    Option.Rel R (l.find? p) (l'.find? q) := by
  induction related with
  | nil => exact .none
  | @cons a b _ _ hab _ ih =>
      rw [List.find?_cons, List.find?_cons, same a b hab]
      cases q b with
      | true => exact .some hab
      | false => exact ih

/-- Of two related pairs of options, the first ones that are there are related. -/
theorem rel_or {α : Type} {R : α → α → Prop} {a a' b b' : Option α} (first : Option.Rel R a a')
    (second : Option.Rel R b b') : Option.Rel R (a.or b) (a'.or b') := by
  cases first with
  | some related => exact .some related
  | none => exact second

/-- Whether two ledgers are the same but for the order of addresses and, in findings that have not
been finalized, of endpoints. -/
structure Ledger.Matches (l l' : Ledger) : Prop where
  live : List.Forall₂ Finding.Matches l.registry.live l'.registry.live
  removed : l.registry.removed = l'.registry.removed
  gate : l.gate = l'.gate
  resolving : l.resolving = l'.resolving
  shown : ∀ key, Option.Rel Snapshot.Matches (l.shown key) (l'.shown key)
  done : l.done = l'.done

namespace Ledger.Matches

variable {l l' l'' : Ledger} {f g : Finding} {a b : ResolveEvent}

/-- A ledger matches itself. -/
theorem refl (l : Ledger) : l.Matches l where
  live := List.forall₂_same.2 fun f _ => .refl f
  removed := rfl
  gate := rfl
  resolving := rfl
  shown key := by
    cases l.shown key with
    | none => exact .none
    | some s => exact .some (.refl s)
  done := rfl

/-- Matching ledgers is transitive. -/
theorem trans (first : l.Matches l') (second : l'.Matches l'') : l.Matches l'' where
  live := forall₂_trans (R := Finding.Matches) (fun _ _ _ => .trans) first.live second.live
  removed := first.removed.trans second.removed
  gate := first.gate.trans second.gate
  resolving := first.resolving.trans second.resolving
  shown key := by
    have hfirst := first.shown key
    have hsecond := second.shown key
    revert hfirst hsecond
    generalize l.shown key = s
    generalize l'.shown key = t
    generalize l''.shown key = u
    rintro (hst | _) htu
    · obtain ⟨htu⟩ := htu
      exact .some (hst.trans htu)
    · exact htu
  done := first.done.trans second.done

/-- A completion is received by findings that match, or by none. -/
theorem receiver? (matching : l.Matches l') (event : ResolveEvent) :
    Option.Rel Finding.Matches (l.receiver? event) (l'.receiver? event) := by
  have all : List.Forall₂ Finding.Matches (l.registry.live ++ l.registry.removed)
      (l'.registry.live ++ l'.registry.removed) :=
    List.rel_append matching.live
      (matching.removed ▸ List.forall₂_same.2 fun f _ => Finding.Matches.refl f)
  unfold Ledger.receiver?
  rw [matching.resolving]
  cases l'.resolving.get? event.op with
  | none => exact .none
  | some number =>
      have found := rel_find? all (p := (·.number == number)) (q := (·.number == number))
        fun f g matching => by rw [matching.number]
      simp only [Option.bind_some, Registry.get?]
      revert found
      generalize (l.registry.live ++ l.registry.removed).find? _ = s
      generalize (l'.registry.live ++ l'.registry.removed).find? _ = t
      rintro (@⟨f, g, hfg⟩ | _)
      · rw [Option.filter_some, Option.filter_some, hfg.tracker]
        split
        · exact .some hfg
        · exact .none
      · exact .none

/-- Ledgers that match still do when findings that match have received completions. -/
theorem revised (matching : l.Matches l') (gone : ∀ k ∈ l.registry.removed, k.number ≠ f.number)
    (last : isLast a f = isLast b g) (hreceived : (received a f).Matches (received b g))
    (escl : Endpoint.OfProto .escl (received a f).endpoints)
    (resolving : OrderedMap Ticket Nat) :
    { l.revised a f with resolving }.Matches { l'.revised b g with resolving } := by
  have number : f.number = g.number :=
    (number_received a f).symm.trans (hreceived.number.trans (number_received b g))
  have key : f.key = g.key :=
    (key_received a f).symm.trans (hreceived.key.trans (key_received b g))
  have gate : gateAfter a f l.gate = gateAfter b g l'.gate := by
    rw [matching.gate, gateAfter_congr last hreceived.standing]
  refine ⟨?_, ?_, gate, rfl, fun k => ?_, ?_⟩
  · refine List.rel_map (fun j k hjk => ?_) matching.live
    rw [hjk.number, number]
    split
    · exact matches_advanced last hreceived escl
    · exact hjk
  · simp only [Ledger.revised, Registry.modify]
    rw [← matching.removed, ← number, Registry.map_update_eq_self gone,
      Registry.map_update_eq_self gone]
  · simp only [Ledger.revised, key]
    split
    · exact rel_or (rel_issued last hreceived escl) (matching.shown k)
    · exact matching.shown k
  · simp only [Ledger.revised, Ledger.regated]
    rw [gate, matching.done, matching.gate]

/-- Ledgers that match still do when a completion has been taken in. -/
theorem take (sound : l.Sound) (matching : l.Matches l') (event : ResolveEvent) :
    (l.take event).Matches (l'.take event) := by
  have receives := matching.receiver? event
  unfold Ledger.take
  cases hf : l.receiver? event with
  | none =>
      cases hg : l'.receiver? event with
      | none => exact { matching with resolving := congrArg (·.erase event.op) matching.resolving }
      | some g =>
          rw [hf, hg] at receives
          cases receives
  | some f =>
      cases hg : l'.receiver? event with
      | none =>
          rw [hf, hg] at receives
          cases receives
      | some g =>
          rw [hf, hg] at receives
          obtain ⟨hfg⟩ := receives
          obtain ⟨-, live, pending⟩ := sound.receiver hf
          obtain ⟨discovering, -, escl⟩ := sound.waiting f live (List.ne_nil_of_mem pending)
          have revised := matching.revised
            (fun k hk => sound.numbered.removed_ne live hk) (isLast_congr hfg event)
            (hfg.received discovering event) (ofProto_received escl event) l.resolving
          exact { revised with resolving := congrArg (·.erase event.op) matching.resolving }

/-- So they do when completions have been taken in one after another. -/
theorem foldl_take (sound : l.Sound) (matching : l.Matches l') (events : List ResolveEvent) :
    (events.foldl Ledger.take l).Matches (events.foldl Ledger.take l') := by
  induction events generalizing l l' with
  | nil => exact matching
  | cons event rest ih => exact ih (sound.take event) (matching.take sound event)

end Ledger.Matches

end Engine

end ScannerDiscovery
