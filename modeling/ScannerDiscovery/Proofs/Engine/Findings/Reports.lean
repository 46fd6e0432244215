import ScannerDiscovery.Proofs.Endpoint.Order
import ScannerDiscovery.Proofs.Engine.Findings.Harvest

/-!
# What reports make of a finding

The reports that a finding has accepted make everything that is known about it.  A finding that
waits for resolves is what they make of a bare finding, one that has been concluded is the final
form of that; what a report adds does not depend on the others, but for the model and the
identifier, which are those of the first report that has them.

Main definitions:

- `gatheredAll`, `harvest` : a finding with reports taken in, and a bare one with them.
- `Finding.IsFaithful` : findings that are what their reports make of them.
- `reportsWith` : reports with a completion added, if it is one.

Main results:

- `mem_endpoints_gatheredAll`, `mem_addresses_gatheredAll`, `isPublishable_gatheredAll` : what
  reports add.
- `Finding.IsFaithful.received`, `Finding.IsFaithful.absorbed` : a finding after a completion.
-/

namespace ScannerDiscovery

namespace Engine

variable {service : Service} {ifindex : Int}

/-! ## Taking in reports -/

/-- A finding of a service on an interface with what reports say. -/
def gatheredAll (service : Service) (ifindex : Int) (events : List ResolveEvent) (f : Finding) :
    Finding :=
  events.foldl (fun f event => gathered service ifindex event f) f

/-- What several reports say is what the first one says, and then the others. -/
theorem gatheredAll_cons (event : ResolveEvent) (events : List ResolveEvent) (f : Finding) :
    gatheredAll service ifindex (event :: events) f =
      gatheredAll service ifindex events (gathered service ifindex event f) := rfl

/-- What several reports say is what all but the last one say, and then the last one. -/
theorem gatheredAll_concat (events : List ResolveEvent) (event : ResolveEvent) (f : Finding) :
    gatheredAll service ifindex (events ++ [event]) f =
      gathered service ifindex event (gatheredAll service ifindex events f) := by
  simp [gatheredAll]

/-- What reports say changes nothing of how a finding stands. -/
theorem standing_gatheredAll (events : List ResolveEvent) (f : Finding) :
    (gatheredAll service ifindex events f).standing = f.standing := by
  induction events generalizing f with
  | nil => rfl
  | cons event rest ih => rw [gatheredAll_cons, ih, standing_gathered]

/-- What reports say does not depend on what a finding waits for and whether it is counted. -/
theorem gatheredAll_with (events : List ResolveEvent) (f : Finding) (counted : Bool)
    (tracker : Tracker) :
    gatheredAll service ifindex events { f with inInitialScan := counted, tracker } =
      { gatheredAll service ifindex events f with inInitialScan := counted, tracker } := by
  have one (event : ResolveEvent) (f : Finding) :
      gathered service ifindex event { f with inInitialScan := counted, tracker } =
        { gathered service ifindex event f with inInitialScan := counted, tracker } := by
    unfold gathered marked equipped flagged
    repeat' split
    all_goals rfl
  induction events generalizing f with
  | nil => rfl
  | cons event rest ih => rw [gatheredAll_cons, one, ih, gatheredAll_cons]

/-- What each report may add has been added by one of them, unless it was there before. -/
theorem gatheredAll_iff {P : Finding → Prop} {Q : ResolveEvent → Prop}
    (one : ∀ event f, P (gathered service ifindex event f) ↔ P f ∨ Q event)
    (events : List ResolveEvent) (f : Finding) :
    P (gatheredAll service ifindex events f) ↔ P f ∨ ∃ event ∈ events, Q event := by
  induction events generalizing f with
  | nil => simp [gatheredAll]
  | cons event rest ih =>
      rw [gatheredAll_cons, ih, one, or_assoc]
      simp

/-! ### Endpoints -/

/-- The endpoint that a report adds to a finding of a service on an interface. -/
def Adds (service : Service) (ifindex : Int) (event : ResolveEvent) (endpoint : Endpoint) : Prop :=
  service.isScan = true ∧ endpoint? service ifindex event = some (.ok endpoint)

/-- After a report a finding has the endpoints of before and the one that the report adds. -/
theorem mem_endpoints_gathered (event : ResolveEvent) (f : Finding) (endpoint : Endpoint) :
    endpoint ∈ (gathered service ifindex event f).endpoints ↔
      endpoint ∈ f.endpoints ∨ Adds service ifindex event endpoint := by
  unfold gathered marked Adds
  by_cases scan : service.isScan = true
  · rw [if_pos scan]
    cases made : endpoint? service ifindex event with
    | none => simp [equipped, collect]
    | some result =>
        cases result with
        | error broken => simp [equipped, collect]
        | ok endpoint' =>
            change endpoint ∈ endpoint' :: f.endpoints ↔ _
            rw [List.mem_cons, or_comm]
            simp only [scan, true_and, Option.some.injEq, Except.ok.injEq, eq_comm]
  · rw [if_neg scan]
    have none : ¬(service.isScan = true ∧ endpoint? service ifindex event = some (.ok endpoint)) :=
      fun h => scan h.1
    rw [or_iff_left none]
    unfold flagged
    repeat' split
    all_goals exact Iff.rfl

/-- The endpoints of a finding are those that reports have added. -/
theorem mem_endpoints_gatheredAll (events : List ResolveEvent) (f : Finding)
    (endpoint : Endpoint) :
    endpoint ∈ (gatheredAll service ifindex events f).endpoints ↔ endpoint ∈ f.endpoints ∨
      ∃ event ∈ events, Adds service ifindex event endpoint :=
  gatheredAll_iff (P := fun f => endpoint ∈ f.endpoints)
    (fun event f => mem_endpoints_gathered event f endpoint) events f

/-- What a report adds is an endpoint of the protocol of scan services. -/
theorem Adds.proto {event : ResolveEvent} {endpoint : Endpoint}
    (adds : Adds service ifindex event endpoint) : endpoint.proto = .escl := by
  obtain ⟨address, -, made⟩ := Option.bind_eq_some_iff.1 adds.2
  obtain ⟨-, made⟩ := Option.ite_none_right_eq_some.1 made
  have made := Option.some.inj made
  unfold Endpoint.make at made
  split at made
  · cases made
  · simp only at made
    split at made
    · obtain rfl := Except.ok.inj made
      rfl
    · cases made

/-! ### Permission to publish -/

/-- Whether a report marks a finding of a service on an interface as publishable. -/
def Marks (service : Service) (ifindex : Int) (event : ResolveEvent) : Prop :=
  if service.isScan then ∃ endpoint, Adds service ifindex event endpoint
  else Allows service ifindex event

/-- After a report a finding is publishable if it was so before or is marked so by the report. -/
theorem isPublishable_gathered (event : ResolveEvent) (f : Finding) :
    (gathered service ifindex event f).isPublishable = true ↔
      f.isPublishable = true ∨ Marks service ifindex event := by
  unfold gathered marked Marks Adds
  by_cases scan : service.isScan = true
  · rw [if_pos scan, if_pos scan]
    cases made : endpoint? service ifindex event with
    | none => simp [equipped, collect]
    | some result =>
        cases result with
        | error broken => simp [equipped, collect]
        | ok endpoint => simp [equipped, scan]
  · rw [if_neg scan, if_neg scan, Allows, if_neg scan]
    by_cases rule : service.publishRule = .txtScanFlag
    · rw [if_pos rule, if_pos rule]
      cases event.txt.value? "scan" with
      | none => simp [flagged, collect]
      | some flag =>
          by_cases set : Text.lower flag = "t"
          · simp [flagged, set]
          · simp [flagged, set, collect]
    · rw [if_neg rule, if_neg rule]
      simp

/-- A finding is publishable if one of its reports has marked it. -/
theorem isPublishable_gatheredAll (events : List ResolveEvent) (f : Finding) :
    (gatheredAll service ifindex events f).isPublishable = true ↔ f.isPublishable = true ∨
      ∃ event ∈ events, Marks service ifindex event :=
  gatheredAll_iff (P := fun f => f.isPublishable = true) isPublishable_gathered events f

/-- A report whose port exists marks a finding exactly if it allows it to be published. -/
theorem marks_iff_allows {event : ResolveEvent} (port : 0 ≤ event.port ∧ event.port ≤ 65535) :
    Marks service ifindex event ↔ Allows service ifindex event := by
  unfold Marks
  by_cases scan : service.isScan = true
  · rw [if_pos scan, Allows, if_pos scan]
    constructor
    · rintro ⟨endpoint, -, made⟩
      obtain ⟨address, given, made⟩ := Option.bind_eq_some_iff.1 made
      exact ⟨address, given, (Option.ite_none_right_eq_some.1 made).1⟩
    · rintro ⟨address, given, connectable⟩
      obtain ⟨scheme, -, made⟩ := Endpoint.make_of_port scan address port
        (event.txt.value? "rs") (event.ifindex.getD ifindex)
      obtain ⟨endpoint, made⟩ : ∃ endpoint, Endpoint.make service address event.port
        (event.txt.value? "rs") (event.ifindex.getD ifindex) = .ok endpoint := ⟨_, made⟩
      refine ⟨endpoint, scan, ?_⟩
      rw [endpoint?, Option.mem_def.1 given, Option.bind_some, if_pos connectable, made]
  · rw [if_neg scan]

/-! ### Addresses, model and identifier -/

/-- After a report a finding has the addresses of before and the one that the report names. -/
theorem addresses_gathered (event : ResolveEvent) (f : Finding) :
    (gathered service ifindex event f).addresses = match event.address with
      | some address => (f.addresses.add address).1
      | none => f.addresses := by
  unfold gathered marked equipped flagged
  repeat' split
  all_goals simp_all [collect]

/-- The addresses of a finding are those that reports have named. -/
theorem mem_addresses_gatheredAll (events : List ResolveEvent) (f : Finding)
    (address : Ip.Address) :
    address ∈ (gatheredAll service ifindex events f).addresses.toList ↔
      address ∈ f.addresses.toList ∨ ∃ event ∈ events, event.address = some address := by
  refine gatheredAll_iff (P := fun f => address ∈ f.addresses.toList) (fun event f => ?_) events f
  rw [addresses_gathered]
  cases event.address with
  | none => simp
  | some address' => simp [Ip.AddressSet.mem_add, or_comm, eq_comm]

/-- No address of a finding is listed twice. -/
theorem nodup_addresses_gatheredAll (events : List ResolveEvent) {f : Finding}
    (nodup : f.addresses.toList.Nodup) :
    (gatheredAll service ifindex events f).addresses.toList.Nodup := by
  induction events generalizing f with
  | nil => exact nodup
  | cons event rest ih =>
      rw [gatheredAll_cons]
      refine ih ?_
      rw [addresses_gathered]
      cases event.address with
      | none => exact nodup
      | some address => exact Ip.AddressSet.nodup_add nodup address

/-! ## Findings that are what their reports make of them -/

/-- A finding about which nothing is known yet. -/
def bare (f : Finding) : Finding :=
  { f with
    model := none
    uuid := none
    addresses := .empty
    endpoints := []
    isPublishable := false
    isPublished := false
    state := .discovering }

/-- What reports make of a bare finding. -/
def harvest (f : Finding) (events : List ResolveEvent) : Finding :=
  gatheredAll f.service f.ifindex events (bare f)

/-- How a finding stands as long as it has not been concluded. -/
def unconcluded (s : Standing) : Standing :=
  { s with isPublished := false, state := .discovering }

/-- A finding made of reports stands as one does that has not been concluded. -/
theorem standing_harvest (f : Finding) (events : List ResolveEvent) :
    (harvest f events).standing = unconcluded f.standing :=
  standing_gatheredAll events (bare f)

/-- Conclusion changes nothing but whether a finding is published. -/
theorem unconcluded_finalForm (f : Finding) :
    unconcluded (finalForm f).standing = unconcluded f.standing := by
  unfold finalForm
  split <;> rfl

/-- A bare finding shows nothing but how it stands unless it has been concluded. -/
theorem bare_eq_of_standing {f g : Finding}
    (same : unconcluded f.standing = unconcluded g.standing) : bare f = bare g := by
  simp only [unconcluded, Finding.standing, Standing.mk.injEq] at same
  obtain ⟨hnumber, hservice, hifindex, hname, hcounted, -, -, htracker⟩ := same
  simp only [bare, hnumber, hservice, hifindex, hname, hcounted, htracker]

/-- What reports make of a finding depends on nothing else that is known about it. -/
theorem harvest_congr {f g : Finding} (same : bare f = bare g) (events : List ResolveEvent) :
    harvest f events = harvest g events := by
  change gatheredAll (bare f).service (bare f).ifindex events (bare f) = _
  rw [same]
  rfl

/-- What reports make of a finding depends neither on whether it is counted nor on what it waits
for. -/
theorem harvest_with (f : Finding) (events : List ResolveEvent) (counted : Bool)
    (tracker : Tracker) :
    harvest { f with inInitialScan := counted, tracker } events =
      { harvest f events with inInitialScan := counted, tracker } :=
  gatheredAll_with events (bare f) counted tracker

end Engine

namespace Finding

open Engine

variable {f : Finding} {events : List ResolveEvent}

/-- Whether a finding is what its reports make of it: it has taken them in, or been concluded with
them. -/
def IsFaithful (f : Finding) (events : List ResolveEvent) : Prop :=
  f = harvest f events ∨ (f.tracker.pending = [] ∧ f = finalForm (harvest f events))

/-- A finding that has been concluded is in one of two stages. -/
theorem state_finalForm (f : Finding) :
    (finalForm f).state = .published ∨ (finalForm f).state = .unpublished := by
  unfold finalForm
  split
  · exact .inl rfl
  · exact .inr rfl

/-- A faithful finding that waits for something has taken in its reports. -/
theorem IsFaithful.of_pending (faithful : f.IsFaithful events) (waits : f.tracker.pending ≠ []) :
    f = harvest f events :=
  faithful.resolve_right fun concluded => waits concluded.1

/-- A faithful finding that waits for something is being discovered and not published. -/
theorem IsFaithful.waiting (faithful : f.IsFaithful events) (waits : f.tracker.pending ≠ []) :
    f.state = .discovering ∧ f.isPublished = false := by
  have stands := standing_harvest f events
  rw [← faithful.of_pending waits] at stands
  exact ⟨congrArg Standing.state stands, congrArg Standing.isPublished stands⟩

/-- Whether a finding is counted is no concern of its reports. -/
theorem IsFaithful.uncounted (faithful : f.IsFaithful events) (counted : Bool) :
    IsFaithful { f with inInitialScan := counted } events := by
  have same := harvest_with f events counted f.tracker
  rcases faithful with gathered | ⟨idle, concluded⟩
  · refine .inl ?_
    rw [same, ← gathered]
  · refine .inr ⟨idle, ?_⟩
    have form : finalForm { harvest f events with inInitialScan := counted, tracker := f.tracker } =
        { finalForm (harvest f events) with inInitialScan := counted, tracker := f.tracker } := by
      unfold finalForm
      split <;> rfl
    rw [same, form, ← concluded]

/-- What a finding that is being discovered waits for is no concern of its reports. -/
theorem tracking_eq_harvest (gathered : f = harvest f events) (tracker : Tracker) :
    { f with tracker } = harvest { f with tracker } events := by
  rw [harvest_with f events f.inInitialScan tracker, ← gathered]

/-- The reports of a finding after a completion has been received. -/
def reportsWith (events : List ResolveEvent) (event : ResolveEvent) : List ResolveEvent :=
  if event.kind = .found then events ++ [event] else events

/-- A completion that is received adds its report, if it is one. -/
theorem received_eq_harvest (gathered : f = harvest f events) (event : ResolveEvent) :
    received event f = harvest (received event f) (reportsWith events event) := by
  have stands := standing_harvest f events
  rw [← gathered] at stands
  have same : bare (received event f) =
      bare { f with tracker := (f.tracker.complete event.op).1 } := by
    apply bare_eq_of_standing
    rw [standing_received]
    rfl
  rw [harvest_congr same]
  have tracked := harvest_with f events f.inInitialScan (f.tracker.complete event.op).1
  rw [← gathered] at tracked
  unfold received reportsWith
  simp only
  split
  · change _ = gatheredAll f.service f.ifindex (events ++ [event]) (bare _)
    rw [gatheredAll_concat]
    exact congrArg (Engine.gathered f.service f.ifindex event) tracked.symm
  · exact tracked.symm

/-- A completion that a faithful finding waits for leaves it faithful, -/
theorem IsFaithful.received (faithful : f.IsFaithful events) {event : ResolveEvent}
    (pending : event.op ∈ f.tracker.pending) :
    (received event f).IsFaithful (reportsWith events event) :=
  .inl (received_eq_harvest (faithful.of_pending (List.ne_nil_of_mem pending)) event)

/-- also if it is the last one. -/
theorem IsFaithful.absorbed (faithful : f.IsFaithful events) {event : ResolveEvent}
    (pending : event.op ∈ f.tracker.pending) :
    (absorbed event f).IsFaithful (reportsWith events event) := by
  have gathered := faithful.of_pending (List.ne_nil_of_mem pending)
  have receives := received_eq_harvest gathered event
  unfold Engine.absorbed
  split
  · rename_i last
    have stands := standing_received event f
    have standsFinal := unconcluded_finalForm (Engine.received event f)
    refine .inr ⟨?_, ?_⟩
    · have idle : (f.tracker.complete event.op).1.pending = [] := List.isEmpty_iff.1 last
      have tracker : (finalForm (Engine.received event f)).tracker =
          (Engine.received event f).tracker := congrArg Standing.tracker standsFinal
      have same := congrArg Standing.tracker stands
      rw [tracker, ← idle]
      exact congrArg Tracker.pending same
    · rw [harvest_congr (bare_eq_of_standing standsFinal), ← receives]
  · exact .inl receives

end Finding

end ScannerDiscovery
