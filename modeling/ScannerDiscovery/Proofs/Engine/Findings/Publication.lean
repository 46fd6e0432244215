import ScannerDiscovery.Proofs.Catalog.Devices
import ScannerDiscovery.Proofs.Endpoint.Host
import ScannerDiscovery.Proofs.Engine.Findings.Conduct
import ScannerDiscovery.Proofs.Engine.Safety

/-!
# What is published

What reaches the catalog are the snapshots of findings that their reports allow to be published,
and of no others; and a snapshot shows what the reports of its finding say.

Main definitions:

- `Finding.IsFinal` : findings that have been finalized.
- `Snapshot.Presents` : snapshots that show what reports say.

Main results:

- `published_as_reported` : what is published, and how it looks.
-/

namespace ScannerDiscovery

/-- Whether a finding has been finalized. -/
def Finding.IsFinal (f : Finding) : Prop :=
  f.state = .published ∨ f.state = .unpublished

/-- Whether an endpoint leads to an address of a snapshot: its scheme is that of the service, and
its host is the address, with an interface as its zone if it is a link-local IPv6 address. -/
def Snapshot.LeadsBy (s : Snapshot) (endpoint : Endpoint) : Prop :=
  ∃ address ∈ s.addresses, ∃ ifindex uri, Engine.Connectable address ifindex ∧
    Uri.split endpoint.uri.toList = .ok uri ∧
    s.service.scheme? = some (String.ofList uri.scheme) ∧
    uri.host? = some (Endpoint.hostText address ifindex) ∧
    Endpoint.address? endpoint.uri = some address.unscoped

/-- Whether a snapshot shows what reports say: that of a scan service has the endpoints that they
add, in canonical order, and any other has none. -/
structure Snapshot.Presents (s : Snapshot) (events : List ResolveEvent) : Prop where
  model : s.model.isSome = true
  uuid : s.uuid.isSome = true
  addresses : s.addresses.Nodup
  named : ∀ address, address ∈ s.addresses ↔ ∃ event ∈ events, event.address = some address
  endpoints : ∀ endpoint, endpoint ∈ s.endpoints ↔
    ∃ event ∈ events, Engine.Adds s.service s.ifindex event endpoint
  strict : Endpoint.Strict s.endpoints
  scan : s.service.isScan = true → s.endpoints ≠ []
  other : s.service.isScan = false → s.endpoints = []
  leads : ∀ endpoint ∈ s.endpoints, s.LeadsBy endpoint

namespace Engine

variable {f : Finding} {events : List ResolveEvent} {h : History} {e : Engine} {number : Nat}
  {event : ResolveEvent}

/-! ## Reports with ports -/

/-- A report is taken in by a turn that comes upon it. -/
theorem next?_of_report? (report : report? e = some (number, event)) :
    e.next? = some (.notice (.resolve event)) ∧ event.kind = .found := by
  unfold report? at report
  split at report
  · rename_i event' next
    obtain ⟨found, report⟩ := Option.ite_none_right_eq_some.1 report
    obtain ⟨f, -, heq⟩ := Option.map_eq_some_iff.1 report
    obtain ⟨-, rfl⟩ := Prod.mk.inj heq
    exact ⟨next, found⟩
  · cases report

/-- The reports of a finding have been taken in by turns. -/
theorem exists_called_of_mem_reports (hevent : event ∈ reports number h) :
    ∃ e, .called e .turn ∈ h ∧ report? e = some (number, event) := by
  induction h with
  | nil => cases hevent
  | cons entry h ih =>
      have earlier (hevent : event ∈ reports number h) :
          ∃ e, .called e .turn ∈ entry :: h ∧ report? e = some (number, event) := by
        obtain ⟨e, called, report⟩ := ih hevent
        exact ⟨e, List.mem_cons_of_mem entry called, report⟩
      cases entry with
      | asked e request answer => exact earlier hevent
      | called e call =>
          cases call with
          | turn =>
              rw [reports_called] at hevent
              cases report : report? e with
              | none => exact earlier (by simpa [report] using hevent)
              | some taken =>
                  obtain ⟨n, event'⟩ := taken
                  simp only [report] at hevent
                  split at hevent
                  · rename_i hn
                    rcases List.mem_append.1 hevent with hevent | hevent
                    · exact earlier hevent
                    · rw [List.mem_singleton.1 hevent, ← hn]
                      exact ⟨e, List.mem_cons_self, report⟩
                  · exact earlier hevent
          | _ => exact earlier hevent

/-- Where all ports exist, those of reports do. -/
theorem PortsExist.of_mem_reports (ports : PortsExist h) (hevent : event ∈ reports number h) :
    0 ≤ event.port ∧ event.port ≤ 65535 := by
  obtain ⟨e, called, report⟩ := exists_called_of_mem_reports hevent
  obtain ⟨next, found⟩ := next?_of_report? report
  exact ports _ (mem_handledEvents called next) found

/-! ## Publication -/

/-- A faithful finding that is published or finalized has been concluded with its reports. -/
theorem eq_finalForm_of_faithful (faithful : f.IsFaithful events)
    (settled : f.IsFinal ∨ f.isPublished = true) : f = finalForm (harvest f events) := by
  refine (faithful.resolve_left fun gathered => ?_).2
  have stands := standing_harvest f events
  rw [← gathered] at stands
  have discovering : f.state = .discovering := congrArg Standing.state stands
  have hidden : f.isPublished = false := congrArg Standing.isPublished stands
  simp [Finding.IsFinal, discovering, hidden] at settled

/-- A published finding is final. -/
theorem isFinal_of_published (faithful : f.IsFaithful events) (published : f.isPublished = true) :
    f.IsFinal := by
  rw [eq_finalForm_of_faithful faithful (.inr published)]
  exact Finding.state_finalForm _

/-- A finding that has been finalized is published if one of its reports has marked it. -/
theorem isPublished_iff_marks (faithful : f.IsFaithful events) (final : f.IsFinal) :
    f.isPublished = true ↔ ∃ event ∈ events, Marks f.service f.ifindex event := by
  have hidden : (harvest f events).isPublished = false :=
    congrArg Standing.isPublished (standing_harvest f events)
  have marked : (harvest f events).isPublishable = true ↔ (bare f).isPublishable = true ∨
      ∃ event ∈ events, Marks f.service f.ifindex event := isPublishable_gatheredAll events (bare f)
  have concluded := congrArg Finding.isPublished (eq_finalForm_of_faithful faithful (.inl final))
  rw [isPublished_finalForm hidden] at concluded
  rw [concluded]
  exact marked.trans (or_iff_right (by simp [bare]))

/-! ## Snapshots -/

/-- The endpoints of a published finding are those that its reports add. -/
theorem mem_endpoints_of_published (faithful : f.IsFaithful events)
    (published : f.isPublished = true) (endpoint : Endpoint) :
    endpoint ∈ f.endpoints ↔ ∃ event ∈ events, Adds f.service f.ifindex event endpoint := by
  have concluded := congrArg Finding.endpoints (eq_finalForm_of_faithful faithful (.inr published))
  have added : endpoint ∈ (harvest f events).endpoints ↔ endpoint ∈ (bare f).endpoints ∨
      ∃ event ∈ events, Adds f.service f.ifindex event endpoint :=
    mem_endpoints_gatheredAll events (bare f) endpoint
  rw [endpoints_finalForm] at concluded
  rw [concluded, Endpoint.mem_sortAndDedup]
  exact added.trans (or_iff_right (by simp [bare]))

/-- Its addresses are those that its reports name. -/
theorem mem_addresses_of_published (faithful : f.IsFaithful events)
    (published : f.isPublished = true) (address : Ip.Address) :
    address ∈ f.addresses.toList ↔ ∃ event ∈ events, event.address = some address := by
  have concluded := congrArg Finding.addresses (eq_finalForm_of_faithful faithful (.inr published))
  have named : address ∈ (harvest f events).addresses.toList ↔
      address ∈ (bare f).addresses.toList ∨ ∃ event ∈ events, event.address = some address :=
    mem_addresses_gatheredAll events (bare f) address
  rw [addresses_finalForm] at concluded
  rw [concluded]
  exact named.trans (or_iff_right (by simp [bare, Ip.AddressSet.empty]))

/-- What a report adds is made from its address, which can be connected to. -/
theorem Adds.exists_address {service : Service} {ifindex : Int} {endpoint : Endpoint}
    (adds : Adds service ifindex event endpoint) :
    ∃ address scheme, event.address = some address ∧ service.scheme? = some scheme ∧
      Connectable address (event.ifindex.getD ifindex) ∧
      endpoint.uri = Endpoint.compose scheme address event.port (event.txt.value? "rs")
        (event.ifindex.getD ifindex) := by
  obtain ⟨address, given, made⟩ := Option.bind_eq_some_iff.1 adds.2
  obtain ⟨connectable, made⟩ := Option.ite_none_right_eq_some.1 made
  obtain ⟨scheme, hscheme⟩ := Option.isSome_iff_exists.1 adds.1
  refine ⟨address, scheme, given, hscheme, connectable, ?_⟩
  have made := Option.some.inj made
  simp only [Endpoint.make, hscheme] at made
  split at made
  · obtain rfl := Except.ok.inj made
    rfl
  · cases made

/-- The endpoints of a published finding lead to addresses that have been reported. -/
theorem leadsBy_of_published (faithful : f.IsFaithful events) (published : f.isPublished = true)
    {endpoint : Endpoint} (hendpoint : endpoint ∈ f.endpoints) : f.snapshot.LeadsBy endpoint := by
  obtain ⟨event, hevent, adds⟩ :=
    (mem_endpoints_of_published faithful published endpoint).1 hendpoint
  obtain ⟨address, scheme, given, hscheme, connectable, huri⟩ := adds.exists_address
  obtain ⟨uri, hsplit, hparts, hhost⟩ := Endpoint.host?_compose hscheme address event.port
    (event.txt.value? "rs") (event.ifindex.getD f.ifindex)
  refine ⟨address, ?_, event.ifindex.getD f.ifindex, uri, connectable, ?_, ?_, hhost, ?_⟩
  · exact (mem_addresses_of_published faithful published address).2 ⟨event, hevent, given⟩
  · rw [huri]
    exact hsplit
  · rw [hparts, String.ofList_toList]
    exact hscheme
  · rw [huri]
    exact Endpoint.address?_compose hscheme address _ _ _

/-- They are in canonical order, all being of one protocol. -/
theorem strict_of_published (faithful : f.IsFaithful events) (published : f.isPublished = true) :
    Endpoint.Strict f.endpoints := by
  have concluded := congrArg Finding.endpoints (eq_finalForm_of_faithful faithful (.inr published))
  rw [endpoints_finalForm] at concluded
  rw [concluded]
  have escl : Endpoint.OfProto .escl (harvest f events).endpoints := by
    intro endpoint hendpoint
    obtain ⟨event, -, adds⟩ := (mem_endpoints_of_published faithful published endpoint).1
      (by rwa [concluded, Endpoint.mem_sortAndDedup])
    exact adds.proto
  exact Endpoint.strict_sortAndDedup escl.unmixed

/-- The snapshot of a published finding shows what its reports say. -/
theorem presents_of_published (faithful : f.IsFaithful events) (published : f.isPublished = true) :
    f.snapshot.Presents events where
  model := by
    have concluded := congrArg Finding.model (eq_finalForm_of_faithful faithful (.inr published))
    rw [model_finalForm] at concluded
    exact Option.isSome_iff_exists.2 ⟨_, concluded⟩
  uuid := by
    have concluded := congrArg Finding.uuid (eq_finalForm_of_faithful faithful (.inr published))
    rw [uuid_finalForm] at concluded
    exact Option.isSome_iff_exists.2 ⟨_, concluded⟩
  addresses := by
    have concluded := congrArg Finding.addresses
      (eq_finalForm_of_faithful faithful (.inr published))
    rw [addresses_finalForm] at concluded
    change f.addresses.toList.Nodup
    rw [concluded]
    exact nodup_addresses_gatheredAll events List.nodup_nil
  named := mem_addresses_of_published faithful published
  endpoints := mem_endpoints_of_published faithful published
  strict := strict_of_published faithful published
  scan scan := by
    obtain ⟨event, hevent, marks⟩ := (isPublished_iff_marks faithful
      (isFinal_of_published faithful published)).1 published
    rw [Marks, if_pos (show f.service.isScan = true from scan)] at marks
    obtain ⟨endpoint, adds⟩ := marks
    exact List.ne_nil_of_mem
      ((mem_endpoints_of_published faithful published endpoint).2 ⟨event, hevent, adds⟩)
  other other := by
    refine List.eq_nil_iff_forall_not_mem.2 fun endpoint hendpoint => ?_
    obtain ⟨event, -, adds⟩ := (mem_endpoints_of_published faithful published endpoint).1 hendpoint
    exact absurd (adds.1.symm.trans other) (by simp)
  leads _ hendpoint := leadsBy_of_published faithful published hendpoint

/-! ## Runs -/

/-- Where all ports exist, a finding that has been finalized is published if and only if one of the
reports that it has accepted allows it, and the catalog shows it unless a withdrawal has been
broken off.  What has been published, and what the catalog holds, is the snapshot of such a finding
and presents its reports; and the merged view has it in the device with its identifier. -/
theorem published_as_reported {m : Moment} (reached : Reached m) (ports : PortsExist m.history) :
    (∀ f ∈ m.engine.registry.live, f.IsFinal →
      (f.isPublished = true ↔
        ∃ event ∈ reports f.number m.history, Allows f.service f.ifindex event)) ∧
    (WithdrawsAll m.history → ∀ f ∈ m.engine.registry.live, f.isPublished = true →
      (catalogAfter m.history).findings.get? f.key = some f.snapshot) ∧
    (∀ e s answer before, .asked e (.publish s) answer :: before <:+ m.history →
      ∃ f ∈ e.registry.live, f.IsFinal ∧ f.isPublished = true ∧ f.snapshot = s ∧
        s.Presents (reports f.number before)) ∧
    ∀ key s, (catalogAfter m.history).findings.get? key = some s →
      (∃ f ∈ m.engine.registry.live, f.IsFinal ∧ f.isPublished = true ∧ f.key = key ∧
        f.snapshot = s ∧ s.Presents (reports f.number m.history)) ∧
      ∃ device ∈ (catalogAfter m.history).devices, s.uuid = some device.uuid ∧
        s.method ∈ device.methods ∧ s.ifindex ∈ device.ifindexes ∧
        ∀ endpoint ∈ s.endpoints, endpoint ∈ device.endpoints := by
  have chronicled := reached.chronicled
  refine ⟨?_, ?_, ?_, ?_⟩
  · intro f hf final
    rw [isPublished_iff_marks (chronicled.faithful f hf nofun) final]
    refine exists_congr fun event => and_congr_right fun hevent => ?_
    exact marks_iff_allows (ports.of_mem_reports hevent)
  · exact fun all f hf published => chronicled.kept all f hf nofun published
  · intro e s answer before suffix
    obtain ⟨f, hf, published, rfl, faithful⟩ := chronicled.issued e s answer before suffix
    exact ⟨f, hf, isFinal_of_published faithful published, published, rfl,
      presents_of_published faithful published⟩
  · intro key s shown
    obtain ⟨f, hf, -, published, hkey, rfl⟩ := chronicled.shown key s shown
    have faithful := chronicled.faithful f hf nofun
    have presents := presents_of_published faithful published
    refine ⟨⟨f, hf, isFinal_of_published faithful published, published, hkey, rfl, presents⟩, ?_⟩
    obtain ⟨uuid, known⟩ := Option.isSome_iff_exists.1 presents.uuid
    obtain ⟨device, hdevice, rfl, has⟩ := Catalog.exists_device shown known
    exact ⟨device, hdevice, known, has⟩

/-- Where everything is admissible, all withdrawals have gone to their end. -/
theorem WithdrawsAll.of_admissible (admissible : Admissible h) : WithdrawsAll h :=
  fun _ _ _ hmem => admissible _ hmem

/-- At the office the library's scanner is in the catalog with the endpoint that has been
reported. -/
theorem office_published :
    PortsExist office.history ∧ WithdrawsAll office.history ∧
    ((catalogAfter office.history).findings.get? ⟨.uscan, 2, "library"⟩).map (·.endpoints) =
      some [⟨.escl, "http://192.0.2.8:80/eSCL/"⟩] ∧
    (∀ f ∈ office.engine.registry.live, f.IsFinal →
      (f.isPublished = true ↔
        ∃ event ∈ reports f.number office.history, Allows f.service f.ifindex event)) ∧
    (∀ f ∈ office.engine.registry.live, f.isPublished = true →
      (catalogAfter office.history).findings.get? f.key = some f.snapshot) ∧
    (∀ e s answer before, .asked e (.publish s) answer :: before <:+ office.history →
      ∃ f ∈ e.registry.live, f.IsFinal ∧ f.isPublished = true ∧ f.snapshot = s ∧
        s.Presents (reports f.number before)) ∧
    ∀ key s, (catalogAfter office.history).findings.get? key = some s →
      (∃ f ∈ office.engine.registry.live, f.IsFinal ∧ f.isPublished = true ∧ f.key = key ∧
        f.snapshot = s ∧ s.Presents (reports f.number office.history)) ∧
      ∃ device ∈ (catalogAfter office.history).devices, s.uuid = some device.uuid ∧
        s.method ∈ device.methods ∧ s.ifindex ∈ device.ifindexes ∧
        ∀ endpoint ∈ s.endpoints, endpoint ∈ device.endpoints := by
  have ports : PortsExist office.history := by
    unfold PortsExist
    decide +kernel
  have all : WithdrawsAll office.history := .of_admissible office_admissible
  obtain ⟨rules, kept, issued, shown⟩ := published_as_reported office_reached ports
  exact ⟨ports, all, by decide +kernel, rules, kept all, issued, shown⟩

end Engine

end ScannerDiscovery
