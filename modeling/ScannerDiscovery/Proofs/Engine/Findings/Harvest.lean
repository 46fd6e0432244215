import ScannerDiscovery.Proofs.Endpoint
import ScannerDiscovery.Proofs.Engine.Frame
import ScannerDiscovery.Proofs.Engine.Moves
import ScannerDiscovery.Proofs.OrderedMap

/-!
# What a finding takes in

A completion that a finding waits for changes that finding alone, before anything is asked for:
it takes in what has been found and, if it waits for nothing else, is brought into its final form.
What follows is that it is published if it is to be, and no longer counted, and that listeners are
told of the address.

Main definitions:

- `Standing` : what reports leave alone of a finding.
- `endpoint?`, `Allows` : what a report of a resolve says of endpoints, and whether it allows its
  finding to be published.
- `gathered`, `refusal?` : a finding with a report taken in, and why that may fail.
- `absorbed` : a finding after a completion.
- `conclude` : what follows on the last completion.

Main results:

- `resolveFound_eq` : taking in a report.
- `finalize_eq` : bringing a finding into its final form.
- `onResolve_of_some` : handling a completion that a finding waits for.
-/

namespace ScannerDiscovery

/-! ## Changes of one finding -/

namespace Registry

/-- Two changes of one finding are one change. -/
theorem modify_modify (r : Registry) (number : Nat) (first second : Finding → Finding)
    (same : ∀ f, f.number = number → (first f).number = number) :
    (r.modify number first).modify number second = r.modify number fun f => second (first f) := by
  have twice (findings : List Finding) :
      (findings.map fun f => if f.number = number then first f else f).map
        (fun f => if f.number = number then second f else f) =
          findings.map fun f => if f.number = number then second (first f) else f := by
    rw [List.map_map]
    apply List.map_congr_left
    intro f hf
    by_cases h : f.number = number <;> simp [h, same]
  simp only [modify, twice]

/-- To change a finding into itself changes no registry. -/
theorem modify_self (r : Registry) (number : Nat) : (r.modify number fun f => f) = r := by
  simp [modify]

/-- Changes of two findings can be made in either order. -/
theorem modify_comm (r : Registry) {m n : Nat} (hne : m ≠ n) {first second : Finding → Finding}
    (hfirst : ∀ f, f.number = m → (first f).number = m)
    (hsecond : ∀ f, f.number = n → (second f).number = n) :
    (r.modify m first).modify n second = (r.modify n second).modify m first := by
  have both (findings : List Finding) :
      (findings.map fun f => if f.number = m then first f else f).map
        (fun f => if f.number = n then second f else f) =
      (findings.map fun f => if f.number = n then second f else f).map
        (fun f => if f.number = m then first f else f) := by
    rw [List.map_map, List.map_map]
    apply List.map_congr_left
    intro f hf
    by_cases hm : f.number = m
    · have hn : f.number ≠ n := fun heq => hne (hm.symm.trans heq)
      simp [hm, hne, hfirst f hm]
    · by_cases hn : f.number = n
      · simp [hn, hne.symm, hsecond f hn]
      · simp [hm, hn]
  simp only [modify, both]

section Lookup

variable (r : Registry) {number n : Nat} {change : Finding → Finding}
  (same : ∀ f, f.number = number → (change f).number = number)

include same

/-- What a number leads to after a change of one finding. -/
theorem get?_modify_eq_map : (r.modify number change).get? n =
    (r.get? n).map fun f => if f.number = number then change f else f := by
  have kept (f : Finding) :
      ((if f.number = number then change f else f).number == n) = (f.number == n) := by
    by_cases h : f.number = number
    · simp [h, same f h]
    · simp [h]
  rw [get?, modify, ← List.map_append, List.find?_map, get?]
  simp only [Function.comp_def, kept]

/-- A change of one finding puts its new form in its place. -/
theorem get?_modify : (r.modify number change).get? number = (r.get? number).map change := by
  rw [get?_modify_eq_map r same]
  refine Option.map_congr fun f got => if_pos ?_
  exact (mem_of_get? got).2

/-- A change of one finding leaves the others where they are. -/
theorem get?_modify_of_ne (hne : n ≠ number) : (r.modify number change).get? n = r.get? n := by
  rw [get?_modify_eq_map r same]
  refine (Option.map_congr fun f got => if_neg ?_).trans Option.map_id_apply
  exact (mem_of_get? got).2.trans_ne hne

end Lookup

/-- A change of a live finding puts its new form in its place. -/
theorem WellNumbered.modify_eq {r : Registry} (wn : r.WellNumbered) {f : Finding} (hf : f ∈ r.live)
    (change : Finding → Finding) :
    r.modify f.number change = r.modify f.number fun _ => change f := by
  obtain ⟨before, after, hlive⟩ := List.append_of_mem hf
  rw [wn.modify_split hlive, wn.modify_split hlive]

/-- The finding that has been put in the place of a live one. -/
theorem WellNumbered.get?_modify {r : Registry} (wn : r.WellNumbered) {f f' : Finding}
    (hf : f ∈ r.live) (hnumber : f'.number = f.number) :
    (r.modify f.number fun _ => f').get? f.number = some f' := by
  rw [Registry.get?_modify r fun _ _ => hnumber, wn.get?_number (List.mem_append_left _ hf),
    Option.map_some]

/-- A finding that waits for a resolve is live if the removed ones wait for none. -/
theorem mem_live_of_pending {r : Registry} (gone : ∀ f ∈ r.removed, f.tracker.pending = [])
    {number : Nat} {f : Finding} (got : r.get? number = some f) {op : Ticket}
    (pending : op ∈ f.tracker.pending) : f ∈ r.live := by
  refine (List.mem_append.1 (mem_of_get? got).1).resolve_right fun removed => ?_
  rw [gone f removed] at pending
  cases pending

end Registry

/-- How a finding stands: what it is known by, whether it is counted and published, and what it
waits for. -/
structure Standing where
  number : Nat
  service : Service
  ifindex : Int
  name : String
  inInitialScan : Bool
  isPublished : Bool
  state : FindingState
  tracker : Tracker

/-- How a finding stands. -/
def Finding.standing (f : Finding) : Standing :=
  ⟨f.number, f.service, f.ifindex, f.name, f.inInitialScan, f.isPublished, f.state, f.tracker⟩

namespace Engine

/-! ## What a report says -/

/-- Whether an address can be connected to through an interface.  A link-local IPv6 address cannot
without one. -/
def Connectable (address : Ip.Address) (ifindex : Int) : Prop :=
  ¬(address.family = .ipv6 ∧ address.isLinkLocal = true ∧ ifindex = unspecifiedInterface)

instance (address : Ip.Address) (ifindex : Int) : Decidable (Connectable address ifindex) :=
  inferInstanceAs (Decidable (¬_))

/-- The endpoint that a report gives to a finding of a service on an interface, or why it cannot be
made; nothing if there is no address that can be connected to. -/
def endpoint? (service : Service) (ifindex : Int) (event : ResolveEvent) :
    Option (Except Violation Endpoint) :=
  event.address.bind fun address =>
    if Connectable address (event.ifindex.getD ifindex) then
      some (Endpoint.make service address event.port (event.txt.value? "rs")
        (event.ifindex.getD ifindex))
    else none

/-- Whether a report allows a finding of a service on an interface to be published: there is an
address to connect to, or the flag for scanners is set, or there is nothing to ask for. -/
def Allows (service : Service) (ifindex : Int) (event : ResolveEvent) : Prop :=
  if service.isScan then
    ∃ address ∈ event.address, Connectable address (event.ifindex.getD ifindex)
  else if service.publishRule = .txtScanFlag then
    ∃ flag ∈ event.txt.value? "scan", Text.lower flag = "t"
  else True

/-- A finding with an endpoint added, if there is one. -/
def equipped (made : Option (Except Violation Endpoint)) (f : Finding) : Finding :=
  match made with
  | some (.ok endpoint) => { f with endpoints := endpoint :: f.endpoints, isPublishable := true }
  | _ => f

/-- A finding with a flag taken into account that makes it publishable. -/
def flagged (flag : Option String) (f : Finding) : Finding :=
  match flag with
  | some flag => if Text.lower flag = "t" then { f with isPublishable := true } else f
  | none => f

/-- A finding marked by the rule of a service, or given the endpoint that a report names. -/
def marked (service : Service) (ifindex : Int) (event : ResolveEvent) (f : Finding) : Finding :=
  if service.isScan then equipped (endpoint? service ifindex event) f
  else if service.publishRule = .txtScanFlag then flagged (event.txt.value? "scan") f
  else { f with isPublishable := true }

/-- A finding of a service on an interface with what a report says. -/
def gathered (service : Service) (ifindex : Int) (event : ResolveEvent) (f : Finding) : Finding :=
  marked service ifindex event (collect event f)

/-- Why the endpoint of a report cannot be made, if it cannot. -/
def refusal? (service : Service) (ifindex : Int) (event : ResolveEvent) : Option Violation :=
  if service.isScan then
    match endpoint? service ifindex event with
    | some (.error broken) => some broken
    | _ => none
  else none

/-- What a report says changes nothing of how a finding stands. -/
theorem standing_gathered (service : Service) (ifindex : Int) (event : ResolveEvent)
    (f : Finding) : (gathered service ifindex event f).standing = f.standing := by
  unfold gathered marked equipped flagged
  repeat' split
  all_goals rfl

/-- Nothing is refused if the port exists. -/
theorem refusal?_of_port {service : Service} (ifindex : Int) {event : ResolveEvent}
    (port : 0 ≤ event.port ∧ event.port ≤ 65535) : refusal? service ifindex event = none := by
  unfold refusal? endpoint?
  split
  · rename_i scan
    cases event.address with
    | none => rfl
    | some address =>
        obtain ⟨scheme, -, made⟩ := Endpoint.make_of_port scan address port
          (event.txt.value? "rs") (event.ifindex.getD ifindex)
        rw [Option.bind_some, made]
        split
        · rename_i refused
          split at refused <;> simp at refused
        · rfl
  · rfl

/-! ## Taking in a report -/

/-- Where a routine stands that has taken in a report, or failed to. -/
def ended (refusal : Option Violation) (e : Engine) : Outcome requests Engine Fault Unit :=
  match refusal with
  | some broken => .raised (.invariant broken) e
  | none => .returned () e

/-- An engine with one finding changed. -/
def changing (number : Nat) (change : Finding → Finding) (e : Engine) : Engine :=
  { e with books.registry := e.books.registry.modify number change }

/-- To change a finding into itself changes no engine. -/
theorem changing_self (number : Nat) (e : Engine) : changing number (fun f => f) e = e := by
  rw [changing, Registry.modify_self]

/-- Two changes of one finding are one change. -/
theorem changing_changing (number : Nat) (first second : Finding → Finding)
    (same : ∀ f, f.number = number → (first f).number = number) (e : Engine) :
    changing number second (changing number first e) =
      changing number (fun f => second (first f)) e := by
  simp only [changing, Registry.modify_modify _ _ _ second same]

/-- A routine that changes a finding goes on with the finding changed. -/
theorem bind_modifyFinding (number : Nat) (change : Finding → Finding) (next : Unit → Work Unit)
    (e : Engine) :
    (Books.modifyFinding number change >>= next) e = next () (changing number change e) := rfl

/-- The endpoint of a report is added if it can be made. -/
theorem addEndpoint_eq (f : Finding) (event : ResolveEvent) {address : Ip.Address}
    (given : event.address = some address) (scan : f.service.isScan = true) (e : Engine) :
    addEndpoint f event address e = ended (refusal? f.service f.ifindex event)
      (changing f.number (equipped (endpoint? f.service f.ifindex event)) e) := by
  have connectable : ((decide (address.family = .ipv6) && address.isLinkLocal &&
      decide (event.ifindex.getD f.ifindex = unspecifiedInterface)) = true) ↔
        ¬Connectable address (event.ifindex.getD f.ifindex) := by
    simp [Connectable, and_assoc]
  have unchanged : e = changing f.number (fun f => f) e := (changing_self f.number e).symm
  simp only [addEndpoint, connectable, refusal?, if_pos scan, endpoint?, given, Option.bind_some]
  by_cases hc : Connectable address (event.ifindex.getD f.ifindex)
  · rw [if_neg (not_not.2 hc), if_pos hc]
    cases Endpoint.make f.service address event.port (event.txt.value? "rs")
      (event.ifindex.getD f.ifindex) with
    | error broken => exact congrArg (Outcome.raised _) unchanged
    | ok endpoint => rfl
  · rw [if_pos hc, if_neg hc]
    exact congrArg (Outcome.returned ()) unchanged

/-- What a resolve has found is taken over at once, as far as its endpoint can be made. -/
theorem resolveFound_eq (f : Finding) (event : ResolveEvent) (e : Engine) :
    resolveFound f event e = ended (refusal? f.service f.ifindex event)
      (changing f.number (gathered f.service f.ifindex event) e) := by
  have collected : changing f.number (gathered f.service f.ifindex event) e =
      changing f.number (marked f.service f.ifindex event)
        (changing f.number (collect event) e) :=
    (changing_changing f.number (collect event) _ (fun _ => id) e).symm
  rw [collected]
  rw [resolveFound, bind_modifyFinding]
  generalize changing f.number (collect event) e = e₁
  unfold marked
  by_cases scan : f.service.isScan = true
  · simp only [if_pos scan]
    cases given : event.address with
    | none =>
        have nowhere : endpoint? f.service f.ifindex event = none := by
          rw [endpoint?, given, Option.bind_none]
        rw [refusal?, if_pos scan, nowhere]
        exact congrArg (Outcome.returned ()) (changing_self f.number e₁).symm
    | some address => exact addEndpoint_eq f event given scan e₁
  · have accepted : refusal? f.service f.ifindex event = none := if_neg scan
    simp only [if_neg scan, accepted]
    split
    · cases event.txt.value? "scan" with
      | none => exact congrArg (Outcome.returned ()) (changing_self f.number e₁).symm
      | some flag =>
          by_cases set : Text.lower flag = "t"
          · simp only [flagged, if_pos set]
            rfl
          · simp only [flagged, if_neg set]
            exact congrArg (Outcome.returned ()) (changing_self f.number e₁).symm
    · rfl

/-! ## Conclusions -/

/-- A finding in its final form, published if it is to be. -/
def finalForm (f : Finding) : Finding :=
  if f.isPublishable && !f.isPublished then
    { completed f with isPublished := true, state := .published }
  else { completed f with state := .unpublished }

/-- What follows on a finding being brought into its final form: it is published if it is to be,
and no longer counted. -/
def conclude (f : Finding) : Work Unit := do
  if f.isPublishable && !f.isPublished then
    Routine.ofExcept (← ask (.publish (finalForm f).snapshot))
  Books.uncount (finalForm f)

/-- The final form of a finding has its number. -/
theorem number_finalForm (f : Finding) : (finalForm f).number = f.number := by
  unfold finalForm
  split <;> rfl

/-- The final form of a finding belongs to its method. -/
theorem method_finalForm (f : Finding) : (finalForm f).method = f.method := by
  unfold finalForm
  split <;> rfl

/-- The final form of a finding is counted if the finding is. -/
theorem inInitialScan_finalForm (f : Finding) :
    (finalForm f).inInitialScan = f.inInitialScan := by
  unfold finalForm
  split <;> rfl

/-- The final form of a finding has its endpoints in canonical order, each once. -/
theorem endpoints_finalForm (f : Finding) :
    (finalForm f).endpoints = Endpoint.sortAndDedup f.endpoints := by
  unfold finalForm
  split <;> rfl

/-- The final form of a finding has its addresses. -/
theorem addresses_finalForm (f : Finding) : (finalForm f).addresses = f.addresses := by
  unfold finalForm
  split <;> rfl

/-- The final form of a finding has a model: the name, if no other is known. -/
theorem model_finalForm (f : Finding) : (finalForm f).model = some (f.model.getD f.name) := by
  unfold finalForm
  split <;> rfl

/-- The final form of a finding has an identifier: one derived from the name, if no other is known.
-/
theorem uuid_finalForm (f : Finding) :
    (finalForm f).uuid = some (f.uuid.getD (Uuid.ofName f.name)) := by
  unfold finalForm
  split <;> rfl

/-- A finding is published in its final form if it is publishable. -/
theorem isPublished_finalForm {f : Finding} (unpublished : f.isPublished = false) :
    (finalForm f).isPublished = f.isPublishable := by
  unfold finalForm
  cases publishable : f.isPublishable
  · simp [completed, unpublished]
  · simp [unpublished]

/-- Finalizing whatever finding a number leads to. -/
theorem exists_finalize_eq {e : Engine} {number : Nat} {g : Finding}
    (got : e.registry.get? number = some g) :
    ∃ change : Finding → Finding, (∀ f, f.number = number → (change f).number = number) ∧
      change g = finalForm g ∧ finalize number e = conclude g (changing number change e) := by
  have hnumber := (Registry.mem_of_get? got).2
  have completing : ∀ f : Finding, f.number = number → (completed f).number = number := fun _ => id
  have found : (changing number completed e).registry.get? number = some (completed g) :=
    (e.registry.get?_modify completing).trans (congrArg (Option.map completed) got)
  have again (change : Finding → Finding) :
      changing number change (changing number completed e) =
        changing number (fun f => change (completed f)) e :=
    changing_changing number completed change completing e
  by_cases publishable : (g.isPublishable && !g.isPublished) = true
  · have final : finalForm g = { completed g with isPublished := true, state := .published } :=
      if_pos publishable
    refine ⟨fun _ => finalForm g, fun _ _ => (number_finalForm g).trans hnumber, rfl, ?_⟩
    rw [finalize, bind_modifyFinding, bind_get, found, conclude, final, if_pos publishable,
      ← again fun _ => { completed g with isPublished := true, state := .published }]
    exact congrFun (if_pos publishable) _
  · have final : finalForm g = { completed g with state := .unpublished } := if_neg publishable
    refine ⟨fun f => { completed f with state := .unpublished }, fun _ => id, final.symm, ?_⟩
    rw [finalize, bind_modifyFinding, bind_get, found, conclude, final, if_neg publishable,
      ← again fun f => { f with state := .unpublished }]
    exact congrFun (if_neg publishable) _

/-- Finalizing a live finding. -/
theorem finalize_eq {e : Engine} (wn : e.books.registry.WellNumbered) {f : Finding}
    (live : f ∈ e.books.registry.live) :
    finalize f.number e = conclude f (changing f.number (fun _ => finalForm f) e) := by
  have got : e.registry.get? f.number = some f := wn.get?_number (List.mem_append_left _ live)
  obtain ⟨change, -, final, finalizes⟩ := exists_finalize_eq got
  rw [finalizes, changing, wn.modify_eq live change, final, changing]

/-! ## Completions -/

/-- The finding that waits for a completion. -/
def receiver? (e : Engine) (event : ResolveEvent) : Option Finding :=
  ((e.resolving.get? event.op).bind e.books.registry.get?).filter
    (event.op ∈ ·.tracker.pending)

/-- Whether a finding waits for nothing but a completion. -/
def isLast (event : ResolveEvent) (f : Finding) : Bool :=
  (f.tracker.complete event.op).2.2

/-- A finding that has received a completion. -/
def received (event : ResolveEvent) (f : Finding) : Finding :=
  let f' := { f with tracker := (f.tracker.complete event.op).1 }
  if event.kind = .found then gathered f.service f.ifindex event f' else f'

/-- Why what a completion says cannot be taken in, if it cannot. -/
def refused? (event : ResolveEvent) (f : Finding) : Option Violation :=
  if event.kind = .found then refusal? f.service f.ifindex event else none

/-- A finding after a completion that it has been waiting for. -/
def absorbed (event : ResolveEvent) (f : Finding) : Finding :=
  if isLast event f then finalForm (received event f) else received event f

/-- What follows on a completion being received. -/
def followUp (event : ResolveEvent) (f : Finding) : Work Unit := do
  if isLast event f then conclude (received event f)
  tellFound f event

/-- A completion with a port that exists is not refused. -/
theorem refused?_of_port {event : ResolveEvent} (f : Finding)
    (port : event.kind = .found → 0 ≤ event.port ∧ event.port ≤ 65535) :
    refused? event f = none := by
  unfold refused?
  split
  · rename_i found
    exact refusal?_of_port _ (port found)
  · rfl

/-- A completion that is received changes only what a finding waits for, of how it stands. -/
theorem standing_received (event : ResolveEvent) (f : Finding) :
    (received event f).standing =
      { f.standing with tracker := (f.tracker.complete event.op).1 } := by
  unfold received
  simp only
  split
  · rw [standing_gathered]
    rfl
  · rfl

/-- A completion that is received leaves a finding its number. -/
theorem number_received (event : ResolveEvent) (f : Finding) :
    (received event f).number = f.number :=
  congrArg Standing.number (standing_received event f)

/-- A completion that is absorbed leaves a finding its number. -/
theorem number_absorbed (event : ResolveEvent) (f : Finding) :
    (absorbed event f).number = f.number := by
  unfold absorbed
  split
  · rw [number_finalForm, number_received]
  · exact number_received event f

/-- What is done once a completion has been received by a live finding. -/
theorem concluded_eq {e : Engine} (wn : e.books.registry.WellNumbered) {f : Finding}
    (live : f ∈ e.books.registry.live) (event : ResolveEvent) :
    ((if isLast event f then finalize f.number else pure ()) >>= fun _ => tellFound f event)
        (changing f.number (fun _ => received event f) e) =
      followUp event f (changing f.number (fun _ => absorbed event f) e) := by
  have replaces := Registry.modify_replaces wn live fun _ => received event f
  have numbered := wn.replaces replaces (number_received event f)
  have live' : received event f ∈
      (changing f.number (fun _ => received event f) e).books.registry.live := replaces.mem'
  have final := finalize_eq numbered live'
  rw [number_received] at final
  rw [followUp, absorbed]
  by_cases last : isLast event f = true
  · have again : changing f.number (fun _ => finalForm (received event f))
        (changing f.number (fun _ => received event f) e) =
          changing f.number (fun _ => finalForm (received event f)) e :=
      changing_changing f.number _ _ (fun _ _ => number_received event f) e
    rw [if_pos last, if_pos last, if_pos last, ← again]
    exact congrArg (Outcome.bind · fun _ => tellFound f event) final
  · rw [if_neg last, if_neg last, if_neg last]
    rfl

/-- The steps in which a completion is handled that a finding waits for. -/
theorem resolveCompleted_of_pending {f : Finding} {event : ResolveEvent}
    (pending : event.op ∈ f.tracker.pending) :
    resolveCompleted f event = (Books.modifyFinding f.number
        (fun g => { g with tracker := (f.tracker.complete event.op).1 }) >>= fun _ =>
      (if event.kind = .found then resolveFound f event else pure ()) >>= fun _ =>
      (if isLast event f then finalize f.number else pure ()) >>= fun _ =>
      tellFound f event) := by
  have waits : (f.tracker.complete event.op).2.1 = true := decide_eq_true pending
  rw [resolveCompleted]
  refine (if_pos waits).trans ?_
  by_cases found : event.kind = .found <;> by_cases last : isLast event f = true
  all_goals
    have empty := last
    simp only [isLast, Tracker.complete] at empty
    simp only [found, empty, last, tellFound, if_true, if_false, Bool.false_eq_true, pure_bind]
    rfl

/-- A completion that a live finding waits for is received by it, unless that is refused. -/
theorem resolveCompleted_eq {e : Engine} (wn : e.books.registry.WellNumbered) {f : Finding}
    {event : ResolveEvent} (live : f ∈ e.books.registry.live)
    (pending : event.op ∈ f.tracker.pending) :
    resolveCompleted f event e = match refused? event f with
      | some broken => .raised (.invariant broken) (changing f.number (fun _ => received event f) e)
      | none => followUp event f (changing f.number (fun _ => absorbed event f) e) := by
  let tracked : Finding := { f with tracker := (f.tracker.complete event.op).1 }
  have begun : changing f.number
      (fun g => { g with tracker := (f.tracker.complete event.op).1 }) e =
        changing f.number (fun _ => tracked) e := by
    rw [changing, wn.modify_eq live, changing]
  have rest := concluded_eq wn live event
  rw [resolveCompleted_of_pending pending, bind_modifyFinding, begun]
  by_cases found : event.kind = .found
  · have again : changing f.number (gathered f.service f.ifindex event)
        (changing f.number (fun _ => tracked) e) =
          changing f.number (fun _ => received event f) e := by
      rw [changing_changing f.number (fun _ => tracked) _ (fun _ _ => rfl) e, received,
        if_pos found]
    have taken := resolveFound_eq f event (changing f.number (fun _ => tracked) e)
    rw [again] at taken
    rw [if_pos found, refused?, if_pos found]
    have next := congrArg (Outcome.bind · fun _ =>
      (if isLast event f then finalize f.number else pure ()) >>= fun _ => tellFound f event) taken
    refine next.trans ?_
    cases refusal? f.service f.ifindex event with
    | some broken => rfl
    | none => exact rest
  · have same : tracked = received event f := by
      rw [received, if_neg found]
    rw [if_neg found, refused?, if_neg found, same]
    exact rest

/-- A finding that waits for a completion is in the registry, and the completion is expected. -/
theorem receiver?_eq_some {e : Engine} {event : ResolveEvent} {f : Finding}
    (receives : receiver? e event = some f) :
    e.resolving.get? event.op = some f.number ∧
      e.books.registry.get? f.number = some f ∧ event.op ∈ f.tracker.pending := by
  obtain ⟨found, pending⟩ := Option.filter_eq_some_iff.1 receives
  obtain ⟨number, resolving, got⟩ := Option.bind_eq_some_iff.1 found
  obtain ⟨-, rfl⟩ := Registry.mem_of_get? got
  exact ⟨resolving, got, of_decide_eq_true pending⟩

/-- An engine with one resolve forgotten. -/
def forgetting (op : Ticket) (e : Engine) : Engine :=
  { e with resolving := e.resolving.erase op }

/-- A completion that nothing waits for is forgotten. -/
theorem onResolve_of_none {e : Engine} {event : ResolveEvent} (none : receiver? e event = none) :
    onResolve event e = .returned () (forgetting event.op e) := by
  rw [onResolve, bind_get]
  cases hresolving : e.resolving.get? event.op with
  | none => rw [forgetting, OrderedMap.erase_of_get?_eq_none hresolving]; rfl
  | some number =>
      simp only [bind_modify, bind_get, registry]
      cases hget : e.books.registry.get? number with
      | none => rfl
      | some f =>
          have stale : event.op ∉ f.tracker.pending := by
            simpa [receiver?, hresolving, hget, Option.filter] using none
          exact congrFun (if_neg (by simpa [Tracker.complete] using stale)) _

/-- A completion that a live finding waits for is received by it, unless that is refused. -/
theorem onResolve_of_some {e : Engine} (wn : e.books.registry.WellNumbered) {f : Finding}
    {event : ResolveEvent} (receives : receiver? e event = some f)
    (live : f ∈ e.books.registry.live) :
    onResolve event e = match refused? event f with
      | some broken => .raised (.invariant broken)
        (changing f.number (fun _ => received event f) (forgetting event.op e))
      | none => followUp event f
        (changing f.number (fun _ => absorbed event f) (forgetting event.op e)) := by
  obtain ⟨resolving, got, pending⟩ := receiver?_eq_some receives
  rw [onResolve, bind_get, resolving]
  simp only [bind_modify, bind_get, registry, got]
  exact resolveCompleted_eq (e := forgetting event.op e) wn live pending

end Engine

end ScannerDiscovery
