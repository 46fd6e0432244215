import ScannerDiscovery.Proofs.Endpoint
import ScannerDiscovery.Proofs.Engine.Conduct.Calls
import ScannerDiscovery.Proofs.Engine.Scripts

/-!
# No input halts the engine

What the network says cannot break an invariant.  As long as everything that is found has a port
that exists, every handler returns, whatever the events, their order and their texts; so the
engine is never halted.

Main definitions:

- `Event.HasPort` : events that carry no port or one that exists.
- `Handling` : the ways in which the next event can be handled at a moment.

Main results:

- `Refused.not_hasPort` : only for want of a port an endpoint cannot be made.
- `no_input_halts` : every handler returns, and no moment of a run is one of a halted engine.
-/

namespace ScannerDiscovery

/-- Whether an event carries a port that exists, if it says that something has been found. -/
def Event.HasPort : Event → Prop
  | notice (.resolve event) => event.kind = .found → 0 ≤ event.port ∧ event.port ≤ 65535
  | _ => True

instance : (event : Event) → Decidable event.HasPort
  | .notice (.resolve event) =>
    inferInstanceAs (Decidable (event.kind = .found → 0 ≤ event.port ∧ event.port ≤ 65535))
  | .notice (.browse _) => .isTrue trivial
  | .notice (.client _) => .isTrue trivial
  | .restartDue _ => .isTrue trivial
  | .query .. => .isTrue trivial
  | .unknown => .isTrue trivial

namespace Engine

/-! ## Ports -/

/-- Only for want of a port an endpoint cannot be made. -/
theorem Refused.not_hasPort {event : ResolveEvent} {fault : Fault} (refused : Refused event fault) :
    ¬(Event.notice (.resolve event)).HasPort := by
  intro hport
  obtain ⟨found, service, address, ifindex, broken, hscan, hmake, -⟩ := refused
  obtain ⟨scheme, -, hok⟩ := Endpoint.make_of_port hscan address (hport found)
    (event.txt.value? "rs") ifindex
  rw [hok] at hmake
  cases hmake

/-- The events that have been handled, the latest first. -/
def handledEvents (h : History) : List Event :=
  h.filterMap fun
    | .called e .turn => e.next?
    | _ => none

/-- Whether all events that have been handled carried no port or one that exists. -/
def PortsExist (h : History) : Prop :=
  ∀ event ∈ handledEvents h, event.HasPort

theorem PortsExist.of_suffix {h h' : History} (ports : PortsExist h') (hs : h <:+ h') :
    PortsExist h :=
  fun event hevent => ports event ((hs.sublist.filterMap _).subset hevent)

theorem mem_handledEvents {h : History} {e : Engine} {event : Event} (called : .called e .turn ∈ h)
    (next : e.next? = some event) : event ∈ handledEvents h :=
  List.mem_filterMap.2 ⟨_, called, next⟩

/-! ## Handlers -/

/-- How the next event can be handled at a moment: the engine consumes events, this one is taken
from the mailbox, and its handler goes to its end. -/
structure Handling (m : Moment) (event : Event) (r : Except Fault Unit) (e : Engine)
    (h : History) : Prop where
  consuming : m.engine.isConsuming = true
  handler : ∃ box, m.engine.mailbox.bind Mailbox.take? = some (event, box) ∧
    Runs (dispatch event { m.engine with mailbox := some box })
      (.called m.engine .turn :: m.history) r e h

/-- The next event of an engine that consumes events can be handled with admissible answers. -/
theorem Handling.exists {m : Moment} {event : Event} {box : Mailbox}
    (consuming : m.engine.isConsuming = true)
    (htake : m.engine.mailbox.bind Mailbox.take? = some (event, box))
    (admissible : Admissible m.history) : ∃ r e h, Handling m event r e h ∧ Admissible h := by
  have called : Admissible (.called m.engine .turn :: m.history) := admissible.cons trivial
  obtain ⟨r, e, h, runs, admissible'⟩ := Runs.exists_of_admissible
    (dispatch event { m.engine with mailbox := some box }) called
  exact ⟨r, e, h, ⟨consuming, box, htake, runs⟩, admissible'⟩

/-- Every handler returns if its event carries no port or one that exists. -/
theorem Handling.returns {m : Moment} {event : Event} {r : Except Fault Unit} {e : Engine}
    {h : History} (handling : Handling m event r e h) (reached : Reached m)
    (admissible : Admissible h) (hport : event.HasPort) : r = .ok () := by
  obtain ⟨consuming, box, htake, runs⟩ := handling
  have before : Admissible m.history := runs.admissible_before admissible
  have started : m.engine.started = true := by
    simp only [isConsuming, isRunning, Bool.and_eq_true] at consuming
    exact consuming.1.1
  have next : m.engine.next? = some event := by
    simp [next?, htake]
  have dispatched := ensures_dispatch (some box) (reached.sound before) .refl
    (reached.conducted before).2 started next
  have ends := dispatched.of_runs runs admissible
  cases r with
  | ok value => rfl
  | error fault =>
      obtain ⟨⟨found, rfl, refused⟩, -⟩ := ends
      exact absurd hport refused.not_hasPort

/-! ## Runs -/

/-- No step of a run halts the engine if all events carry no port or one that exists. -/
theorem Step.unfailed {m n : Moment} (step : Step m n) (reached : Reached m)
    (admissible : Admissible n.history) (ports : PortsExist n.history)
    (unfailed : m.engine.failure = none) : n.engine.failure = none := by
  cases step with
  | @call e e' h h' r call possible runs =>
      have before : Admissible h := runs.admissible_before admissible
      have conducted := Call.conducted possible runs admissible (reached.sound before) .refl
        (reached.conducted before).2
      rcases conducted.failure unfailed with still | ⟨rfl, found, fault, next, refused⟩
      · exact still
      · have called : .called e .turn ∈ h' := runs.suffix.subset List.mem_cons_self
        exact absurd (ports _ (mem_handledEvents called next)) refused.not_hasPort
  | beside e h d =>
      have disturbed := d.disturbed e
      exact (congrArg Session.failure disturbed.session).trans unfailed

/-- No input halts the engine, as long as everything that is found has a port that exists.  At
every moment of a run it has not failed; the handler of the next event returns, so that neither
a counter is taken below zero nor an endpoint refused; and calls end without a violation. -/
theorem no_input_halts {m : Moment} (reached : Reached m) (admissible : Admissible m.history)
    (ports : PortsExist m.history) :
    m.engine.failure = none ∧
    (∀ event r e h, Handling m event r e h → Admissible h → event.HasPort → r = .ok ()) ∧
    (∀ call r e h, call.IsPossible m.engine →
      Runs (call.routine m.engine) (.called m.engine call :: m.history) r e h → Admissible h →
        ∀ broken, r ≠ .error (.invariant broken)) := by
  refine ⟨?_, ?_, ?_⟩
  · induction reached with
    | new enabled ipVersion => rfl
    | step before step ih =>
        have unfailed := ih (admissible.of_suffix step.suffix) (ports.of_suffix step.suffix)
        exact step.unfailed before admissible ports unfailed
  · intro event r e h handling admissible' hport
    exact handling.returns reached admissible' hport
  · rintro call r e h possible runs admissible' broken rfl
    have ends := (Call.ensures_conducted possible (reached.sound admissible) .refl
      (reached.conducted admissible).2).of_runs runs admissible'
    obtain ⟨⟨-, cause, hfault⟩, -⟩ := ends
    cases hfault

/-- At the office all ports exist: those of the two scanners that have been found, and that of the
printer, which can be handled next. -/
theorem office_unhalted :
    (handledEvents office.history).length = 9 ∧ PortsExist office.history ∧
    (∃ event r e h, Handling office event r e h ∧ Admissible h ∧ event.HasPort) ∧
    office.engine.failure = none ∧
    (∀ event r e h, Handling office event r e h → Admissible h → event.HasPort → r = .ok ()) ∧
    (∀ call r e h, call.IsPossible office.engine →
      Runs (call.routine office.engine) (.called office.engine call :: office.history) r e h →
        Admissible h → ∀ broken, r ≠ .error (.invariant broken)) := by
  have ports : PortsExist office.history := by
    unfold PortsExist
    decide +kernel
  have taken : (office.engine.mailbox.bind Mailbox.take?).isSome = true := by decide +kernel
  obtain ⟨⟨event, box⟩, htake⟩ := Option.isSome_iff_exists.1 taken
  have next : office.engine.next? = some event := by
    simp [next?, htake]
  have hport : ∀ event ∈ office.engine.next?, event.HasPort := by decide +kernel
  obtain ⟨r, e, h, handling, admissible⟩ :=
    Handling.exists (by decide +kernel) htake office_admissible
  exact ⟨by decide +kernel, ports, ⟨event, r, e, h, handling, admissible, hport event next⟩,
    no_input_halts office_reached office_admissible ports⟩

end Engine

end ScannerDiscovery
