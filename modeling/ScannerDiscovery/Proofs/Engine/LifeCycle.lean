import ScannerDiscovery.Proofs.Engine.Resources
import ScannerDiscovery.Proofs.Engine.Stages.Handlers

/-!
# The life of a finding

Between two calls every finding that was ever created is live and waits for resolves, or is live
and has been concluded, or has been removed and is gone.  It is concluded once, when the last
resolve that it waits for is completed, and what has been found out about it never changes again.

The names that browses report are Unicode text: a name with a surrogate that lacks its other half
has no UTF-8 form to derive an identifier from, and a finding of that name would be left half
concluded.  Names are decoded from the wire, where no such text comes from, and the runs here are
those over Unicode text.

Main definitions:

- `dispatchBy` : handling an event, with what concludes a finding left open.
- `ConcludesOnce`, `ConcludesNothing` : how a turn concludes findings.
- `Unhalted` : moments of a run that has not been halted.

Main results:

- `Staged.concludes_or_raises` : a turn that is to conclude a finding does so, or fails.
- `Reached.concludes` : the turns of a run that has not been halted.
- `life_cycle_of_findings` : the findings at every moment of a run.
-/

namespace ScannerDiscovery.Engine

open Routine (get modify)

variable {α : Type} {before : Option Nat} {n : Nat} {e : Engine} {h : History}

/-! ## Handling events, with the conclusion left open -/

/-- Handles the completion of a resolve that a finding is waiting for. -/
def resolveCompletedBy (conclude : Nat → Work Unit) (f : Finding) (event : ResolveEvent) :
    Work Unit := do
  let (tracker, wasPending, nowEmpty) := f.tracker.complete event.op
  if wasPending then
    Books.modifyFinding f.number fun f => { f with tracker }
    if event.kind = .found then resolveFound f event
    if nowEmpty then conclude f.number
    tellFound f event

/-- Handles the completion of a resolve. -/
def onResolveBy (conclude : Nat → Work Unit) (event : ResolveEvent) : Work Unit := do
  match (← get).resolving.get? event.op with
  | none => pure ()
  | some number =>
    modify fun e => { e with resolving := e.resolving.erase event.op }
    match (← get).registry.get? number with
    | none => pure ()
    | some f => resolveCompletedBy conclude f event

/-- Handles an event. -/
def dispatchBy (conclude : Nat → Work Unit) : Event → Work Unit
  | .notice (.resolve event) => onResolveBy conclude event
  | event => dispatch event

/-- Findings are concluded by being finalized. -/
theorem dispatchBy_finalize (event : Event) : dispatchBy finalize event = dispatch event := by
  cases event with
  | notice notice => cases notice <;> rfl
  | _ => rfl

/-- Whether a turn concludes a finding, once: this is live then and waits for nothing, what is done
before and afterwards does not depend on how findings are concluded, and what is done afterwards
leaves the findings alone. -/
def ConcludesOnce (e : Engine) (n : Nat) : Prop :=
  ∃ event box e₁ rest, e.mailbox.bind Mailbox.take? = some (event, box) ∧
    (∃ f ∈ e₁.registry.live, f.number = n ∧ f.state = .discovering ∧ f.tracker.pending = []) ∧
    Leaves (fun _ => True) registry rest ∧
    ∀ conclude, dispatchBy conclude event { e with mailbox := some box } =
      (conclude n >>= fun _ => rest) e₁

/-- Whether a turn does not depend on how findings are concluded. -/
def ConcludesNothing (e : Engine) : Prop :=
  ∀ event box, e.mailbox.bind Mailbox.take? = some (event, box) →
    ∀ conclude, dispatchBy conclude event { e with mailbox := some box } =
      dispatch event { e with mailbox := some box }

/-! ## Turns -/

/-- The completion of a resolve concludes nothing unless the finding waits for it alone. -/
theorem resolveCompletedBy_of_ne {f : Finding} {event : ResolveEvent}
    (waits : f.tracker.pending ≠ [event.op]) (conclude : Nat → Work Unit) :
    resolveCompletedBy conclude f event = resolveCompleted f event := by
  simp only [resolveCompletedBy, resolveCompleted, Tracker.complete]
  by_cases pending : event.op ∈ f.tracker.pending
  · have nonempty : f.tracker.pending.erase event.op ≠ [] := by
      rw [Ne, List.erase_eq_nil_iff]
      rintro (hnil | hsingle)
      · simp [hnil] at pending
      · exact waits hsingle
    have hempty : (f.tracker.pending.erase event.op).isEmpty = false := by
      simpa using nonempty
    simp only [hempty]
    rfl
  · simp [pending]

/-- A turn in which no finding waits for just the one completion concludes nothing. -/
theorem concludesNothing_of_none (none : Call.turn.concluded? e = none) : ConcludesNothing e := by
  intro event box htake conclude
  have hevent : e.awaiting? event = Option.none := by
    simpa [Call.concluded?, next?, htake] using none
  cases event with
  | notice notice =>
      cases notice with
      | resolve found =>
          simp only [dispatchBy, dispatch, onResolveBy, onResolve, bind_get]
          cases hresolving : e.resolving.get? found.op with
          | none => rfl
          | some number =>
              simp only [bind_modify, bind_get]
              have same : ({ e with mailbox := some box, resolving := e.resolving.erase found.op } :
                  Engine).registry = e.registry := rfl
              rw [same]
              cases hget : e.registry.get? number with
              | none => rfl
              | some f =>
                  have waits : f.tracker.pending ≠ [found.op] := by
                    simpa [awaiting?, hresolving, hget] using hevent
                  exact congrFun (resolveCompletedBy_of_ne waits conclude) _
      | browse report => rfl
      | client state => rfl
  | restartDue generation => rfl
  | query ticket question => rfl
  | unknown => rfl

/-- How the completion is handled that a finding waits for and for nothing else. -/
theorem dispatchBy_of_single {f : Finding} {found : ResolveEvent} (conclude : Nat → Work Unit)
    (mailbox : Option Mailbox) (resolving : e.resolving.get? found.op = some f.number)
    (hget : e.registry.get? f.number = some f) (single : f.tracker.pending = [found.op]) :
    dispatchBy conclude (.notice (.resolve found)) { e with mailbox } = (do
      if found.kind = .found then resolveFound f found
      conclude f.number
      tellFound f found : Work Unit) (e.accept mailbox f found.op) := by
  have same : ({ e with mailbox, resolving := e.resolving.erase found.op } : Engine).registry =
      e.registry := rfl
  simp only [dispatchBy, onResolveBy, bind_get, resolving, bind_modify, same, hget,
    resolveCompletedBy, Tracker.complete, single, List.erase_cons_head, List.isEmpty_nil, if_true,
    accept]
  exact congrFun (if_pos (by simp [single])) _

/-- A turn that is to conclude a finding does so once, or fails beforehand. -/
theorem Staged.concludes_or_raises (staged : Staged before none e.books.registry h)
    (hcall : Call.turn.concluded? e = some n) :
    ConcludesOnce e n ∨ ∃ event box fault e₁, e.mailbox.bind Mailbox.take? = some (event, box) ∧
      dispatch event { e with mailbox := some box } = .raised fault e₁ := by
  obtain ⟨event, hnext, hevent⟩ := Option.bind_eq_some_iff.1 hcall
  obtain ⟨⟨event, box⟩, htake, rfl⟩ := Option.map_eq_some_iff.1 hnext
  obtain ⟨found, f, rfl, hfind, single, rfl⟩ := awaiting?_eq_some hevent
  obtain ⟨number, resolving, hget⟩ := Option.bind_eq_some_iff.1 hfind
  obtain ⟨hmem, rfl⟩ := Registry.mem_of_get? hget
  obtain ⟨g, live, hnumber, -⟩ := staged.concluded_live hcall
  obtain rfl : g = f :=
    staged.numbered.eq_of_number (List.mem_append_left _ live) hmem hnumber
  have atHand := (staged.accept (some box) hnext resolving live (by simp [single])).1
  simp only [single, List.erase_cons_head] at atHand
  have handled := fun conclude =>
    dispatchBy_of_single conclude (some box) resolving hget single
  have finding {e₁ : Engine} (atHand₁ : AtHand (Call.turn.concluded? e) g.number ⟨[]⟩ e₁
      (.called e .turn :: h)) : ∃ f ∈ e₁.registry.live, f.number = g.number ∧
        f.state = .discovering ∧ f.tracker.pending = [] := by
    obtain ⟨f, hf, hnumber, hstate, -, htracker⟩ := atHand₁.finding
    exact ⟨f, hf, hnumber, hstate, by rw [htracker]⟩
  by_cases kind : found.kind = .found
  · simp only [kind, if_true] at handled
    cases hfound : resolveFound g found (e.accept (some box) g found.op) with
    | returned value e₁ =>
        have atHand₁ := staged_resolveFound found atHand
        rw [hfound] at atHand₁
        refine .inl ⟨_, box, e₁, tellFound g found, htake, finding atHand₁,
          leaves_tellFound (fun _ _ _ => trivial) g found, fun conclude => ?_⟩
        rw [handled]
        exact congrArg (Outcome.bind · _) hfound
    | raised fault e₁ =>
        refine .inr ⟨_, box, fault, e₁, htake, ?_⟩
        rw [← dispatchBy_finalize, handled]
        exact congrArg (Outcome.bind · _) hfound
    | paused e₁ request resume =>
        have leaves : Leaves (fun _ => False) (fun _ => ()) (resolveFound g found) :=
          leaves_resolveFound (fun _ _ => rfl) g found
        have quiet := leaves (e.accept (some box) g found.op)
        rw [hfound] at quiet
        exact quiet.2.1.elim
  · simp only [kind, if_false] at handled
    exact .inl ⟨_, box, _, tellFound g found, htake, finding atHand,
      leaves_tellFound (fun _ _ _ => trivial) g found, handled⟩

/-- A turn whose handler ends with a violation halts the engine. -/
theorem turn_of_raised {event : Event} {box : Mailbox} {broken : Violation} {e₁ : Engine}
    (htake : e.mailbox.bind Mailbox.take? = some (event, box))
    (raised : dispatch event { e with mailbox := some box } = .raised (.invariant broken) e₁) :
    turn e = (do
      halt broken
      finish : Work Unit) e₁ := by
  simp only [turn, bind_get, htake, bind_modify, handle]
  change (dispatch event { e with mailbox := some box }).attempt.bind _ = _
  rw [raised]
  rfl

/-! ## Runs -/

/-- How a turn concludes findings: the one that waits for nothing but the completion that it
handles, once, and no other. -/
def Concludes (e : Engine) : Prop :=
  match Call.turn.concluded? e with
  | some n => ConcludesOnce e n
  | none => ConcludesNothing e

/-- Whether a run has not been halted by then. -/
structure Unhalted (m : Moment) : Prop where
  present : m.engine.failure = none
  past : ∀ entry ∈ m.history, entry.engine.failure = none

/-- A run that has not been halted had not been halted before. -/
theorem Step.unhalted {m n : Moment} (step : Step m n) (unhalted : Unhalted n) : Unhalted m := by
  cases step with
  | call call possible runs =>
      have past := fun entry hentry => unhalted.past entry (runs.suffix.subset hentry)
      exact ⟨past _ List.mem_cons_self,
        fun entry hentry => past entry (List.mem_cons_of_mem _ hentry)⟩
  | beside e h d =>
      exact ⟨(congrArg Session.failure (d.disturbed e).session).symm.trans unhalted.present,
        unhalted.past⟩

/-- A turn that does not halt the engine concludes the finding that it is to. -/
theorem concludes_of_runs {h' : History} {e' : Engine}
    (staged : Staged before none e.books.registry h) (orderly : Orderly e)
    (runs : Runs (turn e) (.called e .turn :: h) (.ok ()) e' h') (admissible : Admissible h')
    (unfailed : e'.failure = none) : Concludes e := by
  unfold Concludes
  cases hcall : Call.turn.concluded? e with
  | none => exact concludesNothing_of_none hcall
  | some n =>
      rcases staged.concludes_or_raises hcall with once | ⟨event, box, fault, e₁, htake, raised⟩
      · exact once
      · have next : e.next? = some event := by
          simp [next?, htake]
        have dispatched := staged_dispatch (some box) staged orderly next
        rw [raised] at dispatched
        obtain ⟨now, violation, hand, staged₁⟩ := dispatched
        cases fault with
        | invariant broken =>
            rw [turn_of_raised htake raised] at runs
            obtain ⟨-, halted⟩ := (accounted_halt broken staged₁).of_runs runs admissible
            simp [halted] at unfailed
        | _ => exact violation.elim

/-- Every turn of a run that has not been halted concludes the finding that it is to. -/
theorem Reached.concludes {m : Moment} (reached : Reached m) (admissible : Admissible m.history)
    (unhalted : Unhalted m) : ∀ e, .called e .turn ∈ m.history → Concludes e := by
  induction reached with
  | new enabled ipVersion => exact fun e called => absurd called List.not_mem_nil
  | @step m n before step ih =>
      have earlier := ih (admissible.of_suffix step.suffix) (step.unhalted unhalted)
      cases step with
      | @call e₀ e' h h' r call possible runs =>
          intro e called
          rcases List.mem_cons.1 (runs.called_mem called) with heq | old
          · obtain ⟨rfl, rfl⟩ := Entry.called.inj heq
            have admissible' := runs.admissible_before admissible
            obtain ⟨now, hand, staged, rests⟩ := before.accounted admissible'
            obtain rfl := rests (unhalted.past _ (runs.suffix.subset List.mem_cons_self))
            have orderly := (before.conducted admissible').2
            cases r with
            | ok value => exact concludes_of_runs staged orderly runs admissible unhalted.present
            | error fault =>
                exact absurd (before.call_eq_start possible runs admissible).1 (by simp)
          · exact earlier e old
      | beside e h d => exact earlier

/-- What findings wait for is outstanding at every moment of a run, if all handles of resolves have
been new. -/
theorem Reached.outstanding {m : Moment} (reached : Reached m) (admissible : Admissible m.history)
    (fresh : (begun m.history).Nodup) {f : Finding} (live : f ∈ m.engine.registry.live)
    {op : Ticket} (pending : op ∈ f.tracker.pending) : m.engine.resolving.get? op = some f.number ∧
      op ∈ begun m.history ∧ op ∉ accepted m.history ∧ op ∉ cancelled m.history := by
  have kept : Registered ⟨{}, m.engine.holdings, m.history⟩ ∧
      Linked ⟨{}, m.engine.holdings, m.history⟩ ∧
      ((begun m.history).Nodup → ResolvesKept ⟨{}, m.engine.holdings, m.history⟩) := by
    refine reached.keeps (I := fun p => Registered p ∧ Linked p ∧
      ((begun p.history).Nodup → ResolvesKept p)) ?_ ?_ admissible
    · exact ⟨Sound.initial.registered, Sound.initial.linked, fun _ => Kept.initial.resolves
        ⟨List.nodup_nil, List.nodup_nil⟩⟩
    · rintro p q move ⟨registered, linked, resolves⟩
      refine ⟨registered.move move, linked.move move, fun fresh => ?_⟩
      have fresh' := fresh.sublist (move.suffix.sublist.filterMap _)
      exact (resolves fresh').move move registered linked fresh
  obtain ⟨waits, -, -, -, count⟩ := kept.2.2 fresh
  have hget : m.engine.resolving.get? op = some f.number := waits f live op pending
  -- a handle that has been given out once is pending, and so neither accepted nor cancelled
  have hcount : (begun m.history).count op =
      (if (m.engine.resolving.get? op).isSome then 1 else 0) + (accepted m.history).count op +
        (cancelled m.history).count op := count op
  have once := List.nodup_iff_count_le_one.1 fresh op
  rw [hget, Option.isSome_some, if_pos rfl] at hcount
  refine ⟨hget, List.count_pos_iff.1 (by omega), ?_, ?_⟩
  · exact List.count_eq_zero.1 (by omega)
  · exact List.count_eq_zero.1 (by omega)

/-- The findings at every moment of a run that has not been halted, if all handles of resolves
have been new.  The run is any run over Unicode text, which all names in its reports are.  Every
finding that was ever created is live and tidy, or removed and gone: it waits for resolves that are
outstanding, and for no others, until it has been concluded.  Each turn concludes the finding that
waits for nothing but the completion which it handles, once, and no other; a finding is concluded
at most once, while it is live; and what has been found out about it by then never changes. -/
theorem life_cycle_of_findings {m : Moment} (reached : Reached m)
    (admissible : Admissible m.history) (fresh : (begun m.history).Nodup)
    (unhalted : Unhalted m) :
    ((m.engine.registry.live ++ m.engine.registry.removed).map (·.number)).Perm
      (List.range m.engine.registry.made) ∧
    (∀ f ∈ m.engine.registry.live, f.IsTidy) ∧
    (∀ f ∈ m.engine.registry.removed, f.IsGone) ∧
    (∀ f ∈ m.engine.registry.live, ∀ op ∈ f.tracker.pending,
      m.engine.resolving.get? op = some f.number ∧ op ∈ begun m.history ∧
        op ∉ accepted m.history ∧ op ∉ cancelled m.history) ∧
    (concluded m.history).Nodup ∧
    (∀ f ∈ m.engine.registry.live, f.number ∈ concluded m.history ↔ f.state ≠ .discovering) ∧
    (∀ e, .called e .turn ∈ m.history → Concludes e) ∧
    ∀ entry ∈ m.history, m.engine.registry.Recalls entry.engine.registry := by
  obtain ⟨now, hand, staged, rests⟩ := reached.accounted admissible
  obtain rfl := rests unhalted.present
  refine ⟨staged.numbered.perm_range, fun f hf => staged.isTidy hf, staged.gone, ?_, staged.once,
    ?_, reached.concludes admissible unhalted, staged.recalled⟩
  · exact fun f hf op hop => reached.outstanding admissible fresh hf hop
  · intro f hf
    exact ⟨fun hn hstate => staged.not_concluded hf hstate hn, staged.known f hf⟩

/-- At the office two scanners have been concluded and the third one is gone; the printer waits for
its resolve. -/
theorem office_life_cycle :
    office.engine.registry.live.map (·.state) = [.published, .published, .discovering] ∧
    office.engine.registry.removed.map (·.number) = [2] ∧
    concluded office.history = [1, 0] ∧
    ((office.engine.registry.live ++ office.engine.registry.removed).map (·.number)).Perm
      (List.range office.engine.registry.made) ∧
    (∀ f ∈ office.engine.registry.live, f.IsTidy) ∧
    (∀ f ∈ office.engine.registry.removed, f.IsGone) ∧
    (∀ f ∈ office.engine.registry.live, ∀ op ∈ f.tracker.pending,
      office.engine.resolving.get? op = some f.number ∧ op ∈ begun office.history ∧
        op ∉ accepted office.history ∧ op ∉ cancelled office.history) ∧
    (concluded office.history).Nodup ∧
    (∀ f ∈ office.engine.registry.live,
      f.number ∈ concluded office.history ↔ f.state ≠ .discovering) ∧
    (∀ e, .called e .turn ∈ office.history → Concludes e) ∧
    ∀ entry ∈ office.history, office.engine.registry.Recalls entry.engine.registry := by
  have fresh : (begun office.history).Nodup := by decide +kernel
  have unhalted : Unhalted office := ⟨by decide +kernel, by decide +kernel⟩
  exact ⟨by decide +kernel, by decide +kernel, by decide +kernel,
    life_cycle_of_findings office_reached office_admissible fresh unhalted⟩

end ScannerDiscovery.Engine
