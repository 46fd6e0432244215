import ScannerDiscovery.Proofs.Engine.Findings.Matching
import ScannerDiscovery.Proofs.Engine.Scripts

/-!
# Completions in any order

Two completions can be taken in in either order, up to what their order shows in: the order of
addresses and, until a finding is finalized, of endpoints.  So can any number of them: the order in
which resolves complete does not show in what is found.

Main definitions:

- `SameText` : whether two reports give the same text.
- `Ledger.Consistent` : whether two completions are of two resolves and, if one finding waits for
  both, give the same text.
- `Plan.receive`, `lobby` : completions in a script, and a moment at which three are pending.

Main results:

- `Ledger.take_interchange` : two completions in either order.
- `Ledger.foldl_take_perm` : any number of them.
- `order_of_completions` : completions that are handled in two orders.
-/

namespace ScannerDiscovery

namespace Engine

variable {a b c : ResolveEvent} {f g : Finding} {l : Ledger}

/-! ## Two completions of one finding -/

/-- Whether two completions give the same text, if both have found something. -/
def SameText (a b : ResolveEvent) : Prop :=
  a.kind = .found → b.kind = .found → ∀ key, a.txt.value? key = b.txt.value? key

theorem SameText.symm (same : SameText a b) : SameText b a :=
  fun hb ha key => (same ha hb key).symm

/-- One of them says nothing, or both say the same. -/
theorem SameText.said (same : SameText a b) (key : String) :
    saidBy a key = saidBy b key ∨ saidBy a key = none ∨ saidBy b key = none := by
  unfold saidBy
  by_cases ha : a.kind = .found
  · by_cases hb : b.kind = .found
    · exact .inl (by rw [if_pos ha, if_pos hb, same ha hb key])
    · exact .inr (.inr (if_neg hb))
  · exact .inr (.inl (if_neg ha))

theorem or_interchange {α : Type} {first second : Option α}
    (h : first = second ∨ first = none ∨ second = none) (known : Option α) :
    (known.or first).or second = (known.or second).or first := by
  rcases h with rfl | rfl | rfl <;> cases known <;> simp

/-- A finding that has received two completions that give the same text matches the one that has
received them in the other order. -/
theorem received_interchange (same : SameText a b) (discovering : f.state = .discovering) :
    (received b (received a f)).Matches (received a (received b f)) where
  standing := by
    rw [standing_received, standing_received, standing_received, standing_received,
      tracker_received, tracker_received]
    simp only [Tracker.complete, List.erase_comm a.op b.op]
  publishable := by
    rw [Bool.eq_iff_iff]
    simp only [isPublishable_received, service_received, ifindex_received]
    tauto
  model := by
    simp only [model_received]
    exact or_interchange (same.said "ty") f.model
  uuid := by
    simp only [uuid_received]
    refine or_interchange ?_ f.uuid
    rcases same.said "uuid" with heq | hnone | hnone
    · exact .inl (by rw [heq])
    · exact .inr (.inl (by rw [hnone]; rfl))
    · exact .inr (.inr (by rw [hnone]; rfl))
  addresses := by
    simp only [addresses_received]
    cases namedBy a with
    | none => exact .refl _
    | some x =>
        cases namedBy b with
        | none => exact .refl _
        | some y => exact Ip.AddressSet.add_interchange f.addresses x y
  endpoints := by
    simp only [endpoints_received, service_received, ifindex_received]
    exact List.perm_append_comm_assoc _ _ _
  final final := by
    have state : (received b (received a f)).state = f.state :=
      (congrArg Standing.state (standing_received b _)).trans
        (congrArg Standing.state (standing_received a f))
    simp [Finding.IsFinal, state, discovering] at final

/-! ## Who receives a completion after another one -/

namespace Ledger

/-- Who receives a completion depends on its resolve alone. -/
theorem receiver?_congr (l : Ledger) (same : a.op = b.op) : l.receiver? a = l.receiver? b := by
  simp only [receiver?, same]

/-- A completion that nothing waits for leaves those of other resolves to whom they belong. -/
theorem receiver?_take_of_none (forgotten : l.receiver? a = none) (other : a.op ≠ b.op) :
    (l.take a).receiver? b = l.receiver? b := by
  rw [take_of_none forgotten]
  simp only [receiver?, OrderedMap.get?_erase, if_neg other.symm]

/-- So does one that a finding receives; that finding has advanced. -/
theorem receiver?_take_of_some (sound : l.Sound) (receives : l.receiver? a = some f)
    (other : a.op ≠ b.op) :
    (l.take a).receiver? b =
      (l.receiver? b).map fun g => if g.number = f.number then advanced a f else g := by
  obtain ⟨-, live, -⟩ := sound.receiver receives
  rw [take_of_some receives]
  simp only [revised, receiver?, OrderedMap.get?_erase, if_neg other.symm]
  cases l.resolving.get? b.op with
  | none => rfl
  | some n =>
      simp only [Option.bind_some]
      by_cases hn : n = f.number
      · rw [hn, sound.numbered.get?_modify live (number_advanced a f),
          sound.numbered.get?_number (List.mem_append_left _ live), Option.filter_some,
          Option.filter_some, tracker_advanced]
        simp only [Tracker.complete, List.mem_erase_of_ne other.symm]
        split <;> simp
      · rw [Registry.get?_modify_of_ne l.registry (fun _ _ => number_advanced a f) hn]
        cases got : l.registry.get? n with
        | none => rfl
        | some g =>
            obtain ⟨-, hg⟩ := Registry.mem_of_get? got
            rw [Option.filter_some]
            split
            · rw [Option.map_some, if_neg (hg.trans_ne hn)]
            · rfl

/-- Whoever receives a completion after another one receives it before, too. -/
theorem exists_receiver_of_take (sound : l.Sound) (receives : (l.take c).receiver? a = some f) :
    ∃ g, l.receiver? a = some g ∧ g.number = f.number := by
  have other : c.op ≠ a.op := by
    intro same
    have gone : (l.take c).resolving.get? a.op = none := by
      rw [← same, take]
      split <;> exact (OrderedMap.get?_erase _ _ _).trans (if_pos rfl)
    simp [receiver?, gone] at receives
  cases hc : l.receiver? c with
  | none =>
      rw [receiver?_take_of_none hc other] at receives
      exact ⟨f, receives, rfl⟩
  | some k =>
      rw [receiver?_take_of_some sound hc other] at receives
      obtain ⟨g, hg, heq⟩ := Option.map_eq_some_iff.1 receives
      refine ⟨g, hg, ?_⟩
      rw [← heq]
      split
      · rename_i same
        rw [same, number_advanced]
      · rfl

/-! ## Two completions -/

/-- Whether two completions are of two resolves, if anything waits for them, and give the same text
if one finding waits for both. -/
structure Consistent (l : Ledger) (a b : ResolveEvent) : Prop where
  once : a.op = b.op → l.receiver? a = none
  alike : ∀ f g, l.receiver? a = some f → l.receiver? b = some g → f.number = g.number →
    SameText a b

theorem Consistent.symm (consistent : l.Consistent a b) : l.Consistent b a where
  once same := (receiver?_congr l same).trans (consistent.once same.symm)
  alike f g hf hg heq := (consistent.alike g f hg hf heq.symm).symm

/-- Completions stay consistent when another one has been taken in. -/
theorem Consistent.take (consistent : l.Consistent a b) (sound : l.Sound) (c : ResolveEvent) :
    (l.take c).Consistent a b where
  once same := by
    cases hf : (l.take c).receiver? a with
    | none => rfl
    | some f =>
        obtain ⟨g, hg, -⟩ := exists_receiver_of_take sound hf
        rw [consistent.once same] at hg
        cases hg
  alike f g hf hg heq := by
    obtain ⟨f', hf', hfn⟩ := exists_receiver_of_take sound hf
    obtain ⟨g', hg', hgn⟩ := exists_receiver_of_take sound hg
    exact consistent.alike f' g' hf' hg' (hfn.trans (heq.trans hgn.symm))

/-- A completion that nothing waits for can be taken in before or after another one. -/
theorem take_comm_of_none (sound : l.Sound) (forgotten : l.receiver? b = none) :
    (l.take a).take b = (l.take b).take a := by
  have after : (l.take a).receiver? b = none := by
    refine Option.eq_none_iff_forall_ne_some.2 fun f hf => ?_
    obtain ⟨g, hg, -⟩ := exists_receiver_of_take sound hf
    rw [forgotten] at hg
    cases hg
  rw [take_of_none after]
  cases ha : l.receiver? a with
  | none =>
      have before : (l.take b).receiver? a = none := by
        refine Option.eq_none_iff_forall_ne_some.2 fun f hf => ?_
        obtain ⟨g, hg, -⟩ := exists_receiver_of_take sound hf
        rw [ha] at hg
        cases hg
      rw [take_of_none before, take_of_none ha, take_of_none forgotten]
      simp only [OrderedMap.erase_comm _ a.op b.op]
  | some f =>
      have other : b.op ≠ a.op := by
        intro same
        rw [receiver?_congr l same, ha] at forgotten
        cases forgotten
      have before := (receiver?_take_of_none forgotten other).trans ha
      rw [take_of_some before, take_of_some ha, take_of_none forgotten]
      simp only [revised, regated, OrderedMap.erase_comm _ a.op b.op]

/-- Counting off is done in either order. -/
theorem gateAfter_comm (a b : ResolveEvent) (f g : Finding) (gate : Gate) :
    gateAfter b g (gateAfter a f gate) = gateAfter a f (gateAfter b g gate) := by
  unfold gateAfter
  repeat' split
  all_goals first | rfl | exact Gate.lowered_comm gate f.method g.method

/-- What has been done stays done. -/
theorem isDone_gateAfter (a : ResolveEvent) (f : Finding) {gate : Gate} {m : Method}
    (done : gate.isDone m = true) : (gateAfter a f gate).isDone m = true := by
  unfold gateAfter
  split
  · exact Gate.isDone_lowered_of_isDone done f.method
  · exact done

/-- Two changes of the gate enter as done what one does. -/
theorem regated_regated (l : Ledger) {gate gate' : Gate}
    (first : ∀ m, l.gate.isDone m = true → gate.isDone m = true)
    (second : ∀ m, gate.isDone m = true → gate'.isDone m = true) :
    (l.regated gate).regated gate' = l.regated gate' := by
  simp only [regated, Ledger.mk.injEq, true_and]
  funext m
  have hfirst := first m
  have hsecond := second m
  revert hfirst hsecond
  cases l.done m <;> cases l.gate.isDone m <;> cases gate.isDone m <;> cases gate'.isDone m <;> simp

/-- Findings are counted off, and methods entered as done, in either order. -/
theorem regated_comm (l : Ledger) (a b : ResolveEvent) (f g : Finding) :
    (l.regated (gateAfter a f l.gate)).regated (gateAfter b g (gateAfter a f l.gate)) =
      (l.regated (gateAfter b g l.gate)).regated (gateAfter a f (gateAfter b g l.gate)) := by
  rw [regated_regated l (fun _ => isDone_gateAfter a f) fun _ => isDone_gateAfter b g,
    regated_regated l (fun _ => isDone_gateAfter b g) fun _ => isDone_gateAfter a f,
    gateAfter_comm]

/-- Completions of two findings can be taken in in either order. -/
theorem take_comm_of_ne (sound : l.Sound) (ha : l.receiver? a = some f)
    (hb : l.receiver? b = some g) (hne : f.number ≠ g.number) :
    (l.take a).take b = (l.take b).take a := by
  have other : a.op ≠ b.op := by
    intro same
    rw [receiver?_congr l same, hb] at ha
    exact hne (congrArg Finding.number (Option.some.inj ha)).symm
  have keys : f.key ≠ g.key := by
    intro same
    obtain ⟨-, hf, -⟩ := sound.receiver ha
    obtain ⟨-, hg, -⟩ := sound.receiver hb
    exact hne (congrArg Finding.number (List.inj_on_of_nodup_map sound.keys hf hg same))
  have hb' : (l.take a).receiver? b = some g := by
    rw [receiver?_take_of_some sound ha other, hb, Option.map_some, if_neg hne.symm]
  have ha' : (l.take b).receiver? a = some f := by
    rw [receiver?_take_of_some sound hb other.symm, ha, Option.map_some, if_neg hne]
  have gate := congrArg Ledger.gate (regated_comm l a b f g)
  have done := congrArg Ledger.done (regated_comm l a b f g)
  rw [take_of_some hb', take_of_some ha', take_of_some ha, take_of_some hb]
  apply Ledger.ext
  · exact Registry.modify_comm _ hne (fun _ _ => number_advanced a f)
      fun _ _ => number_advanced b g
  · exact gate
  · exact OrderedMap.erase_comm _ _ _
  · funext key
    by_cases hf : key = f.key
    · simp [revised, hf, keys]
    · simp [revised, hf]
  · exact done

/-- A completion that is not the last one of a finding changes that finding alone. -/
theorem revised_of_more (l : Ledger) (more : isLast a f = false) :
    l.revised a f =
      { l with
        registry := l.registry.modify f.number fun _ => received a f
        resolving := l.resolving.erase a.op } := by
  have regated : l.regated l.gate = l := by
    simp [Ledger.regated]
  simp [revised, gateAfter, advanced, issued?, more, regated]

/-- Two completions of one finding that give the same text can be taken in in either order. -/
theorem take_interchange_of_eq (sound : l.Sound) (ha : l.receiver? a = some f)
    (hb : l.receiver? b = some f) (other : a.op ≠ b.op) (same : SameText a b) :
    ((l.take a).take b).Matches ((l.take b).take a) := by
  obtain ⟨-, live, ha_pending⟩ := sound.receiver ha
  obtain ⟨-, -, hb_pending⟩ := sound.receiver hb
  obtain ⟨discovering, -, escl⟩ := sound.waiting f live (List.ne_nil_of_mem ha_pending)
  -- Neither is the last one: the finding waits for the other.
  have hamore : isLast a f = false :=
    List.isEmpty_eq_false_iff.2
      (List.ne_nil_of_mem ((List.mem_erase_of_ne other.symm).2 hb_pending))
  have hbmore : isLast b f = false :=
    List.isEmpty_eq_false_iff.2 (List.ne_nil_of_mem ((List.mem_erase_of_ne other).2 ha_pending))
  have second {a b : ResolveEvent} (ha : l.receiver? a = some f) (hb : l.receiver? b = some f)
      (other : a.op ≠ b.op) (more : isLast a f = false) :
      (l.take a).take b =
        { l.revised b (received a f) with resolving := (l.resolving.erase a.op).erase b.op } := by
    have hb' : (l.take a).receiver? b = some (received a f) := by
      rw [receiver?_take_of_some sound ha other, hb, Option.map_some, if_pos rfl, advanced,
        if_neg (by simp [more])]
    have modified : (l.registry.modify f.number fun _ => received a f).modify (received a f).number
        (fun _ => advanced b (received a f)) =
          l.registry.modify (received a f).number fun _ => advanced b (received a f) := by
      rw [number_received, Registry.modify_modify _ _ _ _ fun _ _ => number_received a f]
    rw [take_of_some hb', take_of_some ha, revised_of_more l more]
    simp only [revised, regated, modified]
  rw [second ha hb other hamore, second hb ha other.symm hbmore, OrderedMap.erase_comm _ b.op a.op]
  refine (Ledger.Matches.refl l).revised ?_ ?_ (received_interchange same discovering)
    (ofProto_received (ofProto_received escl a) b) _
  · intro k hk
    rw [number_received]
    exact sound.numbered.removed_ne live hk
  · simp only [isLast, tracker_received, Tracker.complete, List.erase_comm a.op b.op]

/-- Consistent completions can be taken in in either order. -/
theorem take_interchange (sound : l.Sound) (consistent : l.Consistent a b) :
    ((l.take a).take b).Matches ((l.take b).take a) := by
  cases hb : l.receiver? b with
  | none => exact take_comm_of_none sound hb ▸ .refl _
  | some g =>
      cases ha : l.receiver? a with
      | none => exact take_comm_of_none sound ha ▸ .refl _
      | some f =>
          have other : a.op ≠ b.op := by
            intro same
            rw [consistent.once same] at ha
            cases ha
          by_cases heq : f.number = g.number
          · obtain ⟨-, hf, -⟩ := sound.receiver ha
            obtain ⟨-, hg, -⟩ := sound.receiver hb
            obtain rfl := sound.numbered.eq_of_number (List.mem_append_left _ hf)
              (List.mem_append_left _ hg) heq
            exact take_interchange_of_eq sound ha hb other (consistent.alike f f ha hb rfl)
          · exact take_comm_of_ne sound ha hb heq ▸ .refl _

/-! ## Any number of completions -/

/-- Completions any two of which are consistent can be taken in in any order. -/
theorem foldl_take_perm {events events' : List ResolveEvent} (perm : events.Perm events')
    (sound : l.Sound) (consistent : events.Pairwise l.Consistent) :
    (events.foldl Ledger.take l).Matches (events'.foldl Ledger.take l) := by
  induction perm generalizing l with
  | nil => exact .refl l
  | cons event _ ih =>
      exact ih (sound.take event)
        ((List.pairwise_cons.1 consistent).2.imp fun two => two.take sound event)
  | swap a b rest =>
      have first : l.Consistent b a := (List.pairwise_cons.1 consistent).1 a List.mem_cons_self
      exact (take_interchange sound first).foldl_take ((sound.take b).take a) rest
  | trans perm _ ih ih' =>
      exact (ih sound consistent).trans
        (ih' sound (perm.pairwise consistent fun two => two.symm))

end Ledger

/-! ## Runs -/

/-- Completions, one at most of each resolve, can be handled in any order, if their ports exist and
those of one finding give the same text.  The same findings are finalized and published, with the
same model, identifier, endpoints and set of addresses; the same ones are in the catalog; the gate
is the same, and the same methods have been reported as done. -/
theorem order_of_completions {m n n' : Moment} {events events' : List ResolveEvent}
    (reached : Reached m) (handles : Handles m events n) (handles' : Handles m events' n')
    (perm : events.Perm events')
    (once : events.Pairwise fun a b => a.op = b.op → receiver? m.engine a = none)
    (texts : ∀ a ∈ events, ∀ b ∈ events, ∀ f, receiver? m.engine a = some f →
      receiver? m.engine b = some f → SameText a b)
    (ports : ∀ event ∈ events, event.kind = .found → 0 ≤ event.port ∧ event.port ≤ 65535)
    (admitted : Since Entry.Admitted m.history n.history)
    (admitted' : Since Entry.Admitted m.history n'.history) :
    List.Forall₂ Finding.Matches n.engine.registry.live n'.engine.registry.live ∧
    n.engine.registry.removed = n'.engine.registry.removed ∧
    (∀ key, Option.Rel Snapshot.Matches ((catalogAfter n.history).findings.get? key)
      ((catalogAfter n'.history).findings.get? key)) ∧
    n.engine.gate = n'.engine.gate ∧
    ∀ method, (catalogAfter n.history).isDone method = (catalogAfter n'.history).isDone method := by
  have sound := Ledger.Sound.of_chronicled reached.chronicled
  have consistent : events.Pairwise (ledger m.engine m.history).Consistent := by
    refine once.imp_of_mem fun {a b} ha hb once => ⟨once, fun f g hf hg heq => ?_⟩
    obtain ⟨-, live, -⟩ := sound.receiver hf
    obtain ⟨-, live', -⟩ := sound.receiver hg
    obtain rfl := sound.numbered.eq_of_number (List.mem_append_left _ live)
      (List.mem_append_left _ live') heq
    exact texts a ha b hb f hf hg
  obtain ⟨first, -⟩ := ledger_of_handles handles sound ports admitted
  obtain ⟨second, -⟩ := ledger_of_handles handles' sound
    (fun event hevent => ports event (perm.mem_iff.2 hevent)) admitted'
  have matching := Ledger.foldl_take_perm perm sound consistent
  rw [← first, ← second] at matching
  exact ⟨matching.live, matching.removed, matching.shown, matching.gate, congrFun matching.done⟩

/-- The moment after a completion has been posted and handled. -/
def Plan.receive (plan : Plan) (m : Moment) (event : ResolveEvent) : Moment :=
  (told (.notice (.resolve event))).foldl plan.perform m

/-- Whether completions that are posted come up one after another. -/
def Plan.Meets (plan : Plan) : Moment → List ResolveEvent → Prop
  | _, [] => True
  | m, event :: rest =>
    Call.turn.IsPossible (m.engine.post (.notice (.resolve event))) ∧
    (m.engine.post (.notice (.resolve event))).next? = some (.notice (.resolve event)) ∧
    plan.Meets (plan.receive m event) rest

instance (plan : Plan) : (m : Moment) → (events : List ResolveEvent) →
    Decidable (plan.Meets m events)
  | _, [] => .isTrue trivial
  | m, event :: rest =>
    have := instDecidableMeets plan (plan.receive m event) rest
    inferInstanceAs (Decidable (_ ∧ _ ∧ plan.Meets (plan.receive m event) rest))

/-- Completions that are posted and come up are handled one after another. -/
theorem Plan.handles (plan : Plan) {m n : Moment} {events more : List ResolveEvent}
    (before : Handles m events n) (meets : plan.Meets n more) :
    Handles m (events ++ more) (more.foldl plan.receive n) := by
  induction more generalizing events n with
  | nil => rwa [List.append_nil]
  | cons event rest ih =>
      obtain ⟨possible, next, meets⟩ := meets
      have aside : Aside n.engine (n.engine.post (.notice (.resolve event))) :=
        Disturbance.apply_eq n.engine (.post _)
      have handled : Handles m (events ++ [event]) (plan.receive n event) := by
        simp only [receive, told, List.foldl_cons, List.foldl_nil, perform, Disturbance.apply,
          if_pos possible]
        exact before.next aside next (plan.runs (turn _) (.called _ .turn :: n.history))
      rw [List.append_cons, List.foldl_cons]
      exact ih handled meets

theorem Plan.foldl_receive (plan : Plan) (script : List Act) (events : List ResolveEvent) :
    events.foldl plan.receive (plan.carryOut script) =
      plan.carryOut (script ++ events.flatMap fun event => told (.notice (.resolve event))) := by
  rw [carryOut, carryOut, List.foldl_append, List.foldl_flatMap]
  rfl

/-- A lobby with two scanners; one is being resolved for both address families. -/
def lobby : Moment :=
  Plan.willing.carryOut <|
    [.call .start] ++ told (.notice (.client .running)) ++
    told (.notice (.browse
      { service := .uscan, kind := .new, name := some "Library", ifindex := 2,
        families := [.ipv4, .ipv6] })) ++
    seen .uscans "Workshop"

/-- The lobby after completions. -/
def lobbyAfter (events : List ResolveEvent) : Moment :=
  events.foldl Plan.willing.receive lobby

theorem lobbyAfter_admissible (events : List ResolveEvent) :
    Admissible (lobbyAfter events).history := by
  rw [lobbyAfter, lobby, Plan.foldl_receive]
  exact Plan.admissible Plan.willing_admits _

/-- The first scanner is found at its older address. -/
def foundOlder : ResolveEvent :=
  { op := .number 9, kind := .found, address := some (.v4 ⟨192, 0, 2, 8⟩), port := 80
    txt := .ofList [("ty", "Reader")] }

/-- It is found at its newer address. -/
def foundNewer : ResolveEvent :=
  { op := .number 10, kind := .found
    address := some (.v6 ⟨[0xfe80, 0, 0, 0, 0, 0, 0, 8], rfl⟩ none)
    port := 80, txt := .ofList [("ty", "Reader")] }

/-- The second scanner is found. -/
def foundOther : ResolveEvent :=
  { op := .number 12, kind := .found, address := some (.v4 ⟨192, 0, 2, 9⟩), port := 443 }

/-- In the lobby the scanners are found in two orders, and both are published. -/
theorem lobby_in_two_orders :
    Handles lobby [foundOlder, foundOther, foundNewer]
      (lobbyAfter [foundOlder, foundOther, foundNewer]) ∧
    Handles lobby [foundNewer, foundOlder, foundOther]
      (lobbyAfter [foundNewer, foundOlder, foundOther]) ∧
    (lobbyAfter [foundOlder, foundOther, foundNewer]).engine.registry.published.map (·.model) =
      [some "Reader", some "Workshop"] ∧
    List.Forall₂ Finding.Matches
      (lobbyAfter [foundOlder, foundOther, foundNewer]).engine.registry.live
      (lobbyAfter [foundNewer, foundOlder, foundOther]).engine.registry.live := by
  have handles : Handles lobby [foundOlder, foundOther, foundNewer]
      (lobbyAfter [foundOlder, foundOther, foundNewer]) :=
    Plan.willing.handles .none (by decide +kernel)
  have handles' : Handles lobby [foundNewer, foundOlder, foundOther]
      (lobbyAfter [foundNewer, foundOlder, foundOther]) :=
    Plan.willing.handles .none (by decide +kernel)
  have older : receiver? lobby.engine foundOlder ≠ receiver? lobby.engine foundOther := by
    decide +kernel
  have newer : receiver? lobby.engine foundNewer ≠ receiver? lobby.engine foundOther := by
    decide +kernel
  have agree := order_of_completions (Plan.willing.reached _) handles handles' (by decide +kernel)
    (by decide +kernel) ?_ (by decide +kernel)
    ((lobbyAfter_admissible _).since handles.suffix)
    ((lobbyAfter_admissible _).since handles'.suffix)
  · exact ⟨handles, handles', by decide +kernel, agree.1⟩
  · intro a ha b hb f hf hg
    simp only [List.mem_cons, List.not_mem_nil, or_false] at ha hb
    rcases ha with rfl | rfl | rfl <;> rcases hb with rfl | rfl | rfl <;>
      first
        | exact fun _ _ _ => rfl
        | exact absurd (hf.trans hg.symm) (by assumption)
        | exact absurd (hg.trans hf.symm) (by assumption)

end Engine

end ScannerDiscovery
