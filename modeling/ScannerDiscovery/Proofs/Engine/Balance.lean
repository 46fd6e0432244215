import ScannerDiscovery.Proofs.Engine.Moves
import ScannerDiscovery.Proofs.Gate
import ScannerDiscovery.Proofs.OrderedMap

/-!
# The books balance

Three invariants of the moves.  The registry is in order: its findings can be told apart, and what
is published or removed waits for nothing.  What is being resolved, a live finding waits for.  And
the gate counts exactly the tasks that there are: open browses in their initial phase, live
findings of that time, and a task that has ended and is not counted off yet.

Main results:

- `Registered.move`, `Linked.move`, `Tallied.move` : every move keeps the three invariants.
- `Tallied.dec_ne_none` : a task that has ended can be counted off.
-/

namespace ScannerDiscovery

/-- A tracker waits for what is begun on it, -/
theorem Tracker.mem_begin (t : Tracker) (op : Ticket) : op ∈ (t.begin op).pending := by
  unfold Tracker.begin
  split
  · assumption
  · simp

/-- and for what it has waited for. -/
theorem Tracker.mem_begin_of_mem (t : Tracker) (op : Ticket) {op' : Ticket}
    (h : op' ∈ t.pending) : op' ∈ (t.begin op).pending := by
  unfold Tracker.begin
  split
  · exact h
  · exact List.mem_append_left _ h

namespace Engine

/-! ## The registry in order -/

/-- Whether the registry is in order at a point: findings are told apart by their numbers, live
ones by their keys too; the finding at hand is live and not published; a removed finding waits
for nothing, is not published and not counted; and a published one waits for nothing. -/
structure Registered (p : Point) : Prop where
  numbered : p.holdings.registry.WellNumbered
  keys : (p.holdings.registry.live.map (·.key)).Nodup
  subject : ∀ number, p.debt.subject = some number →
    ∃ f ∈ p.holdings.registry.live, f.number = number ∧ f.isPublished = false
  removed : ∀ f ∈ p.holdings.registry.removed,
    f.tracker.pending = [] ∧ f.isPublished = false ∧ f.inInitialScan = false
  published : ∀ f ∈ p.holdings.registry.live, f.isPublished = true → f.tracker.pending = []

/-- The finding at hand is not published. -/
theorem Registered.unpublished {d : Debt} {w : Holdings} {h : History} {f : Finding}
    (reg : Registered ⟨d, w, h⟩) (hsubject : d.subject = some f.number)
    (hf : f ∈ w.registry.live) : f.isPublished = false := by
  obtain ⟨g, hg, hnumber, hunpublished⟩ := reg.subject _ hsubject
  rw [← reg.numbered.eq_of_number (List.mem_append_left _ hg) (List.mem_append_left _ hf) hnumber]
  exact hunpublished

/-- The registry stays in order while it is left alone, and no other finding comes to hand. -/
theorem Registered.same {d d' : Debt} {w w' : Holdings} {h h' : History}
    (reg : Registered ⟨d, w, h⟩) (hregistry : w'.registry = w.registry)
    (hsubject : d'.subject = none ∨ d'.subject = d.subject) : Registered ⟨d', w', h'⟩ := by
  refine ⟨hregistry ▸ reg.numbered, hregistry ▸ reg.keys, ?_, hregistry ▸ reg.removed,
    hregistry ▸ reg.published⟩
  intro number hd
  rw [hregistry]
  rcases hsubject with hsubject | hsubject
  · simp [hsubject] at hd
  · exact reg.subject number (hsubject ▸ hd)

/-- The registry stays in order if a live finding is replaced by a form of itself. -/
theorem Registered.replaces {d d' : Debt} {w : Holdings} {h h' : History} {f f' : Finding}
    {r : Registry} {resolving : OrderedMap Ticket Nat} (reg : Registered ⟨d, w, h⟩)
    (replaces : w.registry.Replaces f f' r) (hnumber : f'.number = f.number)
    (hkey : f'.key = f.key) (hsettled : f'.isPublished = true → f'.tracker.pending = [])
    (hsubject : ∀ number, d'.subject = some number →
      number = f.number ∧ f'.isPublished = false) :
    Registered ⟨d', { w with registry := r, resolving }, h'⟩ := by
  have numbered := reg.numbered.replaces replaces hnumber
  have hremoved := replaces.removed
  have hmem := replaces.mem'
  obtain ⟨before, after, hlive, rfl⟩ := replaces
  refine ⟨numbered, ?_, ?_, ?_, ?_⟩
  · have := reg.keys
    simp only [hlive, List.map_append, List.map_cons] at this
    simpa [hkey] using this
  · intro number hd
    obtain ⟨rfl, hunpublished⟩ := hsubject number hd
    exact ⟨f', hmem, hnumber, hunpublished⟩
  · intro g hg
    exact reg.removed g hg
  · intro g hg hpublished
    rcases List.mem_append.1 hg with hg | hg
    · exact reg.published g (by simp [hlive, hg]) hpublished
    · rcases List.mem_cons.1 hg with rfl | hg
      · exact hsettled hpublished
      · exact reg.published g (by simp [hlive, hg]) hpublished

/-- The registry stays in order if a finding is created for an instance that has none. -/
theorem Registered.create {d d' : Debt} {w : Holdings} {h h' : History} {service : Service}
    {ifindex : Int} {name : String} {gate : Gate} (reg : Registered ⟨d, w, h⟩)
    (new : w.registry.find? (.of service ifindex name) = none) (counted : Bool)
    (hsubject : d'.subject = some w.registry.made) :
    Registered ⟨d',
      { w with gate, registry := (w.registry.create service ifindex name counted).1 }, h'⟩ := by
  have numbered := reg.numbered
  refine ⟨numbered.create .., Registry.nodup_keys_create reg.keys new _, ?_, reg.removed, ?_⟩
  · intro number hd
    refine ⟨_, List.mem_append_right _ List.mem_cons_self, ?_, rfl⟩
    exact Option.some.inj (hsubject.symm.trans hd)
  · intro g hg hpublished
    rcases List.mem_append.1 hg with hg | hg
    · exact reg.published g hg hpublished
    · rw [List.mem_singleton.1 hg] at hpublished
      simp at hpublished

/-- The registry stays in order if an unpublished finding is removed. -/
theorem Registered.remove {d d' : Debt} {w : Holdings} {h h' : History} {f : Finding}
    {r : Registry} (reg : Registered ⟨d, w, h⟩) (unpublished : f.isPublished = false)
    (drops : w.registry.Drops f
      { f with state := .deleted, tracker := .empty, inInitialScan := false } r)
    (hsubject : d'.subject = none) : Registered ⟨d', { w with registry := r }, h'⟩ := by
  have numbered := reg.numbered.drops drops rfl
  obtain ⟨before, after, hlive, rfl⟩ := drops
  refine ⟨numbered, ?_, by simp [hsubject], ?_, ?_⟩
  · have := reg.keys
    simp only [hlive, List.map_append, List.map_cons] at this
    rw [List.nodup_middle, List.nodup_cons] at this
    simpa using this.2
  · intro g hg
    rcases List.mem_cons.1 hg with rfl | hg
    · exact ⟨rfl, unpublished, rfl⟩
    · exact reg.removed g hg
  · intro g hg hpublished
    refine reg.published g ?_ hpublished
    rw [hlive]
    rcases List.mem_append.1 hg with hg | hg <;> simp [hg]

/-- Every move keeps the registry in order. -/
theorem Registered.move {p q : Point} (move : Move p q) (reg : Registered p) : Registered q := by
  cases move with
  | noted at_e minor => exact reg.same rfl (.inr rfl)
  | called at_e stale => exact reg.same rfl (.inl rfl)
  | @accepted w h e op f r at_e next resolving pending replaces =>
      have hunpublished : f.isPublished = false := by
        cases hp : f.isPublished with
        | false => rfl
        | true =>
            have hidle := reg.published f replaces.mem hp
            simp [hidle] at pending
      exact reg.replaces replaces rfl rfl (by simp [hunpublished])
        (by simp [hunpublished, eq_comm])
  | created service ifindex name new => exact reg.create new _ rfl
  | @begun w h e f family op r at_e replaces =>
      have hunpublished := reg.unpublished rfl replaces.mem
      exact reg.replaces replaces rfl rfl (by simp [hunpublished])
        (by simp [hunpublished, eq_comm])
  | @revised w h f f' r revision replaces =>
      have hunpublished := reg.unpublished rfl replaces.mem
      have hstanding := revision.standing
      have hnumber : f'.number = f.number := by rw [hstanding]
      have hkey : f'.key = f.key := by rw [hstanding]; rfl
      have hpublished : f'.isPublished = false := by rw [hstanding]; exact hunpublished
      exact reg.replaces replaces hnumber hkey (by simp [hpublished])
        (by simp [hpublished, eq_comm])
  | left => exact reg.same rfl (.inl rfl)
  | @published w h e f f' r idle form replaces at_e =>
      subst form
      exact reg.replaces replaces rfl rfl (fun _ => idle) (by simp)
  | @uncounted w h f r counted replaces =>
      exact reg.replaces replaces rfl rfl (reg.published f replaces.mem) (by simp)
  | @withdrawn w h e f r at_e published replaces =>
      exact reg.replaces replaces rfl rfl (by simp) (by simp)
  | removed unpublished form drops =>
      subst form
      exact reg.remove unpublished drops rfl
  | countedOff dec => exact reg.same rfl (.inl rfl)
  | signalled at_e => exact reg.same rfl (.inl rfl)
  | cancelled at_e => exact reg.same rfl (.inl rfl)
  | phaseEnded initial browsing => exact reg.same rfl (.inl rfl)
  | phasesEnded browsers live => exact reg.same rfl (.inl rfl)
  | opened at_e client new => exact reg.same rfl (.inl rfl)
  | closed current at_e => exact reg.same rfl (.inl rfl)
  | clientStarted at_e down => exact reg.same rfl (.inl rfl)
  | clientStopped up browsers at_e => exact reg.same rfl (.inl rfl)
  | forgotten live => exact reg.same rfl (.inl rfl)

/-! ## Resolves and findings -/

/-- Whether every resolve that the engine knows of is one that a live finding waits for, or is
about to be cancelled. -/
def Linked (p : Point) : Prop :=
  ∀ op number, p.holdings.resolving.get? op = some number →
    op ∈ p.debt.ops ∨ ∃ f ∈ p.holdings.registry.live, f.number = number ∧ op ∈ f.tracker.pending

/-- Resolves stay linked if a live finding is replaced that waits for what is resolved for it. -/
theorem Linked.replaces {d d' : Debt} {w : Holdings} {h h' : History} {f f' : Finding}
    {r : Registry} {resolving : OrderedMap Ticket Nat} (linked : Linked ⟨d, w, h⟩)
    (hops : d.ops = []) (replaces : w.registry.Replaces f f' r) (hnumber : f'.number = f.number)
    (waits : ∀ op number, resolving.get? op = some number →
      number = f.number ∧ op ∈ f'.tracker.pending ∨
        w.resolving.get? op = some number ∧ (op ∈ f.tracker.pending → op ∈ f'.tracker.pending)) :
    Linked ⟨d', { w with registry := r, resolving }, h'⟩ := by
  intro op number hget
  refine .inr ?_
  rcases waits op number hget with ⟨rfl, hpending⟩ | ⟨hold, hkeeps⟩
  · exact ⟨f', replaces.mem', hnumber, hpending⟩
  · rcases linked op number hold with hop | ⟨g, hg, rfl, hpending⟩
    · simp [hops] at hop
    · obtain ⟨before, after, hlive, rfl⟩ := replaces
      simp only [hlive, List.mem_append, List.mem_cons] at hg ⊢
      by_cases hgf : g = f
      · subst hgf
        exact ⟨f', by simp, hnumber, hkeeps hpending⟩
      · refine ⟨g, ?_, rfl, hpending⟩
        tauto

/-- Resolves stay linked if a finding is removed and its own are to be cancelled. -/
theorem Linked.remove {d d' : Debt} {w : Holdings} {h h' : History} {f f' : Finding}
    {r : Registry} (linked : Linked ⟨d, w, h⟩) (hops : d.ops = [])
    (drops : w.registry.Drops f f' r) (hops' : d'.ops = f.tracker.pending) :
    Linked ⟨d', { w with registry := r }, h'⟩ := by
  obtain ⟨before, after, hlive, rfl⟩ := drops
  intro op number hget
  rcases linked op number hget with hop | ⟨g, hg, hnumber, hpending⟩
  · simp [hops] at hop
  · by_cases hgf : g = f
    · refine .inl ?_
      rw [hops', ← hgf]
      exact hpending
    · refine .inr ⟨g, ?_, hnumber, hpending⟩
      simp only [hlive, List.mem_append, List.mem_cons] at hg ⊢
      tauto

/-- Resolves stay linked if one is cancelled. -/
theorem Linked.cancel {d d' : Debt} {w : Holdings} {h h' : History} {op : Ticket}
    (linked : Linked ⟨d, w, h⟩) (hops : d.ops = op :: d'.ops) :
    Linked ⟨d', { w with resolving := w.resolving.erase op }, h'⟩ := by
  intro op' number hget
  rw [OrderedMap.get?_erase] at hget
  by_cases heq : op' = op
  · simp [heq] at hget
  · rw [if_neg heq] at hget
    rcases linked op' number hget with hop | hfinding
    · rw [hops] at hop
      exact .inl (List.mem_of_ne_of_mem heq hop)
    · exact .inr hfinding

/-- Every move keeps resolves linked. -/
theorem Linked.move {p q : Point} (move : Move p q) (linked : Linked p) : Linked q := by
  cases move with
  | noted at_e minor => exact linked
  | called at_e stale => exact linked
  | @accepted w h e op f r at_e next resolving pending replaces =>
      refine linked.replaces rfl replaces rfl ?_
      intro op' number hget
      rw [OrderedMap.get?_erase] at hget
      by_cases heq : op' = op
      · simp [heq] at hget
      · rw [if_neg heq] at hget
        exact .inr ⟨hget, (List.mem_erase_of_ne heq).2⟩
  | @created w h service ifindex name new =>
      intro op number hget
      rcases linked op number hget with hop | ⟨f, hf, hfinding⟩
      · exact .inl hop
      · exact .inr ⟨f, List.mem_append_left _ hf, hfinding⟩
  | @begun w h e f family op r at_e replaces =>
      refine linked.replaces rfl replaces rfl ?_
      intro op' number hget
      rw [OrderedMap.get?_insert] at hget
      by_cases heq : op' = op
      · rw [if_pos heq, Option.some.injEq] at hget
        exact .inl ⟨hget.symm, heq ▸ f.tracker.mem_begin op⟩
      · rw [if_neg heq] at hget
        exact .inr ⟨hget, f.tracker.mem_begin_of_mem op⟩
  | revised revision replaces =>
      have hstanding := revision.standing
      refine linked.replaces rfl replaces (by rw [hstanding]) ?_
      intro op number hget
      exact .inr ⟨hget, by rw [hstanding]; exact id⟩
  | left => exact linked
  | published idle form replaces at_e =>
      subst form
      exact linked.replaces rfl replaces rfl fun _ _ hget => .inr ⟨hget, id⟩
  | uncounted counted replaces =>
      exact linked.replaces rfl replaces rfl fun _ _ hget => .inr ⟨hget, id⟩
  | withdrawn at_e published replaces =>
      exact linked.replaces rfl replaces rfl fun _ _ hget => .inr ⟨hget, id⟩
  | removed unpublished form drops => exact linked.remove rfl drops rfl
  | countedOff dec => exact linked
  | signalled at_e => exact linked
  | cancelled at_e => exact linked.cancel rfl
  | phaseEnded initial browsing => exact linked
  | phasesEnded browsers live => exact linked
  | opened at_e client new => exact linked
  | closed current at_e => exact linked
  | clientStarted at_e down => exact linked
  | clientStopped up browsers at_e => exact linked
  | forgotten live =>
      intro op number hget
      simp at hget

/-! ## The tasks of the initial scan -/

/-- The open browses of a method that are in their initial phase. -/
def Holdings.browseTasks (w : Holdings) (m : Method) : Nat :=
  w.browsers.keys.countP fun s => s.method == m && w.gate.inInitialScan s

/-- The live findings of a method that are attributed to the initial scan. -/
def Holdings.findingTasks (w : Holdings) (m : Method) : Nat :=
  w.registry.live.countP fun f => f.method == m && f.inInitialScan

/-- Whether the gate counts exactly the tasks that there are at a point, besides some of each method
that are lost for good, and nothing is left of the methods that are about to be reported done. -/
structure Tallied (lost : Method → Nat) (p : Point) : Prop where
  count : ∀ m, p.holdings.gate.count m =
    p.holdings.browseTasks m + p.holdings.findingTasks m +
      (if p.debt.task = some m then 1 else 0) + lost m
  signals : ∀ m ∈ p.debt.signals, p.holdings.browseTasks m = 0 ∧ p.holdings.findingTasks m = 0

/-- Whether the gate counts exactly the tasks that there are at a point, and none is lost. -/
abbrev Balanced (p : Point) : Prop :=
  Tallied (fun _ => 0) p

variable {lost : Method → Nat}

/-- Once nothing is browsed or live, only what is lost is counted. -/
theorem Tallied.count_of_idle {w : Holdings} {h : History} (tallied : Tallied lost ⟨{}, w, h⟩)
    (browsers : w.browsers = .empty) (live : w.registry.live = []) (m : Method) :
    w.gate.count m = lost m := by
  have hcount := tallied.count m
  have hbrowses : w.browseTasks m = 0 := by
    rw [Holdings.browseTasks, browsers]
    rfl
  have hfindings : w.findingTasks m = 0 := by
    rw [Holdings.findingTasks, live]
    rfl
  simpa only [hbrowses, hfindings, reduceCtorEq, if_false, Nat.zero_add] using hcount

/-- A task that has ended can be counted off. -/
theorem Tallied.dec_ne_none {d : Debt} {w : Holdings} {h : History} {m : Method}
    (tallied : Tallied lost ⟨d, w, h⟩) (task : d.task = some m) : w.gate.dec m ≠ none := by
  intro refused
  have hcount := tallied.count m
  rw [(Gate.dec_refused_iff _ m).1 refused, if_pos task] at hcount
  omega

/-! ### Tasks after a change -/

/-- The tasks of findings after a live one has been replaced. -/
theorem findingTasks_replaces {w : Holdings} {f f' : Finding} {r : Registry}
    (replaces : w.registry.Replaces f f' r) (hservice : f'.service = f.service)
    (resolving : OrderedMap Ticket Nat) (m : Method) :
    Holdings.findingTasks { w with registry := r, resolving } m +
        (if f.method = m ∧ f.inInitialScan = true then 1 else 0) =
      w.findingTasks m + if f.method = m ∧ f'.inInitialScan = true then 1 else 0 := by
  obtain ⟨before, after, hlive, rfl⟩ := replaces
  have hmethod : f'.method = f.method := by rw [Finding.method, hservice, Finding.method]
  simp only [Holdings.findingTasks, hlive, List.countP_append, List.countP_cons, hmethod,
    Bool.and_eq_true, beq_iff_eq]
  omega

/-- The tasks of findings after a live one has been removed. -/
theorem findingTasks_drops {w : Holdings} {f f' : Finding} {r : Registry}
    (drops : w.registry.Drops f f' r) (m : Method) :
    w.findingTasks m = Holdings.findingTasks { w with registry := r } m +
      if f.method = m ∧ f.inInitialScan = true then 1 else 0 := by
  obtain ⟨before, after, hlive, rfl⟩ := drops
  simp only [Holdings.findingTasks, hlive, List.countP_append, List.countP_cons,
    Bool.and_eq_true, beq_iff_eq]
  omega

/-- The tasks of findings after one has been created. -/
theorem findingTasks_create (w : Holdings) (gate : Gate) (service : Service) (ifindex : Int)
    (name : String) (counted : Bool) (m : Method) :
    Holdings.findingTasks
        { w with gate, registry := (w.registry.create service ifindex name counted).1 } m =
      w.findingTasks m + if service.method = m ∧ counted = true then 1 else 0 := by
  simp only [Holdings.findingTasks, Registry.create, List.countP_append, List.countP_singleton,
    Finding.method, Bool.and_eq_true, beq_iff_eq]

/-- The tasks of browses after one has been opened. -/
theorem browseTasks_insert {w : Holdings} {service : Service} {gate : Gate}
    (new : w.browsers.get? service = none) (handle : Ticket)
    (hgate : ∀ s, gate.inInitialScan s = w.gate.inInitialScan s) (m : Method) :
    Holdings.browseTasks
        { w with browsers := w.browsers.insert service handle, gate := gate } m =
      w.browseTasks m +
        if service.method = m ∧ w.gate.inInitialScan service = true then 1 else 0 := by
  simp only [Holdings.browseTasks, hgate, OrderedMap.countP_keys_insert new, Bool.and_eq_true,
    beq_iff_eq]

/-- The tasks of browses after one has been closed. -/
theorem browseTasks_erase {w : Holdings} {service : Service} {handle : Ticket}
    (current : w.browsers.get? service = some handle) (m : Method) :
    w.browseTasks m =
      Holdings.browseTasks { w with browsers := w.browsers.erase service } m +
        if service.method = m ∧ w.gate.inInitialScan service = true then 1 else 0 := by
  simp only [Holdings.browseTasks, OrderedMap.countP_keys_erase current, Bool.and_eq_true,
    beq_iff_eq]

/-- The tasks of browses after the initial phase of one has ended. -/
theorem browseTasks_endPhase {w : Holdings} {service : Service}
    (initial : w.gate.inInitialScan service = true)
    (browsing : (w.browsers.get? service).isSome = true) (m : Method) :
    w.browseTasks m =
      Holdings.browseTasks { w with gate := w.gate.endPhase service } m +
        if service.method = m then 1 else 0 := by
  obtain ⟨before, after, hkeys⟩ := List.append_of_mem (OrderedMap.mem_keys_iff.2 browsing)
  have hdistinct : w.browsers.keys.Nodup := w.browsers.distinct
  rw [hkeys, List.nodup_middle, List.nodup_cons] at hdistinct
  have others : ∀ {l : List Service}, service ∉ l →
      l.countP (fun s => s.method == m && (w.gate.endPhase service).inInitialScan s) =
        l.countP fun s => s.method == m && w.gate.inInitialScan s := by
    intro l hl
    apply List.countP_congr
    intro s hs
    have hne : service ≠ s := fun heq => hl (heq ▸ hs)
    simp [hne]
  have hbefore := others fun hm => hdistinct.1 (List.mem_append_left _ hm)
  have hafter := others fun hm => hdistinct.1 (List.mem_append_right _ hm)
  simp only [Holdings.browseTasks, hkeys, List.countP_append, List.countP_cons, hbefore, hafter]
  simp only [initial, Gate.inInitialScan_endPhase, bne_self_eq_false, Bool.and_false,
    Bool.and_true, beq_iff_eq, Bool.false_eq_true, if_false]
  omega

/-! ### The books after a move -/

/-- The tally stays right while books and browses are left alone. -/
theorem Tallied.same {d d' : Debt} {w w' : Holdings} {h h' : History}
    (tallied : Tallied lost ⟨d, w, h⟩) (htask : d'.task = d.task)
    (hsignals : ∀ m ∈ d'.signals, m ∈ d.signals) (hgate : w'.gate = w.gate)
    (hregistry : w'.registry = w.registry) (hbrowsers : w'.browsers = w.browsers) :
    Tallied lost ⟨d', w', h'⟩ := by
  refine ⟨?_, ?_⟩
  · intro m
    simpa only [Holdings.browseTasks, Holdings.findingTasks, htask, hgate, hregistry, hbrowsers]
      using tallied.count m
  · intro m hm
    simpa only [Holdings.browseTasks, Holdings.findingTasks, hgate, hregistry, hbrowsers] using
      tallied.signals m (hsignals m hm)

/-- The tally stays right if a live finding is replaced that is counted as before. -/
theorem Tallied.replaces {d d' : Debt} {w : Holdings} {h h' : History} {f f' : Finding}
    {r : Registry} {resolving : OrderedMap Ticket Nat} (tallied : Tallied lost ⟨d, w, h⟩)
    (replaces : w.registry.Replaces f f' r) (hservice : f'.service = f.service)
    (hflag : f'.inInitialScan = f.inInitialScan) (htask : d'.task = d.task)
    (hsignals : d'.signals = []) : Tallied lost ⟨d', { w with registry := r, resolving }, h'⟩ := by
  refine ⟨?_, by simp [hsignals]⟩
  intro m
  have hcount := tallied.count m
  have hfindings := findingTasks_replaces replaces hservice resolving m
  rw [hflag] at hfindings
  rw [htask]
  simp only [Holdings.browseTasks] at hcount ⊢
  omega

/-- The tally stays right if something begins that is counted if it is a task. -/
theorem Tallied.begin {d d' : Debt} {w w' : Holdings} {h h' : History}
    (tallied : Tallied lost ⟨d, w, h⟩) (service : Service) (htask : d'.task = d.task)
    (hsignals : d'.signals = [])
    (hgate : w'.gate =
      if w.gate.inInitialScan service then w.gate.inc service.method else w.gate)
    (htasks : ∀ m, w'.browseTasks m + w'.findingTasks m = w.browseTasks m + w.findingTasks m +
      if service.method = m ∧ w.gate.inInitialScan service = true then 1 else 0) :
    Tallied lost ⟨d', w', h'⟩ := by
  refine ⟨?_, by simp [hsignals]⟩
  intro m
  have hcount := tallied.count m
  have hafter := htasks m
  simp only [hgate, htask] at hcount ⊢
  cases hinitial : w.gate.inInitialScan service with
  | false =>
      simp only [hinitial, Bool.false_eq_true, and_false, if_false] at hafter ⊢
      omega
  | true =>
      simp only [hinitial, and_true, if_true, Gate.count_inc] at hafter ⊢
      by_cases hm : service.method = m
      · subst hm
        rw [if_pos rfl] at hafter ⊢
        omega
      · rw [if_neg hm] at hafter ⊢
        omega

/-- The tally stays right if a task ends that is still to be counted off. -/
theorem Tallied.finish {d d' : Debt} {w w' : Holdings} {h h' : History}
    (tallied : Tallied lost ⟨d, w, h⟩) (htask : d.task = none) (hsignals : d'.signals = [])
    (hgate : ∀ m, w'.gate.count m = w.gate.count m)
    (htasks : ∀ m, w.browseTasks m + w.findingTasks m =
      w'.browseTasks m + w'.findingTasks m + if d'.task = some m then 1 else 0) :
    Tallied lost ⟨d', w', h'⟩ := by
  refine ⟨?_, by simp [hsignals]⟩
  intro m
  have hcount := tallied.count m
  simp only [htask, reduceCtorEq, if_false, Nat.add_zero] at hcount
  rw [hgate m, hcount, htasks m]

/-- The tally stays right when a task that has ended is counted off. -/
theorem Tallied.countOff {d d' : Debt} {w : Holdings} {h h' : History} {m : Method} {gate : Gate}
    (tallied : Tallied lost ⟨d, w, h⟩) (htask : d.task = some m) (htask' : d'.task = none)
    (dec : w.gate.dec m = some (gate, d'.signals)) :
    Tallied lost ⟨d', { w with gate := gate }, h'⟩ := by
  have hbrowses : ∀ n, Holdings.browseTasks { w with gate := gate } n = w.browseTasks n := by
    intro n
    simp only [Holdings.browseTasks, Gate.inInitialScan_dec dec]
  refine ⟨?_, ?_⟩
  · intro n
    have hcount := tallied.count n
    have hlowered := Gate.count_dec dec n
    rw [hbrowses]
    change _ = w.browseTasks n + w.findingTasks n + _ + lost n
    simp only [htask, htask', Option.some.injEq, reduceCtorEq, if_false] at hcount hlowered ⊢
    by_cases hmn : m = n
    · subst hmn
      rw [if_pos rfl] at hcount hlowered
      omega
    · rw [if_neg hmn] at hcount hlowered
      omega
  · intro n hn
    obtain ⟨rfl, hzero⟩ := Gate.count_of_mem_fired dec hn
    have hcount := tallied.count n
    have hlowered := Gate.count_dec dec n
    rw [hbrowses]
    change _ ∧ w.findingTasks n = 0
    simp only [htask, if_true] at hcount hlowered hzero
    omega

/-- The tally is right when all phases are ended while there is no task. -/
theorem Tallied.endPhases {d d' : Debt} {w : Holdings} {h h' : History}
    (tallied : Tallied lost ⟨d, w, h⟩) (htask : d'.task = d.task) (browsers : w.browsers = .empty)
    (live : w.registry.live = []) : Tallied lost ⟨d', { w with gate := w.gate.fireAll.1 }, h'⟩ := by
  have hbrowses : ∀ {v : Holdings} (m : Method), v.browsers = .empty → v.browseTasks m = 0 := by
    intro v m hv
    rw [Holdings.browseTasks, hv]
    rfl
  have hfindings : ∀ m, w.findingTasks m = 0 := by
    intro m
    rw [Holdings.findingTasks, live]
    rfl
  refine ⟨?_, fun m _ => ⟨hbrowses m browsers, hfindings m⟩⟩
  intro m
  have hcount := tallied.count m
  rw [hbrowses m browsers] at hcount
  rw [hbrowses m (by exact browsers), Gate.count_fireAll, htask]
  exact hcount

/-- Every move keeps the books tallied. -/
theorem Tallied.move {p q : Point} (move : Move p q) (tallied : Tallied lost p) : Tallied lost q := by
  cases move with
  | noted at_e minor => exact tallied.same rfl (fun _ => id) rfl rfl rfl
  | called at_e stale => exact tallied.same rfl (fun _ => id) rfl rfl rfl
  | accepted at_e next resolving pending replaces =>
      exact tallied.replaces replaces rfl rfl rfl rfl
  | @created w h service ifindex name new =>
      refine tallied.begin service rfl rfl rfl fun m => ?_
      have hbrowses : ∀ registry, Holdings.browseTasks
          { w with
            gate := if w.gate.inInitialScan service then w.gate.inc service.method else w.gate
            registry } m = w.browseTasks m := by
        intro registry
        simp only [Holdings.browseTasks, Gate.inInitialScan_ite_inc]
      rw [findingTasks_create, hbrowses, ← Nat.add_assoc]
  | begun at_e replaces => exact tallied.replaces replaces rfl rfl rfl rfl
  | revised revision replaces =>
      have hstanding := revision.standing
      exact tallied.replaces replaces (by rw [hstanding]) (by rw [hstanding]) rfl rfl
  | left => exact tallied.same rfl (fun _ => id) rfl rfl rfl
  | published idle form replaces at_e =>
      exact tallied.replaces replaces (by rw [form]) (by rw [form]) rfl rfl
  | @uncounted w h f r counted replaces =>
      refine tallied.finish rfl rfl (fun _ => rfl) fun m => ?_
      have hfindings := findingTasks_replaces replaces rfl w.resolving m
      simp only [counted, Bool.false_eq_true, and_true, and_false, if_false] at hfindings
      simp only [Option.some.injEq, Holdings.browseTasks]
      omega
  | withdrawn at_e published replaces => exact tallied.replaces replaces rfl rfl rfl rfl
  | @removed w h f f' r unpublished form drops =>
      refine tallied.finish rfl rfl (fun _ => rfl) fun m => ?_
      rw [findingTasks_drops drops m, ← Nat.add_assoc]
      cases f.inInitialScan with
      | false => simp [Holdings.browseTasks]
      | true => simp [Holdings.browseTasks]
  | countedOff dec => exact tallied.countOff rfl rfl dec
  | signalled at_e => exact tallied.same rfl (fun _ => List.mem_cons_of_mem _) rfl rfl rfl
  | cancelled at_e => exact tallied.same rfl (fun _ => id) rfl rfl rfl
  | @phaseEnded w h service initial browsing =>
      refine tallied.finish rfl rfl (Gate.count_endPhase w.gate service) fun m => ?_
      have hbrowses := browseTasks_endPhase initial browsing m
      simp only [Option.some.injEq]
      change _ = _ + w.findingTasks m + _
      omega
  | phasesEnded browsers live => exact tallied.endPhases rfl browsers live
  | @opened w h e service handle at_e client new =>
      refine tallied.begin service rfl rfl rfl fun m => ?_
      rw [browseTasks_insert new handle (Gate.inInitialScan_ite_inc w.gate _ _)]
      exact Nat.add_right_comm _ _ _
  | @closed w h e service handle answer current at_e =>
      refine tallied.finish rfl rfl (fun _ => rfl) fun m => ?_
      have hbrowses := browseTasks_erase current m
      change _ = _ + w.findingTasks m + _
      cases hinitial : w.gate.inInitialScan service with
      | false =>
          simp only [hinitial, Bool.false_eq_true, and_false, if_false, reduceCtorEq] at hbrowses ⊢
          omega
      | true =>
          simp only [hinitial, and_true, if_true, Option.some.injEq] at hbrowses ⊢
          omega
  | clientStarted at_e down => exact tallied.same rfl (fun _ => id) rfl rfl rfl
  | clientStopped up browsers at_e => exact tallied.same rfl (fun _ => id) rfl rfl rfl
  | forgotten live => exact tallied.same rfl (fun _ => id) rfl rfl rfl

end Engine

end ScannerDiscovery
