import ScannerDiscovery.Proofs.Engine.Conduct.Calls
import ScannerDiscovery.Proofs.Engine.Scripts

/-!
# The resources of the transport

What the engine obtains from its transport it gives back once.  A resolve is pending until its
completion is acted on or it is cancelled; a browse is current until it is stopped, which is
before its client is; and the client is started and stopped in turns.  The handles of resolves,
and those of browses, are taken to be new whenever they are given out.

Main definitions:

- `begun`, `accepted`, `cancelled` : what has happened to resolves.
- `opened`, `closed` : what has happened to browses.
- `clientCalls` : starts and stops of the client.

Main results:

- `resources_linear` : resolves, browses and client at every moment of a run.
-/

namespace ScannerDiscovery.Engine

/-! ## What has happened -/

/-- The handle of a resolve that has begun. -/
def Entry.begun? : Entry → Option Ticket
  | .asked _ (.resolve ..) (.ok op) => some op
  | _ => none

/-- The resolve whose completion is acted on. -/
def Entry.accepted? : Entry → Option Ticket
  | .called e call => call.accepted? e
  | _ => none

/-- The resolve that is cancelled. -/
def Entry.cancelled? : Entry → Option Ticket
  | .asked _ (.cancelResolve op) _ => some op
  | _ => none

/-- The service and the handle of a browse that is opened. -/
def Entry.opened? : Entry → Option (Service × Ticket)
  | .asked _ (.startBrowse service) (.ok handle) => some (service, handle)
  | _ => none

/-- The handle of a browse that is closed. -/
def Entry.closed? : Entry → Option Ticket
  | .asked _ (.stopBrowse handle) _ => some handle
  | _ => none

/-- The two things that happen to the client. -/
inductive ClientCall
  | start
  | stop
  deriving DecidableEq

/-- What happens to the client; a start that fails does not count. -/
def Entry.clientCall? : Entry → Option ClientCall
  | .asked _ .startClient (.ok _) => some .start
  | .asked _ .stopClient _ => some .stop
  | _ => none

/-- The handles of all resolves that have begun. -/
def begun (h : History) : List Ticket :=
  h.filterMap Entry.begun?

/-- The resolves whose completions have been acted on. -/
def accepted (h : History) : List Ticket :=
  h.filterMap Entry.accepted?

/-- The resolves that have been cancelled. -/
def cancelled (h : History) : List Ticket :=
  h.filterMap Entry.cancelled?

/-- The services and handles of all browses that have been opened. -/
def opened (h : History) : List (Service × Ticket) :=
  h.filterMap Entry.opened?

/-- The handles of browses that have been closed. -/
def closed (h : History) : List Ticket :=
  h.filterMap Entry.closed?

/-- What has happened to the client, the earliest first. -/
def clientCalls (h : History) : List ClientCall :=
  (h.filterMap Entry.clientCall?).reverse

/-- A request that changes nothing is no use of a resource. -/
theorem IsMinor.no_use {request : Request} {answer : request.Answer}
    (minor : IsMinor request answer) (e : Engine) (h : History) :
    begun (.asked e request answer :: h) = begun h ∧
    accepted (.asked e request answer :: h) = accepted h ∧
    cancelled (.asked e request answer :: h) = cancelled h ∧
    opened (.asked e request answer :: h) = opened h ∧
    closed (.asked e request answer :: h) = closed h ∧
    clientCalls (.asked e request answer :: h) = clientCalls h := by
  cases request with
  | startClient =>
      cases answer with
      | error fault => exact ⟨rfl, rfl, rfl, rfl, rfl, rfl⟩
      | ok value => exact minor.elim
  | startBrowse service =>
      cases answer with
      | error fault => exact ⟨rfl, rfl, rfl, rfl, rfl, rfl⟩
      | ok handle => exact minor.elim
  | resolve service name ifindex family =>
      cases answer with
      | error fault => exact ⟨rfl, rfl, rfl, rfl, rfl, rfl⟩
      | ok op => exact minor.elim
  | stopClient => exact minor.elim
  | stopBrowse handle => exact minor.elim
  | cancelResolve op => exact minor.elim
  | publish s => exact minor.elim
  | withdraw s => exact minor.elim
  | scanDone m => exact minor.elim
  | _ => exact ⟨rfl, rfl, rfl, rfl, rfl, rfl⟩

/-! ## Resolves -/

/-- Whether resolves are accounted for at a point: what live findings wait for is being resolved
for them, and so is what is about to be cancelled for a removed one; and each resolve is pending,
accepted or cancelled as often as it has begun. -/
structure ResolvesKept (p : Point) : Prop where
  waits : ∀ f ∈ p.holdings.registry.live, ∀ op ∈ f.tracker.pending,
    p.holdings.resolving.get? op = some f.number
  distinct : ∀ f ∈ p.holdings.registry.live, f.tracker.pending.Nodup
  released : ∀ op ∈ p.debt.ops, ∃ number, p.holdings.resolving.get? op = some number ∧
    ∀ f ∈ p.holdings.registry.live, f.number ≠ number
  ops : p.debt.ops.Nodup
  count : ∀ op, (begun p.history).count op =
    (if (p.holdings.resolving.get? op).isSome then 1 else 0) +
      (accepted p.history).count op + (cancelled p.history).count op

/-- Resolves stay accounted for while they and the findings are left alone. -/
theorem ResolvesKept.same {d d' : Debt} {w w' : Holdings} {h h' : History}
    (kept : ResolvesKept ⟨d, w, h⟩) (hops : d'.ops = d.ops) (hregistry : w'.registry = w.registry)
    (hresolving : w'.resolving = w.resolving) (hbegun : begun h' = begun h)
    (haccepted : accepted h' = accepted h) (hcancelled : cancelled h' = cancelled h) :
    ResolvesKept ⟨d', w', h'⟩ := by
  obtain ⟨waits, distinct, released, ops, count⟩ := kept
  refine ⟨?_, ?_, ?_, ?_, ?_⟩
  · rw [hregistry, hresolving]
    exact waits
  · rw [hregistry]
    exact distinct
  · rw [hops, hregistry, hresolving]
    exact released
  · rw [hops]
    exact ops
  · rw [hresolving, hbegun, haccepted, hcancelled]
    exact count

/-- Resolves stay accounted for if a live finding is replaced that waits for the same. -/
theorem ResolvesKept.replaces {d d' : Debt} {w : Holdings} {h h' : History} {f f' : Finding}
    {r : Registry} (kept : ResolvesKept ⟨d, w, h⟩) (reg : Registered ⟨d, w, h⟩)
    (replaces : w.registry.Replaces f f' r) (hnumber : f'.number = f.number)
    (htracker : f'.tracker = f.tracker) (hops : d'.ops = []) (hbegun : begun h' = begun h)
    (haccepted : accepted h' = accepted h) (hcancelled : cancelled h' = cancelled h) :
    ResolvesKept ⟨d', { w with registry := r }, h'⟩ := by
  obtain ⟨waits, distinct, released, ops, count⟩ := kept
  refine ⟨?_, ?_, by simp [hops], by simp [hops], ?_⟩
  · intro g hg
    rcases replaces.mem_cases reg.numbered hg with rfl | ⟨hold, -⟩
    · rw [htracker, hnumber]
      exact waits f replaces.mem
    · exact waits g hold
  · intro g hg
    rcases replaces.mem_cases reg.numbered hg with rfl | ⟨hold, -⟩
    · rw [htracker]
      exact distinct f replaces.mem
    · exact distinct g hold
  · rw [hbegun, haccepted, hcancelled]
    exact count

/-- The completion of a resolve is accepted. -/
theorem ResolvesKept.accept {d d' : Debt} {w : Holdings} {h : History} {f : Finding} {r : Registry}
    {e : Engine} {op : Ticket} (kept : ResolvesKept ⟨d, w, h⟩) (reg : Registered ⟨d, w, h⟩)
    (hops : d'.ops = []) (next : e.acceptable? = some op)
    (resolving : w.resolving.get? op = some f.number) (pending : op ∈ f.tracker.pending)
    (replaces : w.registry.Replaces f { f with tracker := (f.tracker.complete op).1 } r) :
    ResolvesKept ⟨d', { w with registry := r, resolving := w.resolving.erase op },
      .called e .turn :: h⟩ := by
  obtain ⟨waits, distinct, released, ops, count⟩ := kept
  have hdistinct := distinct f replaces.mem
  refine ⟨?_, ?_, by simp [hops], by simp [hops], ?_⟩
  · intro g hg op' hop'
    rw [OrderedMap.get?_erase]
    rcases replaces.mem_cases reg.numbered hg with rfl | ⟨hold, hnumber⟩
    · have hne : op' ≠ op := (hdistinct.mem_erase_iff.1 hop').1
      rw [if_neg hne]
      exact waits f replaces.mem op' (List.mem_of_mem_erase hop')
    · have hne : op' ≠ op := by
        rintro rfl
        have hget := waits g hold op' hop'
        rw [resolving] at hget
        exact hnumber (Option.some.inj hget).symm
      rw [if_neg hne]
      exact waits g hold op' hop'
  · intro g hg
    rcases replaces.mem_cases reg.numbered hg with rfl | ⟨hold, -⟩
    · exact hdistinct.erase op
    · exact distinct g hold
  · intro op'
    have hcount := count op'
    have haccepted : accepted (.called e .turn :: h) = op :: accepted h :=
      List.filterMap_cons_some next
    change (begun h).count op' = _ + (accepted _).count op' + (cancelled h).count op'
    rw [haccepted, OrderedMap.get?_erase, List.count_cons]
    by_cases heq : op' = op
    · subst heq
      simp only [resolving, Option.isSome_some, if_true, beq_self_eq_true, Option.isSome_none,
        Bool.false_eq_true, if_false] at hcount ⊢
      omega
    · have hne : (op == op') = false := by simpa using Ne.symm heq
      simp only [if_neg heq, hne, Bool.false_eq_true, if_false] at hcount ⊢
      exact hcount

/-- A resolve with a new handle begins. -/
theorem ResolvesKept.begin {d d' : Debt} {w : Holdings} {h : History} {f : Finding} {r : Registry}
    {e : Engine} {family : Ip.Family} {op : Ticket} (kept : ResolvesKept ⟨d, w, h⟩)
    (reg : Registered ⟨d, w, h⟩) (hops : d'.ops = []) (new : op ∉ begun h)
    (replaces : w.registry.Replaces f { f with tracker := f.tracker.begin op } r) :
    ResolvesKept ⟨d', { w with registry := r, resolving := w.resolving.insert op f.number },
      .asked e (.resolve f.service f.name f.ifindex family) (.ok op) :: h⟩ := by
  obtain ⟨waits, distinct, released, ops, count⟩ := kept
  -- a handle that has not been given out is not in use
  have hunused := count op
  rw [List.count_eq_zero_of_not_mem new] at hunused
  have absent : w.resolving.get? op = none := by
    cases hget : w.resolving.get? op with
    | none => rfl
    | some number =>
        simp only [hget, Option.isSome_some, if_true] at hunused
        omega
  have unwaited : ∀ g ∈ w.registry.live, op ∉ g.tracker.pending := by
    intro g hg hop
    have hget := waits g hg op hop
    simp [absent] at hget
  have hbegin : (f.tracker.begin op).pending = f.tracker.pending ++ [op] := by
    rw [Tracker.begin, if_neg (unwaited f replaces.mem)]
  refine ⟨?_, ?_, by simp [hops], by simp [hops], ?_⟩
  · intro g hg op' hop'
    rw [OrderedMap.get?_insert]
    rcases replaces.mem_cases reg.numbered hg with rfl | ⟨hold, -⟩
    · rw [hbegin, List.mem_append, List.mem_singleton] at hop'
      rcases hop' with hop' | rfl
      · have hne : op' ≠ op := fun heq => unwaited f replaces.mem (heq ▸ hop')
        rw [if_neg hne]
        exact waits f replaces.mem op' hop'
      · rw [if_pos rfl]
    · have hne : op' ≠ op := fun heq => unwaited g hold (heq ▸ hop')
      rw [if_neg hne]
      exact waits g hold op' hop'
  · intro g hg
    rcases replaces.mem_cases reg.numbered hg with rfl | ⟨hold, -⟩
    · rw [hbegin, ← List.concat_eq_append]
      exact List.Nodup.concat (unwaited f replaces.mem) (distinct f replaces.mem)
    · exact distinct g hold
  · intro op'
    have hcount := count op'
    change (op :: begun h).count op' = _ + (accepted h).count op' + (cancelled h).count op'
    rw [OrderedMap.get?_insert, List.count_cons]
    by_cases heq : op' = op
    · subst heq
      simp only [absent, Option.isSome_none, Bool.false_eq_true, if_false, beq_self_eq_true,
        if_true, Option.isSome_some] at hcount ⊢
      omega
    · have hne : (op == op') = false := by simpa using Ne.symm heq
      simp only [if_neg heq, hne, Bool.false_eq_true, if_false] at hcount ⊢
      exact hcount

/-- A finding is removed, its resolves being still to be cancelled. -/
theorem ResolvesKept.remove {d d' : Debt} {w : Holdings} {h : History} {f f' : Finding}
    {r : Registry} (kept : ResolvesKept ⟨d, w, h⟩) (reg : Registered ⟨d, w, h⟩)
    (drops : w.registry.Drops f f' r) (hops : d'.ops = f.tracker.pending) :
    ResolvesKept ⟨d', { w with registry := r }, h⟩ := by
  obtain ⟨waits, distinct, released, ops, count⟩ := kept
  have others {g : Finding} (hg : g ∈ r.live) := drops.mem_live reg.numbered hg
  refine ⟨fun g hg => waits g (others hg).1, fun g hg => distinct g (others hg).1, ?_, ?_, count⟩
  · intro op hop
    rw [hops] at hop
    exact ⟨f.number, waits f drops.mem op hop, fun g hg => (others hg).2⟩
  · rw [hops]
    exact distinct f drops.mem

/-- A resolve of a removed finding is cancelled. -/
theorem ResolvesKept.cancel {w : Holdings} {h : History} {e : Engine} {op : Ticket}
    {rest : List Ticket} (kept : ResolvesKept ⟨{ ops := op :: rest }, w, h⟩) :
    ResolvesKept ⟨{ ops := rest }, { w with resolving := w.resolving.erase op },
      .asked e (.cancelResolve op) () :: h⟩ := by
  obtain ⟨waits, distinct, released, ops, count⟩ := kept
  obtain ⟨number, resolving, hnone⟩ := released op List.mem_cons_self
  obtain ⟨hop, hrest⟩ := List.nodup_cons.1 ops
  refine ⟨?_, distinct, ?_, hrest, ?_⟩
  · intro g hg op' hop'
    have hget := waits g hg op' hop'
    have hne : op' ≠ op := by
      rintro rfl
      rw [resolving] at hget
      exact hnone g hg (Option.some.inj hget).symm
    rw [OrderedMap.get?_erase, if_neg hne]
    exact hget
  · intro op' hop'
    have hne : op' ≠ op := fun heq => hop (heq ▸ hop')
    rw [OrderedMap.get?_erase, if_neg hne]
    exact released op' (List.mem_cons_of_mem _ hop')
  · intro op'
    have hcount := count op'
    change (begun h).count op' = _ + (accepted h).count op' + (op :: cancelled h).count op'
    rw [OrderedMap.get?_erase, List.count_cons]
    by_cases heq : op' = op
    · subst heq
      simp only [resolving, Option.isSome_some, if_true, beq_self_eq_true, Option.isSome_none,
        Bool.false_eq_true, if_false] at hcount ⊢
      omega
    · have hne : (op == op') = false := by simpa using Ne.symm heq
      simp only [if_neg heq, hne, Bool.false_eq_true, if_false] at hcount ⊢
      exact hcount

/-- Every move keeps resolves accounted for. -/
theorem ResolvesKept.move {p q : Point} (move : Move p q) (reg : Registered p) (linked : Linked p)
    (new : (begun q.history).Nodup) (kept : ResolvesKept p) : ResolvesKept q := by
  cases move with
  | noted at_e minor =>
      obtain ⟨hbegun, haccepted, hcancelled, -⟩ := minor.no_use _ _
      exact kept.same rfl rfl rfl hbegun haccepted hcancelled
  | called at_e stale =>
      exact kept.same rfl rfl rfl rfl (List.filterMap_cons_none stale) rfl
  | accepted at_e next resolving pending replaces =>
      exact kept.accept reg rfl next resolving pending replaces
  | @created w h service ifindex name vacant =>
      obtain ⟨waits, distinct, released, ops, count⟩ := kept
      refine ⟨?_, ?_, by simp, List.nodup_nil, count⟩
      · intro g hg
        rcases List.mem_append.1 hg with hg | hg
        · exact waits g hg
        · rw [List.mem_singleton.1 hg]
          simp [Tracker.empty]
      · intro g hg
        rcases List.mem_append.1 hg with hg | hg
        · exact distinct g hg
        · rw [List.mem_singleton.1 hg]
          exact List.nodup_nil
  | begun at_e replaces => exact kept.begin reg rfl (List.nodup_cons.1 new).1 replaces
  | revised revision replaces =>
      have hstanding := revision.standing
      exact kept.replaces reg replaces (by rw [hstanding]) (by rw [hstanding]) rfl rfl rfl rfl
  | left => exact kept.same rfl rfl rfl rfl rfl rfl
  | published idle form replaces at_e =>
      exact kept.replaces reg replaces (by rw [form]) (by rw [form]) rfl rfl rfl rfl
  | uncounted counted replaces => exact kept.replaces reg replaces rfl rfl rfl rfl rfl rfl
  | withdrawn at_e published replaces =>
      exact kept.replaces reg replaces rfl rfl rfl rfl rfl rfl
  | removed unpublished form drops => exact kept.remove reg drops rfl
  | countedOff dec => exact kept.same rfl rfl rfl rfl rfl rfl
  | signalled at_e => exact kept.same rfl rfl rfl rfl rfl rfl
  | cancelled at_e => exact kept.cancel
  | phaseEnded initial browsing => exact kept.same rfl rfl rfl rfl rfl rfl
  | phasesEnded browsers live => exact kept.same rfl rfl rfl rfl rfl rfl
  | opened at_e client vacant => exact kept.same rfl rfl rfl rfl rfl rfl
  | closed current at_e => exact kept.same rfl rfl rfl rfl rfl rfl
  | clientStarted at_e down => exact kept.same rfl rfl rfl rfl rfl rfl
  | clientStopped up browsers at_e => exact kept.same rfl rfl rfl rfl rfl rfl
  | @forgotten w h live =>
      -- without findings nothing is being resolved
      have none : w.resolving = .empty := by
        apply OrderedMap.eq_empty_of_get?
        intro op
        rw [Option.eq_none_iff_forall_ne_some]
        intro number hget
        rcases linked op number hget with hop | ⟨f, hf, -⟩
        · simp at hop
        · rw [live] at hf
          simp at hf
      exact kept.same rfl rfl none.symm rfl rfl rfl

/-! ## Browses -/

/-- Whether browses are accounted for: a current one has been opened and not been closed, any
other that has been opened has been closed once, and nothing else has been closed; and whenever
the client was stopped, all browses opened by then had been closed. -/
structure BrowsesKept (p : Point) : Prop where
  current : ∀ service handle, p.holdings.browsers.get? service = some handle →
    (service, handle) ∈ opened p.history ∧ handle ∉ closed p.history
  past : ∀ service handle, (service, handle) ∈ opened p.history →
    p.holdings.browsers.get? service ≠ some handle → (closed p.history).count handle = 1
  known : ∀ handle ∈ closed p.history, ∃ service, (service, handle) ∈ opened p.history
  stopped : ∀ e answer before, .asked e .stopClient answer :: before <:+ p.history →
    ∀ service handle, (service, handle) ∈ opened before → (closed before).count handle = 1

/-- Whether an entry is a stop of the client. -/
def Entry.StopsClient : Entry → Prop
  | .asked _ .stopClient _ => True
  | _ => False

/-- What is so whenever the client was stopped, after an entry that does not stop it. -/
theorem stopped_cons {entry : Entry} {h : History} (other : ¬entry.StopsClient)
    (stopped : ∀ e answer before, .asked e .stopClient answer :: before <:+ h →
      ∀ service handle, (service, handle) ∈ opened before → (closed before).count handle = 1) :
    ∀ e answer before, .asked e .stopClient answer :: before <:+ entry :: h →
      ∀ service handle, (service, handle) ∈ opened before → (closed before).count handle = 1 := by
  intro e answer before hsuffix
  rcases List.suffix_cons_iff.1 hsuffix with heq | hsuffix
  · obtain ⟨rfl, -⟩ := List.cons.inj heq
    exact absurd trivial other
  · exact stopped e answer before hsuffix

/-- Browses stay accounted for while they are left alone and nothing happens, -/
theorem BrowsesKept.same {d d' : Debt} {w w' : Holdings} {h : History}
    (kept : BrowsesKept ⟨d, w, h⟩) (hbrowsers : w'.browsers = w.browsers) :
    BrowsesKept ⟨d', w', h⟩ := by
  obtain ⟨current, past, known, stopped⟩ := kept
  refine ⟨?_, ?_, known, stopped⟩
  · rw [hbrowsers]
    exact current
  · rw [hbrowsers]
    exact past

/-- or something that opens no browse, closes none and does not stop the client. -/
theorem BrowsesKept.aside {d d' : Debt} {w w' : Holdings} {h : History} {entry : Entry}
    (kept : BrowsesKept ⟨d, w, h⟩) (hbrowsers : w'.browsers = w.browsers)
    (other : ¬entry.StopsClient) (hopened : opened (entry :: h) = opened h)
    (hclosed : closed (entry :: h) = closed h) : BrowsesKept ⟨d', w', entry :: h⟩ := by
  obtain ⟨current, past, known, stopped⟩ := kept
  refine ⟨?_, ?_, ?_, stopped_cons other stopped⟩
  · rw [hbrowsers, hopened, hclosed]
    exact current
  · rw [hbrowsers, hopened, hclosed]
    exact past
  · rw [hopened, hclosed]
    exact known

/-- A browse with a new handle is opened. -/
theorem BrowsesKept.open {d d' : Debt} {w : Holdings} {h : History} {e : Engine}
    {service : Service} {handle : Ticket} {gate : Gate} (kept : BrowsesKept ⟨d, w, h⟩)
    (vacant : w.browsers.get? service = none) (new : handle ∉ (opened h).map Prod.snd) :
    BrowsesKept ⟨d', { w with browsers := w.browsers.insert service handle, gate },
      .asked e (.startBrowse service) (.ok handle) :: h⟩ := by
  obtain ⟨current, past, known, stopped⟩ := kept
  have hopened : opened (.asked e (.startBrowse service) (.ok handle) :: h) =
      (service, handle) :: opened h := rfl
  have unclosed : handle ∉ closed h := by
    intro hclosed
    obtain ⟨s, hs⟩ := known handle hclosed
    exact new (List.mem_map_of_mem hs)
  refine ⟨?_, ?_, ?_, stopped_cons id stopped⟩
  · intro s handle' hget
    rw [OrderedMap.get?_insert] at hget
    rw [hopened]
    by_cases heq : s = service
    · rw [if_pos heq, Option.some.injEq] at hget
      rw [heq, ← hget]
      exact ⟨List.mem_cons_self, unclosed⟩
    · rw [if_neg heq] at hget
      exact ⟨List.mem_cons_of_mem _ (current s handle' hget).1, (current s handle' hget).2⟩
  · intro s handle' hs hget
    rw [OrderedMap.get?_insert] at hget
    rw [hopened] at hs
    rcases List.mem_cons.1 hs with heq | hold
    · obtain ⟨rfl, rfl⟩ := Prod.mk.inj heq
      simp at hget
    · by_cases heq : s = service
      · subst heq
        exact past s handle' hold (by simp [vacant])
      · rw [if_neg heq] at hget
        exact past s handle' hold hget
  · intro handle' hclosed
    obtain ⟨s, hs⟩ := known handle' hclosed
    exact ⟨s, List.mem_cons_of_mem _ hs⟩

/-- A browse is closed. -/
theorem BrowsesKept.close {d d' : Debt} {w : Holdings} {h : History} {e : Engine}
    {service : Service} {handle : Ticket} {answer : Except Fault Unit}
    (kept : BrowsesKept ⟨d, w, h⟩) (hcurrent : w.browsers.get? service = some handle)
    (distinct : ((opened h).map Prod.snd).Nodup) :
    BrowsesKept ⟨d', { w with browsers := w.browsers.erase service },
      .asked e (.stopBrowse handle) answer :: h⟩ := by
  obtain ⟨current, past, known, stopped⟩ := kept
  obtain ⟨hopened, unclosed⟩ := current service handle hcurrent
  have hclosed : closed (.asked e (.stopBrowse handle) answer :: h) = handle :: closed h := rfl
  -- the handle is that of no other browse
  have only {s : Service} (hs : (s, handle) ∈ opened h) : s = service :=
    congrArg Prod.fst (List.inj_on_of_nodup_map distinct hs hopened rfl)
  refine ⟨?_, ?_, ?_, stopped_cons id stopped⟩
  · intro s handle' hget
    rw [OrderedMap.get?_erase] at hget
    by_cases heq : s = service
    · simp [heq] at hget
    · rw [if_neg heq] at hget
      obtain ⟨hs, hunclosed⟩ := current s handle' hget
      refine ⟨hs, ?_⟩
      rw [hclosed, List.mem_cons, not_or]
      exact ⟨fun h => heq (only (h ▸ hs)), hunclosed⟩
  · intro s handle' hs hget
    rw [hclosed, List.count_cons]
    by_cases heq : handle' = handle
    · subst heq
      rw [List.count_eq_zero_of_not_mem unclosed]
      simp
    · have hne : w.browsers.get? s ≠ some handle' := by
        intro hget'
        rw [OrderedMap.get?_erase] at hget
        by_cases hservice : s = service
        · rw [hservice, hcurrent] at hget'
          exact heq (Option.some.inj hget').symm
        · rw [if_neg hservice] at hget
          exact hget hget'
      rw [past s handle' hs hne, if_neg (by simpa using Ne.symm heq)]
  · intro handle' hmem
    rw [hclosed] at hmem
    rcases List.mem_cons.1 hmem with rfl | hmem
    · exact ⟨service, hopened⟩
    · exact known handle' hmem

/-- The client is stopped, there being no browses. -/
theorem BrowsesKept.stopClient {d d' : Debt} {w : Holdings} {h : History} {e : Engine}
    {answer : Except Fault Unit} {clientRunning : Bool} (kept : BrowsesKept ⟨d, w, h⟩)
    (browsers : w.browsers = .empty) :
    BrowsesKept ⟨d', { w with clientRunning }, .asked e .stopClient answer :: h⟩ := by
  obtain ⟨current, past, known, stopped⟩ := kept
  refine ⟨current, past, known, ?_⟩
  intro e' answer' before hsuffix
  rcases List.suffix_cons_iff.1 hsuffix with heq | hsuffix
  · obtain ⟨-, rfl⟩ := List.cons.inj heq
    intro service handle hs
    exact past service handle hs (by simp [browsers])
  · exact stopped e' answer' before hsuffix

/-- Every move keeps browses accounted for. -/
theorem BrowsesKept.move {p q : Point} (move : Move p q)
    (new : ((opened q.history).map Prod.snd).Nodup) (kept : BrowsesKept p) : BrowsesKept q := by
  cases move with
  | @noted d w h e request answer at_e minor =>
      obtain ⟨-, -, -, hopened, hclosed, -⟩ := minor.no_use e h
      refine kept.aside rfl ?_ hopened hclosed
      cases request with
      | stopClient => exact minor.elim
      | _ => exact id
  | called at_e stale => exact kept.aside rfl id rfl rfl
  | accepted at_e next resolving pending replaces =>
      exact kept.aside rfl id rfl rfl
  | created service ifindex name vacant => exact kept.same rfl
  | begun at_e replaces =>
      exact kept.aside rfl id rfl rfl
  | revised revision replaces => exact kept.same rfl
  | left => exact kept.same rfl
  | published idle form replaces at_e =>
      exact kept.aside rfl id rfl rfl
  | uncounted counted replaces => exact kept.same rfl
  | withdrawn at_e published replaces =>
      exact kept.aside rfl id rfl rfl
  | removed unpublished form drops => exact kept.same rfl
  | countedOff dec => exact kept.same rfl
  | signalled at_e => exact kept.aside rfl id rfl rfl
  | cancelled at_e => exact kept.aside rfl id rfl rfl
  | phaseEnded initial browsing => exact kept.same rfl
  | phasesEnded browsers live => exact kept.same rfl
  | opened at_e client vacant => exact kept.open vacant (List.nodup_cons.1 new).1
  | closed current at_e => exact kept.close current new
  | clientStarted at_e down =>
      exact kept.aside rfl id rfl rfl
  | clientStopped up browsers at_e => exact kept.stopClient browsers
  | forgotten live => exact kept.same rfl

/-! ## The client -/

/-- Whether the client has been started and stopped in turns, and runs if the last was a start. -/
structure ClientKept (p : Point) : Prop where
  turns : InTurns .start .stop (clientCalls p.history)
  count : (clientCalls p.history).count .start =
    (clientCalls p.history).count .stop + if p.holdings.clientRunning then 1 else 0
  running : (clientCalls p.history).length % 2 = if p.holdings.clientRunning then 1 else 0

/-- The account of the client is kept while nothing happens to it. -/
theorem ClientKept.same {d d' : Debt} {w w' : Holdings} {h h' : History}
    (kept : ClientKept ⟨d, w, h⟩) (hclient : w'.clientRunning = w.clientRunning)
    (hcalls : clientCalls h' = clientCalls h) : ClientKept ⟨d', w', h'⟩ := by
  obtain ⟨turns, count, running⟩ := kept
  refine ⟨?_, ?_, ?_⟩
  · rw [hcalls]
    exact turns
  · rw [hcalls, hclient]
    exact count
  · rw [hcalls, hclient]
    exact running

/-- A client that is down is started. -/
theorem ClientKept.start {d d' : Debt} {w : Holdings} {h : History} {e : Engine}
    (kept : ClientKept ⟨d, w, h⟩) (down : w.clientRunning = false) :
    ClientKept ⟨d', { w with clientRunning := true }, .asked e .startClient (.ok ()) :: h⟩ := by
  obtain ⟨turns, count, running⟩ := kept
  have hcalls : clientCalls (.asked e .startClient (.ok ()) :: h) = clientCalls h ++ [.start] :=
    List.reverse_cons
  simp only [down, Bool.false_eq_true, if_false] at count running
  have heven : (clientCalls h).length % 2 = 0 := running
  refine ⟨?_, ?_, ?_⟩
  · rw [hcalls]
    apply turns.concat
    rw [if_pos heven]
  · rw [hcalls, List.count_append, List.count_append]
    simpa using count
  · rw [hcalls, List.length_append, List.length_singleton, if_pos rfl]
    omega

/-- A client that runs is stopped. -/
theorem ClientKept.stop {d d' : Debt} {w : Holdings} {h : History} {e : Engine}
    (kept : ClientKept ⟨d, w, h⟩) (up : w.clientRunning = true) (answer : Except Fault Unit) :
    ClientKept ⟨d', { w with clientRunning := false }, .asked e .stopClient answer :: h⟩ := by
  obtain ⟨turns, count, running⟩ := kept
  have hcalls : clientCalls (.asked e .stopClient answer :: h) = clientCalls h ++ [.stop] :=
    List.reverse_cons
  simp only [up, if_true] at count running
  have hodd : (clientCalls h).length % 2 = 1 := running
  have hnot : ¬(clientCalls h).length % 2 = 0 := by omega
  refine ⟨?_, ?_, ?_⟩
  · rw [hcalls]
    apply turns.concat
    rw [if_neg hnot]
  · rw [hcalls, List.count_append, List.count_append]
    simpa using count
  · rw [hcalls, List.length_append, List.length_singleton, if_neg (by simp)]
    omega

/-- Every move keeps account of the client. -/
theorem ClientKept.move {p q : Point} (move : Move p q) (kept : ClientKept p) : ClientKept q := by
  cases move with
  | noted at_e minor => exact kept.same rfl (minor.no_use _ _).2.2.2.2.2
  | called at_e stale => exact kept.same rfl rfl
  | accepted at_e next resolving pending replaces => exact kept.same rfl rfl
  | created service ifindex name vacant => exact kept.same rfl rfl
  | begun at_e replaces => exact kept.same rfl rfl
  | revised revision replaces => exact kept.same rfl rfl
  | left => exact kept.same rfl rfl
  | published idle form replaces at_e => exact kept.same rfl rfl
  | uncounted counted replaces => exact kept.same rfl rfl
  | withdrawn at_e published replaces => exact kept.same rfl rfl
  | removed unpublished form drops => exact kept.same rfl rfl
  | countedOff dec => exact kept.same rfl rfl
  | signalled at_e => exact kept.same rfl rfl
  | cancelled at_e => exact kept.same rfl rfl
  | phaseEnded initial browsing => exact kept.same rfl rfl
  | phasesEnded browsers live => exact kept.same rfl rfl
  | opened at_e client vacant => exact kept.same rfl rfl
  | closed current at_e => exact kept.same rfl rfl
  | clientStarted at_e down => exact kept.start down
  | clientStopped up browsers at_e => exact kept.stop up _
  | forgotten live => exact kept.same rfl rfl

/-! ## All resources -/

/-- Whether every handle is new when it is given out: those of resolves, and those of browses. -/
structure Fresh (h : History) : Prop where
  resolves : (begun h).Nodup
  browses : ((opened h).map Prod.snd).Nodup

theorem Fresh.of_suffix {h h' : History} (fresh : Fresh h') (hs : h <:+ h') : Fresh h :=
  ⟨fresh.resolves.sublist (hs.sublist.filterMap _),
    fresh.browses.sublist ((hs.sublist.filterMap _).map _)⟩

/-- Whether all resources are accounted for, if all handles have been new. -/
structure Kept (p : Point) : Prop where
  registered : Registered p
  linked : Linked p
  client : ClientKept p
  resolves : Fresh p.history → ResolvesKept p
  browses : Fresh p.history → BrowsesKept p

theorem Kept.initial : Kept ⟨{}, .initial, []⟩ := by
  refine ⟨Sound.initial.registered, Sound.initial.linked, ⟨.nil _ _, rfl, rfl⟩, fun _ => ?_,
    fun _ => ?_⟩
  · refine ⟨?_, ?_, by simp, List.nodup_nil, fun op => rfl⟩
    · intro f hf
      exact absurd hf List.not_mem_nil
    · intro f hf
      exact absurd hf List.not_mem_nil
  · refine ⟨?_, ?_, ?_, ?_⟩
    · intro service handle hget
      simp [Holdings.initial] at hget
    · intro service handle hopened
      exact absurd hopened List.not_mem_nil
    · intro handle hclosed
      exact absurd hclosed List.not_mem_nil
    · intro e answer before hsuffix
      simp at hsuffix

/-- Every move keeps account of all resources. -/
theorem Kept.move {p q : Point} (move : Move p q) (kept : Kept p) : Kept q := by
  obtain ⟨registered, linked, client, resolves, browses⟩ := kept
  refine ⟨registered.move move, linked.move move, client.move move, fun fresh => ?_,
    fun fresh => ?_⟩
  · exact (resolves (fresh.of_suffix move.suffix)).move move registered linked fresh.resolves
  · exact (browses (fresh.of_suffix move.suffix)).move move fresh.browses

/-- The resources of the transport are used linearly at every moment of a run, if all handles have
been new.  Each resolve that has begun, and no other, is pending, accepted or cancelled, one of
these and that once; what is pending belongs to the one live finding that waits for it.  Each
browse that has been opened is current or has been closed once, before its client was stopped.
And the client has been started and stopped in turns. -/
theorem resources_linear {m : Moment} (reached : Reached m) (admissible : Admissible m.history)
    (fresh : Fresh m.history) :
    (∀ op, (if (m.engine.resolving.get? op).isSome then 1 else 0) +
      (accepted m.history).count op + (cancelled m.history).count op =
        if op ∈ begun m.history then 1 else 0) ∧
    (∀ op number, m.engine.resolving.get? op = some number →
      op ∈ begun m.history ∧ ∃ f ∈ m.engine.registry.live, f.number = number ∧
        op ∈ f.tracker.pending ∧ ∀ g ∈ m.engine.registry.live, op ∈ g.tracker.pending → g = f) ∧
    (∀ service handle, (service, handle) ∈ opened m.history →
      (if m.engine.browsers.get? service = some handle then 1 else 0) +
        (closed m.history).count handle = 1) ∧
    (∀ e answer before, .asked e .stopClient answer :: before <:+ m.history →
      ∀ service handle, (service, handle) ∈ opened before →
        (closed before).count handle = 1) ∧
    InTurns .start .stop (clientCalls m.history) ∧
    (clientCalls m.history).count .start =
      (clientCalls m.history).count .stop + if m.engine.clientRunning then 1 else 0 := by
  have kept := reached.keeps Kept.initial (fun move => Kept.move move) admissible
  obtain ⟨waits, distinct, -, -, count⟩ := kept.resolves fresh
  obtain ⟨current, past, -, stopped⟩ := kept.browses fresh
  refine ⟨?_, ?_, ?_, stopped, kept.client.turns, kept.client.count⟩
  · intro op
    exact (count op).symm.trans fresh.resolves.count
  · intro op number hget
    have hcount : (begun m.history).count op =
        (if (m.engine.resolving.get? op).isSome then 1 else 0) + (accepted m.history).count op +
          (cancelled m.history).count op := count op
    rw [hget, Option.isSome_some, if_pos rfl] at hcount
    have hbegun : 0 < (begun m.history).count op := by omega
    refine ⟨List.count_pos_iff.1 hbegun, ?_⟩
    rcases kept.linked op number hget with hop | ⟨f, hf, rfl, hpending⟩
    · simp at hop
    · refine ⟨f, hf, rfl, hpending, ?_⟩
      intro g hg hop
      have hget' : m.engine.resolving.get? op = some g.number := waits g hg op hop
      rw [hget] at hget'
      exact kept.registered.numbered.eq_of_number (List.mem_append_left _ hg)
        (List.mem_append_left _ hf) (Option.some.inj hget').symm
  · intro service handle hopened
    by_cases hget : m.engine.browsers.get? service = some handle
    · rw [if_pos hget, List.count_eq_zero_of_not_mem (current service handle hget).2]
    · rw [if_neg hget, past service handle hopened hget]

/-- At the office one resolve is pending, two are accepted and one is cancelled; all browses are
open. -/
theorem office_resources :
    begun office.history = [.number 23, .number 13, .number 11, .number 9] ∧
    accepted office.history = [.number 11, .number 9] ∧
    cancelled office.history = [.number 13] ∧
    (∀ op, (if (office.engine.resolving.get? op).isSome then 1 else 0) +
      (accepted office.history).count op + (cancelled office.history).count op =
        if op ∈ begun office.history then 1 else 0) ∧
    (∀ op number, office.engine.resolving.get? op = some number →
      op ∈ begun office.history ∧ ∃ f ∈ office.engine.registry.live, f.number = number ∧
        op ∈ f.tracker.pending ∧
        ∀ g ∈ office.engine.registry.live, op ∈ g.tracker.pending → g = f) ∧
    (∀ service handle, (service, handle) ∈ opened office.history →
      (if office.engine.browsers.get? service = some handle then 1 else 0) +
        (closed office.history).count handle = 1) ∧
    (∀ e answer before, .asked e .stopClient answer :: before <:+ office.history →
      ∀ service handle, (service, handle) ∈ opened before →
        (closed before).count handle = 1) ∧
    InTurns .start .stop (clientCalls office.history) ∧
    (clientCalls office.history).count .start =
      (clientCalls office.history).count .stop + if office.engine.clientRunning then 1 else 0 := by
  have fresh : Fresh office.history := ⟨by decide +kernel, by decide +kernel⟩
  exact ⟨by decide +kernel, by decide +kernel, by decide +kernel,
    resources_linear office_reached office_admissible fresh⟩

end ScannerDiscovery.Engine
