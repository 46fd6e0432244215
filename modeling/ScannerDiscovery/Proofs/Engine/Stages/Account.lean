import ScannerDiscovery.Proofs.Engine.Frame
import ScannerDiscovery.Proofs.Engine.Moves

/-!
# The stages of findings

A live finding waits for resolves until the last of them is completed; then it is concluded, and
shown or not.  A removed finding is gone.  The account of the stages says this of all findings but
one, which a handler may have at hand, and of a history it says what the stages were at requests
that matter: a session ends without findings, and a method is reported done by a conclusion only
after its finding has been published if it is to be.

Main definitions:

- `Finding.IsTidy`, `Finding.IsGone` : findings that are what their stage says.
- `Engine.awaiting?`, `concluded` : findings that wait for one more resolve, and those for which
  its completion has been handled.
- `Staged` : the account of the stages.

Main results:

- `Staged.replaces`, `Staged.drops`, `Staged.create` : the account after a change of the registry.
- `Staged.asked`, `Staged.called` : the account after a request, and at the beginning of a call.
-/

namespace ScannerDiscovery

/-! ## Findings and their stages -/

namespace Finding

/-- Whether a live finding is what its stage says: it waits for resolves, or has been concluded
and is published if it is to be. -/
def IsTidy (f : Finding) : Prop :=
  match f.state with
  | .discovering => f.tracker.pending ≠ [] ∧ f.isPublished = false
  | .published => f.tracker.pending = [] ∧ f.isPublished = true ∧ f.isPublishable = true
  | .unpublished => f.tracker.pending = [] ∧ f.isPublished = false ∧ f.isPublishable = false
  | .finalizing => False
  | .deleted => False

/-- Whether a removed finding has been done with altogether. -/
def IsGone (f : Finding) : Prop :=
  f.state = .deleted ∧ f.tracker.pending = [] ∧ f.isPublished = false ∧ f.inInitialScan = false

/-- What has been found out about the device behind a finding. -/
def details (f : Finding) : Option String × Option Uuid × Ip.AddressSet × List Endpoint :=
  (f.model, f.uuid, f.addresses, f.endpoints)

/-- A tidy finding that waits for something is being discovered. -/
theorem IsTidy.discovering {f : Finding} (tidy : f.IsTidy) (waits : f.tracker.pending ≠ []) :
    f.state = .discovering := by
  unfold IsTidy at tidy
  split at tidy <;> simp_all

/-- A tidy finding that is no longer being discovered is published if it is to be. -/
theorem IsTidy.published {f : Finding} (tidy : f.IsTidy) (concluded : f.state ≠ .discovering)
    (publishable : f.isPublishable = true) : f.isPublished = true := by
  unfold IsTidy at tidy
  split at tidy <;> simp_all

/-- Withdrawing a finding that is not published changes nothing. -/
theorem withdrawn_eq_self {f : Finding} (unpublished : f.isPublished = false) :
    { f with isPublished := false } = f := by
  rw [← unpublished]

end Finding

namespace Registry

/-- Whether a registry still has all findings of another, and of those that were no longer being
discovered the same details. -/
def Recalls (r' r : Registry) : Prop :=
  ∀ f ∈ r.live ++ r.removed, ∃ g ∈ r'.live ++ r'.removed, g.number = f.number ∧
    (f.state ≠ .discovering → g.state ≠ .discovering ∧ g.details = f.details)

theorem Recalls.refl (r : Registry) : r.Recalls r :=
  fun f hf => ⟨f, hf, rfl, fun h => ⟨h, rfl⟩⟩

theorem Recalls.trans {r r' r'' : Registry} (later : r''.Recalls r') (before : r'.Recalls r) :
    r''.Recalls r := by
  intro f hf
  obtain ⟨g, hg, hnumber, hdetails⟩ := before f hf
  obtain ⟨g', hg', hnumber', hdetails'⟩ := later g hg
  refine ⟨g', hg', hnumber'.trans hnumber, fun concluded => ?_⟩
  obtain ⟨hstate, hsame⟩ := hdetails concluded
  exact ⟨(hdetails' hstate).1, (hdetails' hstate).2.trans hsame⟩

/-- A finding is replaced by a form of itself that keeps its details once it is concluded. -/
theorem Replaces.recalls {r r' : Registry} {f f' : Finding} (replaces : r.Replaces f f' r')
    (hnumber : f'.number = f.number)
    (hdetails : f.state ≠ .discovering → f'.state ≠ .discovering ∧ f'.details = f.details) :
    r'.Recalls r := by
  obtain ⟨before, after, hlive, rfl⟩ := replaces
  intro g hg
  by_cases hgf : g = f
  · subst hgf
    exact ⟨f', by simp, hnumber, hdetails⟩
  · refine ⟨g, ?_, rfl, fun h => ⟨h, rfl⟩⟩
    simp only [hlive, List.mem_append, List.mem_cons] at hg ⊢
    tauto

theorem Drops.recalls {r r' : Registry} {f f' : Finding} (drops : r.Drops f f' r')
    (hnumber : f'.number = f.number) (hstate : f'.state ≠ .discovering)
    (hdetails : f'.details = f.details) : r'.Recalls r := by
  obtain ⟨before, after, hlive, rfl⟩ := drops
  intro g hg
  by_cases hgf : g = f
  · subst hgf
    exact ⟨f', by simp, hnumber, fun _ => ⟨hstate, hdetails⟩⟩
  · refine ⟨g, ?_, rfl, fun h => ⟨h, rfl⟩⟩
    simp only [hlive, List.mem_append, List.mem_cons] at hg ⊢
    tauto

theorem recalls_create (r : Registry) (service : Service) (ifindex : Int) (name : String)
    (counted : Bool) : (r.create service ifindex name counted).1.Recalls r := by
  intro f hf
  refine ⟨f, ?_, rfl, fun h => ⟨h, rfl⟩⟩
  simp only [create, List.mem_append] at hf ⊢
  tauto

end Registry

namespace Engine

/-! ## Conclusions -/

/-- The finding that waits for nothing but the resolve whose completion an event reports. -/
def awaiting? (e : Engine) : Event → Option Nat
  | .notice (.resolve event) =>
    match (e.resolving.get? event.op).bind e.registry.get? with
    | some f => if f.tracker.pending = [event.op] then some f.number else none
    | none => none
  | _ => none

theorem awaiting?_eq_some {e : Engine} {event : Event} {n : Nat}
    (awaited : e.awaiting? event = some n) :
    ∃ found f, event = .notice (.resolve found) ∧
      (e.resolving.get? found.op).bind e.registry.get? = some f ∧
      f.tracker.pending = [found.op] ∧ f.number = n := by
  unfold awaiting? at awaited
  split at awaited
  · rename_i found
    split at awaited
    · rename_i f hfind
      obtain ⟨hpending, hnumber⟩ := Option.ite_none_right_eq_some.1 awaited
      exact ⟨found, f, rfl, hfind, hpending, Option.some.inj hnumber⟩
    · simp at awaited
  · simp at awaited

/-- The finding that waits for nothing but the resolve whose completion a call handles. -/
def Call.concluded? (e : Engine) : Call → Option Nat
  | turn => e.next?.bind e.awaiting?
  | _ => none

/-- The engine at an entry. -/
def Entry.engine : Entry → Engine
  | called e _ => e
  | asked e _ _ => e

/-- The finding that is concluded by the call that begins at an entry. -/
def Entry.concluded? : Entry → Option Nat
  | called e call => call.concluded? e
  | asked .. => none

/-- The findings that have been concluded, the latest first. -/
def concluded (h : History) : List Nat :=
  h.filterMap Entry.concluded?

/-- The finding that is concluded by the latest call. -/
def concluding? : History → Option Nat
  | [] => none
  | .called e call :: _ => call.concluded? e
  | .asked .. :: h => concluding? h

theorem mem_concluded_of_concluding? {h : History} {n : Nat} (now : concluding? h = some n) :
    n ∈ concluded h := by
  induction h with
  | nil => simp [concluding?] at now
  | cons entry h ih =>
      cases entry with
      | called e call =>
          have hentry : (Entry.called e call).concluded? = some n := now
          rw [concluded, List.filterMap_cons_some hentry]
          exact List.mem_cons_self
      | asked e request answer => exact ih now

theorem concluded_called (e : Engine) (call : Call) (h : History) :
    concluded (.called e call :: h) = (call.concluded? e).toList ++ concluded h := by
  unfold concluded
  cases hcall : call.concluded? e with
  | none => rw [List.filterMap_cons_none (by exact hcall)]; rfl
  | some n => rw [List.filterMap_cons_some (by exact hcall)]; rfl

/-! ## The account -/

end Engine

/-- Whether a request is one that ends a session: the client is stopped, or the restart timer is
armed. -/
def Request.EndsSession : Request → Prop
  | .stopClient => True
  | .armRestart _ => True
  | _ => False

namespace Engine

/-- Whether no finding was left whenever a session was ended. -/
def TornDown (h : History) : Prop :=
  ∀ e request answer, .asked e request answer ∈ h → request.EndsSession → e.registry.live = []

/-- Whether a method was reported done by a conclusion only after the finding had been published
if it was to be. -/
def Timely (h : History) : Prop :=
  ∀ e m answer before, .asked e (.scanDone m) answer :: before <:+ h →
    ∀ n, concluding? before = some n →
      ∃ f ∈ e.registry.live, f.number = n ∧ (f.isPublishable = true → f.isPublished = true)

/-- The account of the stages, for a registry with a history: live findings are tidy, but for one
that may be at hand, and removed ones are gone; what is no longer being discovered has been
concluded once, and the other way round; the finding that is being concluded is live; and the
registry recalls what has been. -/
structure Staged (now hand : Option Nat) (r : Registry) (h : History) : Prop where
  numbered : r.WellNumbered
  tidy : ∀ f ∈ r.live, hand = some f.number ∨ f.IsTidy
  gone : ∀ f ∈ r.removed, f.IsGone
  known : ∀ f ∈ r.live, f.state ≠ .discovering → f.number ∈ concluded h
  settled : ∀ n ∈ concluded h, ∃ f ∈ r.live ++ r.removed, f.number = n ∧
    (hand = some n ∨ f.state ≠ .discovering)
  once : (concluded h).Nodup
  current : concluding? h = now
  ready : ∀ n, now = some n → ∃ f ∈ r.live, f.number = n
  recalled : ∀ entry ∈ h, r.Recalls entry.engine.registry
  torn : TornDown h
  timely : Timely h

variable {now hand hand' : Option Nat} {r r' : Registry} {h : History} {f f' : Finding}

/-- A removed finding is no longer being discovered. -/
theorem Staged.state_of_removed (staged : Staged now hand r h) (hf : f ∈ r.removed) :
    f.state ≠ .discovering := by
  rw [(staged.gone f hf).1]
  simp

/-- A finding with nothing at hand is tidy. -/
theorem Staged.isTidy (staged : Staged now none r h) (hf : f ∈ r.live) : f.IsTidy := by
  rcases staged.tidy f hf with hhand | tidy
  · simp at hhand
  · exact tidy

/-- A finding that is still being discovered has not been concluded. -/
theorem Staged.not_concluded (staged : Staged now none r h) (hf : f ∈ r.live)
    (hstate : f.state = .discovering) : f.number ∉ concluded h := by
  intro hmem
  obtain ⟨g, hg, hnumber, hhand | hdone⟩ := staged.settled _ hmem
  · simp at hhand
  · rw [staged.numbered.eq_of_number hg (List.mem_append_left _ hf) hnumber] at hdone
    exact hdone hstate

/-- Nothing is at hand any more once the finding at hand is tidy, and not being discovered if it
has been concluded. -/
theorem Staged.rest {n : Nat} (staged : Staged now (some n) r h)
    (tidy : ∀ f ∈ r.live, f.number = n → f.IsTidy)
    (done : n ∈ concluded h → ∃ f ∈ r.live ++ r.removed, f.number = n ∧ f.state ≠ .discovering) :
    Staged now none r h := by
  refine { staged with tidy := ?_, settled := ?_ }
  · intro f hf
    rcases staged.tidy f hf with hhand | htidy
    · exact .inr (tidy f hf (Option.some.inj hhand).symm)
    · exact .inr htidy
  · intro k hk
    obtain ⟨f, hf, hnumber, hhand | hdone⟩ := staged.settled k hk
    · obtain rfl : n = k := Option.some.inj hhand
      obtain ⟨g, hg, hgnumber, hgdone⟩ := done hk
      exact ⟨g, hg, hgnumber, .inr hgdone⟩
    · exact ⟨f, hf, hnumber, .inr hdone⟩

/-- Without live findings nothing is at hand. -/
theorem Staged.of_live_nil (staged : Staged now hand r h) (live : r.live = []) :
    Staged now none r h := by
  cases hand with
  | none => exact staged
  | some n =>
      refine staged.rest ?_ ?_
      · rw [live]
        simp
      · intro hn
        obtain ⟨f, hf, hnumber, -⟩ := staged.settled n hn
        refine ⟨f, hf, hnumber, staged.state_of_removed ?_⟩
        simpa [live] using hf

/-! ### Changes of the registry -/

/-- The account after a live finding has been replaced by a form of itself. -/
theorem Staged.replaces (staged : Staged now hand r h) (replaces : r.Replaces f f' r')
    (hnumber : f'.number = f.number)
    (hhand : hand' = hand ∨ hand = none ∨ hand = some f.number)
    (tidy : hand' = some f.number ∨ f'.IsTidy)
    (details : f.state ≠ .discovering → f'.state ≠ .discovering ∧ f'.details = f.details)
    (known : f'.state ≠ .discovering → f.state ≠ .discovering ∨ f.number ∈ concluded h)
    (done : f.number ∈ concluded h → hand' = some f.number ∨ f'.state ≠ .discovering) :
    Staged now hand' r' h := by
  -- another finding that is at hand stays at hand
  have others : ∀ n, n ≠ f.number → hand = some n → hand' = some n := by
    intro n hne hn
    rcases hhand with heq | hnone | hsome
    · rw [heq, hn]
    · rw [hn] at hnone
      cases hnone
    · rw [hn] at hsome
      exact absurd (Option.some.inj hsome) hne
  have recalls := replaces.recalls hnumber details
  have mem_live {g : Finding} (hg : g ∈ r.live) (hne : g.number ≠ f.number) : g ∈ r'.live := by
    obtain ⟨before, after, hlive, rfl⟩ := replaces
    simp only [hlive, List.mem_append, List.mem_cons] at hg ⊢
    rcases hg with hg | rfl | hg
    · exact .inl hg
    · exact absurd rfl hne
    · exact .inr (.inr hg)
  have hmem := replaces.mem'
  refine ⟨staged.numbered.replaces replaces hnumber, ?_, ?_, ?_, ?_, staged.once, staged.current,
    ?_, ?_, staged.torn, staged.timely⟩
  · intro g hg
    rcases replaces.mem_cases staged.numbered hg with rfl | ⟨hold, hne⟩
    · rw [hnumber]
      exact tidy
    · exact (staged.tidy g hold).imp_left (others _ hne)
  · rw [replaces.removed]
    exact staged.gone
  · intro g hg concluded
    rcases replaces.mem_cases staged.numbered hg with rfl | ⟨hold, -⟩
    · rw [hnumber]
      rcases known concluded with hold | hmem
      · exact staged.known f replaces.mem hold
      · exact hmem
    · exact staged.known g hold concluded
  · intro n hn
    by_cases heq : n = f.number
    · subst heq
      exact ⟨f', List.mem_append_left _ hmem, hnumber, done hn⟩
    · obtain ⟨g, hg, rfl, hdone⟩ := staged.settled n hn
      refine ⟨g, ?_, rfl, hdone.imp_left (others _ heq)⟩
      rcases List.mem_append.1 hg with hg | hg
      · exact List.mem_append_left _ (mem_live hg heq)
      · exact List.mem_append_right _ (replaces.removed ▸ hg)
  · intro n hn
    obtain ⟨g, hg, rfl⟩ := staged.ready n hn
    by_cases heq : g.number = f.number
    · exact ⟨f', hmem, by rw [hnumber, heq]⟩
    · exact ⟨g, mem_live hg heq, rfl⟩
  · exact fun entry hentry => recalls.trans (staged.recalled entry hentry)

/-- The account after a live finding has been removed and is gone. -/
theorem Staged.drops (staged : Staged none hand r h) (drops : r.Drops f f' r')
    (hnumber : f'.number = f.number) (gone : f'.IsGone) (details : f'.details = f.details) :
    Staged none hand r' h := by
  have hstate : f'.state ≠ .discovering := by
    rw [gone.1]
    simp
  have recalls := drops.recalls hnumber hstate details
  have numbered := staged.numbered.drops drops hnumber
  have mem_live {g : Finding} (hg : g ∈ r'.live) := (drops.mem_live staged.numbered hg).1
  refine ⟨numbered, fun g hg => staged.tidy g (mem_live hg), ?_,
    fun g hg => staged.known g (mem_live hg), ?_, staged.once, staged.current, by simp, ?_,
    staged.torn, staged.timely⟩
  · obtain ⟨before, after, hlive, rfl⟩ := drops
    intro g hg
    rcases List.mem_cons.1 hg with rfl | hg
    · exact gone
    · exact staged.gone g hg
  · intro n hn
    obtain ⟨g, hg, rfl, hdone⟩ := staged.settled n hn
    obtain ⟨before, after, hlive, rfl⟩ := drops
    by_cases hgf : g = f
    · subst hgf
      exact ⟨f', by simp, hnumber, .inr hstate⟩
    · refine ⟨g, ?_, rfl, hdone⟩
      simp only [hlive, List.mem_append, List.mem_cons] at hg ⊢
      tauto
  · exact fun entry hentry => recalls.trans (staged.recalled entry hentry)

/-- The number of the next finding is not that of a finding that has been concluded. -/
theorem Staged.made_notMem (staged : Staged now hand r h) : r.made ∉ concluded h := by
  intro hmem
  obtain ⟨f, hf, hnumber, -⟩ := staged.settled _ hmem
  exact Nat.lt_irrefl _ (hnumber ▸ staged.numbered.lt_made f hf)

/-- The account after a finding has been created, which is then at hand. -/
theorem Staged.create (staged : Staged none none r h) (service : Service) (ifindex : Int)
    (name : String) (counted : Bool) :
    Staged none (some r.made) (r.create service ifindex name counted).1 h := by
  have recalls := r.recalls_create service ifindex name counted
  refine ⟨staged.numbered.create .., ?_, staged.gone, ?_, ?_, staged.once, staged.current, by simp,
    ?_, staged.torn, staged.timely⟩
  · intro g hg
    rcases List.mem_append.1 hg with hg | hg
    · exact .inr (staged.isTidy hg)
    · rw [List.mem_singleton.1 hg]
      exact .inl rfl
  · intro g hg concluded
    rcases List.mem_append.1 hg with hg | hg
    · exact staged.known g hg concluded
    · rw [List.mem_singleton.1 hg] at concluded
      exact absurd rfl concluded
  · intro n hn
    obtain ⟨g, hg, rfl, hhand | hdone⟩ := staged.settled n hn
    · simp at hhand
    · refine ⟨g, ?_, rfl, .inr hdone⟩
      simp only [Registry.create, List.mem_append] at hg ⊢
      tauto
  · exact fun entry hentry => recalls.trans (staged.recalled entry hentry)

/-! ### Requests and calls -/

/-- The account after a request.  A session is ended without findings, and nothing is at hand when
a method is reported done by a conclusion. -/
theorem Staged.asked {e : Engine} {request : Request} (staged : Staged now hand e.books.registry h)
    (ends : request.EndsSession → e.books.registry.live = [])
    (done : ∀ m, request = .scanDone m → now = none ∨ hand = none) (answer : request.Answer) :
    Staged now hand e.books.registry (.asked e request answer :: h) := by
  refine { staged with recalled := ?_, torn := ?_, timely := ?_ }
  · intro entry hentry
    rcases List.mem_cons.1 hentry with rfl | hentry
    · exact .refl _
    · exact staged.recalled entry hentry
  · intro e' request' answer' hentry hends
    rcases List.mem_cons.1 hentry with heq | hentry
    · simp only [Entry.asked.injEq] at heq
      obtain ⟨rfl, rfl, -⟩ := heq
      exact ends hends
    · exact staged.torn e' request' answer' hentry hends
  · intro e' m answer' before hsuffix n hn
    rcases List.suffix_cons_iff.1 hsuffix with heq | hsuffix
    · obtain ⟨hentry, rfl⟩ := List.cons.inj heq
      simp only [Entry.asked.injEq] at hentry
      obtain ⟨rfl, hrequest, -⟩ := hentry
      have hnow : now = some n := staged.current.symm.trans hn
      obtain ⟨f, hf, hnumber⟩ := staged.ready n hnow
      refine ⟨f, hf, hnumber, fun publishable => ?_⟩
      rcases done m hrequest.symm with hnone | rfl
      · rw [hnone] at hnow
        cases hnow
      · refine (staged.isTidy hf).published (fun hstate => ?_) publishable
        apply staged.not_concluded hf hstate
        rw [hnumber]
        exact mem_concluded_of_concluding? hn
    · exact staged.timely e' m answer' before hsuffix n hn

/-- With nothing at hand, the finding that a call concludes is live and being discovered. -/
theorem Staged.concluded_live {e : Engine} {call : Call} {n : Nat}
    (staged : Staged now none e.books.registry h) (hcall : call.concluded? e = some n) :
    ∃ f ∈ e.books.registry.live, f.number = n ∧ f.state = .discovering := by
  cases call with
  | turn =>
      obtain ⟨event, -, hevent⟩ := Option.bind_eq_some_iff.1 hcall
      obtain ⟨found, f, -, hfind, hpending, rfl⟩ := awaiting?_eq_some hevent
      obtain ⟨number, -, hget⟩ := Option.bind_eq_some_iff.1 hfind
      have waits : f.tracker.pending ≠ [] := by simp [hpending]
      rcases List.mem_append.1 (Registry.mem_of_get? hget).1 with live | removed
      · exact ⟨f, live, rfl, (staged.isTidy live).discovering waits⟩
      · exact absurd (staged.gone f removed).2.1 waits
  | _ => simp [Call.concluded?] at hcall

/-- The account at the beginning of a call.  A finding that the call concludes is at hand. -/
theorem Staged.called {e : Engine} (call : Call) (staged : Staged now hand e.books.registry h)
    (free : hand = none ∨ call.concluded? e = none) :
    Staged (call.concluded? e) (hand.or (call.concluded? e)) e.books.registry
      (.called e call :: h) := by
  have hmem (n : Nat) : n ∈ concluded (.called e call :: h) ↔
      call.concluded? e = some n ∨ n ∈ concluded h := by
    rw [concluded_called, List.mem_append, Option.mem_toList]
  have live (n : Nat) (hcall : call.concluded? e = some n) : hand = none ∧
      ∃ f ∈ e.books.registry.live, f.number = n ∧ f.state = .discovering := by
    rcases free with rfl | none
    · exact ⟨rfl, staged.concluded_live hcall⟩
    · simp [none] at hcall
  refine ⟨staged.numbered, ?_, staged.gone, ?_, ?_, ?_, rfl, ?_, ?_, ?_, ?_⟩
  · exact fun f hf => (staged.tidy f hf).imp_left fun hhand => by rw [hhand]; rfl
  · exact fun f hf concluded => (hmem _).2 (.inr (staged.known f hf concluded))
  · intro n hn
    rcases (hmem n).1 hn with hcall | hold
    · obtain ⟨rfl, f, hf, hnumber, -⟩ := live n hcall
      exact ⟨f, List.mem_append_left _ hf, hnumber, .inl hcall⟩
    · obtain ⟨f, hf, hnumber, hdone⟩ := staged.settled n hold
      exact ⟨f, hf, hnumber, hdone.imp_left fun hhand => by rw [hhand]; rfl⟩
  · rw [concluded_called]
    cases hcall : call.concluded? e with
    | none => exact staged.once
    | some n =>
        obtain ⟨rfl, f, hf, rfl, hstate⟩ := live n hcall
        exact List.nodup_cons.2 ⟨staged.not_concluded hf hstate, staged.once⟩
  · intro n hcall
    obtain ⟨-, f, hf, hnumber, -⟩ := live n hcall
    exact ⟨f, hf, hnumber⟩
  · intro entry hentry
    rcases List.mem_cons.1 hentry with rfl | hentry
    · exact .refl _
    · exact staged.recalled entry hentry
  · intro e' request answer hentry
    rcases List.mem_cons.1 hentry with heq | hentry
    · cases heq
    · exact staged.torn e' request answer hentry
  · intro e' m answer before hsuffix
    rcases List.suffix_cons_iff.1 hsuffix with heq | hsuffix
    · cases heq
    · exact staged.timely e' m answer before hsuffix

/-- The account at the beginning of a call that concludes nothing. -/
theorem Staged.called_aside {e : Engine} {call : Call}
    (staged : Staged now hand e.books.registry h) (aside : call.concluded? e = none) :
    Staged none hand e.books.registry (.called e call :: h) := by
  have called := staged.called call (.inr aside)
  rwa [aside, Option.or_none] at called

/-- The account before anything has happened. -/
theorem Staged.initial : Staged none none .empty [] := by
  refine ⟨Registry.wellNumbered_empty, ?_, ?_, ?_, ?_, List.nodup_nil, rfl, by simp, ?_, ?_, ?_⟩
  · exact fun f hf => absurd hf List.not_mem_nil
  · exact fun f hf => absurd hf List.not_mem_nil
  · exact fun f hf => absurd hf List.not_mem_nil
  · exact fun n hn => absurd hn List.not_mem_nil
  · exact fun entry hentry => absurd hentry List.not_mem_nil
  · exact fun e request answer hentry => absurd hentry List.not_mem_nil
  · intro e m answer before hsuffix
    simp at hsuffix

end Engine

end ScannerDiscovery
