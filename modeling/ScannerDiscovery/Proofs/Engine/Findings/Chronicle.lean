import ScannerDiscovery.Proofs.Engine.CatalogAgreement
import ScannerDiscovery.Proofs.Engine.Findings.Reports
import ScannerDiscovery.Proofs.Engine.Frame.Keeps

/-!
# The chronicle of findings

Whatever the surroundings of the engine do, its findings are what the reports that they have
accepted make of them, and the catalog holds nothing but the snapshots of published ones; it holds
all of these unless a withdrawal has been broken off.  While a completion is handled or a finding
is deleted, this is said of all findings but the one at hand.

Main definitions:

- `report?`, `reports` : the report that a turn takes in, and those that a finding has accepted.
- `PublishesFaithfully` : histories in which snapshots are those of faithful findings.
- `Chronicled` : what registry, catalog and reports have to do with each other.

Main results:

- `Chronicled.modify`, `Chronicled.drop`, `Chronicled.create` : after a change of the registry.
- `Chronicled.publish`, `Chronicled.withdraw`, `Chronicled.called` : after an entry of the history.
-/

namespace ScannerDiscovery

namespace Registry

theorem made_modify (r : Registry) (number : Nat) (change : Finding → Finding) :
    (r.modify number change).made = r.made := by
  simp [made, modify]

/-- A finding of a changed registry is a finding of the registry, changed if it has the number. -/
theorem mem_modify {findings : List Finding} {number : Nat} {change : Finding → Finding}
    {g : Finding} (hg : g ∈ findings.map fun f => if f.number = number then change f else f) :
    (g ∈ findings ∧ g.number ≠ number) ∨ ∃ f ∈ findings, f.number = number ∧ g = change f := by
  obtain ⟨f, hf, rfl⟩ := List.mem_map.1 hg
  by_cases h : f.number = number
  · exact .inr ⟨f, hf, h, if_pos h⟩
  · rw [if_neg h]
    exact .inl ⟨hf, h⟩

/-- A change that keeps a number leaves the numbers distinct and below the next one. -/
theorem WellNumbered.modify {r : Registry} (wn : r.WellNumbered) {number : Nat}
    {change : Finding → Finding} (same : ∀ f, f.number = number → (change f).number = number) :
    (r.modify number change).WellNumbered := by
  have numbers (findings : List Finding) :
      (findings.map fun f => if f.number = number then change f else f).map (·.number) =
        findings.map (·.number) := by
    rw [List.map_map]
    apply List.map_congr_left
    intro f hf
    by_cases h : f.number = number <;> simp [h, same]
  constructor
  · have hnodup := wn.nodup
    rw [List.map_append] at hnodup ⊢
    rwa [Registry.modify, numbers, numbers]
  · intro g hg
    rw [made_modify]
    rw [Registry.modify, ← List.map_append] at hg
    rcases mem_modify hg with ⟨hmem, -⟩ | ⟨f, hf, rfl, rfl⟩
    · exact wn.lt_made g hmem
    · rw [same f rfl]
      exact wn.lt_made f hf

end Registry

namespace Engine

/-! ## Reports -/

/-- The report that a turn takes in, and the number of the finding that accepts it. -/
def report? (e : Engine) : Option (Nat × ResolveEvent) :=
  match e.next? with
  | some (.notice (.resolve event)) =>
    if event.kind = .found then (receiver? e event).map fun f => (f.number, event) else none
  | _ => none

/-- The reports that a finding has accepted, the earliest first. -/
def reports (number : Nat) : History → List ResolveEvent
  | [] => []
  | .called e .turn :: h =>
    match report? e with
    | some (n, event) => if n = number then reports number h ++ [event] else reports number h
    | none => reports number h
  | _ :: h => reports number h

/-- A call adds a report to those of the finding that accepts it. -/
theorem reports_called (e : Engine) (h : History) (number : Nat) :
    reports number (.called e .turn :: h) = match report? e with
      | some (n, event) => if n = number then reports number h ++ [event] else reports number h
      | none => reports number h := rfl

/-- Whether all withdrawals from the catalog have gone to their end. -/
def WithdrawsAll (h : History) : Prop :=
  ∀ e s answer, .asked e (.withdraw s) answer ∈ h → answer = .ok ()

theorem WithdrawsAll.of_cons {entry : Entry} {h : History} (all : WithdrawsAll (entry :: h)) :
    WithdrawsAll h :=
  fun e s answer hmem => all e s answer (List.mem_cons_of_mem entry hmem)

/-- What the catalog that a history makes holds under a key. -/
def shownAs (h : History) (key : FindingKey) : Option Snapshot :=
  (catalogAfter h).findings.get? key

/-- Whether every snapshot has been published by a live finding that was what its reports made of
it. -/
def PublishesFaithfully (h : History) : Prop :=
  ∀ e s answer before, .asked e (.publish s) answer :: before <:+ h →
    ∃ f ∈ e.books.registry.live, f.isPublished = true ∧ f.snapshot = s ∧
      f.IsFaithful (reports f.number before)

theorem PublishesFaithfully.cons {entry : Entry} {h : History} (faithfully : PublishesFaithfully h)
    (other : ∀ s, entry.update? ≠ some (.publish, s)) : PublishesFaithfully (entry :: h) := by
  intro e s answer before suffix
  rcases List.suffix_cons_iff.1 suffix with heq | suffix
  · exact absurd ((List.cons.inj heq).1 ▸ rfl) (other s)
  · exact faithfully e s answer before suffix

/-! ## The chronicle -/

/-- What registry, catalog and reports have to do with each other, but for a finding at hand. -/
structure Chronicled (hand : Option Nat) (r : Registry) (h : History) : Prop where
  numbered : r.WellNumbered
  keys : (r.live.map (·.key)).Nodup
  gone : ∀ f ∈ r.removed, f.tracker.pending = [] ∧ f.isPublished = false
  faithful : ∀ f ∈ r.live, hand ≠ some f.number → f.IsFaithful (reports f.number h)
  unheard : ∀ n, r.made ≤ n → reports n h = []
  issued : PublishesFaithfully h
  shown : ∀ key s, shownAs h key = some s →
    ∃ f ∈ r.live, hand ≠ some f.number ∧ f.isPublished = true ∧ f.key = key ∧ f.snapshot = s
  kept : WithdrawsAll h → ∀ f ∈ r.live, hand ≠ some f.number → f.isPublished = true →
    shownAs h f.key = some f.snapshot

namespace Chronicled

variable {hand : Option Nat} {r r' : Registry} {h h' : History} {f f' : Finding} {e : Engine}

theorem initial : Chronicled none .empty [] where
  numbered := Registry.wellNumbered_empty
  keys := List.nodup_nil
  gone := by simp [Registry.empty]
  faithful := by simp [Registry.empty]
  unheard _ _ := rfl
  issued e s answer before suffix := by simp at suffix
  shown := by simp [shownAs, catalogAfter, Catalog.empty]
  kept := by simp [Registry.empty]

/-- A live finding is the one with its key. -/
theorem eq_of_key (chronicled : Chronicled hand r h) {g : Finding} (hf : f ∈ r.live)
    (hg : g ∈ r.live) (hkey : g.key = f.key) : g = f :=
  List.inj_on_of_nodup_map chronicled.keys hg hf hkey

/-- A live finding is the one with its number. -/
theorem eq_of_number (chronicled : Chronicled hand r h) {g : Finding} (hf : f ∈ r.live)
    (hg : g ∈ r.live) (hnumber : g.number = f.number) : g = f :=
  chronicled.numbered.eq_of_number (List.mem_append_left _ hg) (List.mem_append_left _ hf) hnumber

/-! ### Entries that change nothing -/

/-- An entry that concerns neither reports nor catalog. -/
theorem same {entry : Entry} (chronicled : Chronicled hand r h)
    (hreports : ∀ n, reports n (entry :: h) = reports n h)
    (hshown : ∀ key, shownAs (entry :: h) key = shownAs h key)
    (other : ∀ s, entry.update? ≠ some (.publish, s)) : Chronicled hand r (entry :: h) where
  numbered := chronicled.numbered
  keys := chronicled.keys
  gone := chronicled.gone
  faithful f hf hhand := by
    rw [hreports]
    exact chronicled.faithful f hf hhand
  unheard n hn := by
    rw [hreports]
    exact chronicled.unheard n hn
  issued := chronicled.issued.cons other
  shown key s hs := chronicled.shown key s ((hshown key).symm.trans hs)
  kept all f hf hhand published := by
    rw [hshown]
    exact chronicled.kept all.of_cons f hf hhand published

/-- A plain request. -/
theorem asked (chronicled : Chronicled hand r h) {request : Request} (plain : request.IsPlain)
    (answer : request.Answer) : Chronicled hand r (.asked e request answer :: h) := by
  have none : (Entry.asked e request answer).update? = none := by
    cases request with
    | publish s => exact plain.elim
    | withdraw s => exact plain.elim
    | _ => rfl
  refine chronicled.same (fun _ => rfl) (fun key => ?_) (by simp [none])
  rw [shownAs, findings_of_no_update none, shownAs]

/-- The settlement of a query. -/
theorem settled (chronicled : Chronicled hand r h) (ticket : Nat) (outcome : Except Fault Reply) :
    Chronicled hand r (.asked e (.settle ticket outcome) () :: h) :=
  chronicled.same (fun _ => rfl) (fun _ => rfl) (by simp [Entry.update?])

/-- A call that takes in no report. -/
theorem called (chronicled : Chronicled hand r h) {call : Call}
    (none : call = .turn → report? e = none) : Chronicled hand r (.called e call :: h) := by
  refine chronicled.same (fun n => ?_) (fun _ => rfl) (by simp [Entry.update?])
  cases call with
  | turn => rw [reports_called, none rfl]
  | _ => rfl

/-! ### The finding at hand -/

/-- An unpublished finding is taken to hand. -/
theorem take (chronicled : Chronicled none r h) (hf : f ∈ r.live)
    (unpublished : f.isPublished = false) : Chronicled (some f.number) r h where
  numbered := chronicled.numbered
  keys := chronicled.keys
  gone := chronicled.gone
  faithful g hg _ := chronicled.faithful g hg nofun
  unheard := chronicled.unheard
  issued := chronicled.issued
  shown key s hs := by
    obtain ⟨g, hg, -, published, hkey, hsnapshot⟩ := chronicled.shown key s hs
    refine ⟨g, hg, ?_, published, hkey, hsnapshot⟩
    intro heq
    rw [chronicled.eq_of_number hf hg (Option.some.inj heq).symm, unpublished] at published
    cases published
  kept all g hg _ published := chronicled.kept all g hg nofun published

/-- A report is accepted by a finding at hand. -/
theorem accepted (chronicled : Chronicled (some f.number) r h) (hf : f ∈ r.live)
    {event : ResolveEvent} (report : report? e = some (f.number, event)) :
    Chronicled (some f.number) r (.called e .turn :: h) where
  numbered := chronicled.numbered
  keys := chronicled.keys
  gone := chronicled.gone
  faithful g hg hhand := by
    rw [reports_called, report]
    simp only
    rw [if_neg fun heq => hhand (congrArg some heq)]
    exact chronicled.faithful g hg hhand
  unheard n hn := by
    have lt := chronicled.numbered.lt_made f (List.mem_append_left _ hf)
    rw [reports_called, report]
    simp only
    rw [if_neg (by omega)]
    exact chronicled.unheard n hn
  issued := chronicled.issued.cons (by simp [Entry.update?])
  shown := chronicled.shown
  kept all g hg := chronicled.kept all.of_cons g hg

/-- An unpublished finding that is faithful is put back. -/
theorem put (chronicled : Chronicled (some f.number) r h) (hf : f ∈ r.live)
    (unpublished : f.isPublished = false) (faithful : f.IsFaithful (reports f.number h)) :
    Chronicled none r h where
  numbered := chronicled.numbered
  keys := chronicled.keys
  gone := chronicled.gone
  faithful g hg _ := by
    by_cases hnumber : g.number = f.number
    · rw [chronicled.eq_of_number hf hg hnumber]
      exact faithful
    · exact chronicled.faithful g hg fun heq => hnumber (Option.some.inj heq).symm
  unheard := chronicled.unheard
  issued := chronicled.issued
  shown key s hs := by
    obtain ⟨g, hg, -, rest⟩ := chronicled.shown key s hs
    exact ⟨g, hg, nofun, rest⟩
  kept all g hg _ published := by
    by_cases hnumber : g.number = f.number
    · rw [chronicled.eq_of_number hf hg hnumber, unpublished] at published
      cases published
    · exact chronicled.kept all g hg (fun heq => hnumber (Option.some.inj heq).symm) published

/-! ### Updates of the catalog -/

/-- What the catalog holds after a publication. -/
theorem shownAs_publish (s : Snapshot) (answer : Except Fault Unit) (key : FindingKey) :
    shownAs (.asked e (.publish s) answer :: h) key =
      if key = s.key then some s else shownAs h key :=
  OrderedMap.get?_insert _ _ _ _

/-- What the catalog holds after a withdrawal. -/
theorem shownAs_withdraw (s : Snapshot) (answer : Except Fault Unit) (key : FindingKey) :
    shownAs (.asked e (.withdraw s) answer :: h) key =
      if key = s.key then none else shownAs h key :=
  Catalog.findings_withdraw _ _ _

/-- A finding at hand that is faithful is published, whatever the listeners do. -/
theorem publish (chronicled : Chronicled (some f.number) r h) (hf : f ∈ r.live)
    (published : f.isPublished = true) (faithful : f.IsFaithful (reports f.number h))
    (asking : f ∈ e.books.registry.live) (answer : Except Fault Unit) :
    Chronicled none r (.asked e (.publish f.snapshot) answer :: h) where
  numbered := chronicled.numbered
  keys := chronicled.keys
  gone := chronicled.gone
  faithful g hg _ := by
    by_cases hnumber : g.number = f.number
    · rw [chronicled.eq_of_number hf hg hnumber]
      exact faithful
    · exact chronicled.faithful g hg fun heq => hnumber (Option.some.inj heq).symm
  unheard := chronicled.unheard
  issued e' s answer' before suffix := by
    rcases List.suffix_cons_iff.1 suffix with heq | suffix
    · obtain ⟨hentry, rfl⟩ := List.cons.inj heq
      cases hentry
      exact ⟨f, asking, published, rfl, faithful⟩
    · exact chronicled.issued e' s answer' before suffix
  shown key s hs := by
    rw [shownAs_publish, Finding.key_snapshot] at hs
    by_cases hkey : key = f.key
    · rw [if_pos hkey] at hs
      exact ⟨f, hf, nofun, published, hkey.symm, Option.some.inj hs⟩
    · rw [if_neg hkey] at hs
      obtain ⟨g, hg, -, rest⟩ := chronicled.shown key s hs
      exact ⟨g, hg, nofun, rest⟩
  kept all g hg _ gpublished := by
    rw [shownAs_publish, Finding.key_snapshot]
    by_cases hkey : g.key = f.key
    · rw [if_pos hkey, chronicled.eq_of_key hf hg hkey]
    · rw [if_neg hkey]
      refine chronicled.kept all.of_cons g hg (fun heq => hkey ?_) gpublished
      rw [chronicled.eq_of_number hf hg (Option.some.inj heq).symm]

/-- A finding that is withdrawn is at hand then. -/
theorem withdraw (chronicled : Chronicled none r h) (hf : f ∈ r.live)
    (answer : Except Fault Unit) :
    Chronicled (some f.number) r (.asked e (.withdraw f.snapshot) answer :: h) where
  numbered := chronicled.numbered
  keys := chronicled.keys
  gone := chronicled.gone
  faithful g hg _ := chronicled.faithful g hg nofun
  unheard := chronicled.unheard
  issued := chronicled.issued.cons (by simp [Entry.update?])
  shown key s hs := by
    rw [shownAs_withdraw, Finding.key_snapshot] at hs
    by_cases hkey : key = f.key
    · rw [if_pos hkey] at hs
      cases hs
    · rw [if_neg hkey] at hs
      obtain ⟨g, hg, -, published, gkey, hsnapshot⟩ := chronicled.shown key s hs
      refine ⟨g, hg, fun heq => hkey ?_, published, gkey, hsnapshot⟩
      rw [← gkey, chronicled.eq_of_number hf hg (Option.some.inj heq).symm]
  kept all g hg hhand published := by
    rw [shownAs_withdraw, Finding.key_snapshot, if_neg fun hkey => hhand ?_]
    · exact chronicled.kept all.of_cons g hg nofun published
    · rw [chronicled.eq_of_key hf hg hkey]

/-- A withdrawal that is broken off leaves a finding published that the catalog does not hold. -/
theorem withdraw_failed (chronicled : Chronicled none r h) (hf : f ∈ r.live) (fault : Fault) :
    Chronicled none r (.asked e (.withdraw f.snapshot) (.error fault) :: h) := by
  have withdrawn := chronicled.withdraw (e := e) hf (.error fault)
  refine ⟨withdrawn.numbered, withdrawn.keys, withdrawn.gone, ?_, withdrawn.unheard,
    withdrawn.issued, ?_, ?_⟩
  · exact chronicled.faithful
  · intro key s hs
    obtain ⟨g, hg, -, rest⟩ := withdrawn.shown key s hs
    exact ⟨g, hg, nofun, rest⟩
  · intro all
    cases all e f.snapshot _ List.mem_cons_self

/-! ### Changes of the registry -/

/-- A change of one finding that keeps its number and its key.  Unless the finding is at hand, it
looks the same in the catalog. -/
theorem modify (chronicled : Chronicled hand r h) {number : Nat} {change : Finding → Finding}
    (hnumber : ∀ f, f.number = number → (change f).number = number)
    (hkey : ∀ f ∈ r.live, f.number = number → (change f).key = f.key)
    (gone : ∀ f ∈ r.removed, f.number = number →
      (change f).tracker = f.tracker ∧ (change f).isPublished = f.isPublished)
    (looks : hand ≠ some number → ∀ f ∈ r.live, f.number = number →
      (change f).isPublished = f.isPublished ∧ (change f).snapshot = f.snapshot ∧
      (f.IsFaithful (reports number h) → (change f).IsFaithful (reports number h))) :
    Chronicled hand (r.modify number change) h where
  numbered := chronicled.numbered.modify hnumber
  keys := by
    have same : (r.modify number change).live.map (·.key) = r.live.map (·.key) := by
      rw [Registry.modify, List.map_map]
      apply List.map_congr_left
      intro f hf
      by_cases hfn : f.number = number
      · simp [hfn, hkey f hf hfn]
      · simp [hfn]
    rw [same]
    exact chronicled.keys
  gone g hg := by
    rcases Registry.mem_modify hg with ⟨hmem, -⟩ | ⟨f, hf, hfn, rfl⟩
    · exact chronicled.gone g hmem
    · obtain ⟨htracker, hpublished⟩ := gone f hf hfn
      rw [htracker, hpublished]
      exact chronicled.gone f hf
  faithful g hg hhand := by
    rcases Registry.mem_modify hg with ⟨hmem, -⟩ | ⟨f, hf, hfn, rfl⟩
    · exact chronicled.faithful g hmem hhand
    · rw [hnumber f hfn] at hhand ⊢
      have before := chronicled.faithful f hf (by rwa [hfn])
      rw [hfn] at before
      exact (looks hhand f hf hfn).2.2 before
  unheard n hn := by
    rw [Registry.made_modify] at hn
    exact chronicled.unheard n hn
  issued := chronicled.issued
  shown key s hs := by
    obtain ⟨f, hf, hhand, published, fkey, hsnapshot⟩ := chronicled.shown key s hs
    refine ⟨_, List.mem_map_of_mem hf, ?_⟩
    by_cases hfn : f.number = number
    · rw [if_pos hfn, hnumber f hfn, hkey f hf hfn]
      rw [hfn] at hhand
      obtain ⟨hpublished, hsame, -⟩ := looks hhand f hf hfn
      exact ⟨hhand, hpublished.trans published, fkey, hsame.trans hsnapshot⟩
    · rw [if_neg hfn]
      exact ⟨hhand, published, fkey, hsnapshot⟩
  kept all g hg hhand published := by
    rcases Registry.mem_modify hg with ⟨hmem, -⟩ | ⟨f, hf, hfn, rfl⟩
    · exact chronicled.kept all g hmem hhand published
    · rw [hnumber f hfn] at hhand
      obtain ⟨hpublished, hsame, -⟩ := looks hhand f hf hfn
      rw [hkey f hf hfn, hsame]
      exact chronicled.kept all f hf (by rwa [hfn]) (hpublished.symm.trans published)

/-- The finding at hand is revised. -/
theorem revise (chronicled : Chronicled (some f.number) r h) (hf : f ∈ r.live) (f' : Finding)
    (hnumber : f'.number = f.number) (hkey : f'.key = f.key) :
    Chronicled (some f.number) (r.modify f.number fun _ => f') h := by
  refine chronicled.modify (fun _ _ => hnumber) (fun g hg hgn => ?_) (fun g hg hgn => ?_)
    fun hhand => absurd rfl hhand
  · rw [chronicled.eq_of_number hf hg hgn, hkey]
  · exact absurd hgn (chronicled.numbered.removed_ne hf hg)

/-- The finding at hand is removed. -/
theorem drop (chronicled : Chronicled (some f.number) r h) (drops : r.Drops f f' r')
    (hnumber : f'.number = f.number) (idle : f'.tracker.pending = [])
    (unpublished : f'.isPublished = false) : Chronicled none r' h := by
  have others {g : Finding} (hg : g ∈ r'.live) : g ∈ r.live ∧ some f.number ≠ some g.number := by
    obtain ⟨hmem, hne⟩ := drops.mem_live chronicled.numbered hg
    exact ⟨hmem, fun heq => hne (Option.some.inj heq).symm⟩
  obtain ⟨before, after, hlive, rfl⟩ := drops
  refine ⟨chronicled.numbered.drops ⟨before, after, hlive, rfl⟩ hnumber, ?_, ?_, ?_, ?_,
    chronicled.issued, ?_, ?_⟩
  · have keys := chronicled.keys
    rw [hlive] at keys
    exact keys.sublist (((List.sublist_cons_self f after).append_left before).map _)
  · intro g hg
    rcases List.mem_cons.1 hg with rfl | hg
    · exact ⟨idle, unpublished⟩
    · exact chronicled.gone g hg
  · intro g hg _
    exact chronicled.faithful g (others hg).1 (others hg).2
  · intro n hn
    refine chronicled.unheard n ?_
    simp only [Registry.made, hlive, List.length_append, List.length_cons] at hn ⊢
    omega
  · intro key s hs
    obtain ⟨g, hg, hhand, rest⟩ := chronicled.shown key s hs
    refine ⟨g, ?_, (Option.some_ne_none _).symm, rest⟩
    rw [hlive] at hg
    rcases List.mem_append.1 hg with hg | hg
    · exact List.mem_append_left _ hg
    · rcases List.mem_cons.1 hg with rfl | hg
      · exact absurd rfl hhand
      · exact List.mem_append_right _ hg
  · intro all g hg _ published
    exact chronicled.kept all g (others hg).1 (others hg).2 published

/-- A finding is created for a key that is new. -/
theorem create (chronicled : Chronicled none r h) {service : Service} {ifindex : Int}
    {name : String} (new : r.find? (.of service ifindex name) = none) (counted : Bool) :
    Chronicled none (r.create service ifindex name counted).1 h := by
  have unheard := chronicled.unheard
  refine ⟨chronicled.numbered.create service ifindex name counted, ?_, chronicled.gone, ?_, ?_,
    chronicled.issued, ?_, ?_⟩
  · simp only [Registry.create, List.map_append, List.map_cons, List.map_nil]
    refine List.nodup_append.2 ⟨chronicled.keys, List.nodup_singleton _, ?_⟩
    rintro key hkey _ hnew rfl
    obtain ⟨f, hf, hfkey⟩ := List.mem_map.1 hkey
    have absent := List.find?_eq_none.1 new f hf
    rw [List.mem_singleton] at hnew
    exact absent (beq_iff_eq.2 (hfkey.trans hnew))
  · intro f hf _
    rcases List.mem_append.1 hf with hf | hf
    · exact chronicled.faithful f hf (Option.some_ne_none _).symm
    · rw [List.mem_singleton.1 hf]
      refine .inl ?_
      rw [show reports _ h = [] from unheard _ (Nat.le_refl _)]
      rfl
  · intro n hn
    refine unheard n (Nat.le_trans ?_ hn)
    simp [Registry.made, Registry.create]
  · intro key s hs
    obtain ⟨f, hf, rest⟩ := chronicled.shown key s hs
    exact ⟨f, List.mem_append_left _ hf, rest⟩
  · intro all f hf _ published
    rcases List.mem_append.1 hf with hf | hf
    · exact chronicled.kept all f hf (Option.some_ne_none _).symm published
    · rw [List.mem_singleton.1 hf] at published
      cases published

end Chronicled

end Engine

end ScannerDiscovery
