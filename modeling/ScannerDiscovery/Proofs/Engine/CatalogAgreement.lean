import ScannerDiscovery.Catalog.Basic
import ScannerDiscovery.Proofs.Engine.Conduct.Calls
import ScannerDiscovery.Proofs.Engine.Scripts

/-!
# Catalog and registry agree

A catalog that starts empty and is told of nothing but what the engine asks for holds, between
two calls, the current snapshots of the published findings.  A key is published and withdrawn in
turns: nothing is published over what is there, and nothing is withdrawn that is not.

Main definitions:

- `catalogAfter` : the catalog that a history makes of an empty one.
- `updatesOf` : what a history asks of the catalog for one key.
- `Proper` : histories that publish what is absent and withdraw what is present.
- `AgreesThroughout` : histories at whose requests catalog and registry agree.

Main results:

- `Proper.inTurns` : such a history publishes and withdraws a key in turns.
- `catalog_agrees` : catalog and registry agree at every moment of a run.
-/

namespace ScannerDiscovery

namespace Engine

/-! ## The catalog of a history -/

/-- What an entry asks the catalog to do with a snapshot. -/
def Entry.update? : Entry → Option (CatalogAction × Snapshot)
  | .asked _ (.publish s) _ => some (.publish, s)
  | .asked _ (.withdraw s) _ => some (.withdraw, s)
  | _ => none

/-- The catalog that a history makes of an empty one. -/
def catalogAfter : History → Catalog
  | [] => .empty
  | .asked _ (.publish s) _ :: h => ((catalogAfter h).publish s).1
  | .asked _ (.withdraw s) _ :: h => ((catalogAfter h).withdraw s).1
  | .asked _ (.scanDone m) _ :: h => (catalogAfter h).scanDone m
  | _ :: h => catalogAfter h

/-- What a history asks of the catalog for one key, the earliest first. -/
def updatesOf (key : FindingKey) : History → List CatalogAction
  | [] => []
  | entry :: h =>
    match entry.update? with
    | some (action, s) => if s.key = key then updatesOf key h ++ [action] else updatesOf key h
    | none => updatesOf key h

/-- Whether a history publishes only what is absent and withdraws only what is present. -/
def Proper (h : History) : Prop :=
  ∀ entry rest action s, entry :: rest <:+ h → entry.update? = some (action, s) →
    (action = .withdraw ↔ ((catalogAfter rest).findings.get? s.key).isSome = true)

/-- The snapshots after an entry that updates the catalog. -/
theorem findings_of_update {entry : Entry} {action : CatalogAction} {s : Snapshot}
    (update : entry.update? = some (action, s)) (h : History) (key : FindingKey) :
    (catalogAfter (entry :: h)).findings.get? key =
      if key = s.key then (if action = .publish then some s else none)
      else (catalogAfter h).findings.get? key := by
  cases entry with
  | called e call => simp [Entry.update?] at update
  | asked e request answer =>
      cases request with
      | publish s₁ =>
          simp only [Entry.update?, Option.some.injEq, Prod.mk.injEq] at update
          obtain ⟨rfl, rfl⟩ := update
          exact OrderedMap.get?_insert _ _ _ _
      | withdraw s₁ =>
          simp only [Entry.update?, Option.some.injEq, Prod.mk.injEq] at update
          obtain ⟨rfl, rfl⟩ := update
          exact Catalog.findings_withdraw _ _ _
      | _ => simp [Entry.update?] at update

/-- The snapshots after an entry that does not. -/
theorem findings_of_no_update {entry : Entry} (none : entry.update? = none) (h : History) :
    (catalogAfter (entry :: h)).findings = (catalogAfter h).findings := by
  cases entry with
  | called e call => rfl
  | asked e request answer =>
      cases request with
      | publish s => simp [Entry.update?] at none
      | withdraw s => simp [Entry.update?] at none
      | _ => rfl

theorem Proper.nil : Proper [] := by
  intro entry rest action s hsuffix
  simp at hsuffix

theorem Proper.cons {entry : Entry} {h : History} (proper : Proper h)
    (here : ∀ action s, entry.update? = some (action, s) →
      (action = .withdraw ↔ ((catalogAfter h).findings.get? s.key).isSome = true)) :
    Proper (entry :: h) := by
  intro entry' rest action s hsuffix update
  rcases List.suffix_cons_iff.1 hsuffix with heq | hsuffix
  · obtain ⟨rfl, rfl⟩ := List.cons.inj heq
    exact here action s update
  · exact proper entry' rest action s hsuffix update

theorem Proper.of_cons {entry : Entry} {h : History} (proper : Proper (entry :: h)) : Proper h :=
  fun entry' rest action s hsuffix =>
    proper entry' rest action s (hsuffix.trans (List.suffix_cons _ _))

/-- A key is present after an odd number of updates. -/
theorem Proper.isSome_iff {h : History} (proper : Proper h) (key : FindingKey) :
    ((catalogAfter h).findings.get? key).isSome = true ↔ (updatesOf key h).length % 2 = 1 := by
  induction h with
  | nil => simp [catalogAfter, Catalog.empty, updatesOf]
  | cons entry h ih =>
      have before := ih proper.of_cons
      cases hupdate : entry.update? with
      | none =>
          rw [findings_of_no_update hupdate, before]
          simp only [updatesOf, hupdate]
      | some update =>
          obtain ⟨action, s⟩ := update
          have turn := proper entry h action s (List.suffix_refl _) hupdate
          rw [findings_of_update hupdate]
          simp only [updatesOf, hupdate]
          by_cases hkey : key = s.key
          · subst hkey
            rw [before] at turn
            simp only [if_true, List.length_append, List.length_singleton]
            cases action with
            | publish =>
                have hpresent := mt turn.2 (by simp)
                simp only [if_true, Option.isSome_some, true_iff]
                omega
            | withdraw =>
                have hpresent := turn.1 rfl
                simp only [reduceCtorEq, if_false, Option.isSome_none, Bool.false_eq_true,
                  false_iff]
                omega
          · rw [if_neg hkey, if_neg (Ne.symm hkey)]
            exact before

/-- A key is published and withdrawn in turns. -/
theorem Proper.inTurns {h : History} (proper : Proper h) (key : FindingKey) :
    InTurns .publish .withdraw (updatesOf key h) := by
  induction h with
  | nil => exact .nil _ _
  | cons entry h ih =>
      have before := ih proper.of_cons
      cases hupdate : entry.update? with
      | none =>
          simp only [updatesOf, hupdate]
          exact before
      | some update =>
          obtain ⟨action, s⟩ := update
          have turn := proper entry h action s (List.suffix_refl _) hupdate
          simp only [updatesOf, hupdate]
          by_cases hkey : s.key = key
          · rw [if_pos hkey]
            rw [hkey, proper.of_cons.isSome_iff] at turn
            apply before.concat
            cases action with
            | publish =>
                have heven := mt turn.2 (by simp)
                rw [if_pos (by omega)]
            | withdraw =>
                have hodd := turn.1 rfl
                rw [if_neg (by omega)]
          · rw [if_neg hkey]
            exact before

end Engine

/-! ## What a registry publishes -/

namespace Registry

/-- Whether a registry has a live published finding with a key and a snapshot. -/
def Publishes (r : Registry) (key : FindingKey) (s : Snapshot) : Prop :=
  ∃ f ∈ r.live, f.isPublished = true ∧ f.key = key ∧ f.snapshot = s

/-- What is published around a live finding, and by that finding. -/
theorem publishes_iff {r : Registry} {before after : List Finding} {f : Finding}
    (hlive : r.live = before ++ f :: after) (key : FindingKey) (s : Snapshot) :
    r.Publishes key s ↔
      (∃ g ∈ before ++ after, g.isPublished = true ∧ g.key = key ∧ g.snapshot = s) ∨
        (f.isPublished = true ∧ f.key = key ∧ f.snapshot = s) := by
  simp only [Publishes, hlive, List.mem_append, List.mem_cons]
  constructor
  · rintro ⟨g, hg, hpublishes⟩
    by_cases hgf : g = f
    · exact .inr (hgf ▸ hpublishes)
    · exact .inl ⟨g, by tauto, hpublishes⟩
  · rintro (⟨g, hg, hpublishes⟩ | hpublishes)
    · exact ⟨g, by tauto, hpublishes⟩
    · exact ⟨f, by simp, hpublishes⟩

/-- Around a live finding there is no other with its key. -/
theorem key_ne_of_nodup {r : Registry} (keys : (r.live.map (·.key)).Nodup)
    {before after : List Finding} {f : Finding} (hlive : r.live = before ++ f :: after) :
    ∀ g ∈ before ++ after, g.key ≠ f.key := by
  rw [hlive, List.map_append, List.map_cons, List.nodup_middle, List.nodup_cons,
    ← List.map_append] at keys
  exact fun g hg heq => keys.1 (heq ▸ List.mem_map_of_mem hg)

/-- A finding that is replaced by one which is as published and looks the same changes nothing
of what is published. -/
theorem Replaces.publishes_iff {r r' : Registry} {f f' : Finding} (replaces : r.Replaces f f' r')
    (hpublished : f'.isPublished = f.isPublished)
    (same : f.isPublished = true → f'.key = f.key ∧ f'.snapshot = f.snapshot)
    (key : FindingKey) (s : Snapshot) : r'.Publishes key s ↔ r.Publishes key s := by
  obtain ⟨before, after, hlive, rfl⟩ := replaces
  rw [Registry.publishes_iff hlive, Registry.publishes_iff rfl, hpublished]
  cases hf : f.isPublished with
  | false => simp
  | true =>
      obtain ⟨hkey, hsnapshot⟩ := same hf
      rw [hkey, hsnapshot]

end Registry

namespace Engine

/-! ## Agreement -/

/-- Whether a history has been proper, and the catalog it makes holds what is published. -/
structure Agrees (p : Point) : Prop where
  proper : Proper p.history
  findings : ∀ key s, (catalogAfter p.history).findings.get? key = some s ↔
    p.holdings.registry.Publishes key s

/-- Agreement is kept where neither the catalog is updated nor what is published changes. -/
theorem Agrees.same {d d' : Debt} {w w' : Holdings} {h h' : History} (agrees : Agrees ⟨d, w, h⟩)
    (hhistory : h' = h ∨ ∃ entry, h' = entry :: h ∧ entry.update? = none)
    (hpublishes : ∀ key s, w'.registry.Publishes key s ↔ w.registry.Publishes key s) :
    Agrees ⟨d', w', h'⟩ := by
  rcases hhistory with rfl | ⟨entry, rfl, none⟩
  · exact ⟨agrees.proper, fun key s => (agrees.findings key s).trans (hpublishes key s).symm⟩
  · refine ⟨agrees.proper.cons (by simp [none]), fun key s => ?_⟩
    rw [findings_of_no_update none]
    exact (agrees.findings key s).trans (hpublishes key s).symm

/-- What the catalog holds for the key of a live finding. -/
theorem Agrees.get?_key {d : Debt} {w : Holdings} {h : History} {f : Finding}
    (agrees : Agrees ⟨d, w, h⟩) (reg : Registered ⟨d, w, h⟩) (hf : f ∈ w.registry.live) :
    (catalogAfter h).findings.get? f.key = if f.isPublished then some f.snapshot else none := by
  cases hpublished : f.isPublished with
  | true => exact (agrees.findings f.key f.snapshot).2 ⟨f, hf, hpublished, rfl, rfl⟩
  | false =>
      rw [if_neg (by simp), Option.eq_none_iff_forall_ne_some]
      intro s hget
      obtain ⟨g, hg, hgpublished, hkey, -⟩ := (agrees.findings f.key s).1 hget
      rw [List.inj_on_of_nodup_map reg.keys hg hf hkey, hpublished] at hgpublished
      simp at hgpublished

/-- Publishing a finding adds its snapshot, under a key that is absent. -/
theorem Agrees.publish {d d' : Debt} {w : Holdings} {h : History} {e : Engine} {f f' : Finding}
    {r : Registry} {answer : Except Fault Unit} (agrees : Agrees ⟨d, w, h⟩)
    (reg : Registered ⟨d, w, h⟩) (replaces : w.registry.Replaces f f' r)
    (hunpublished : f.isPublished = false) (hpublished : f'.isPublished = true)
    (hkey : f'.key = f.key) :
    Agrees ⟨d', { w with registry := r }, .asked e (.publish f'.snapshot) answer :: h⟩ := by
  have absent := agrees.get?_key reg replaces.mem
  rw [hunpublished, if_neg (by simp)] at absent
  refine ⟨agrees.proper.cons ?_, fun key s => ?_⟩
  · intro action s update
    simp only [Entry.update?, Option.some.injEq, Prod.mk.injEq] at update
    obtain ⟨rfl, rfl⟩ := update
    rw [Finding.key_snapshot, hkey, absent]
    simp
  · rw [findings_of_update rfl, Finding.key_snapshot, if_pos rfl]
    obtain ⟨before, after, hlive, rfl⟩ := replaces
    have hothers := Registry.key_ne_of_nodup reg.keys hlive
    have hbefore := agrees.findings key s
    rw [Registry.publishes_iff hlive, hunpublished] at hbefore
    rw [Registry.publishes_iff rfl, hpublished, hkey]
    by_cases hk : key = f.key
    · subst hk
      have others : ¬∃ g ∈ before ++ after,
          g.isPublished = true ∧ g.key = f.key ∧ g.snapshot = s := by
        rintro ⟨g, hg, -, hgkey, -⟩
        exact hothers g hg hgkey
      rw [if_pos rfl, or_iff_right others, Option.some_inj]
      simp
    · rw [if_neg hk]
      simpa [Ne.symm hk] using hbefore

/-- Withdrawing a finding takes its snapshot away, which is there. -/
theorem Agrees.withdraw {d d' : Debt} {w : Holdings} {h : History} {e : Engine} {f f' : Finding}
    {r : Registry} {answer : Except Fault Unit} (agrees : Agrees ⟨d, w, h⟩)
    (reg : Registered ⟨d, w, h⟩) (replaces : w.registry.Replaces f f' r)
    (hpublished : f.isPublished = true) (hunpublished : f'.isPublished = false) :
    Agrees ⟨d', { w with registry := r }, .asked e (.withdraw f.snapshot) answer :: h⟩ := by
  have present := agrees.get?_key reg replaces.mem
  rw [hpublished, if_pos rfl] at present
  refine ⟨agrees.proper.cons ?_, fun key s => ?_⟩
  · intro action s update
    simp only [Entry.update?, Option.some.injEq, Prod.mk.injEq] at update
    obtain ⟨rfl, rfl⟩ := update
    rw [Finding.key_snapshot, present]
    simp
  · rw [findings_of_update rfl, Finding.key_snapshot]
    obtain ⟨before, after, hlive, rfl⟩ := replaces
    have hothers := Registry.key_ne_of_nodup reg.keys hlive
    have hbefore := agrees.findings key s
    rw [Registry.publishes_iff hlive, hpublished] at hbefore
    rw [Registry.publishes_iff rfl, hunpublished]
    by_cases hk : key = f.key
    · subst hk
      simp only [if_true, reduceCtorEq, if_false, Bool.false_eq_true, false_and, or_false,
        false_iff]
      rintro ⟨g, hg, -, hgkey, -⟩
      exact hothers g hg hgkey
    · rw [if_neg hk]
      simpa [Ne.symm hk] using hbefore

/-- Requests that change nothing do not update the catalog. -/
theorem IsMinor.update? {request : Request} {answer : request.Answer}
    (minor : IsMinor request answer) (e : Engine) :
    (Entry.asked e request answer).update? = none := by
  cases request with
  | publish s => exact minor.elim
  | withdraw s => exact minor.elim
  | _ => rfl

/-- Every move keeps catalog and registry in agreement. -/
theorem Agrees.move {p q : Point} (move : Move p q) (reg : Registered p) (agrees : Agrees p) :
    Agrees q := by
  cases move with
  | noted at_e minor => exact agrees.same (.inr ⟨_, rfl, minor.update? _⟩) fun _ _ => .rfl
  | called at_e stale => exact agrees.same (.inr ⟨_, rfl, rfl⟩) fun _ _ => .rfl
  | accepted at_e next resolving pending replaces =>
      exact agrees.same (.inr ⟨_, rfl, rfl⟩) (replaces.publishes_iff rfl fun _ => ⟨rfl, rfl⟩)
  | @created w h service ifindex name new =>
      refine agrees.same (.inl rfl) fun key s => ?_
      simp [Registry.Publishes, Registry.create, or_and_right, exists_or]
  | begun at_e replaces =>
      exact agrees.same (.inr ⟨_, rfl, rfl⟩) (replaces.publishes_iff rfl fun _ => ⟨rfl, rfl⟩)
  | @revised w h f f' r revision replaces =>
      have hunpublished := reg.unpublished rfl replaces.mem
      have hstanding := revision.standing
      refine agrees.same (.inl rfl) (replaces.publishes_iff (by rw [hstanding]) ?_)
      simp [hunpublished]
  | left => exact agrees.same (.inl rfl) fun _ _ => .rfl
  | @published w h e f f' r idle form replaces at_e =>
      have hunpublished := reg.unpublished rfl replaces.mem
      subst form
      exact agrees.publish reg replaces hunpublished rfl rfl
  | uncounted counted replaces =>
      exact agrees.same (.inl rfl) (replaces.publishes_iff rfl fun _ => ⟨rfl, rfl⟩)
  | withdrawn at_e published replaces => exact agrees.withdraw reg replaces published rfl
  | @removed w h f f' r unpublished form drops =>
      obtain ⟨before, after, hlive, rfl⟩ := drops
      refine agrees.same (.inl rfl) fun key s => ?_
      rw [Registry.publishes_iff hlive]
      simp [Registry.Publishes, unpublished]
  | countedOff dec => exact agrees.same (.inl rfl) fun _ _ => .rfl
  | signalled at_e => exact agrees.same (.inr ⟨_, rfl, rfl⟩) fun _ _ => .rfl
  | cancelled at_e => exact agrees.same (.inr ⟨_, rfl, rfl⟩) fun _ _ => .rfl
  | phaseEnded initial browsing => exact agrees.same (.inl rfl) fun _ _ => .rfl
  | phasesEnded browsers live => exact agrees.same (.inl rfl) fun _ _ => .rfl
  | opened at_e client new => exact agrees.same (.inr ⟨_, rfl, rfl⟩) fun _ _ => .rfl
  | closed current at_e => exact agrees.same (.inr ⟨_, rfl, rfl⟩) fun _ _ => .rfl
  | clientStarted at_e down => exact agrees.same (.inr ⟨_, rfl, rfl⟩) fun _ _ => .rfl
  | clientStopped up browsers at_e => exact agrees.same (.inr ⟨_, rfl, rfl⟩) fun _ _ => .rfl
  | forgotten live => exact agrees.same (.inl rfl) fun _ _ => .rfl

/-! ## Agreement at every request -/

/-- Whether catalog and registry have agreed whenever something was asked for, but that a finding
be published: its registry was ahead of the catalog then. -/
def AgreesThroughout (h : History) : Prop :=
  ∀ e request answer before, .asked e request answer :: before <:+ h →
    (∀ s, request ≠ .publish s) → ∀ key s,
      (catalogAfter before).findings.get? key = some s ↔ e.registry.Publishes key s

/-- Agreement at every request goes on with a request at which there is agreement. -/
theorem AgreesThroughout.asked {d : Debt} {w : Holdings} {h : History} {e : Engine}
    {request : Request} {answer : request.Answer} (throughout : AgreesThroughout h)
    (agrees : Agrees ⟨d, w, h⟩) (hregistry : e.holdings.registry = w.registry) :
    AgreesThroughout (.asked e request answer :: h) := by
  intro e' request' answer' before hsuffix other
  rcases List.suffix_cons_iff.1 hsuffix with heq | hsuffix
  · obtain ⟨hentry, rfl⟩ := List.cons.inj heq
    simp only [Entry.asked.injEq] at hentry
    obtain ⟨rfl, -⟩ := hentry
    have findings := agrees.findings
    rw [← hregistry] at findings
    exact findings
  · exact throughout e' request' answer' before hsuffix other

theorem AgreesThroughout.called {h : History} {e : Engine} {call : Call}
    (throughout : AgreesThroughout h) : AgreesThroughout (.called e call :: h) := by
  intro e' request answer before hsuffix
  rcases List.suffix_cons_iff.1 hsuffix with heq | hsuffix
  · cases heq
  · exact throughout e' request answer before hsuffix

theorem AgreesThroughout.publish {h : History} {e : Engine} {s : Snapshot}
    {answer : Except Fault Unit} (throughout : AgreesThroughout h) :
    AgreesThroughout (.asked e (.publish s) answer :: h) := by
  intro e' request answer' before hsuffix other
  rcases List.suffix_cons_iff.1 hsuffix with heq | hsuffix
  · obtain ⟨hentry, -⟩ := List.cons.inj heq
    simp only [Entry.asked.injEq] at hentry
    exact absurd hentry.2.1 (other s)
  · exact throughout e' request answer' before hsuffix other

/-- Every move keeps catalog and registry in agreement at every request. -/
theorem AgreesThroughout.move {p q : Point} (move : Move p q) (agrees : Agrees p)
    (throughout : AgreesThroughout p.history) : AgreesThroughout q.history := by
  cases move with
  | noted at_e minor => exact throughout.asked agrees (by rw [at_e])
  | called at_e stale => exact throughout.called
  | accepted at_e next resolving pending replaces => exact throughout.called
  | begun at_e replaces => exact throughout.asked agrees (by rw [at_e])
  | published idle form replaces at_e => exact throughout.publish
  | withdrawn at_e published replaces => exact throughout.asked agrees (by rw [at_e])
  | signalled at_e => exact throughout.asked agrees (by rw [at_e])
  | cancelled at_e => exact throughout.asked agrees (by rw [at_e])
  | opened at_e client new => exact throughout.asked agrees (by rw [at_e])
  | closed current at_e => exact throughout.asked agrees (by rw [at_e])
  | clientStarted at_e down => exact throughout.asked agrees (by rw [at_e])
  | clientStopped up browsers at_e => exact throughout.asked agrees (by rw [at_e])
  | _ => exact throughout

/-- In a run, catalog and registry agree between two calls, and have agreed at every request. -/
theorem Reached.agrees {m : Moment} (reached : Reached m) (admissible : Admissible m.history) :
    Agrees ⟨{}, m.engine.holdings, m.history⟩ ∧ AgreesThroughout m.history := by
  have all := reached.keeps
    (I := fun p => Registered p ∧ Agrees p ∧ AgreesThroughout p.history) ?_ ?_ admissible
  · exact all.2
  · refine ⟨Sound.initial.registered, ⟨.nil, fun key s => ?_⟩, ?_⟩
    · simp [catalogAfter, Catalog.empty, Registry.Publishes, Holdings.initial, Registry.empty]
    · intro e request answer before hsuffix
      simp at hsuffix
  · rintro p q move ⟨reg, agrees, throughout⟩
    exact ⟨reg.move move, agrees.move move reg, throughout.move move agrees⟩

/-! ## Agreement at every moment -/

/-- At every moment of a run the catalog holds the current snapshots of the published findings
under their keys; nothing has been published over what was there or withdrawn that was not; and
each key has been published and withdrawn in turns. -/
theorem catalog_agrees {m : Moment} (reached : Reached m) (admissible : Admissible m.history) :
    (∀ key s, (catalogAfter m.history).findings.get? key = some s ↔
      ∃ f ∈ m.engine.registry.live, f.isPublished = true ∧ f.key = key ∧ f.snapshot = s) ∧
    (∀ e s answer before, .asked e (.publish s) answer :: before <:+ m.history →
      (catalogAfter before).findings.get? s.key = none) ∧
    (∀ e s answer before, .asked e (.withdraw s) answer :: before <:+ m.history →
      ((catalogAfter before).findings.get? s.key).isSome = true) ∧
    ∀ key, InTurns .publish .withdraw (updatesOf key m.history) := by
  have both : Registered ⟨{}, m.engine.holdings, m.history⟩ ∧
      Agrees ⟨{}, m.engine.holdings, m.history⟩ := by
    refine reached.keeps (I := fun p => Registered p ∧ Agrees p) ?_ ?_ admissible
    · refine ⟨Sound.initial.registered, .nil, fun key s => ?_⟩
      simp [catalogAfter, Catalog.empty, Registry.Publishes, Holdings.initial, Registry.empty]
    · rintro p q move ⟨reg, agrees⟩
      exact ⟨reg.move move, agrees.move move reg⟩
  obtain ⟨-, proper, findings⟩ := both
  refine ⟨findings, ?_, ?_, proper.inTurns⟩
  · intro e s answer before hsuffix
    have turn := proper _ before .publish s hsuffix rfl
    simpa using turn
  · intro e s answer before hsuffix
    exact (proper _ before .withdraw s hsuffix rfl).1 rfl

/-- At the office the catalog holds the two scanners that have been found. -/
theorem office_catalog :
    (catalogAfter office.history).findings.keys =
      [⟨.scanner, 2, "reception"⟩, ⟨.uscan, 2, "library"⟩] ∧
    (∀ key s, (catalogAfter office.history).findings.get? key = some s ↔
      ∃ f ∈ office.engine.registry.live, f.isPublished = true ∧ f.key = key ∧ f.snapshot = s) ∧
    (∀ e s answer before, .asked e (.publish s) answer :: before <:+ office.history →
      (catalogAfter before).findings.get? s.key = none) ∧
    (∀ e s answer before, .asked e (.withdraw s) answer :: before <:+ office.history →
      ((catalogAfter before).findings.get? s.key).isSome = true) ∧
    ∀ key, InTurns .publish .withdraw (updatesOf key office.history) :=
  ⟨by decide +kernel, catalog_agrees office_reached office_admissible⟩

end Engine

end ScannerDiscovery
