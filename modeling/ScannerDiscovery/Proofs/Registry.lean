import Mathlib.Data.List.Nodup
import Mathlib.Data.List.Perm.Subperm
import ScannerDiscovery.Engine.Books

/-!
# Changes of the registry

While the numbers of its findings are distinct, the registry changes in place: a live finding is
replaced by another form of itself, or dropped among the removed ones.

Main definitions:

- `Registry.WellNumbered` : the numbers of all findings are distinct and below the next one.
- `Registry.Replaces`, `Registry.Drops` : the two changes of a live finding.

Main results:

- `modify_replaces`, `remove_drops` : what the operations do to a live finding.
- `WellNumbered.perm_range` : the numbers of all findings are those that have been given out.
- `getOrCreate_of_some`, `getOrCreate_of_none` : what is done for an instance that has a live finding,
  or none.
-/

namespace ScannerDiscovery

namespace Registry

/-! ## Numbers -/

/-- Whether the numbers of all findings are distinct and below the next one. -/
structure WellNumbered (r : Registry) : Prop where
  nodup : ((r.live ++ r.removed).map (·.number)).Nodup
  lt_made : ∀ f ∈ r.live ++ r.removed, f.number < r.made

theorem wellNumbered_empty : empty.WellNumbered :=
  ⟨List.nodup_nil, by simp [empty]⟩

/-- A number leads to a finding that has it. -/
theorem mem_of_get? {r : Registry} {number : Nat} {f : Finding} (h : r.get? number = some f) :
    f ∈ r.live ++ r.removed ∧ f.number = number := by
  have hmem := List.mem_of_find?_eq_some h
  have hnumber := List.find?_some h
  exact ⟨hmem, by simpa using hnumber⟩

/-- Findings with the same number are the same. -/
theorem WellNumbered.eq_of_number {r : Registry} (wn : r.WellNumbered) {f g : Finding}
    (hf : f ∈ r.live ++ r.removed) (hg : g ∈ r.live ++ r.removed)
    (h : f.number = g.number) : f = g :=
  List.inj_on_of_nodup_map wn.nodup hf hg h

/-- The number of a finding leads to it. -/
theorem WellNumbered.get?_number {r : Registry} (wn : r.WellNumbered) {f : Finding}
    (hf : f ∈ r.live ++ r.removed) : r.get? f.number = some f := by
  cases hg : r.get? f.number with
  | none =>
      have hne := List.find?_eq_none.1 hg f hf
      simp at hne
  | some g =>
      obtain ⟨hmem, hnumber⟩ := mem_of_get? hg
      rw [wn.eq_of_number hmem hf hnumber]

/-- The numbers of all findings are those that have been given out. -/
theorem WellNumbered.perm_range {r : Registry} (numbered : r.WellNumbered) :
    ((r.live ++ r.removed).map (·.number)).Perm (List.range r.made) := by
  refine (numbered.nodup.subperm ?_).perm_of_length_le ?_
  · intro n hn
    obtain ⟨f, hf, rfl⟩ := List.mem_map.1 hn
    exact List.mem_range.2 (numbered.lt_made f hf)
  · simp [made]

/-! ## Changes in place -/

/-- Whether a registry comes from another by one live finding being replaced in its place. -/
def Replaces (r : Registry) (f f' : Finding) (r' : Registry) : Prop :=
  ∃ before after, r.live = before ++ f :: after ∧ r' = ⟨before ++ f' :: after, r.removed⟩

/-- Whether a registry comes from another by one live finding being removed. -/
def Drops (r : Registry) (f f' : Finding) (r' : Registry) : Prop :=
  ∃ before after, r.live = before ++ f :: after ∧ r' = ⟨before ++ after, f' :: r.removed⟩

theorem Replaces.mem {r r' : Registry} {f f' : Finding} (h : r.Replaces f f' r') : f ∈ r.live := by
  obtain ⟨before, after, hlive, -⟩ := h
  simp [hlive]

theorem Replaces.mem' {r r' : Registry} {f f' : Finding} (h : r.Replaces f f' r') :
    f' ∈ r'.live := by
  obtain ⟨before, after, -, rfl⟩ := h
  simp

theorem Drops.mem {r r' : Registry} {f f' : Finding} (h : r.Drops f f' r') : f ∈ r.live := by
  obtain ⟨before, after, hlive, -⟩ := h
  simp [hlive]

theorem Replaces.removed {r r' : Registry} {f f' : Finding} (h : r.Replaces f f' r') :
    r'.removed = r.removed := by
  obtain ⟨before, after, -, rfl⟩ := h
  rfl

/-- A finding that is removed has still been made. -/
theorem Drops.made {r r' : Registry} {f f' : Finding} (h : r.Drops f f' r') : r'.made = r.made := by
  obtain ⟨before, after, hlive, rfl⟩ := h
  simp only [Registry.made, hlive, List.length_append, List.length_cons]
  omega

/-- A finding replaced in its place leaves the order of the numbers. -/
theorem Replaces.map_number {r r' : Registry} {f f' : Finding} (h : r.Replaces f f' r')
    (hnumber : f'.number = f.number) : r'.live.map (·.number) = r.live.map (·.number) := by
  obtain ⟨before, after, hlive, rfl⟩ := h
  simp [hlive, hnumber]

/-- A change of the finding with some number leaves findings with other numbers alone. -/
theorem map_update_eq_self {number : Nat} {findings : List Finding}
    (h : ∀ f ∈ findings, f.number ≠ number) (change : Finding → Finding) :
    findings.map (fun f => if f.number = number then change f else f) = findings := by
  conv_rhs => rw [← List.map_id findings]
  apply List.map_congr_left
  intro f hf
  simp [h f hf]

/-- Around a live finding there is no other with its number. -/
theorem WellNumbered.ne_number {r : Registry} (wn : r.WellNumbered) {f : Finding}
    {before after : List Finding} (hlive : r.live = before ++ f :: after) :
    (∀ g ∈ before, g.number ≠ f.number) ∧ (∀ g ∈ after, g.number ≠ f.number) ∧
      ∀ g ∈ r.removed, g.number ≠ f.number := by
  have hnodup := wn.nodup
  rw [hlive, List.append_assoc, List.cons_append, List.map_append, List.map_cons,
    List.nodup_middle, List.nodup_cons, ← List.map_append] at hnodup
  have hne : ∀ g ∈ before ++ (after ++ r.removed), g.number ≠ f.number :=
    fun g hg heq => hnodup.1 (heq ▸ List.mem_map_of_mem hg)
  refine ⟨fun g hg => hne g ?_, fun g hg => hne g ?_, fun g hg => hne g ?_⟩ <;> simp [hg]

/-- No removed finding has the number of a live one. -/
theorem WellNumbered.removed_ne {r : Registry} (wn : r.WellNumbered) {f g : Finding}
    (live : f ∈ r.live) (removed : g ∈ r.removed) : g.number ≠ f.number := by
  obtain ⟨before, after, hlive⟩ := List.append_of_mem live
  exact (wn.ne_number hlive).2.2 g removed

/-- After a replacement there are the new form and the other findings. -/
theorem Replaces.mem_cases {r r' : Registry} {f f' g : Finding} (h : r.Replaces f f' r')
    (wn : r.WellNumbered) (hg : g ∈ r'.live) :
    g = f' ∨ (g ∈ r.live ∧ g.number ≠ f.number) := by
  obtain ⟨before, after, hlive, rfl⟩ := h
  obtain ⟨hbefore, hafter, -⟩ := wn.ne_number hlive
  rcases List.mem_append.1 hg with hg | hg
  · exact .inr ⟨by simp [hlive, hg], hbefore g hg⟩
  · rcases List.mem_cons.1 hg with rfl | hg
    · exact .inl rfl
    · exact .inr ⟨by simp [hlive, hg], hafter g hg⟩

/-- After a removal there are the other findings. -/
theorem Drops.mem_live {r r' : Registry} {f f' g : Finding} (h : r.Drops f f' r')
    (wn : r.WellNumbered) (hg : g ∈ r'.live) : g ∈ r.live ∧ g.number ≠ f.number := by
  obtain ⟨before, after, hlive, rfl⟩ := h
  obtain ⟨hbefore, hafter, -⟩ := wn.ne_number hlive
  rcases List.mem_append.1 hg with hg | hg
  · exact ⟨by simp [hlive, hg], hbefore g hg⟩
  · exact ⟨by simp [hlive, hg], hafter g hg⟩

/-- Where a live finding is, changing it changes nothing else. -/
theorem WellNumbered.modify_split {r : Registry} (wn : r.WellNumbered) {f : Finding}
    {before after : List Finding} (hlive : r.live = before ++ f :: after)
    (change : Finding → Finding) :
    r.modify f.number change = ⟨before ++ change f :: after, r.removed⟩ := by
  obtain ⟨hbefore, hafter, hremoved⟩ := wn.ne_number hlive
  simp only [modify, hlive, List.map_append, List.map_cons, if_true]
  rw [map_update_eq_self hbefore, map_update_eq_self hafter, map_update_eq_self hremoved]

/-- Where a live finding is, the live ones with other numbers are those around it. -/
theorem WellNumbered.filter_split {r : Registry} (wn : r.WellNumbered) {f : Finding}
    {before after : List Finding} (hlive : r.live = before ++ f :: after) :
    r.live.filter (·.number ≠ f.number) = before ++ after := by
  obtain ⟨hbefore, hafter, -⟩ := wn.ne_number hlive
  rw [hlive, List.filter_append, List.filter_cons_of_neg (by simp),
    List.filter_eq_self.2 (by simpa using hbefore), List.filter_eq_self.2 (by simpa using hafter)]

/-- Where a live finding is, removing it takes it from there. -/
theorem WellNumbered.remove_split {r : Registry} (wn : r.WellNumbered) {f : Finding}
    {before after : List Finding} (hlive : r.live = before ++ f :: after) :
    r.remove f.number = some
      (⟨before ++ after, { f with state := .deleted, tracker := .empty } :: r.removed⟩, f) := by
  have hfind : r.live.find? (fun g => g.number == f.number) = some f := by
    rw [hlive, List.find?_append, List.find?_eq_none.2 (by simpa using (wn.ne_number hlive).1)]
    simp
  rw [remove, hfind, Option.map_some, wn.filter_split hlive]

/-- Changing the finding with the number of a live one replaces that one. -/
theorem modify_replaces {r : Registry} (wn : r.WellNumbered) {f : Finding} (hf : f ∈ r.live)
    (change : Finding → Finding) : r.Replaces f (change f) (r.modify f.number change) := by
  obtain ⟨before, after, hlive⟩ := List.append_of_mem hf
  exact ⟨before, after, hlive, wn.modify_split hlive change⟩

/-- A live finding is replaced by itself. -/
theorem replaces_self {r : Registry} {f : Finding} (hf : f ∈ r.live) : r.Replaces f f r := by
  obtain ⟨before, after, hlive⟩ := List.append_of_mem hf
  exact ⟨before, after, hlive, by rw [← hlive]⟩

/-- A live finding can be removed.  It is then in its last stage and waits for nothing. -/
theorem remove_drops {r : Registry} (wn : r.WellNumbered) {f : Finding} (hf : f ∈ r.live) :
    ∃ r', r.remove f.number = some (r', f) ∧
      r.Drops f { f with state := .deleted, tracker := .empty } r' := by
  obtain ⟨before, after, hlive⟩ := List.append_of_mem hf
  exact ⟨_, wn.remove_split hlive, before, after, hlive, rfl⟩

/-- What is left when a finding is removed. -/
theorem Drops.eq {r r' : Registry} (wn : r.WellNumbered) {f f' : Finding} (h : r.Drops f f' r') :
    r' = ⟨r.live.filter (·.number ≠ f.number), f' :: r.removed⟩ := by
  obtain ⟨before, after, hlive, rfl⟩ := h
  rw [wn.filter_split hlive]

/-- The number of a removed finding is the one that is taken away. -/
theorem Drops.map_number {r r' : Registry} (wn : r.WellNumbered) {f f' : Finding}
    (h : r.Drops f f' r') :
    r'.live.map (·.number) = (r.live.map (·.number)).erase f.number := by
  obtain ⟨before, after, hlive, rfl⟩ := h
  have hbefore : f.number ∉ before.map (·.number) := by
    intro hmem
    obtain ⟨g, hg, hnumber⟩ := List.mem_map.1 hmem
    exact (wn.ne_number hlive).1 g hg hnumber
  rw [hlive, List.map_append, List.map_append, List.map_cons, List.erase_append_right _ hbefore,
    List.erase_cons_head]

/-- Changing a finding that has just been removed. -/
theorem Drops.modify {r r' : Registry} (wn : r.WellNumbered) {f f' : Finding}
    (h : r.Drops f f' r') (hnumber : f'.number = f.number) (change : Finding → Finding) :
    r.Drops f (change f') (r'.modify f.number change) := by
  obtain ⟨before, after, hlive, rfl⟩ := h
  obtain ⟨hbefore, hafter, hremoved⟩ := wn.ne_number hlive
  refine ⟨before, after, hlive, ?_⟩
  simp only [Registry.modify, List.map_append, List.map_cons, hnumber, if_true]
  rw [map_update_eq_self hbefore, map_update_eq_self hafter, map_update_eq_self hremoved]

/-! ## Numbers after a change -/

theorem WellNumbered.replaces {r r' : Registry} (wn : r.WellNumbered) {f f' : Finding}
    (h : r.Replaces f f' r') (hnumber : f'.number = f.number) : r'.WellNumbered := by
  obtain ⟨before, after, hlive, rfl⟩ := h
  have hlt := wn.lt_made
  constructor
  · have hnodup := wn.nodup
    rw [hlive] at hnodup
    simpa [hnumber] using hnodup
  · intro g hg
    have hmade : (⟨before ++ f' :: after, r.removed⟩ : Registry).made = r.made := by
      simp [made, hlive]
    rw [hmade]
    rw [hlive] at hlt
    by_cases hgf : g = f'
    · rw [hgf, hnumber]
      exact hlt f (by simp)
    · simp only [List.append_assoc, List.cons_append, List.mem_append, List.mem_cons, hgf,
        false_or] at hg
      exact hlt g (by simp only [List.mem_append, List.mem_cons]; tauto)

/-- A finding that is replaced and then removed is removed. -/
theorem Replaces.drops {r r' r'' : Registry} {f f' f'' : Finding} (wn : r.WellNumbered)
    (replaces : r.Replaces f f' r') (hnumber : f'.number = f.number)
    (drops : r'.Drops f' f'' r'') : r.Drops f f'' r'' := by
  have wn' := wn.replaces replaces hnumber
  obtain ⟨before, after, hlive, rfl⟩ := replaces
  exact ⟨before, after, hlive, by rw [drops.eq wn', wn'.filter_split rfl]⟩

theorem WellNumbered.drops {r r' : Registry} (wn : r.WellNumbered) {f f' : Finding}
    (h : r.Drops f f' r') (hnumber : f'.number = f.number) : r'.WellNumbered := by
  have hmade := h.made
  obtain ⟨before, after, hlive, rfl⟩ := h
  have hlt := wn.lt_made
  constructor
  · have hnodup := wn.nodup
    rw [hlive] at hnodup
    refine (List.Perm.nodup_iff ?_).1 hnodup
    simp only [List.append_assoc, List.cons_append, List.map_append, List.map_cons, hnumber]
    refine (@List.perm_middle _ _ (before.map _) _).trans ?_
    rw [← List.append_assoc, ← List.append_assoc]
    exact (@List.perm_middle _ _ (before.map _ ++ after.map _) _).symm
  · intro g hg
    rw [hmade]
    rw [hlive] at hlt
    by_cases hgf : g = f'
    · rw [hgf, hnumber]
      exact hlt f (by simp)
    · simp only [List.mem_append, List.mem_cons, hgf, false_or] at hg
      exact hlt g (by simp only [List.mem_append, List.mem_cons]; tauto)

/-- Only the numbers matter. -/
theorem WellNumbered.of_numbers {r r' : Registry} (wn : r.WellNumbered)
    (same : (r'.live ++ r'.removed).map (·.number) = (r.live ++ r.removed).map (·.number)) :
    r'.WellNumbered := by
  have hmade : r'.made = r.made := by
    have := congrArg List.length same
    simpa [made] using this
  refine ⟨same ▸ wn.nodup, fun f hf => ?_⟩
  have hnumber : f.number ∈ (r.live ++ r.removed).map (·.number) :=
    same ▸ List.mem_map_of_mem hf
  obtain ⟨g, hg, heq⟩ := List.mem_map.1 hnumber
  rw [hmade, ← heq]
  exact wn.lt_made g hg

/-- A finding that is created is one more. -/
theorem made_create (r : Registry) (service : Service) (ifindex : Int) (name : String)
    (counted : Bool) : (r.create service ifindex name counted).1.made = r.made + 1 := by
  simp only [made, Registry.create, List.length_append, List.length_singleton]
  omega

theorem WellNumbered.create {r : Registry} (wn : r.WellNumbered) (service : Service)
    (ifindex : Int) (name : String) (counted : Bool) :
    (r.create service ifindex name counted).1.WellNumbered := by
  constructor
  · have hnew : r.made ∉ (r.live ++ r.removed).map (·.number) := by
      intro hmem
      obtain ⟨f, hf, hnumber⟩ := List.mem_map.1 hmem
      exact Nat.lt_irrefl _ (hnumber ▸ wn.lt_made f hf)
    have hnodup := List.nodup_cons.2 ⟨hnew, wn.nodup⟩
    simp only [Registry.create, List.append_assoc, List.cons_append, List.nil_append,
      List.map_append, List.map_cons, List.nodup_middle] at hnodup ⊢
    exact hnodup
  · intro g hg
    rw [made_create]
    simp only [Registry.create, List.mem_append, List.mem_singleton] at hg
    rcases hg with (hg | rfl) | hg
    · exact Nat.lt_succ_of_lt (wn.lt_made g (List.mem_append_left _ hg))
    · exact Nat.lt_succ_self _
    · exact Nat.lt_succ_of_lt (wn.lt_made g (List.mem_append_right _ hg))

/-! ## Keys -/

/-- Keys stay distinct when a finding is created for an instance that has none. -/
theorem nodup_keys_create {r : Registry} (h : (r.live.map (·.key)).Nodup) {service : Service}
    {ifindex : Int} {name : String} (new : r.find? (.of service ifindex name) = none)
    (counted : Bool) :
    ((r.create service ifindex name counted).1.live.map (·.key)).Nodup := by
  have hnew : ∀ f ∈ r.live, f.key ≠ .of service ifindex name := by
    intro f hf hkey
    have := List.find?_eq_none.1 new f hf
    simp [hkey] at this
  rw [Registry.create, List.map_append, List.nodup_append]
  refine ⟨h, List.nodup_singleton _, ?_⟩
  intro a ha b hb hab
  obtain ⟨f, hf, rfl⟩ := List.mem_map.1 ha
  rw [List.map_singleton, List.mem_singleton] at hb
  exact hnew f hf (hab.trans hb)

end Registry

namespace Books

/-! ## Findings of instances -/

variable {books : Books} {service : Service} {ifindex : Int} {name : String}

/-- What is done for an instance that has a live finding: nothing. -/
theorem getOrCreate_of_some {f : Finding}
    (known : books.registry.find? (.of service ifindex name) = some f) :
    books.getOrCreate service ifindex name = (books, f, false) := by
  unfold getOrCreate
  rw [known]

/-- What is done for an instance that has no live finding. -/
theorem getOrCreate_of_none (new : books.registry.find? (.of service ifindex name) = none) :
    books.getOrCreate service ifindex name =
      (⟨if books.gate.inInitialScan service then books.gate.inc service.method else books.gate,
        (books.registry.create service ifindex name (books.gate.inInitialScan service)).1⟩,
      (books.registry.create service ifindex name (books.gate.inInitialScan service)).2, true) := by
  unfold getOrCreate
  rw [new]

end Books

end ScannerDiscovery
