import ScannerDiscovery.Proofs.Catalog.Listeners

/-!
# The order of a catalog through its history

The past of a catalog is the list of commands that it has carried out, the latest first.  What
stands under a key, and where, can be told from the past: it is the snapshot that was last
published under the key, and the keys stand in the order in which their stays began.  A stay begins
with a publication that finds the key absent, goes on when the key is published again, and ends
with its withdrawal.

Main definitions:

- `latest?` : the snapshot that was published last under a key.
- `begun?` : when the stay of a key began.

Main results:

- `Audience.catalog_record` : a catalog depends on nothing but the commands.
- `get?_ofPast`, `keys_ofPast` : what stands under a key, and the order of the keys.
-/

namespace ScannerDiscovery

/-- The snapshot that was last published under a key, unless it has been withdrawn since. -/
def latest? (key : FindingKey) : List Command → Option Snapshot
  | [] => none
  | .publish s :: past => if s.key = key then some s else latest? key past
  | .withdraw s :: past => if s.key = key then none else latest? key past
  | .addListener _ :: past => latest? key past

/-- When the stay of a key began: the number of commands before the publication that began it. -/
def begun? (key : FindingKey) : List Command → Option Nat
  | [] => none
  | .publish s :: past =>
    if s.key = key then some ((begun? key past).getD past.length) else begun? key past
  | .withdraw s :: past => if s.key = key then none else begun? key past
  | .addListener _ :: past => begun? key past

/-- Whether the stay of one key began before that of another. -/
def CameBefore (past : List Command) (key other : FindingKey) : Prop :=
  ∃ m n, begun? key past = some m ∧ begun? other past = some n ∧ m < n

/-- The catalog that has a given past. -/
def Catalog.ofPast (past : List Command) : Catalog :=
  past.foldr (fun command c => (command.effect c).1) .empty

/-- What comes of a catalog depends on nothing but the commands. -/
theorem Audience.catalog_record {ω : Type} (audience : Audience ω) (world : ω)
    (commands : List Command) :
    (audience.record world commands).catalog = .ofPast commands.reverse := by
  have each (commands : List Command) (r : Record ω) :
      (commands.foldl audience.perform r).catalog =
        commands.foldl (fun c command => (command.effect c).1) r.catalog := by
    induction commands generalizing r with
    | nil => rfl
    | cons command rest ih =>
        obtain ⟨world', h⟩ := audience.perform_eq r command
        rw [List.foldl_cons, List.foldl_cons, ih, h]
  rw [record, each, Catalog.ofPast, List.foldr_reverse]

namespace Catalog

theorem ofPast_cons (command : Command) (past : List Command) :
    ofPast (command :: past) = (command.effect (ofPast past)).1 := rfl

/-- Under a key stands what was last published under it. -/
theorem get?_ofPast (past : List Command) (key : FindingKey) :
    (ofPast past).findings.get? key = latest? key past := by
  induction past with
  | nil => rfl
  | cons command past ih =>
      rw [ofPast_cons]
      cases command with
      | publish s =>
          rw [latest?, ← ih]
          simp only [Command.effect, findings_publish, OrderedMap.get?_insert, eq_comm]
      | withdraw s =>
          rw [latest?, ← ih]
          simp only [Command.effect, findings_withdraw, eq_comm]
      | addListener name => exact ih

/-- A key is absent if no stay of it has begun. -/
theorem begun?_eq_none_iff (past : List Command) (key : FindingKey) :
    begun? key past = none ↔ key ∉ (ofPast past).findings.keys := by
  rw [OrderedMap.notMem_keys_iff, get?_ofPast]
  induction past with
  | nil => simp [begun?, latest?]
  | cons command past ih =>
      cases command with
      | publish s => by_cases h : s.key = key <;> simp [begun?, latest?, h, ih]
      | withdraw s => by_cases h : s.key = key <;> simp [begun?, latest?, h, ih]
      | addListener name => exact ih

theorem begun?_lt {past : List Command} {key : FindingKey} {n : Nat}
    (h : begun? key past = some n) : n < past.length := by
  induction past generalizing n with
  | nil => cases h
  | cons command past ih =>
      have earlier {n : Nat} (h : begun? key past = some n) : n < (command :: past).length :=
        Nat.lt_succ_of_lt (ih h)
      cases command with
      | publish s =>
          rw [begun?] at h
          split at h
          · obtain rfl := Option.some.inj h
            cases hpast : begun? key past with
            | none => exact Nat.lt_succ_self _
            | some m => exact earlier hpast
          · exact earlier h
      | withdraw s =>
          rw [begun?, Option.ite_none_left_eq_some] at h
          exact earlier h.2
      | addListener name => exact earlier h

/-- A stay goes on when its key is published again. -/
theorem begun?_publish_of_mem {past : List Command} {key : FindingKey}
    (present : key ∈ (ofPast past).findings.keys) (s : Snapshot) :
    ∃ n, begun? key past = some n ∧ begun? key (.publish s :: past) = some n := by
  obtain ⟨n, hn⟩ := Option.ne_none_iff_exists'.1
    (mt (begun?_eq_none_iff past key).1 (not_not.2 present))
  exact ⟨n, hn, by simp [begun?, hn]⟩

/-- Keys whose stays go on keep their order. -/
theorem pairwise_cameBefore_cons {past : List Command} {command : Command} {keys : List FindingKey}
    (order : keys.Pairwise (CameBefore past))
    (same : ∀ key ∈ keys, begun? key (command :: past) = begun? key past) :
    keys.Pairwise (CameBefore (command :: past)) := by
  refine order.imp_of_mem fun {key other} hkey hother => ?_
  simp only [CameBefore, same key hkey, same other hother, imp_self]

/-- The keys stand in the order in which their stays began. -/
theorem keys_ofPast (past : List Command) :
    (ofPast past).findings.keys.Pairwise (CameBefore past) := by
  induction past with
  | nil => exact List.Pairwise.nil
  | cons command past ih =>
      rw [ofPast_cons, Command.effect_keys]
      cases command with
      | publish s =>
          have going := pairwise_cameBefore_cons ih fun key hkey => by
            obtain ⟨n, before, after⟩ := begun?_publish_of_mem hkey s
            exact after.trans before.symm
          rw [Command.keysAfter]
          split
          · exact going
          · rename_i absent
            refine List.pairwise_append.2 ⟨going, List.pairwise_singleton _ _, ?_⟩
            intro key hkey other hother
            obtain rfl := List.mem_singleton.1 hother
            obtain ⟨n, before, after⟩ := begun?_publish_of_mem hkey s
            refine ⟨n, past.length, after, ?_, begun?_lt before⟩
            simp [begun?, (begun?_eq_none_iff past s.key).2 absent]
      | withdraw s =>
          refine pairwise_cameBefore_cons (ih.sublist List.filter_sublist) fun key hkey => ?_
          have hne : key ≠ s.key := by simpa using (List.mem_filter.1 hkey).2
          simp [begun?, Ne.symm hne]
      | addListener name => exact pairwise_cameBefore_cons ih fun _ _ => rfl

end Catalog

end ScannerDiscovery
