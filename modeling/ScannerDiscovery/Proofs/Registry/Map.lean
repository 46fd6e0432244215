import ScannerDiscovery.Proofs.Registry.Keeper

/-!
# The registry is a map

However findings are obtained, looked up and deleted, and whatever happens to them meanwhile, the
registry is a map from keys to the findings that were created for them and have not been deleted
since, in order of creation.  Each finding that leaves it is withdrawn if it is published, while it
is still there, and its resolves are released.

Main definitions:

- `Deed`, `Keeper.act`, `Keeper.run` : what is done with findings.
- `Roll` : the map from keys to numbers that the registry stands for.
- `Departure`, `Keeper.departures` : the findings that leave the registry.
- `Keeper.IsMap`, `Keeper.Dismissed` : what holds after any deeds.

Main results:

- `Stands.act`, `Stands.run` : every deed keeps what connects a keeper with a roll.
- `registry_is_a_map` : the registry is the map that the roll says, and every finding that leaves is
  withdrawn and released.
-/

namespace ScannerDiscovery.Keeper

/-! ## Deeds -/

/-- What is done with findings: one is obtained for an instance, one or all are deleted, and
something else happens to the books meanwhile. -/
inductive Deed
  | obtain (service : Service) (ifindex : Int) (name : String)
  | delete (number : Nat)
  | deleteAll
  | meanwhile (books : Books)

/-- A keeper of an empty registry. -/
def start (gate : Gate) : Keeper where
  books := ⟨gate, .empty⟩

/-- What a deed leads to. -/
def act (k : Keeper) : Deed → Except Fault Unit × Keeper
  | .obtain service ifindex name =>
    (.ok (), { k with books := (k.books.getOrCreate service ifindex name).1 })
  | .delete number => k.perform (Books.delete release number)
  | .deleteAll => k.perform (Books.deleteAll release)
  | .meanwhile books => (.ok (), { k with books })

/-- What deeds lead to, one after another. -/
def run (k : Keeper) (deeds : List Deed) : Keeper :=
  deeds.foldl (fun k deed => (k.act deed).2) k

/-- Whether a deed may be done: not everything may happen meanwhile. -/
def Allows (k : Keeper) : Deed → Prop
  | .meanwhile books => Meanwhile k.books books
  | _ => True

/-- Whether deeds may be done one after another. -/
def AllowsAll (k : Keeper) : List Deed → Prop
  | [] => True
  | deed :: rest => k.Allows deed ∧ (k.act deed).2.AllowsAll rest

/-! ## The roll -/

/-- A map from keys to numbers, in order of creation, and the number of findings ever made. -/
structure Roll where
  entries : List (FindingKey × Nat)
  made : Nat

/-- The roll after a deed. -/
def Roll.act (r : Roll) : Deed → Roll
  | .obtain service ifindex name =>
    match r.entries.lookup (.of service ifindex name) with
    | some _ => r
    | none => ⟨r.entries ++ [(.of service ifindex name, r.made)], r.made + 1⟩
  | .delete number => { r with entries := r.entries.filter (·.2 ≠ number) }
  | .deleteAll => { r with entries := [] }
  | .meanwhile _ => r

/-- The roll after deeds from an empty registry on. -/
def Roll.of (deeds : List Deed) : Roll :=
  deeds.foldl Roll.act ⟨[], 0⟩

/-! ## Departures -/

/-- A finding that leaves the registry, as it is then, and the numbers of the findings that are live
at that time. -/
structure Departure where
  finding : Finding
  live : List Nat

/-- What is heard of a departure: the finding is withdrawn if it is published, and its resolves are
released. -/
def Departure.farewell (d : Departure) : List Callback :=
  (if d.finding.isPublished then [.withdrawn d.finding.snapshot d.live] else []) ++
    [.released d.finding.number d.finding.tracker.pending]

/-- The departures of findings that leave one after another. -/
def leaving : List Finding → List Departure
  | [] => []
  | f :: rest => ⟨f, (f :: rest).map (·.number)⟩ :: leaving rest

/-- The departures by a deed. -/
def departing (k : Keeper) : Deed → List Departure
  | .delete number => ((k.registry.live.find? (·.number == number)).map (⟨·, k.live⟩)).toList
  | .deleteAll => leaving k.registry.live
  | .obtain .. | .meanwhile _ => []

/-- The departures by deeds. -/
def departures (k : Keeper) : List Deed → List Departure
  | [] => []
  | deed :: rest => k.departing deed ++ (k.act deed).2.departures rest

/-- Whether a callback is about a finding. -/
def Callback.isParting : Callback → Bool
  | .done _ => false
  | _ => true

/-- What has been heard of findings. -/
def partings (k : Keeper) : List Callback :=
  k.heard.filter Callback.isParting

/-- What is heard when a live finding leaves. -/
theorem partings_without (k : Keeper) (f : Finding) :
    (k.without f).partings = k.partings ++ Departure.farewell ⟨f, k.live⟩ := by
  have own : (k.withdrawal f).filter Callback.isParting = k.withdrawal f := by
    unfold withdrawal
    split <;> rfl
  have others : ((k.gate.fired f).map Callback.done).filter Callback.isParting = [] := by
    simp [Callback.isParting]
  simp only [partings, without, List.filter_append, own, others, List.append_nil]
  rfl

/-! ## What connects them -/

variable {k : Keeper} {roll : Roll} {gone : List Departure} {f : Finding}

/-- Whether a keeper stands where a roll and the departures so far say. -/
structure Stands (k : Keeper) (roll : Roll) (gone : List Departure) : Prop where
  sound : k.Sound
  entries : k.registry.live.map (fun f => (f.key, f.number)) = roll.entries
  made : k.registry.made = roll.made
  heard : k.partings = gone.flatMap Departure.farewell
  removed : k.registry.removed.map (·.number) = (gone.map (·.finding.number)).reverse
  registered : ∀ d ∈ gone, d.finding.number ∈ d.live

theorem stands_start (gate : Gate) : Stands (start gate) ⟨[], 0⟩ [] where
  sound := .initial gate
  entries := rfl
  made := rfl
  heard := rfl
  removed := rfl
  registered _ mem := absurd mem List.not_mem_nil

namespace Stands

/-- The numbers on the roll are those of the live findings. -/
theorem numbers (stands : Stands k roll gone) : roll.entries.map Prod.snd = k.live := by
  rw [← stands.entries, List.map_map]
  rfl

/-- The finding of a key has the number that the roll has for it. -/
theorem find (stands : Stands k roll gone) (key : FindingKey) :
    (k.registry.find? key).map (·.number) = roll.entries.lookup key := by
  rw [← stands.entries, Registry.find?]
  induction k.registry.live with
  | nil => rfl
  | cons f rest ih =>
      rw [List.map_cons, List.lookup_cons, List.find?_cons]
      by_cases same : f.key = key
      · simp [same]
      · have passed : (f.key == key) = false := beq_eq_false_iff_ne.2 same
        have passed' : (key == f.key) = false := beq_eq_false_iff_ne.2 (Ne.symm same)
        simp only [passed, passed', ih]

/-- The finding of an instance is obtained. -/
theorem obtained (stands : Stands k roll gone) (service : Service) (ifindex : Int) (name : String) :
    Stands (k.act (.obtain service ifindex name)).2 (roll.act (.obtain service ifindex name))
      gone := by
  have sound := stands.sound.obtained service ifindex name
  have found := stands.find (.of service ifindex name)
  simp only [act, Roll.act]
  cases known : k.books.registry.find? (.of service ifindex name) with
  | some f =>
      have onRoll : roll.entries.lookup (.of service ifindex name) = some f.number := by
        rw [← found, registry, known, Option.map_some]
      rw [Books.getOrCreate_of_some known, onRoll]
      exact stands
  | none =>
      have offRoll : roll.entries.lookup (.of service ifindex name) = none := by
        rw [← found, registry, known, Option.map_none]
      rw [Books.getOrCreate_of_none known] at sound ⊢
      rw [offRoll]
      refine ⟨sound, ?_, ?_, stands.heard, stands.removed, stands.registered⟩
      · change (k.registry.live ++ [_]).map _ = _
        rw [List.map_append, stands.entries, List.map_singleton, ← stands.made]
        rfl
      · rw [← stands.made]
        exact Registry.made_create ..

/-- A live finding leaves. -/
theorem without (stands : Stands k roll gone) (live : f ∈ k.registry.live) :
    Stands (k.without f) { roll with entries := roll.entries.filter (·.2 ≠ f.number) }
      (gone ++ [⟨f, k.live⟩]) where
  sound := stands.sound.without live
  entries := by
    rw [← stands.entries, List.filter_map]
    rfl
  made := (Registry.drops_without stands.sound.numbered live).made.trans stands.made
  heard := by
    rw [partings_without, stands.heard, List.flatMap_append, List.flatMap_singleton]
  removed := by
    rw [List.map_append, List.reverse_append, ← stands.removed]
    rfl
  registered d mem := by
    rcases List.mem_append.1 mem with mem | mem
    · exact stands.registered d mem
    · rw [List.mem_singleton.1 mem]
      exact List.mem_map_of_mem live

/-- All live findings leave, one after another. -/
theorem withoutAll {findings : List Finding} (stands : Stands k roll gone)
    (all : k.registry.live = findings) :
    Stands (findings.foldl Keeper.without k) { roll with entries := [] }
      (gone ++ leaving findings) := by
  induction findings generalizing k roll gone with
  | nil =>
      have none : roll.entries = [] := by
        rw [← stands.entries, all, List.map_nil]
      rw [leaving, List.append_nil, ← none]
      exact stands
  | cons f rest ih =>
      have left := stands.without (all ▸ List.mem_cons_self)
      have first : leaving (f :: rest) = [⟨f, k.live⟩] ++ leaving rest := by
        rw [Keeper.live, all]
        rfl
      have next := ih left (stands.sound.live_without all)
      rw [first, ← List.append_assoc]
      exact next

/-- Something happens meanwhile. -/
theorem meanwhile (stands : Stands k roll gone) {books : Books}
    (meanwhile : Meanwhile k.books books) : Stands { k with books } roll gone where
  sound := stands.sound.meanwhile meanwhile
  entries := meanwhile.live.trans stands.entries
  made := by
    have live := congrArg List.length meanwhile.live
    have removed := congrArg List.length meanwhile.removed
    rw [List.length_map, List.length_map] at live removed
    rw [← stands.made, Registry.made, Registry.made]
    exact congr (congrArg _ live) removed
  heard := stands.heard
  removed := meanwhile.removedNumbers.trans stands.removed
  registered := stands.registered

/-- The live finding with a number. -/
theorem find_number (stands : Stands k roll gone) (live : f ∈ k.registry.live) :
    k.registry.live.find? (·.number == f.number) = some f := by
  obtain ⟨before, after, hlive⟩ := List.append_of_mem live
  have earlier := (stands.sound.numbered.ne_number hlive).1
  rw [hlive, List.find?_append, List.find?_eq_none.2 (by simpa using earlier)]
  simp

/-- A finding is deleted, live or not. -/
theorem deleted (stands : Stands k roll gone) (number : Nat) :
    (k.act (.delete number)).1 = .ok () ∧
      Stands (k.act (.delete number)).2 (roll.act (.delete number))
        (gone ++ k.departing (.delete number)) := by
  by_cases live : number ∈ k.live
  · obtain ⟨f, mem, rfl⟩ := List.mem_map.1 live
    rw [Keeper.act, departing, stands.sound.perform_delete mem, stands.find_number mem]
    exact ⟨rfl, stands.without mem⟩
  · have absent : k.registry.live.find? (·.number == number) = none := by
      rw [List.find?_eq_none]
      intro f mem same
      exact live (List.mem_map.2 ⟨f, mem, by simpa using same⟩)
    have unchanged : roll.entries.filter (·.2 ≠ number) = roll.entries := by
      rw [List.filter_eq_self]
      intro entry mem
      rw [← stands.numbers] at live
      have : entry.2 ≠ number := fun same => live (same ▸ List.mem_map_of_mem mem)
      simpa using this
    rw [Keeper.act, departing, perform_delete_gone stands.sound.withdrawn live, absent, Roll.act,
      unchanged, Option.map_none, Option.toList_none, List.append_nil]
    exact ⟨rfl, stands⟩

/-- Every deed succeeds and keeps what connects a keeper with a roll. -/
theorem act (stands : Stands k roll gone) {deed : Deed} (allowed : k.Allows deed) :
    (k.act deed).1 = .ok () ∧
      Stands (k.act deed).2 (roll.act deed) (gone ++ k.departing deed) := by
  cases deed with
  | obtain service ifindex name =>
      rw [departing, List.append_nil]
      exact ⟨rfl, stands.obtained service ifindex name⟩
  | delete number => exact stands.deleted number
  | deleteAll =>
      rw [Keeper.act, stands.sound.perform_deleteAll]
      exact ⟨rfl, stands.withoutAll rfl⟩
  | meanwhile books =>
      rw [departing, List.append_nil]
      exact ⟨rfl, stands.meanwhile allowed⟩

/-- Deeds, one after another, keep what connects a keeper with a roll. -/
theorem run (stands : Stands k roll gone) {deeds : List Deed} (allowed : k.AllowsAll deeds) :
    Stands (k.run deeds) (deeds.foldl Roll.act roll) (gone ++ k.departures deeds) := by
  induction deeds generalizing k roll gone with
  | nil =>
      rw [departures, List.append_nil]
      exact stands
  | cons deed rest ih =>
      have next := ih (stands.act allowed.1).2 allowed.2
      rw [List.append_assoc] at next
      exact next

end Stands

/-! ## The map -/

/-- Whether the registry is the map that a roll says. -/
structure IsMap (k : Keeper) (roll : Roll) : Prop where
  /-- The live findings are listed in order of creation, and no two have the same key. -/
  entries : k.registry.live.map (fun f => (f.key, f.number)) = roll.entries
  ordered : k.live.Pairwise (· < ·)
  unique : (k.registry.live.map (·.key)).Nodup
  /-- What is found is what the roll says, and it is the same for all spellings. -/
  number : ∀ key, (k.registry.find? key).map (·.number) = roll.entries.lookup key
  found : ∀ service ifindex name f, k.registry.find? (.of service ifindex name) = some f ↔
    f ∈ k.registry.live ∧ f.service = service ∧ f.ifindex = ifindex ∧
      Text.caseFold f.name = Text.caseFold name
  /-- A finding is created if none is found; otherwise nothing changes. -/
  known : ∀ service ifindex name f, k.registry.find? (.of service ifindex name) = some f →
    k.books.getOrCreate service ifindex name = (k.books, f, false)
  new : ∀ service ifindex name, k.registry.find? (.of service ifindex name) = none →
    ∃ books f, k.books.getOrCreate service ifindex name = (books, f, true) ∧
      (f.number, f.service, f.ifindex, f.name) = (roll.made, service, ifindex, name) ∧
      books.registry = ⟨k.registry.live ++ [f], k.registry.removed⟩ ∧
      books.registry.find? (.of service ifindex name) = some f
  /-- Deleting succeeds, and changes nothing if the finding is not live. -/
  succeeds : ∀ deed, k.Allows deed → (k.act deed).1 = .ok ()
  stale : ∀ number ∉ k.live, k.act (.delete number) = (.ok (), k)

/-- Whether the findings that have left the registry did so in some departures, each of them once. -/
structure Dismissed (k : Keeper) (gone : List Departure) : Prop where
  heard : k.partings = gone.flatMap Departure.farewell
  registered : ∀ d ∈ gone, d.finding.number ∈ d.live
  once : (k.live ++ gone.map (·.finding.number)).Perm (List.range k.registry.made)

namespace Stands

/-- What is found for an instance is the live finding whose name differs only in case. -/
theorem find_iff (stands : Stands k roll gone) (service : Service) (ifindex : Int) (name : String) :
    k.registry.find? (.of service ifindex name) = some f ↔
      f ∈ k.registry.live ∧ f.service = service ∧ f.ifindex = ifindex ∧
        Text.caseFold f.name = Text.caseFold name := by
  have same : f.key = .of service ifindex name ↔ f.service = service ∧ f.ifindex = ifindex ∧
      Text.caseFold f.name = Text.caseFold name := by
    rw [Finding.key, FindingKey.of, FindingKey.of, FindingKey.mk.injEq]
  rw [← same]
  constructor
  · intro found
    exact ⟨List.mem_of_find?_eq_some found, by simpa using List.find?_some found⟩
  · rintro ⟨live, key⟩
    cases found : k.registry.find? (.of service ifindex name) with
    | none =>
        have := List.find?_eq_none.1 found f live
        simp [key] at this
    | some g =>
        have key' : g.key = .of service ifindex name := by simpa using List.find?_some found
        rw [List.inj_on_of_nodup_map stands.sound.keys (List.mem_of_find?_eq_some found) live
          (key'.trans key.symm)]

theorem isMap (stands : Stands k roll gone) : k.IsMap roll where
  entries := stands.entries
  ordered := stands.sound.ascending
  unique := stands.sound.keys
  number := stands.find
  found service ifindex name _ := stands.find_iff service ifindex name
  known _ _ _ _ found := Books.getOrCreate_of_some found
  new service ifindex name none := by
    refine ⟨_, _, Books.getOrCreate_of_none none, ?_, rfl, Registry.find?_create none _⟩
    rw [← stands.made]
    rfl
  succeeds _ allowed := (stands.act allowed).1
  stale _ gone := perform_delete_gone stands.sound.withdrawn gone

theorem dismissed (stands : Stands k roll gone) : k.Dismissed gone where
  heard := stands.heard
  registered := stands.registered
  once := by
    have all := stands.sound.numbered.perm_range
    rw [List.map_append, stands.removed] at all
    exact ((List.reverse_perm _).symm.append_left _).trans all

end Stands

/-- Whatever is done with findings, the registry is a map from keys to the findings created for them
and not deleted since; each finding that leaves it is withdrawn before, if it is published, and
released, and no other is. -/
theorem registry_is_a_map (gate : Gate) (deeds : List Deed)
    (allowed : (start gate).AllowsAll deeds) :
    ((start gate).run deeds).IsMap (Roll.of deeds) ∧
      ((start gate).run deeds).Dismissed ((start gate).departures deeds) := by
  have stands := (stands_start gate).run allowed
  exact ⟨stands.isMap, stands.dismissed⟩

/-- A scanner in the street. -/
def streetScanner : Finding where
  number := 0
  service := .uscan
  ifindex := 2
  name := "Straße"
  inInitialScan := true

/-- The scanner is found under two spellings; it is published and still waits for two resolves when
it is deleted, twice, and is then found anew under a third spelling. -/
def streetDeeds : List Deed :=
  [.obtain .uscan 2 "Straße", .obtain .uscan 2 "STRASSE",
    .meanwhile ⟨Gate.initial.inc .uscanTcp,
      ⟨[{ streetScanner with isPublished := true, tracker := ⟨[.number 7, .number 5]⟩ }], []⟩⟩,
    .delete 0, .delete 0, .obtain .uscan 2 "strasse"]

theorem street_scanner_found_anew :
    ((start .initial).run streetDeeds).live = [1] ∧
      ((start .initial).run streetDeeds).partings =
        [.withdrawn streetScanner.snapshot [0], .released 0 [.number 7, .number 5]] ∧
      (((start .initial).run streetDeeds).registry.find? (.of .uscan 2 "STRAßE")).map (·.number) =
        some 1 := by
  have allowed : (start .initial).AllowsAll streetDeeds := by
    refine ⟨trivial, trivial, ⟨by decide +kernel, by decide +kernel, ?_, ?_⟩, trivial, trivial,
      trivial, trivial⟩
    · intro f mem
      exact absurd mem List.not_mem_nil
    · intro m
      cases m <;> decide +kernel
  obtain ⟨isMap, dismissed⟩ := registry_is_a_map .initial streetDeeds allowed
  refine ⟨?_, ?_, ?_⟩
  · decide +kernel
  · rw [dismissed.heard]
    decide +kernel
  · rw [isMap.number]
    decide +kernel

end ScannerDiscovery.Keeper
