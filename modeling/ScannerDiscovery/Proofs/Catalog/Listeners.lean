import Mathlib.Data.List.Basic
import ScannerDiscovery.Catalog.Listening
import ScannerDiscovery.Proofs.OrderedMap

/-!
# What the listeners of a catalog are told

A listener is called at each change that is made after it has registered, once, and at nothing
else, whatever the other listeners do.  Whoever knows the findings at the time of registration and
does to them what the calls say has before it, at every call and after every command, exactly the
findings of the catalog in their order.

Main definitions:

- `Audience` : listeners with a state of their own.
- `Record` : what comes of commands that are carried out before an audience.
- `changesOf` : the changes among commands, by the keys that are present.
- `follow` : what a listener makes of a call.

Main results:

- `run_publishing`, `run_withdrawing` : listeners that fail keep no other from being called.
- `log_is_faithful` : the calls of a listener, and what it makes of them.
-/

namespace ScannerDiscovery

/-! ## Audiences -/

/-- Those who listen to a catalog, by what each does when it is called.  They share a state, and do
not call the catalog.  A call may fail, but nobody ends the program. -/
structure Audience (ω : Type) where
  hear : CatalogCall → ω → Except Fault Unit × ω
  stays : ∀ call world, (hear call world).1 ≠ .error .interrupted

/-- A call of a listener, with the findings in the catalog at that moment. -/
structure Hearing where
  call : CatalogCall
  findings : List Snapshot
  deriving DecidableEq

/-- How a command was carried out: how it ended, and which listeners were called meanwhile. -/
structure Performance where
  result : Except Fault Unit
  hearings : List Hearing

/-- What has come of commands: the catalog, the state of its audience, and how each command was
carried out, the earliest first. -/
structure Record (ω : Type) where
  catalog : Catalog
  world : ω
  performances : List Performance

variable {ω : Type}

namespace Audience

/-- Calls a listener, and takes note of it. -/
def answer (audience : Audience ω) (call : CatalogCall) (c : Catalog) (w : ω × List Hearing) :
    Except Fault Unit × Catalog × ω × List Hearing :=
  let heard := audience.hear call w.1
  (heard.1, c, heard.2, w.2 ++ [⟨call, c.findings.values⟩])

/-- Carries out a command before an audience. -/
def perform (audience : Audience ω) (r : Record ω) (command : Command) : Record ω :=
  let ended := (command.work r.catalog).run audience.answer (r.world, [])
  ⟨ended.2.1, ended.2.2.1, r.performances ++ [⟨ended.1, ended.2.2.2⟩]⟩

/-- Carries out commands before an audience, beginning with the empty catalog. -/
def record (audience : Audience ω) (world : ω) (commands : List Command) : Record ω :=
  commands.foldl audience.perform ⟨.empty, world, []⟩

end Audience

/-- What the listener was called with that registered after a number of others, the earliest
first. -/
def heardBy (number : Nat) (performances : List Performance) : List Hearing :=
  performances.filterMap (·.hearings[number]?)

/-! ## What a command changes -/

/-- The change that a command makes if some keys are present: each publication is one, and the
withdrawal of what is present. -/
def Command.change? (present : List FindingKey) : Command → Option (CatalogAction × Snapshot)
  | publish s => some (.publish, s)
  | withdraw s => if s.key ∈ present then some (.withdraw, s) else none
  | addListener _ => none

/-- The keys that are present after a command. -/
def Command.keysAfter (present : List FindingKey) : Command → List FindingKey
  | publish s => if s.key ∈ present then present else present ++ [s.key]
  | withdraw s => present.filter (· ≠ s.key)
  | addListener _ => present

/-- The changes that commands make if some keys are present at first. -/
def changesOf (present : List FindingKey) : List Command → List (CatalogAction × Snapshot)
  | [] => []
  | command :: rest =>
    (command.change? present).toList ++ changesOf (command.keysAfter present) rest

/-! ## What a listener makes of its calls -/

/-- Snapshots with one put in the place of that with its key, or at the end. -/
def placed (s : Snapshot) : List Snapshot → List Snapshot
  | [] => [s]
  | t :: rest => if t.key = s.key then s :: rest else t :: placed s rest

/-- The findings after a call, for a listener that knows them as they were before. -/
def follow (known : List Snapshot) (call : CatalogCall) : List Snapshot :=
  match call.action with
  | .publish => placed call.snapshot known
  | .withdraw => known.filter (·.key ≠ call.snapshot.key)

/-- Whether a listener that follows its calls has before it what is in the catalog at each of them,
and the findings `now` after the last. -/
def Replays (known : List Snapshot) : List Hearing → List Snapshot → Prop
  | [], now => known = now
  | hearing :: rest, now =>
    follow known hearing.call = hearing.findings ∧ Replays (follow known hearing.call) rest now

namespace Catalog

/-! ## Snapshots under their keys -/

/-- Whether every snapshot stands under its own key. -/
def Keyed (c : Catalog) : Prop :=
  ∀ entry ∈ c.findings.entries, entry.1 = entry.2.key

theorem keyed_empty : Keyed .empty := by
  simp [Keyed, empty, OrderedMap.empty]

theorem mem_put {κ ν : Type} [DecidableEq κ] {key : κ} {value : ν} {entries : List (κ × ν)}
    {entry : κ × ν} (h : entry ∈ OrderedMap.put key value entries) :
    entry = (key, value) ∨ entry ∈ entries := by
  induction entries with
  | nil => exact .inl (List.mem_singleton.1 h)
  | cons head rest ih =>
      rw [OrderedMap.put] at h
      split at h
      · rename_i hkey
        rcases List.mem_cons.1 h with rfl | hrest
        · exact .inl (by rw [hkey])
        · exact .inr (List.mem_cons_of_mem _ hrest)
      · rcases List.mem_cons.1 h with rfl | hrest
        · exact .inr List.mem_cons_self
        · rcases ih hrest with rfl | hmem
          · exact .inl rfl
          · exact .inr (List.mem_cons_of_mem _ hmem)

/-- Publishing keeps every snapshot under its own key. -/
theorem Keyed.insert {c : Catalog} (keyed : c.Keyed) (s : Snapshot) :
    Keyed { c with findings := c.findings.insert s.key s } := by
  intro entry hentry
  rcases mem_put hentry with rfl | hmem
  · rfl
  · exact keyed entry hmem

theorem Keyed.erase {c : Catalog} (keyed : c.Keyed) (key : FindingKey) :
    Keyed { c with findings := c.findings.erase key } :=
  fun entry hentry => keyed entry (List.mem_of_mem_filter hentry)

/-- A snapshot put under its key takes the place of the one that was there. -/
theorem Keyed.values_insert {c : Catalog} (keyed : c.Keyed) (s : Snapshot) :
    (c.findings.insert s.key s).values = placed s c.findings.values := by
  have all (entries : List (FindingKey × Snapshot)) (h : ∀ entry ∈ entries, entry.1 = entry.2.key) :
      (OrderedMap.put s.key s entries).map Prod.snd = placed s (entries.map Prod.snd) := by
    induction entries with
    | nil => rfl
    | cons head rest ih =>
        obtain ⟨key, t⟩ := head
        obtain ⟨hkey, others⟩ := List.forall_mem_cons.1 h
        obtain rfl : key = t.key := hkey
        rw [OrderedMap.put, List.map_cons, placed]
        split
        · rfl
        · rw [List.map_cons, ih others]
  exact all c.findings.entries keyed

/-- Erasing a key takes away the snapshots with that key. -/
theorem Keyed.values_erase {c : Catalog} (keyed : c.Keyed) (key : FindingKey) :
    (c.findings.erase key).values = c.findings.values.filter (·.key ≠ key) := by
  have same : c.findings.entries.filter (·.1 ≠ key) =
      c.findings.entries.filter (·.2.key ≠ key) := by
    apply List.filter_congr
    intro entry hentry
    rw [keyed entry hentry]
  simp only [OrderedMap.values, OrderedMap.erase, same, List.filter_map, Function.comp_def]

/-! ## Telling listeners -/

/-- The hearings when listeners are told of a change. -/
def told (c : Catalog) (action : CatalogAction) (snapshot : Snapshot) (listeners : List String) :
    List Hearing :=
  listeners.map fun listener => ⟨⟨listener, action, snapshot⟩, c.findings.values⟩

/-- Everything but an interruption is passed over. -/
theorem passOver_of_ne {ended : Except Fault Unit} (h : ended ≠ .error .interrupted) :
    passOver ended = pure () := by
  unfold passOver
  split
  · exact absurd rfl h
  · rfl

/-- All listeners are called in order, whatever they do, and the catalog is left alone. -/
theorem run_tellEach (audience : Audience ω) (action : CatalogAction) (snapshot : Snapshot)
    (listeners : List String) (c : Catalog) (world : ω) (heard : List Hearing) :
    ∃ world', (tellEach action snapshot listeners c).run audience.answer (world, heard) =
      (.ok (), c, world', heard ++ c.told action snapshot listeners) := by
  induction listeners generalizing world heard with
  | nil => exact ⟨world, by simp [tellEach, told]; rfl⟩
  | cons listener rest ih =>
      let call : CatalogCall := ⟨listener, action, snapshot⟩
      obtain ⟨world', hrest⟩ := ih (audience.hear call world).2
        (heard ++ [⟨call, c.findings.values⟩])
      refine ⟨world', ?_⟩
      have hcall : (tellEach action snapshot (listener :: rest) c).run audience.answer
          (world, heard) = (tellEach action snapshot rest c).run audience.answer
            ((audience.hear call world).2, heard ++ [⟨call, c.findings.values⟩]) := by
        change Outcome.run audience.answer
          ((passOver (audience.hear call world).1 >>= fun _ => tellEach action snapshot rest) c)
            _ = _
        rw [passOver_of_ne (audience.stays call world), pure_bind]
      rw [hcall, hrest, List.append_assoc]
      rfl

/-- Listeners that fail keep no other from being called: all are, at the change that is made. -/
theorem run_publishing (audience : Audience ω) (c : Catalog) (s : Snapshot) (world : ω) :
    ∃ world', (publishing s c).run audience.answer (world, []) =
      (.ok (), (c.publish s).1, world',
        (c.publish s).2.map fun call => ⟨call, (c.publish s).1.findings.values⟩) := by
  obtain ⟨world', h⟩ :=
    run_tellEach audience .publish s c.listeners (c.publish s).1 world []
  refine ⟨world', ?_⟩
  have same : (publishing s c).run audience.answer (world, []) =
      (tellEach .publish s c.listeners (c.publish s).1).run audience.answer (world, []) := rfl
  rw [same, h]
  simp [told, publish, calls]

/-- An unknown finding is withdrawn without a word. -/
theorem run_withdrawing (audience : Audience ω) (c : Catalog) (s : Snapshot) (world : ω) :
    ∃ world', (withdrawing s c).run audience.answer (world, []) =
      (.ok (), (c.withdraw s).1, world',
        (c.withdraw s).2.map fun call => ⟨call, (c.withdraw s).1.findings.values⟩) := by
  by_cases present : (c.findings.get? s.key).isSome = true
  · have hw : c.withdraw s =
        ({ c with findings := c.findings.erase s.key }, c.calls .withdraw s) := by
      rw [withdraw, if_pos present]
    obtain ⟨world', h⟩ := run_tellEach audience .withdraw s c.listeners
      { c with findings := c.findings.erase s.key } world []
    refine ⟨world', ?_⟩
    have same : withdrawing s c = tellEach .withdraw s c.listeners
        { c with findings := c.findings.erase s.key } := by
      change (if (c.findings.get? s.key).isSome then _ else _ : Work Unit) c = _
      rw [if_pos present]
      rfl
    rw [same, h, hw]
    simp [told, calls]
  · have hw : c.withdraw s = (c, []) := by
      rw [withdraw, if_neg present]
    refine ⟨world, ?_⟩
    have same : withdrawing s c = .returned () c := by
      change (if (c.findings.get? s.key).isSome then _ else _ : Work Unit) c = _
      rw [if_neg present]
      rfl
    rw [same, hw]
    rfl

end Catalog

/-! ## One command -/

/-- The catalog after a command, and the calls of listeners. -/
def Command.effect (c : Catalog) : Command → Catalog × List CatalogCall
  | publish s => c.publish s
  | withdraw s => c.withdraw s
  | addListener name => (c.addListener name, [])

/-- How a command is carried out when nobody ends the program. -/
def Command.performance (c : Catalog) (command : Command) : Performance :=
  ⟨.ok (), (command.effect c).2.map fun call => ⟨call, (command.effect c).1.findings.values⟩⟩

/-- A command is carried out to its end, whatever the listeners do. -/
theorem Audience.perform_eq (audience : Audience ω) (r : Record ω) (command : Command) :
    ∃ world', audience.perform r command = ⟨(command.effect r.catalog).1, world',
      r.performances ++ [command.performance r.catalog]⟩ := by
  cases command with
  | publish s =>
      obtain ⟨world', h⟩ := Catalog.run_publishing audience r.catalog s r.world
      exact ⟨world', by simp only [perform, Command.work, h]; rfl⟩
  | withdraw s =>
      obtain ⟨world', h⟩ := Catalog.run_withdrawing audience r.catalog s r.world
      exact ⟨world', by simp only [perform, Command.work, h]; rfl⟩
  | addListener name => exact ⟨r.world, rfl⟩

namespace Command

theorem effect_keyed {c : Catalog} (keyed : c.Keyed) (command : Command) :
    (command.effect c).1.Keyed := by
  cases command with
  | publish s => exact keyed.insert s
  | withdraw s =>
      change (c.withdraw s).1.Keyed
      unfold Catalog.withdraw
      split
      · exact keyed.erase s.key
      · exact keyed
  | addListener name => exact keyed

/-- Which keys there are after a command, and in which order, follows from those before. -/
theorem effect_keys (c : Catalog) (command : Command) :
    (command.effect c).1.findings.keys = command.keysAfter c.findings.keys := by
  cases command with
  | publish s => exact OrderedMap.keys_insert _ _ _
  | withdraw s =>
      change (c.withdraw s).1.findings.keys = c.findings.keys.filter (· ≠ s.key)
      unfold Catalog.withdraw
      split
      · exact OrderedMap.keys_erase _ _
      · rename_i absent
        rw [← OrderedMap.mem_keys_iff] at absent
        refine (List.filter_eq_self.2 fun key hkey => ?_).symm
        simpa using fun h : key = s.key => absent (h ▸ hkey)
  | addListener name => rfl

/-- Listeners stay registered, each in its place. -/
theorem listeners_effect (c : Catalog) (command : Command) :
    c.listeners <+: (command.effect c).1.listeners := by
  cases command with
  | publish s => exact List.prefix_rfl
  | withdraw s =>
      change c.listeners <+: (c.withdraw s).1.listeners
      unfold Catalog.withdraw
      split <;> exact List.prefix_rfl
  | addListener name => exact List.prefix_append _ _

/-- Those in the beginning of a list keep their places in it. -/
theorem still_registered {listeners more : List String} (le : listeners <+: more) {number : Nat}
    {listener : String} (registered : listeners[number]? = some listener) :
    more[number]? = some listener := by
  obtain ⟨hlt, rfl⟩ := List.getElem?_eq_some_iff.1 registered
  exact List.prefix_iff_getElem?.1 le number hlt

/-- No command takes a listener away. -/
theorem registered_effect {c : Catalog} {number : Nat} {listener : String}
    (registered : c.listeners[number]? = some listener) (command : Command) :
    (command.effect c).1.listeners[number]? = some listener :=
  still_registered (command.listeners_effect c) registered

/-- The calls of a command: each listener is called once if there is a change. -/
theorem calls_effect (c : Catalog) (command : Command) :
    (command.effect c).2 = match command.change? c.findings.keys with
      | some change => c.calls change.1 change.2
      | none => [] := by
  cases command with
  | publish s => rfl
  | withdraw s =>
      simp only [effect, change?, Catalog.withdraw, ← OrderedMap.mem_keys_iff]
      split <;> simp_all
  | addListener name => rfl

/-- The findings after a change are what a listener makes of its call. -/
theorem values_of_change {c : Catalog} (keyed : c.Keyed) {command : Command}
    {change : CatalogAction × Snapshot} (changes : command.change? c.findings.keys = some change)
    (listener : String) :
    follow c.findings.values ⟨listener, change.1, change.2⟩ =
      (command.effect c).1.findings.values := by
  cases command with
  | publish s =>
      obtain rfl : (.publish, s) = change := Option.some.inj changes
      exact (keyed.values_insert s).symm
  | withdraw s =>
      simp only [change?, Option.ite_none_right_eq_some, OrderedMap.mem_keys_iff] at changes
      obtain ⟨present, hchange⟩ := changes
      obtain rfl : (.withdraw, s) = change := Option.some.inj hchange
      simp only [effect, Catalog.withdraw, if_pos present]
      exact (keyed.values_erase s.key).symm
  | addListener name => cases changes

theorem findings_of_no_change {c : Catalog} {command : Command}
    (unchanged : command.change? c.findings.keys = none) :
    (command.effect c).1.findings = c.findings := by
  cases command with
  | publish s => cases unchanged
  | withdraw s =>
      simp only [change?, ite_eq_right_iff, OrderedMap.mem_keys_iff, reduceCtorEq,
        imp_false] at unchanged
      simp only [effect, Catalog.withdraw, if_neg unchanged]
  | addListener name => rfl

/-- The listener in a place is called once if there is a change, and not at all otherwise. -/
theorem heard_effect {c : Catalog} {number : Nat} {listener : String}
    (registered : c.listeners[number]? = some listener) (command : Command) :
    (command.performance c).hearings[number]? = (command.change? c.findings.keys).map fun change =>
      ⟨⟨listener, change.1, change.2⟩, (command.effect c).1.findings.values⟩ := by
  simp only [performance, List.getElem?_map, calls_effect]
  cases command.change? c.findings.keys with
  | none => rfl
  | some change => simp [Catalog.calls, registered]

end Command

/-! ## Many commands -/

/-- Those called at a performance are the first listeners, each once. -/
def Performance.Orderly (listeners : List String) (p : Performance) : Prop :=
  p.result = .ok () ∧ p.hearings.map (·.call.listener) <+: listeners

theorem Performance.Orderly.mono {listeners more : List String} {p : Performance}
    (h : p.Orderly listeners) (le : listeners <+: more) : p.Orderly more :=
  ⟨h.1, h.2.trans le⟩

/-- Every command is performed in order. -/
theorem Command.performance_orderly (c : Catalog) (command : Command) :
    (command.performance c).Orderly c.listeners := by
  refine ⟨rfl, ?_⟩
  simp only [performance, calls_effect]
  cases command.change? c.findings.keys with
  | none => exact List.nil_prefix
  | some change => simp [Catalog.calls, Function.comp_def]

namespace Audience

variable (audience : Audience ω)

/-- Listeners stay registered while commands are carried out. -/
theorem listeners_foldl (commands : List Command) (r : Record ω) :
    r.catalog.listeners <+: (commands.foldl audience.perform r).catalog.listeners := by
  induction commands generalizing r with
  | nil => exact List.prefix_rfl
  | cons command rest ih =>
      obtain ⟨world', h⟩ := audience.perform_eq r command
      refine (command.listeners_effect r.catalog).trans ?_
      simpa only [List.foldl_cons, h] using ih (audience.perform r command)

/-- Every command is carried out in an orderly way. -/
theorem orderly_foldl (commands : List Command) (r : Record ω)
    (h : ∀ p ∈ r.performances, p.Orderly r.catalog.listeners) :
    ∀ p ∈ (commands.foldl audience.perform r).performances,
      p.Orderly (commands.foldl audience.perform r).catalog.listeners := by
  induction commands generalizing r with
  | nil => exact h
  | cons command rest ih =>
      refine ih (audience.perform r command) ?_
      obtain ⟨world', hperform⟩ := audience.perform_eq r command
      intro p hp
      simp only [hperform, List.mem_append, List.mem_singleton] at hp ⊢
      have known : p.Orderly r.catalog.listeners := by
        rcases hp with hp | rfl
        · exact h p hp
        · exact command.performance_orderly r.catalog
      exact known.mono (command.listeners_effect r.catalog)

/-- A catalog keeps every snapshot under its own key, whatever is performed on it. -/
theorem keyed_foldl (commands : List Command) {r : Record ω} (h : r.catalog.Keyed) :
    (commands.foldl audience.perform r).catalog.Keyed := by
  induction commands generalizing r with
  | nil => exact h
  | cons command rest ih =>
      obtain ⟨world', hperform⟩ := audience.perform_eq r command
      refine ih (r := audience.perform r command) ?_
      rw [hperform]
      exact command.effect_keyed h

/-- What a registered listener is called with while commands are carried out. -/
theorem heard_foldl {number : Nat} {listener : String} (commands : List Command) (r : Record ω)
    (keyed : r.catalog.Keyed) (registered : r.catalog.listeners[number]? = some listener) :
    ∃ ps, (commands.foldl audience.perform r).performances = r.performances ++ ps ∧
      (heardBy number ps).map (·.call) = (changesOf r.catalog.findings.keys commands).map
        (fun change => ⟨listener, change.1, change.2⟩) ∧
      Replays r.catalog.findings.values (heardBy number ps)
        (commands.foldl audience.perform r).catalog.findings.values := by
  induction commands generalizing r with
  | nil => exact ⟨[], (List.append_nil _).symm, rfl, rfl⟩
  | cons command rest ih =>
      obtain ⟨world', hperform⟩ := audience.perform_eq r command
      have first := command.heard_effect registered
      obtain ⟨ps, hps, hcalls, hreplays⟩ := ih
        ⟨(command.effect r.catalog).1, world', r.performances ++ [command.performance r.catalog]⟩
        (command.effect_keyed keyed) (command.registered_effect registered)
      refine ⟨command.performance r.catalog :: ps, ?_, ?_, ?_⟩
      · rw [List.foldl_cons, hperform, hps, List.append_assoc]
        rfl
      · simp only [heardBy, changesOf, List.filterMap_cons, first, ← command.effect_keys]
        simp only [heardBy] at hcalls
        cases command.change? r.catalog.findings.keys with
        | none => simpa using hcalls
        | some change => simpa using hcalls
      · rw [List.foldl_cons, hperform]
        simp only [heardBy, List.filterMap_cons, first]
        cases changes : command.change? r.catalog.findings.keys with
        | none =>
            rw [← Command.findings_of_no_change changes]
            exact hreplays
        | some change =>
            have values := Command.values_of_change keyed changes listener
            exact ⟨values, values ▸ hreplays⟩

end Audience

/-- A listener is called once for every publication and every withdrawal of a present key after
its registration, in their order, and for nothing else, whatever the others do.  Whoever knows
the findings at the registration and follows the calls has those of the catalog before it. -/
theorem log_is_faithful (audience : Audience ω) (world : ω) (before after : List Command)
    (listener : String) :
    let past := audience.record world before
    let now := audience.record world (before ++ .addListener listener :: after)
    let log := heardBy past.catalog.listeners.length now.performances
    (∀ p ∈ now.performances, p.Orderly now.catalog.listeners) ∧
      now.catalog.listeners[past.catalog.listeners.length]? = some listener ∧
      log.map (·.call) = (changesOf past.catalog.findings.keys after).map
        (fun change => ⟨listener, change.1, change.2⟩) ∧
      Replays past.catalog.findings.values log now.catalog.findings.values := by
  intro past now log
  have orderly : ∀ p ∈ past.performances, p.Orderly past.catalog.listeners :=
    audience.orderly_foldl before _ (by simp)
  have registering : audience.perform past (.addListener listener) =
      ⟨past.catalog.addListener listener, past.world, past.performances ++ [⟨.ok (), []⟩]⟩ := rfl
  have registered : (past.catalog.addListener listener).listeners[past.catalog.listeners.length]? =
      some listener := by simp [Catalog.addListener]
  have hnow : now =
      after.foldl audience.perform (audience.perform past (.addListener listener)) := by
    simp [now, past, Audience.record, List.foldl_append]
  -- Before its registration nobody has the listener's place.
  have silent : heardBy past.catalog.listeners.length past.performances = [] := by
    refine List.filterMap_eq_nil_iff.2 fun p hp => List.getElem?_eq_none ?_
    simpa using (orderly p hp).2.length_le
  obtain ⟨ps, hps, hcalls, hreplays⟩ := audience.heard_foldl after
    (audience.perform past (.addListener listener))
    (audience.keyed_foldl before Catalog.keyed_empty) registered
  have hlog : log = heardBy past.catalog.listeners.length ps := by
    have split : now.performances = past.performances ++ ⟨.ok (), []⟩ :: ps := by
      rw [hnow, hps, registering, List.append_assoc]
      rfl
    change heardBy past.catalog.listeners.length now.performances = _
    rw [split]
    simp only [heardBy, List.filterMap_append, List.filterMap_cons] at silent ⊢
    rw [silent]
    rfl
  refine ⟨audience.orderly_foldl _ _ (by simp), ?_, ?_, ?_⟩
  · rw [hnow]
    exact Command.still_registered
      (audience.listeners_foldl after (audience.perform past (.addListener listener))) registered
  · rw [hlog, hcalls]
    rfl
  · rw [hlog, hnow]
    exact hreplays

end ScannerDiscovery
