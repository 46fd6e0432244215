import Mathlib.Logic.Relation
import ScannerDiscovery.Proofs.Mdns.Rules

/-!
# What can change at the multicast client

Whatever happens in a run is made up of moves, each of which leaves the client in order: an entry is
made, a browse is opened, watched, told of or stopped, a resolve is given, cancelled or concluded.
The order includes that of the calls that wait: a call that closes the session still has every open
browse before it, and has closed everything once it waits for the network library.

Main definitions:

- `Client.Holds`, `Entry.Closes` : what a handle stands for is open, and is closed.
- `Call.Proper`, `Orderly` : the calls that wait, and the client, are in order.
- `Move` : one change at a moment.

Main results:

- `Move.changes` : what a move does to the client and to the calls that wait.
- `Move.orderly` : a move keeps the order.
-/

namespace ScannerDiscovery.Mdns

open Client (Work ask passed)
open Routine (get modify)
open Simulation (Schedule)

/-! ## Handles -/

/-- Whether an entry closes what a handle stands for: its own stop or cancellation, the closing of
its watcher, or that of the whole session. -/
def Entry.Closes : Entry → Ticket → Prop
  | begun (.stopBrowse browse), handle => handle = Browse.handle browse
  | begun (.cancelResolve op), handle => Client.resolveNumber? handle = some op
  | waits _ (.closeWatcher browse), handle => handle = Browse.handle browse
  | waits _ .closeClient, _ => True
  | ended .closeSession (.ok _), _ => True
  | _, _ => False

namespace Client

/-- Whether a handle stands for an open browse or for a resolve under way. -/
def Holds (c : Client) (handle : Ticket) : Prop :=
  (∃ number browse, c.browse? number = some browse ∧ handle = Browse.handle number) ∨
    ∃ op resolve, c.resolve? op = some resolve ∧ handle = resolve.handle

/-- Whether no browse is open and no resolve under way. -/
def IsEmpty (c : Client) : Prop :=
  (∀ number, c.browse? number = none) ∧ ∀ op, c.resolve? op = none

variable {c c' : Client}

/-- An empty client has nothing open that a handle could stand for. -/
theorem IsEmpty.not_holds (empty : c.IsEmpty) (handle : Ticket) : ¬c.Holds handle := by
  rintro (⟨number, browse, found, -⟩ | ⟨op, resolve, found, -⟩)
  · rw [empty.1] at found
    cases found
  · rw [empty.2] at found
    cases found

/-- Browses of different numbers have different handles. -/
theorem handle_inj {a b : Nat} (same : Browse.handle a = Browse.handle b) : a = b := by
  simpa [Browse.handle] using same

/-- The handle of a browse that is not open stands for nothing. -/
theorem not_holds_of_browse? {number : Nat} (absent : c.browse? number = none) :
    ¬c.Holds (Browse.handle number) := by
  rintro (⟨other, browse, found, same⟩ | ⟨op, resolve, -, same⟩)
  · rw [handle_inj same, found] at absent
    cases absent
  · cases same

/-- A handle whose resolve is not under way stands for nothing. -/
theorem not_holds_of_resolve? {op : Nat} (absent : c.resolve? op = none) {handle : Ticket}
    (number : resolveNumber? handle = some op) : ¬c.Holds handle := by
  rintro (⟨other, browse, -, rfl⟩ | ⟨other, resolve, found, rfl⟩)
  · cases number
  · obtain rfl : other = op := by
      rw [← number_of_resolve? found]
      simpa [resolveNumber?, Resolve.handle] using number
    rw [found] at absent
    cases absent

/-- A client without resolves under way has an empty list of them. -/
theorem resolves_eq_nil (none : ∀ op, c.resolve? op = none) : c.resolves = [] := by
  cases resolves : c.resolves with
  | nil => rfl
  | cons resolve rest =>
      have found : c.resolve? resolve.number = some resolve := by
        simp [resolve?, resolves]
      rw [none] at found
      cases found

/-! ## Growing and shrinking -/

/-- The client with a new browse. -/
def attached (c : Client) (service : Service) : Client :=
  { c with
    browses := c.browses ++ [{ number := c.nextBrowse, service }], nextBrowse := c.nextBrowse + 1 }

/-- The client with a new resolve. -/
def given (c : Client) (resolve : Resolve) : Client :=
  { c with resolves := c.resolves ++ [resolve], nextResolve := c.nextResolve + 1 }

/-- Whether nothing has been opened or begun from one state of a client to another, and no open
browse has lost its watcher. -/
structure Shrinks (c c' : Client) : Prop where
  browses : ∀ {number : Nat} {after : Browse}, c'.browse? number = some after →
    ∃ before, c.browse? number = some before ∧ (before.isWatched = true → after.isWatched = true)
  resolves : ∀ {op : Nat} {resolve : Resolve}, c'.resolve? op = some resolve →
    c.resolve? op = some resolve
  opened : c'.isOpen = true → c.isOpen = true
  shut : c'.isOpen = false → c.isOpen = false ∨ c'.IsEmpty
  nextBrowse : c'.nextBrowse = c.nextBrowse
  nextResolve : c'.nextResolve = c.nextResolve

namespace Shrinks

/-- A client that stays as it is opens nothing. -/
theorem refl (c : Client) : c.Shrinks c where
  browses := fun found => ⟨_, found, id⟩
  resolves := fun found => found
  opened := id
  shut := .inl
  nextBrowse := rfl
  nextResolve := rfl

/-- Opening nothing is transitive. -/
theorem trans {c'' : Client} (first : c.Shrinks c') (second : c'.Shrinks c'') : c.Shrinks c'' where
  browses := by
    intro number last found
    obtain ⟨middle, found, keeps⟩ := second.browses found
    obtain ⟨before, found, keeps'⟩ := first.browses found
    exact ⟨before, found, fun watched => keeps (keeps' watched)⟩
  resolves := fun found => first.resolves (second.resolves found)
  opened := fun opened => first.opened (second.opened opened)
  shut := by
    intro shut
    obtain before | empty := second.shut shut
    · obtain before | empty := first.shut before
      · exact .inl before
      · refine .inr ⟨fun number => ?_, fun op => ?_⟩
        · cases found : c''.browse? number with
          | none => rfl
          | some browse =>
              obtain ⟨before, found, -⟩ := second.browses found
              cases (empty.1 number).symm.trans found
        · cases found : c''.resolve? op with
          | none => rfl
          | some resolve => cases (empty.2 op).symm.trans (second.resolves found)
    · exact .inr empty
  nextBrowse := second.nextBrowse.trans first.nextBrowse
  nextResolve := second.nextResolve.trans first.nextResolve

/-- A browse that is open afterwards was open before. -/
theorem isSome_browse? (shrinks : c.Shrinks c') {number : Nat}
    (found : (c'.browse? number).isSome) : (c.browse? number).isSome := by
  obtain ⟨after, found⟩ := Option.isSome_iff_exists.1 found
  obtain ⟨before, found, -⟩ := shrinks.browses found
  exact Option.isSome_iff_exists.2 ⟨before, found⟩

/-- A resolve that is under way afterwards was under way before. -/
theorem isSome_resolve? (shrinks : c.Shrinks c') {op : Nat} (found : (c'.resolve? op).isSome) :
    (c.resolve? op).isSome := by
  obtain ⟨resolve, found⟩ := Option.isSome_iff_exists.1 found
  exact Option.isSome_iff_exists.2 ⟨resolve, shrinks.resolves found⟩

/-- An empty client in which nothing is opened stays empty. -/
theorem isEmpty (shrinks : c.Shrinks c') (empty : c.IsEmpty) : c'.IsEmpty := by
  constructor
  · intro number
    by_contra held
    have before := shrinks.isSome_browse? (Option.isSome_iff_ne_none.2 held)
    simp [empty.1] at before
  · intro op
    by_contra held
    have before := shrinks.isSome_resolve? (Option.isSome_iff_ne_none.2 held)
    simp [empty.2] at before

/-- What a handle stands for afterwards, it stood for before. -/
theorem holds (shrinks : c.Shrinks c') {handle : Ticket} (held : c'.Holds handle) :
    c.Holds handle := by
  obtain ⟨number, after, found, rfl⟩ | ⟨op, resolve, found, rfl⟩ := held
  · obtain ⟨before, found, -⟩ := shrinks.browses found
    exact .inl ⟨number, before, found, rfl⟩
  · exact .inr ⟨op, resolve, shrinks.resolves found, rfl⟩

end Shrinks

/-- Changing a browse opens nothing, if the browse keeps its number and its watcher. -/
theorem shrinks_changing (number : Nat) {change : Browse → Browse}
    (keeps : ∀ b, (change b).number = b.number)
    (watched : ∀ b, b.isWatched = true → (change b).isWatched = true) :
    c.Shrinks (c.changing number change) where
  browses := by
    intro k after found
    rw [browse?_changing keeps] at found
    obtain ⟨before, found', rfl⟩ := Option.map_eq_some_iff.1 found
    refine ⟨before, found', fun had => ?_⟩
    split
    · exact watched before had
    · exact had
  resolves := fun found => found
  opened := id
  shut := .inl
  nextBrowse := rfl
  nextResolve := rfl

/-- Dropping a browse opens nothing. -/
theorem shrinks_without (number : Nat) : c.Shrinks (c.without number) where
  browses := by
    intro k after found
    rw [browse?_without] at found
    split at found
    · cases found
    · exact ⟨after, found, id⟩
  resolves := fun found => found
  opened := id
  shut := .inl
  nextBrowse := rfl
  nextResolve := rfl

/-- An empty client that is shut opens nothing. -/
theorem shrinks_shut (empty : c.IsEmpty) : c.Shrinks { c with isOpen := false } where
  browses := fun found => ⟨_, found, id⟩
  resolves := fun found => found
  opened := fun opened => by cases opened
  shut := fun _ => .inr empty
  nextBrowse := rfl
  nextResolve := rfl

/-- Taking a resolve out opens nothing. -/
theorem shrinks_withoutResolve (op : Nat) : c.Shrinks (c.withoutResolve op) where
  browses := fun found => ⟨_, found, id⟩
  resolves := by
    intro k resolve found
    rw [resolve?_withoutResolve] at found
    split at found
    · cases found
    · exact found
  opened := id
  shut := .inl
  nextBrowse := rfl
  nextResolve := rfl

/-- After a browse has been attached, the browses are those before and the new one. -/
theorem browse?_attached (service : Service) (number : Nat) :
    (c.attached service).browse? number =
      (c.browse? number).or
        (if c.nextBrowse = number then some { number := c.nextBrowse, service } else none) := by
  rw [attached, browse?, List.find?_append]
  by_cases h : c.nextBrowse = number <;> simp [browse?, h]

/-- After a resolve has been given, the resolves under way are those before and the new one. -/
theorem resolve?_given (resolve : Resolve) (op : Nat) :
    (c.given resolve).resolve? op =
      (c.resolve? op).or (if resolve.number = op then some resolve else none) := by
  rw [given, resolve?, List.find?_append]
  by_cases h : resolve.number = op <;> simp [resolve?, h]

/-- Closing the session cancels the remaining resolves one after another. -/
def shutDown : Work Unit := do
  cancelEach (← get).resolves
  if (← get).isOpen then
    modify fun c => { c with isOpen := false }
    passed (← ask .closeClient)

/-- How a call that closes the session goes on while browses are left. -/
def closing (rest : List Browse) : Work (Option Ticket) := do
  stopEach rest
  shutDown
  return none

end Client

/-! ## Order -/

/-- Whether a call that waits is in order.  It stops a browse, and then ends; or it closes the
session and has every open browse before it; or it has closed everything. -/
inductive Call.Proper (c : Client) : Call → Prop
  | stopping (browse : Nat) :
      Call.Proper c ⟨.stopBrowse browse, .closeWatcher browse,
        fun reply => passed reply >>= fun _ => pure none⟩
  | closing (browse : Nat) (rest : List Browse)
      (covers : ∀ number, (c.browse? number).isSome → number ∈ rest.map (·.number)) :
      Call.Proper c ⟨.closeSession, .closeWatcher browse,
        fun reply => passed reply >>= fun _ => Client.closing rest⟩
  | closed (shut : c.isOpen = false) (empty : c.IsEmpty) :
      Call.Proper c ⟨.closeSession, .closeClient,
        fun reply => passed reply >>= fun _ => pure none⟩

/-- A call stays in order if no browse is opened, an empty client stays empty and a shut one shut.
-/
theorem Call.Proper.mono {c c' : Client} {call : Call} (proper : call.Proper c)
    (browses : ∀ number, (c'.browse? number).isSome → (c.browse? number).isSome)
    (empty : c.IsEmpty → c'.IsEmpty) (shut : c.isOpen = false → c'.isOpen = false) :
    call.Proper c' := by
  cases proper with
  | stopping browse => exact .stopping browse
  | closing browse rest covers =>
      exact .closing browse rest fun number found => covers number (browses number found)
  | closed shut' empty' => exact .closed (shut shut') (empty empty')

/-- A call stays in order if nothing is opened. -/
theorem Call.Proper.shrinks {c c' : Client} {call : Call} (proper : call.Proper c)
    (shrinks : c.Shrinks c') : call.Proper c' := by
  refine proper.mono (fun _ => shrinks.isSome_browse?) shrinks.isEmpty fun shut => ?_
  by_contra opened
  have before := shrinks.opened (by simpa using opened)
  simp [shut] at before

/-- A call that does not close the session is in order at any client. -/
theorem Call.Proper.of_calm {c c' : Client} {call : Call} (proper : call.Proper c)
    (calm : call.isClosing = false) : call.Proper c' := by
  cases proper with
  | stopping browse => exact .stopping browse
  | closing | closed => cases calm

/-- Whether the client and the calls that wait are in order. -/
structure Orderly (m : Moment) : Prop where
  shut : m.client.isOpen = false → m.client.IsEmpty
  browses : ∀ number, (m.client.browse? number).isSome → number < m.client.nextBrowse
  resolves : ∀ op, (m.client.resolve? op).isSome → op < m.client.nextResolve
  calls : ∀ call ∈ m.waiting, call.Proper m.client

namespace Orderly

variable {m m' : Moment}

/-- A new client is in order. -/
theorem new (ipVersion : IpVersion) (resolveTimeout : Binary64) :
    Orderly (.new ipVersion resolveTimeout) where
  shut := fun _ => ⟨fun _ => rfl, fun _ => rfl⟩
  browses := fun _ found => by cases found
  resolves := fun _ found => by cases found
  calls := fun _ waits => by cases waits

/-- The order is kept where nothing is opened or begun. -/
theorem shrinks (orderly : Orderly m) (client : m.client.Shrinks m'.client)
    (waiting : m'.waiting = m.waiting) : Orderly m' where
  shut := by
    intro shut
    obtain before | empty := client.shut shut
    · exact client.isEmpty (orderly.shut before)
    · exact empty
  browses := fun number found =>
    client.nextBrowse ▸ orderly.browses number (client.isSome_browse? found)
  resolves := fun op found =>
    client.nextResolve ▸ orderly.resolves op (client.isSome_resolve? found)
  calls := fun call waits => (orderly.calls call (waiting ▸ waits)).shrinks client

/-- Anything may be opened or begun while no call closes the session. -/
theorem calls_of_calm (orderly : Orderly m) (calm : m.isClosing = false) (c : Client) :
    ∀ call ∈ m.waiting, call.Proper c := by
  intro call waits
  refine (orderly.calls call waits).of_calm ?_
  simpa using List.any_eq_false.1 calm call waits

end Orderly

/-! ## Where routines leave the client -/

namespace Moment

variable {m : Moment} {quietPeriod : ℚ}

/-- Stopping a browse takes it out of the client. -/
@[simp]
theorem dropped_client (browse : Browse) :
    (m.dropped browse).client = m.client.without browse.number := by
  unfold dropped
  split <;> rfl

/-- After a browse has been stopped, all other browses are still open. -/
theorem browse?_dropped {number : Nat} {browse : Browse}
    (found : m.client.browse? number = some browse) (k : Nat) :
    (m.dropped browse).client.browse? k = if k = number then none else m.client.browse? k := by
  rw [dropped_client, Client.browse?_without, Client.number_of_browse? found]

/-- Stopping a browse leaves the calls that wait. -/
@[simp]
theorem dropped_waiting (browse : Browse) : (m.dropped browse).waiting = m.waiting := by
  unfold dropped
  split <;> rfl

/-- Stopping a browse leaves the history. -/
@[simp]
theorem dropped_history (browse : Browse) : (m.dropped browse).history = m.history := by
  unfold dropped
  split <;> rfl

/-- Stopping a browse takes no time. -/
@[simp]
theorem dropped_now (browse : Browse) : (m.dropped browse).now = m.now := by
  unfold dropped
  split <;> rfl

/-- Stopping a browse leaves the tasks. -/
@[simp]
theorem dropped_tasks (browse : Browse) : (m.dropped browse).tasks = m.tasks := by
  unfold dropped
  split <;> rfl

/-- Arming the alarm of a browse again leaves the tasks. -/
@[simp]
theorem rearmed_tasks (browse : Browse) : (m.rearmed quietPeriod browse).tasks = m.tasks := by
  unfold rearmed
  cases browse.isArmed <;> rfl

/-- Arming the alarm of a browse again leaves the history. -/
@[simp]
theorem rearmed_history (browse : Browse) :
    (m.rearmed quietPeriod browse).history = m.history := by
  unfold rearmed
  cases browse.isArmed <;> rfl

/-- Arming the alarm of a browse again takes no time. -/
@[simp]
theorem rearmed_now (browse : Browse) : (m.rearmed quietPeriod browse).now = m.now := by
  unfold rearmed
  cases browse.isArmed <;> rfl

/-- The client knows that the alarm of the browse is armed. -/
@[simp]
theorem rearmed_client (browse : Browse) :
    (m.rearmed quietPeriod browse).client =
      m.client.changing browse.number Browse.armed := by
  unfold rearmed
  cases browse.isArmed <;> rfl

/-- Arming the alarm of a browse again leaves the calls that wait. -/
@[simp]
theorem rearmed_waiting (browse : Browse) :
    (m.rearmed quietPeriod browse).waiting = m.waiting := by
  unfold rearmed
  cases browse.isArmed <;> rfl

/-- A new quiet period leaves the calls that wait. -/
@[simp]
theorem refreshed_waiting (number : Nat) :
    (m.refreshed quietPeriod number).waiting = m.waiting := by
  unfold refreshed
  split
  · rfl
  · split <;> simp

/-- A new quiet period leaves the history. -/
@[simp]
theorem refreshed_history (number : Nat) :
    (m.refreshed quietPeriod number).history = m.history := by
  unfold refreshed
  split
  · rfl
  · split <;> simp

/-- A new quiet period leaves the tasks. -/
@[simp]
theorem refreshed_tasks (number : Nat) : (m.refreshed quietPeriod number).tasks = m.tasks := by
  unfold refreshed
  split
  · rfl
  · split <;> simp

/-- A new quiet period leaves the resolves. -/
@[simp]
theorem refreshed_resolves (number : Nat) :
    (m.refreshed quietPeriod number).client.resolves = m.client.resolves := by
  unfold refreshed
  split
  · rfl
  · split
    · rfl
    · rw [rearmed_client]
      rfl

/-- A new quiet period starts without time passing. -/
@[simp]
theorem refreshed_now (number : Nat) : (m.refreshed quietPeriod number).now = m.now := by
  unfold refreshed
  split
  · rfl
  · split <;> simp

/-- An entry made after a new quiet period has been started is the latest of the history. -/
theorem history_record_refreshed (number : Nat) (entry : Entry) :
    ((m.refreshed quietPeriod number).record entry).history = ⟨m.now, entry⟩ :: m.history := by
  rw [record, refreshed_now, refreshed_history]

/-- A new quiet period opens nothing. -/
theorem shrinks_refreshed (number : Nat) :
    m.client.Shrinks (m.refreshed quietPeriod number).client := by
  unfold refreshed
  split
  · exact .refl _
  · split
    · exact .refl _
    · rw [rearmed_client]
      exact Client.shrinks_changing _ Browse.number_armed fun _ => id

/-- Cancelling a resolve opens nothing. -/
theorem shrinks_cancelled (op : Nat) : m.client.Shrinks (m.cancelled op).client := by
  unfold cancelled
  split
  · exact Client.shrinks_withoutResolve op
  · exact .refl _

/-- Cancelling a resolve leaves the calls that wait. -/
@[simp]
theorem cancelled_waiting (op : Nat) : (m.cancelled op).waiting = m.waiting := by
  unfold cancelled
  split <;> rfl

/-- Cancelling a resolve leaves the history. -/
@[simp]
theorem cancelled_history (op : Nat) : (m.cancelled op).history = m.history := by
  unfold cancelled
  split <;> rfl

/-- Entries are made one after another. -/
theorem foldr_record (recent : List Entry) :
    recent.foldr (fun entry m => m.record entry) m =
      { m with history := recent.map (Line.mk m.now ·) ++ m.history } := by
  induction recent with
  | nil => rfl
  | cons entry rest ih => rw [List.foldr_cons, ih] ; rfl

/-- Entering what an activity begins with leaves the client. -/
@[simp]
theorem entered_client (activity : Activity) : (m.entered activity).client = m.client := by
  cases activity <;> rfl

/-! ## Cancelling all resolves -/

/-- All resolves are cancelled. -/
def allCancelled (m : Moment) : Moment :=
  m.client.resolves.foldl (fun m resolve => m.cancelled resolve.number) m

/-- The rest of a moment, apart from its resolves and tasks. -/
def apart (m : Moment) : Client × Schedule ℚ Nat × List Call × History :=
  ({ m.client with resolves := [] }, m.schedule, m.waiting, m.history)

/-- Cancelling a resolve leaves everything but resolves and tasks. -/
theorem apart_cancelled (op : Nat) : (m.cancelled op).apart = m.apart := by
  unfold cancelled
  split <;> rfl

/-- Cancelling all resolves leaves everything but resolves and tasks. -/
theorem apart_allCancelled : m.allCancelled.apart = m.apart := by
  unfold allCancelled
  generalize m.client.resolves = resolves
  induction resolves generalizing m with
  | nil => rfl
  | cons resolve rest ih => rw [List.foldl_cons, ih, apart_cancelled]

/-- After one resolve has been cancelled, the others are still under way. -/
theorem resolve?_cancelled (op k : Nat) :
    (m.cancelled op).client.resolve? k = if k = op then none else m.client.resolve? k := by
  unfold cancelled
  split
  · exact Client.resolve?_withoutResolve k
  · next absent =>
      by_cases h : k = op
      · simpa [h] using absent
      · simp [h]

/-- Cancelling a resolve marks its task as cancelled, if it is under way. -/
theorem tasks_cancelled (op k : Nat) :
    (m.cancelled op).tasks k =
      if k = op ∧ (m.client.resolve? k).isSome then
        (m.tasks k).map fun task => { task with isCancelled := true }
      else m.tasks k := by
  unfold cancelled
  by_cases h : k = op
  · subst h
    cases m.client.resolve? k <;> simp [withTask, withClient]
  · split <;> simp [withTask, withClient, h]

/-- Cancelling several resolves takes exactly those out. -/
theorem resolve?_foldl_cancelled (resolves : List Resolve) (k : Nat) :
    (resolves.foldl (fun m resolve => m.cancelled resolve.number) m).client.resolve? k =
      if k ∈ resolves.map (·.number) then none else m.client.resolve? k := by
  induction resolves generalizing m with
  | nil => simp
  | cons resolve rest ih =>
      rw [List.foldl_cons, ih, resolve?_cancelled]
      by_cases h : k = resolve.number <;> simp [h]

/-- Cancelling several resolves marks the tasks of those that are under way. -/
theorem tasks_foldl_cancelled (resolves : List Resolve) (k : Nat) :
    (resolves.foldl (fun m resolve => m.cancelled resolve.number) m).tasks k =
      if k ∈ resolves.map (·.number) ∧ (m.client.resolve? k).isSome then
        (m.tasks k).map fun task => { task with isCancelled := true }
      else m.tasks k := by
  induction resolves generalizing m with
  | nil => simp
  | cons resolve rest ih =>
      rw [List.foldl_cons, ih, tasks_cancelled, resolve?_cancelled]
      by_cases h : k = resolve.number <;> simp [h]

/-- A resolve that is under way is in the list. -/
theorem mem_of_resolve? {k : Nat} (held : (m.client.resolve? k).isSome) :
    k ∈ m.client.resolves.map (·.number) := by
  obtain ⟨resolve, found⟩ := Option.isSome_iff_exists.1 held
  exact List.mem_map.2 ⟨resolve, List.mem_of_find?_eq_some found, Client.number_of_resolve? found⟩

/-- After all resolves have been cancelled, none is under way. -/
theorem resolve?_allCancelled (k : Nat) : m.allCancelled.client.resolve? k = none := by
  rw [allCancelled, resolve?_foldl_cancelled, ite_eq_left_iff]
  intro unlisted
  by_contra held
  exact unlisted (mem_of_resolve? (Option.isSome_iff_ne_none.2 held))

/-- Cancelling all resolves marks the tasks of all that are under way. -/
theorem tasks_allCancelled (k : Nat) :
    m.allCancelled.tasks k =
      if (m.client.resolve? k).isSome then
        (m.tasks k).map fun task => { task with isCancelled := true }
      else m.tasks k := by
  rw [allCancelled, tasks_foldl_cancelled]
  by_cases held : (m.client.resolve? k).isSome
  · simp only [held, mem_of_resolve? held, and_self]
  · simp [held]

/-- Cancelling all resolves leaves the browses. -/
theorem browse?_allCancelled (k : Nat) :
    m.allCancelled.client.browse? k = m.client.browse? k :=
  congrArg (fun view => view.1.browse? k) (apart_allCancelled (m := m))

/-- Cancelling all resolves leaves the calls that wait. -/
theorem waiting_allCancelled : m.allCancelled.waiting = m.waiting :=
  congrArg (fun view => view.2.2.1) (apart_allCancelled (m := m))

/-- Cancelling all resolves leaves the history. -/
theorem history_allCancelled : m.allCancelled.history = m.history :=
  congrArg (fun view => view.2.2.2) (apart_allCancelled (m := m))

/-- Cancelling all resolves leaves the alarms. -/
theorem schedule_allCancelled : m.allCancelled.schedule = m.schedule :=
  congrArg (fun view => view.2.1) (apart_allCancelled (m := m))

/-- An entry made after all resolves have been cancelled is the latest of the history. -/
theorem history_record_allCancelled (change : Client → Client) (entry : Entry) :
    ((m.allCancelled.withClient change).record entry).history = ⟨m.now, entry⟩ :: m.history := by
  change ⟨m.allCancelled.schedule.now, entry⟩ :: m.allCancelled.history = _
  rw [history_allCancelled, schedule_allCancelled]
  rfl

/-- Cancelling all resolves leaves the number of the next resolve. -/
theorem nextResolve_allCancelled : m.allCancelled.client.nextResolve = m.client.nextResolve :=
  congrArg (fun view => view.1.nextResolve) (apart_allCancelled (m := m))

/-- Cancelling all resolves leaves the session open. -/
theorem isOpen_allCancelled : m.allCancelled.client.isOpen = m.client.isOpen :=
  congrArg (fun view => view.1.isOpen) (apart_allCancelled (m := m))

/-- Cancelling all resolves leaves the number of the next browse. -/
theorem nextBrowse_allCancelled : m.allCancelled.client.nextBrowse = m.client.nextBrowse :=
  congrArg (fun view => view.1.nextBrowse) (apart_allCancelled (m := m))

/-- Cancelling all resolves opens nothing. -/
theorem shrinks_allCancelled : m.client.Shrinks m.allCancelled.client where
  browses := fun {number} _ found => ⟨_, (browse?_allCancelled number).symm.trans found, id⟩
  resolves := fun {op} _ found => by
    rw [resolve?_allCancelled] at found
    cases found
  opened := fun opened => isOpen_allCancelled.symm.trans opened
  shut := fun shut => .inl (isOpen_allCancelled.symm.trans shut)
  nextBrowse := nextBrowse_allCancelled
  nextResolve := nextResolve_allCancelled

end Moment

/-! ## Moves -/

/-- One change at a moment. -/
inductive Move (quietPeriod : ℚ) : Moment → Moment → Prop
  /-- An entry is made that is no report, gives no handle, and closes only what is closed. -/
  | note {m : Moment} {entry : Entry} (unheard : entry.isReport = false)
      (ungiven : entry.given? = none)
      (closes : ∀ handle, entry.Closes handle → ¬m.client.Holds handle) :
      Move quietPeriod m (m.record entry)
  /-- Other calls wait. -/
  | await {m : Moment} (waiting : List Call) (proper : ∀ call ∈ waiting, call.Proper m.client) :
      Move quietPeriod m { m with waiting }
  /-- Time passes, but not past a timer that is due. -/
  | pass {m : Moment} {time : ℚ} (later : m.now ≤ time)
      (punctual : ∀ alarm ∈ m.schedule.alarms, time ≤ alarm.due) :
      Move quietPeriod m { m with schedule := { m.schedule with now := time } }
  /-- A session is opened. -/
  | openUp {m : Moment} (calm : m.isClosing = false) :
      Move quietPeriod m (m.withClient fun c => { c with isOpen := true })
  /-- The session is closed, and all resolves are cancelled, when all browses have been stopped. -/
  | shut {m : Moment} (stopped : ∀ number, m.client.browse? number = none) :
      Move quietPeriod m ((m.allCancelled.withClient fun c => { c with isOpen := false }).record
        (.waits .closeSession .closeClient))
  /-- A browse is opened, as yet without a watcher. -/
  | attach {m : Moment} (opened : m.client.isOpen = true) (calm : m.isClosing = false)
      (service : Service) : Move quietPeriod m (m.withClient (·.attached service))
  /-- The latest browse is taken back, since it has got no watcher. -/
  | withdraw {m : Moment} {number : Nat} {browse : Browse}
      (found : m.client.browse? number = some browse) (last : m.client.nextBrowse = number + 1)
      (unwatched : browse.isWatched = false) (unreported : browse.hasReported = false) :
      Move quietPeriod m ((m.dropped browse).withClient fun c => { c with nextBrowse := number })
  /-- The latest browse has got a watcher, and its handle is given. -/
  | watch {m : Moment} {number : Nat} {browse : Browse}
      (found : m.client.browse? number = some browse) (last : m.client.nextBrowse = number + 1)
      (unwatched : browse.isWatched = false) (unreported : browse.hasReported = false)
      (service : Service) :
      Move quietPeriod m
        (((m.withClient (·.changing number Browse.watched)).refreshed
          quietPeriod number).record
            (.ended (.startBrowse service) (.ok (some (Browse.handle number)))))
  /-- A browse reports a new instance. -/
  | tellNew {m : Moment} {number : Nat} {browse : Browse}
      (found : m.client.browse? number = some browse) (fullName : String) {event : BrowseEvent}
      (kind : event.kind = .new) :
      Move quietPeriod m ((m.record (.reported (.notify number fullName .added)
        (.browse event))).refreshed quietPeriod number)
  /-- A browse reports an instance that has gone. -/
  | tellGone {m : Moment} {number : Nat} {browse : Browse}
      (found : m.client.browse? number = some browse) (fullName : String) {event : BrowseEvent}
      (kind : event.kind = .remove) :
      Move quietPeriod m (m.record (.reported (.notify number fullName .removed) (.browse event)))
  /-- A timer rings for a browse that is not open. -/
  | ring {m : Moment} {number : Nat} (absent : m.client.browse? number = none) :
      Move quietPeriod m (m.entered (.quiet number))
  /-- A timer rings, and its browse reports that it has seen everything. -/
  | tellAll {m : Moment} {number : Nat} {browse : Browse}
      (found : m.client.browse? number = some browse)
      (due : ∃ alarm ∈ m.schedule.alarms, alarm.about = number ∧ alarm.due ≤ m.now)
      {event : BrowseEvent} (kind : event.kind = .allForNow) :
      Move quietPeriod m
        (((m.entered (.quiet number)).withClient
          (·.changing number Browse.reported)).record
            (.reported (.quiet number) (.browse event)))
  /-- A browse is stopped, and its watcher is to be closed. -/
  | stop {m : Moment} {number : Nat} {browse : Browse}
      (found : m.client.browse? number = some browse) (recent : List Entry)
      (unheard : ∀ entry ∈ recent, entry.isReport = false)
      (ungiven : ∀ entry ∈ recent, entry.given? = none)
      (closes : ∀ entry ∈ recent, ∀ handle, entry.Closes handle → handle = Browse.handle number)
      (closed : browse.isWatched = true →
        ∃ activity, .waits activity (.closeWatcher number) ∈ recent) :
      Move quietPeriod m (recent.foldr (fun entry m => m.record entry) (m.dropped browse))
  /-- A resolve is begun, and its handle is given. -/
  | resolve {m : Moment} (opened : m.client.isOpen = true) (calm : m.isClosing = false)
      {resolve : Resolve} (number : resolve.number = m.client.nextResolve) :
      Move quietPeriod m
        ({ m.withClient (·.given resolve) with
          tasks := Function.update m.tasks resolve.number (some {}) }.record
            (.ended (.resolve resolve.service resolve.name resolve.family)
              (.ok (some resolve.handle))))
  /-- A resolve is cancelled. -/
  | cancel {m : Moment} {op : Nat} {resolve : Resolve}
      (found : m.client.resolve? op = some resolve) :
      Move quietPeriod m ((m.record (.begun (.cancelResolve op))).cancelled op)
  /-- The task of a resolve waits for its lookup. -/
  | look {m : Moment} {op : Nat} {resolve : Resolve}
      (found : m.client.resolve? op = some resolve) : Move quietPeriod m (m.reaches op .looking)
  /-- The task of a resolve is over, and the result of its lookup is reported. -/
  | conclude {m : Moment} {op : Nat} {resolve : Resolve}
      (found : m.client.resolve? op = some resolve) (activity : Activity)
      {result : Option LookupResult} (sorted : result.all LookupResult.isSorted) :
      Move quietPeriod m
        (((m.reaches op (.finished result)).withClient (·.withoutResolve op)).record
          (.reported activity (.resolve (resolve.event result))))
  /-- The task of a resolve is over that is no longer under way. -/
  | lose {m : Moment} {op : Nat} (result : Option LookupResult)
      (lost : m.client.resolve? op = none ∨ (m.tasks op).any (·.isCancelled))
      (running : (m.tasks op).any fun task => !task.isOver) :
      Move quietPeriod m (m.reaches op (.finished result))

/-! ## What moves do to the client -/

/-- What a move does to the client and to the calls that wait. -/
inductive Moment.Changes (m m' : Moment) : Prop
  | shrinks (client : m.client.Shrinks m'.client) (waiting : m'.waiting = m.waiting)
  | awaits (client : m'.client = m.client) (proper : ∀ call ∈ m'.waiting, call.Proper m.client)
  | opens (calm : m.isClosing = false) (client : m'.client = { m.client with isOpen := true })
      (waiting : m'.waiting = m.waiting)
  | attaches (opened : m.client.isOpen = true) (calm : m.isClosing = false) (service : Service)
      (client : m'.client = m.client.attached service) (waiting : m'.waiting = m.waiting)
  | withdraws {number : Nat} {browse : Browse} (found : m.client.browse? number = some browse)
      (last : m.client.nextBrowse = number + 1) (unwatched : browse.isWatched = false)
      (client : m'.client = { m.client.without number with nextBrowse := number })
      (waiting : m'.waiting = m.waiting)
  | begins (opened : m.client.isOpen = true) (calm : m.isClosing = false) {resolve : Resolve}
      (number : resolve.number = m.client.nextResolve)
      (client : m'.client = m.client.given resolve) (waiting : m'.waiting = m.waiting)

/-- Every move makes one of these changes. -/
theorem Move.changes {quietPeriod : ℚ} {m m' : Moment} (move : Move quietPeriod m m') :
    m.Changes m' := by
  cases move with
  | note | pass | tellGone | ring | look | lose => exact .shrinks (.refl _) rfl
  | await waiting proper => exact .awaits rfl proper
  | openUp calm => exact .opens calm rfl rfl
  | shut stopped =>
      have empty : m.allCancelled.client.IsEmpty :=
        ⟨fun number => (Moment.browse?_allCancelled number).trans (stopped number),
          Moment.resolve?_allCancelled⟩
      exact .shrinks (Moment.shrinks_allCancelled.trans (Client.shrinks_shut empty))
        Moment.waiting_allCancelled
  | attach opened calm service => exact .attaches opened calm service rfl rfl
  | @withdraw number browse found last unwatched =>
      refine .withdraws found last unwatched ?_ (Moment.dropped_waiting browse)
      change { (m.dropped browse).client with nextBrowse := number } = _
      rw [Moment.dropped_client, Client.number_of_browse? found]
  | @watch number =>
      have watched := Client.shrinks_changing (c := m.client) number Browse.number_watched
        fun _ _ => rfl
      have refreshed : (m.client.changing number Browse.watched).Shrinks
          ((m.withClient (·.changing number Browse.watched)).refreshed quietPeriod number).client :=
        Moment.shrinks_refreshed (m := m.withClient (·.changing number Browse.watched)) number
      exact .shrinks (watched.trans refreshed) (Moment.refreshed_waiting _)
  | tellNew =>
      exact .shrinks (Moment.shrinks_refreshed (m := m.record _) _) (Moment.refreshed_waiting _)
  | tellAll => exact .shrinks (Client.shrinks_changing _ Browse.number_reported fun _ => id) rfl
  | @stop number browse found recent =>
      rw [Moment.foldr_record]
      refine .shrinks ?_ (Moment.dropped_waiting browse)
      rw [Moment.dropped_client]
      exact Client.shrinks_without _
  | resolve opened calm number => exact .begins opened calm number rfl rfl
  | cancel =>
      exact .shrinks (Moment.shrinks_cancelled (m := m.record _) _) (Moment.cancelled_waiting _)
  | conclude => exact .shrinks (Client.shrinks_withoutResolve _) rfl

/-- An entry leaves the client and the calls in order. -/
theorem Orderly.record {m : Moment} (orderly : Orderly m) (entry : Entry) :
    Orderly (m.record entry) :=
  orderly.shrinks (.refl _) rfl

/-- A move keeps the order. -/
theorem Move.orderly {quietPeriod : ℚ} {m m' : Moment} (move : Move quietPeriod m m')
    (orderly : Orderly m) : Orderly m' := by
  cases move.changes with
  | shrinks client waiting => exact orderly.shrinks client waiting
  | awaits client proper =>
      exact {
        shut := client ▸ orderly.shut
        browses := client ▸ orderly.browses
        resolves := client ▸ orderly.resolves
        calls := client ▸ proper }
  | opens calm client waiting =>
      exact {
        shut := fun shut => by simp [client] at shut
        browses := client ▸ orderly.browses
        resolves := client ▸ orderly.resolves
        calls := waiting ▸ orderly.calls_of_calm calm _ }
  | attaches opened calm service client waiting =>
      refine ⟨fun shut => ?_, fun number found => ?_, ?_, waiting ▸ orderly.calls_of_calm calm _⟩
      · rw [client] at shut
        cases opened.symm.trans shut
      · have known := orderly.browses number
        rw [client] at found ⊢
        rw [Client.browse?_attached] at found
        change number < m.client.nextBrowse + 1
        by_cases h : m.client.nextBrowse = number
        · omega
        · have := known (by simpa [h] using found)
          omega
      · rw [client]
        exact orderly.resolves
  | @withdraws number browse found last unwatched client waiting =>
      have dropped := Client.shrinks_without (c := m.client) number
      refine ⟨fun shut => ?_, fun k open' => ?_, ?_, fun call waits => ?_⟩
      · rw [client] at shut ⊢
        exact dropped.isEmpty (orderly.shut shut)
      · rw [client] at open' ⊢
        change ((m.client.without number).browse? k).isSome at open'
        have below := orderly.browses k (dropped.isSome_browse? open')
        rw [Client.browse?_without] at open'
        have other : k ≠ number := by
          intro same
          simp [same] at open'
        change k < number
        omega
      · rw [client]
        exact orderly.resolves
      · rw [client]
        have proper := (orderly.calls call (waiting ▸ waits)).shrinks dropped
        exact proper.mono (fun _ => id) id id
  | @begins opened calm resolve number client waiting =>
      refine ⟨fun shut => ?_, ?_, fun op found => ?_, waiting ▸ orderly.calls_of_calm calm _⟩
      · rw [client] at shut
        cases opened.symm.trans shut
      · rw [client]
        exact orderly.browses
      · have known := orderly.resolves op
        rw [client] at found ⊢
        rw [Client.resolve?_given] at found
        change op < m.client.nextResolve + 1
        by_cases h : resolve.number = op
        · omega
        · have := known (by simpa [h] using found)
          omega

end ScannerDiscovery.Mdns
