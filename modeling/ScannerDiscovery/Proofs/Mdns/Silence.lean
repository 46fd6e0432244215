import ScannerDiscovery.Proofs.Mdns.Conduct

/-!
# After a handle has been closed

Only what is open reports, and what has been closed is never open again: its number is used up, also
in later sessions.  So once a handle has been closed, by its own stop or cancellation or with the
session, no report of it is seen any more.

Main definitions:

- `GivenIn`, `ClosedIn` : a handle has been given, and closed after that.
- `Client.HasIssued` : the number of a handle is used up.

Main results:

- `Move.adds` : a move adds one report of what is open, or entries that are no reports.
- `Reached.silent` : after a handle has been closed no report of it is seen.
-/

namespace ScannerDiscovery.Mdns

variable {quietPeriod : ℚ} {m m' : Moment} {handle : Ticket}

/-! ## Histories -/

/-- Whether a handle has been given. -/
def GivenIn (handle : Ticket) (h : History) : Prop :=
  ∃ line ∈ h, line.entry.given? = some handle

/-- Whether a handle has been closed after it had been given. -/
def ClosedIn (handle : Ticket) : History → Prop
  | [] => False
  | line :: h => line.entry.Closes handle ∧ GivenIn handle h ∨ ClosedIn handle h

/-- Whether no report has been made of a handle that had been closed. -/
def SilentOnceClosed : History → Prop
  | [] => True
  | line :: h =>
    (∀ handle, line.entry.handle? = some handle → ¬ClosedIn handle h) ∧ SilentOnceClosed h

/-- A handle that has been given stays given. -/
theorem GivenIn.append {h : History} (given : GivenIn handle h) (later : History) :
    GivenIn handle (later ++ h) := by
  obtain ⟨line, hmem, gives⟩ := given
  exact ⟨line, List.mem_append_right later hmem, gives⟩

/-- What has been closed remains so. -/
theorem ClosedIn.append {h : History} (closed : ClosedIn handle h) (later : History) :
    ClosedIn handle (later ++ h) := by
  induction later with
  | nil => exact closed
  | cons line later ih => exact .inr ih

/-- A handle that is closed has been closed before, or is closed by a later entry. -/
theorem closedIn_append {later h : History} (closed : ClosedIn handle (later ++ h)) :
    ClosedIn handle h ∨ ∃ line ∈ later, line.entry.Closes handle := by
  induction later with
  | nil => exact .inl closed
  | cons line later ih =>
      obtain ⟨closes, -⟩ | before := closed
      · exact .inr ⟨line, List.mem_cons_self, closes⟩
      · obtain before | ⟨other, hmem, closes⟩ := ih before
        · exact .inl before
        · exact .inr ⟨other, List.mem_cons_of_mem line hmem, closes⟩

/-- Only what has been given is closed. -/
theorem ClosedIn.given {h : History} (closed : ClosedIn handle h) : GivenIn handle h := by
  induction h with
  | nil => cases closed
  | cons line h ih =>
      obtain ⟨-, given⟩ | before := closed
      · exact given.append [line]
      · exact (ih before).append [line]

/-- Entries that are no reports leave a history silent about what has been closed. -/
theorem SilentOnceClosed.append {h later : History} (onceClosed : SilentOnceClosed h)
    (unheard : ∀ line ∈ later, line.entry.handle? = none) : SilentOnceClosed (later ++ h) := by
  induction later with
  | nil => exact onceClosed
  | cons line later ih =>
      refine ⟨fun handle heard => ?_, ih fun other hmem => ?_⟩
      · cases (unheard line List.mem_cons_self).symm.trans heard
      · exact unheard other (List.mem_cons_of_mem line hmem)

/-- After an entry that has closed a handle, no report of it is seen. -/
theorem SilentOnceClosed.silent {later earlier : History} {line : Line}
    (onceClosed : SilentOnceClosed (later ++ line :: earlier)) (closes : line.entry.Closes handle)
    (given : GivenIn handle earlier) : ∀ report ∈ later, report.entry.handle? ≠ some handle := by
  induction later with
  | nil => simp
  | cons first later ih =>
      have closed : ClosedIn handle (line :: earlier) := .inl ⟨closes, given⟩
      intro report hmem heard
      obtain rfl | hmem := List.mem_cons.1 hmem
      · exact onceClosed.1 handle heard (closed.append later)
      · exact ih onceClosed.2 report hmem heard

/-! ## Numbers -/

/-- Whether the number of a handle is used up: a browse with a lower number that is open has its
watcher. -/
def Client.HasIssued (c : Client) (handle : Ticket) : Prop :=
  (∃ number, handle = Browse.handle number ∧ number < c.nextBrowse ∧
    ∀ browse, c.browse? number = some browse → browse.isWatched = true) ∨
  ∃ op, Client.resolveNumber? handle = some op ∧ op < c.nextResolve

/-- The number of the next browse is not used up. -/
theorem not_hasIssued_nextBrowse (c : Client) : ¬c.HasIssued (Browse.handle c.nextBrowse) := by
  rintro (⟨number, same, below, -⟩ | ⟨op, number, -⟩)
  · rw [Client.handle_inj same] at below
    exact Nat.lt_irrefl _ below
  · cases number

/-- The number of the next resolve is not used up. -/
theorem not_hasIssued_nextResolve {c : Client} {resolve : Resolve}
    (number : resolve.number = c.nextResolve) : ¬c.HasIssued resolve.handle := by
  rintro (⟨browse, same, -⟩ | ⟨op, same, below⟩)
  · cases same
  · have := Option.some.inj ((Client.resolveNumber?_handle resolve).symm.trans same)
    omega

/-- What becomes open that was not open before has a fresh number. -/
theorem Move.holds (move : Move quietPeriod m m') (held : m'.client.Holds handle) :
    m.client.Holds handle ∨ ¬m.client.HasIssued handle := by
  cases move.changes with
  | shrinks client => exact .inl (client.holds held)
  | awaits client => exact .inl (client ▸ held)
  | opens calm client =>
      rw [client] at held
      exact .inl held
  | attaches opened calm service client =>
      rw [client] at held
      obtain ⟨number, browse, found, rfl⟩ | ⟨op, resolve, found, rfl⟩ := held
      · rw [Client.browse?_attached] at found
        by_cases fresh : m.client.nextBrowse = number
        · exact .inr (fresh ▸ not_hasIssued_nextBrowse m.client)
        · exact .inl (.inl ⟨number, browse, by simpa [fresh] using found, rfl⟩)
      · exact .inl (.inr ⟨op, resolve, found, rfl⟩)
  | withdraws found last unwatched client =>
      rw [client] at held
      exact .inl ((Client.shrinks_without _).holds held)
  | @begins opened calm given number client =>
      rw [client] at held
      obtain ⟨browse, found⟩ | ⟨op, resolve, found, rfl⟩ := held
      · exact .inl (.inl ⟨browse, found⟩)
      · rw [Client.resolve?_given] at found
        obtain before | ⟨-, fresh⟩ := Option.or_eq_some_iff.1 found
        · exact .inl (.inr ⟨op, resolve, before, rfl⟩)
        · obtain ⟨-, same⟩ := Option.ite_none_right_eq_some.1 fresh
          obtain rfl := Option.some.inj same
          exact .inr (not_hasIssued_nextResolve number)

/-- A number that is used up stays so. -/
theorem Move.hasIssued (move : Move quietPeriod m m') (issued : m.client.HasIssued handle) :
    m'.client.HasIssued handle := by
  cases move.changes with
  | shrinks client =>
      obtain ⟨number, same, below, watched⟩ | ⟨op, same, below⟩ := issued
      · refine .inl ⟨number, same, client.nextBrowse ▸ below, fun after found => ?_⟩
        obtain ⟨before, found, keeps⟩ := client.browses found
        exact keeps (watched before found)
      · exact .inr ⟨op, same, client.nextResolve ▸ below⟩
  | awaits client => exact client ▸ issued
  | opens calm client =>
      rw [client]
      exact issued
  | attaches opened calm service client =>
      rw [client]
      obtain ⟨number, same, below, watched⟩ | ⟨op, same, below⟩ := issued
      · refine .inl ⟨number, same, Nat.lt_succ_of_lt below, fun browse found => ?_⟩
        rw [Client.browse?_attached] at found
        exact watched browse (by simpa [Nat.ne_of_gt below] using found)
      · exact .inr ⟨op, same, below⟩
  | @withdraws latest browse found last unwatched client =>
      rw [client]
      obtain ⟨number, same, below, watched⟩ | ⟨op, same, below⟩ := issued
      · have other : number ≠ latest := by
          rintro rfl
          simp [watched browse found] at unwatched
        refine .inl ⟨number, same, ?_, fun browse found => ?_⟩
        · change number < latest
          omega
        · obtain ⟨before, found, keeps⟩ := (Client.shrinks_without latest).browses found
          exact keeps (watched before found)
      · exact .inr ⟨op, same, below⟩
  | begins opened calm number client =>
      rw [client]
      obtain issued | ⟨op, same, below⟩ := issued
      · exact .inl issued
      · exact .inr ⟨op, same, Nat.lt_succ_of_lt below⟩

/-! ## What a move adds -/

/-- What a move adds to the history: one report of what is open, or entries that are no reports,
which close only what is no longer open and give only handles whose number is used up. -/
inductive Moment.Adds (m m' : Moment) : Prop
  | report (entry : Entry) (history : m'.history = ⟨m.now, entry⟩ :: m.history)
      (held : ∀ handle, entry.handle? = some handle → m.client.Holds handle)
      (open' : ∀ handle, ¬entry.Closes handle) (ungiven : entry.given? = none)
  | entries (recent : List Entry)
      (history : m'.history = recent.map (Line.mk m.now ·) ++ m.history)
      (unheard : ∀ entry ∈ recent, entry.handle? = none)
      (closes : ∀ entry ∈ recent, ∀ handle, entry.Closes handle → ¬m'.client.Holds handle)
      (gives : ∀ entry ∈ recent, ∀ handle, entry.given? = some handle → m'.client.HasIssued handle)

namespace Moment.Adds

/-- A move that adds nothing. -/
theorem nothing (history : m'.history = m.history) : m.Adds m' :=
  .entries [] history (by simp) (by simp) (by simp)

/-- A move that adds one entry, which is no report. -/
theorem single (entry : Entry) (history : m'.history = ⟨m.now, entry⟩ :: m.history)
    (unheard : entry.handle? = none)
    (closes : ∀ handle, entry.Closes handle → ¬m'.client.Holds handle)
    (gives : ∀ handle, entry.given? = some handle → m'.client.HasIssued handle) : m.Adds m' :=
  .entries [entry] history (by simpa using unheard) (by simpa using closes) (by simpa using gives)

end Moment.Adds

/-- Every move adds one report of what is open, or entries that are no reports. -/
theorem Move.adds (move : Move quietPeriod m m') : m.Adds m' := by
  cases move with
  | note unheard ungiven closes =>
      exact .single _ rfl (Entry.handle?_of_not_isReport unheard) closes
        fun handle gives => by cases ungiven.symm.trans gives
  | await | pass | openUp | attach | ring | look | lose => exact .nothing rfl
  | shut stopped =>
      have empty : (m.allCancelled.withClient fun c => { c with isOpen := false }).client.IsEmpty :=
        ⟨fun number => (Moment.browse?_allCancelled number).trans (stopped number),
          Moment.resolve?_allCancelled⟩
      exact .single (.waits .closeSession .closeClient) (Moment.history_record_allCancelled _ _) rfl
        (fun handle _ => empty.not_holds handle) fun handle gives => by cases gives
  | withdraw => exact .nothing (Moment.dropped_history _)
  | @watch number browse found last unwatched unreported service =>
      have shrinks : (m.client.changing number Browse.watched).Shrinks
          ((m.withClient (·.changing number Browse.watched)).refreshed quietPeriod number).client :=
        Moment.shrinks_refreshed (m := m.withClient (·.changing number Browse.watched)) number
      refine .single (.ended (.startBrowse service) (.ok (some (Browse.handle number))))
        (Moment.history_record_refreshed _ _) rfl (fun handle closed => closed.elim)
        fun handle gives => ?_
      refine .inl ⟨number, (Option.some.inj gives).symm, ?_, fun after found' => ?_⟩
      · exact (Nat.lt_succ_self number).trans_eq (shrinks.nextBrowse.trans last).symm
      · obtain ⟨before, found', keeps⟩ := shrinks.browses found'
        refine keeps ?_
        have same := (Client.browse?_changing Browse.number_watched number).symm.trans found'
        simp only [found, Option.map_some, if_true, Option.some.injEq] at same
        rw [← same]
        rfl
  | @tellNew number browse found fullName event kind =>
      refine .report (.reported (.notify number fullName .added) (.browse event)) ?_
        (fun handle heard => ?_) (fun _ closed => closed.elim) rfl
      · rw [Moment.refreshed_history]
        rfl
      · exact .inl ⟨number, browse, found, (Option.some.inj heard).symm⟩
  | @tellGone number browse found fullName event kind =>
      refine .report _ rfl (fun handle heard => ?_) (fun _ closed => closed.elim) rfl
      exact .inl ⟨number, browse, found, (Option.some.inj heard).symm⟩
  | @tellAll number browse found =>
      refine .report _ rfl (fun handle heard => ?_) (fun _ closed => closed.elim) rfl
      exact .inl ⟨number, browse, found, (Option.some.inj heard).symm⟩
  | @stop number browse found recent unheard ungiven closes =>
      rw [Moment.foldr_record]
      refine .entries recent ?_
        (fun entry hmem => Entry.handle?_of_not_isReport (unheard entry hmem))
        (fun entry hmem handle closed => ?_)
        fun entry hmem handle gives => by cases (ungiven entry hmem).symm.trans gives
      · change recent.map (Line.mk (m.dropped browse).now ·) ++ (m.dropped browse).history = _
        rw [Moment.dropped_history, Moment.dropped_now]
      · rw [closes entry hmem handle closed]
        exact Client.not_holds_of_browse? ((Moment.browse?_dropped found number).trans (if_pos rfl))
  | @resolve opened calm resolve number =>
      refine .single _ rfl rfl (fun handle closed => closed.elim) fun handle gives => ?_
      refine .inr ⟨resolve.number, ?_, number ▸ Nat.lt_succ_self _⟩
      rw [← Option.some.inj gives]
      rfl
  | @cancel op resolve found =>
      refine .single (.begun (.cancelResolve op)) (Moment.cancelled_history op) rfl
        (fun handle closed => ?_) fun handle gives => by cases gives
      refine Client.not_holds_of_resolve? ?_ closed
      rw [Moment.resolve?_cancelled, if_pos rfl]
  | @conclude op resolve found activity result =>
      refine .report (.reported activity (.resolve (resolve.event result))) rfl
        (fun handle heard => ?_) (fun _ closed => closed.elim) rfl
      refine .inr ⟨op, resolve, found, ?_⟩
      rw [← Option.some.inj heard, Resolve.op_event]

/-! ## Silence -/

/-- Whether what has been closed is closed, and nothing has been reported of it. -/
structure Silent (m : Moment) : Prop where
  issued : ∀ handle, GivenIn handle m.history → m.client.HasIssued handle
  closed : ∀ handle, ClosedIn handle m.history → ¬m.client.Holds handle
  onceClosed : SilentOnceClosed m.history

/-- A move leaves what has been closed silent. -/
theorem Move.silent (move : Move quietPeriod m m') (silent : Silent m) : Silent m' := by
  have reopened {handle : Ticket} (closed : ClosedIn handle m.history) :
      ¬m'.client.Holds handle := by
    intro held
    obtain held | fresh := move.holds held
    · exact silent.closed handle closed held
    · exact fresh (silent.issued handle closed.given)
  cases move.adds with
  | report entry history held open' ungiven =>
      refine ⟨fun handle given => ?_, fun handle closed => ?_, ?_⟩
      · obtain ⟨line, hmem, gives⟩ := history ▸ given
        obtain rfl | before := List.mem_cons.1 hmem
        · cases ungiven.symm.trans gives
        · exact move.hasIssued (silent.issued handle ⟨line, before, gives⟩)
      · obtain ⟨closes, -⟩ | before : ClosedIn handle (⟨m.now, entry⟩ :: m.history) :=
          history ▸ closed
        · exact (open' handle closes).elim
        · exact reopened before
      · rw [history]
        refine ⟨fun handle heard closed => ?_, silent.onceClosed⟩
        exact silent.closed handle closed (held handle heard)
  | entries recent history unheard closes gives =>
      refine ⟨fun handle given => ?_, fun handle closed => ?_, ?_⟩
      · obtain ⟨line, hmem, given⟩ := history ▸ given
        obtain recent | before := List.mem_append.1 hmem
        · obtain ⟨entry, listed, rfl⟩ := List.mem_map.1 recent
          exact gives entry listed handle given
        · exact move.hasIssued (silent.issued handle ⟨line, before, given⟩)
      · obtain before | ⟨line, hmem, closed⟩ := closedIn_append (history ▸ closed)
        · exact reopened before
        · obtain ⟨entry, listed, rfl⟩ := List.mem_map.1 hmem
          exact closes entry listed handle closed
      · rw [history]
        refine silent.onceClosed.append fun line hmem => ?_
        obtain ⟨entry, listed, rfl⟩ := List.mem_map.1 hmem
        exact unheard entry listed

/-- What has been closed is silent at every moment of every run. -/
theorem Reached.isSilent (reached : Reached quietPeriod m) : Silent m := by
  refine reached.preserves (fun ipVersion resolveTimeout => ?_) fun _ move => move.silent
  exact {
    issued := by
      rintro handle ⟨line, hmem, -⟩
      cases hmem
    closed := fun handle closed => closed.elim
    onceClosed := trivial }

/-- After a handle has been closed no report of it is seen, in the same session or a later one. -/
theorem Reached.silent (reached : Reached quietPeriod m) {later earlier : History} {line : Line}
    (history : m.history = later ++ line :: earlier) (closes : line.entry.Closes handle)
    (given : GivenIn handle earlier) : ∀ report ∈ later, report.entry.handle? ≠ some handle :=
  (history ▸ reached.isSilent.onceClosed : SilentOnceClosed (later ++ line :: earlier)).silent
    closes given

end ScannerDiscovery.Mdns
