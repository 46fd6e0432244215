import ScannerDiscovery.Proofs.Engine.Conduct.Books
import ScannerDiscovery.Proofs.Engine.Stages.Account

/-!
# How the engine conducts findings out of their stages

The routines that delete findings and end sessions keep the account of the stages.  A finding that
is deleted is withdrawn first and gone afterwards, and a session ends without findings.

Main definitions:

- `Broken` : how routines fail.

Main results:

- `staged_of_keeps`, `staged_of_idle` : routines that leave the registry alone.
- `staged_deleteFinding`, `staged_restartDefer` : findings that go.
-/

namespace ScannerDiscovery

/-- Whether a request leaves the session as it is. -/
def Request.KeepsSession (request : Request) : Prop :=
  ¬request.EndsSession

namespace Engine

variable {α : Type} {now hand : Option Nat} {e : Engine} {h : History}

/-! ## Routines that leave the registry alone -/

/-- How a routine fails: with a violation, the stages being accounted for. -/
def Broken (now : Option Nat) (fault : Fault) (e : Engine) (h : History) : Prop :=
  fault.IsViolation ∧ ∃ hand, Staged now hand e.books.registry h

/-- The registry shows nothing of gate, resolves and browses, -/
theorem detached_registry : Detached Request.KeepsSession fun e => e.books.registry where
  counts _ _ _ := rfl
  resolving _ _ := rfl
  browsers _ _ := rfl
  browserRunning _ _ := rfl
  scanDone _ := id
  cancelResolve _ := id
  startBrowse _ := id

theorem blind_registry : BlindToGate fun e => e.books.registry :=
  fun _ _ => rfl

/-- and nothing of client and restart timer. -/
theorem offline_registry : Offline fun e => e.books.registry :=
  ⟨fun _ _ => rfl, fun _ _ _ => rfl⟩

/-- A routine that leaves the registry alone keeps the account, unless it ends a session while
there are findings. -/
theorem staged_of_leaves {routine : Work α} {R : Request → Prop}
    (leaves : Leaves R (fun e => e.books.registry) routine)
    (ends : ∀ request, R request → request.EndsSession → e.books.registry.live = [])
    (done : now = none ∨ hand = none) (staged : Staged now hand e.books.registry h) :
    Ensures (fun _ e' h' => Staged now hand e'.books.registry h' ∧
      e'.books.registry = e.books.registry) (Broken now) (routine e) h := by
  refine (leaves.ensures (I := fun e' h' => Staged now hand e'.books.registry h' ∧
    e'.books.registry = e.books.registry) ?_ ?_ ⟨staged, rfl⟩).mono (fun _ _ _ => id) ?_
  · intro e₁ e₂ h₁ hregistry
    rw [hregistry]
    exact id
  · rintro e₁ e₂ request answer h₁ permitted - disturbed ⟨staged₁, hregistry⟩
    rw [disturbed.books]
    refine ⟨staged₁.asked (fun hends => ?_) (fun _ _ => done) answer, hregistry⟩
    rw [hregistry]
    exact ends request permitted hends
  · rintro fault e₁ h₁ ⟨violation, staged₁, -⟩
    exact ⟨violation, hand, staged₁⟩

/-- A routine that leaves registry and session alone keeps the account. -/
theorem staged_of_keeps {routine : Work α}
    (leaves : Leaves Request.KeepsSession (fun e => e.books.registry) routine)
    (done : now = none ∨ hand = none) (staged : Staged now hand e.books.registry h) :
    Ensures (fun _ e' h' => Staged now hand e'.books.registry h' ∧
      e'.books.registry = e.books.registry) (Broken now) (routine e) h :=
  staged_of_leaves leaves (fun _ keeps ends => absurd ends keeps) done staged

/-- A routine that leaves the registry alone keeps the account where there are no findings. -/
theorem staged_of_idle {routine : Work α}
    (leaves : Leaves (fun _ => True) (fun e => e.books.registry) routine)
    (staged : Staged none none e.books.registry h) (live : e.books.registry.live = []) :
    Ensures (fun _ e' h' => Staged none none e'.books.registry h' ∧
      e'.books.registry = e.books.registry) (Broken none) (routine e) h :=
  staged_of_leaves leaves (fun _ _ _ => live) (.inl rfl) staged

/-! ## Deleting findings -/

/-- Withdrawing a live finding leaves the account as it is, for the registry before. -/
theorem staged_unpublish {f : Finding} (staged : Staged now hand e.books.registry h)
    (live : f ∈ e.books.registry.live) :
    Ensures (fun _ e' h' => Staged now hand e.books.registry h' ∧
      e.books.registry.Replaces f { f with isPublished := false } e'.books.registry) (Broken now)
      ((Books.unpublish f : Work Unit) e) h := by
  simp only [Books.unpublish, ensures_ite, ensures_bind, ensures_pure]
  constructor
  · intro published
    refine ensures_routine_ask fun answer e' admits disturbed => ?_
    obtain rfl : answer = .ok () := admits
    simp only [ensures_ofExcept, Ends, ensures_modifyFinding]
    refine ⟨staged.asked False.elim (by simp) _, ?_⟩
    rw [disturbed.books]
    exact Registry.modify_replaces staged.numbered live _
  · intro unpublished
    rw [Finding.withdrawn_eq_self (by simpa using unpublished)]
    exact ⟨staged, Registry.replaces_self live⟩

/-- Removing a withdrawn finding, counting it off and cancelling its resolves. -/
theorem staged_removed {f g : Finding} {r r' : Registry} (staged : Staged none hand r h)
    (replaces : r.Replaces f g e.books.registry) (hnumber : g.number = f.number)
    (hdetails : g.details = f.details) (unpublished : g.isPublished = false)
    (drops : e.books.registry.Drops g { g with state := .deleted, tracker := .empty } r') :
    Ensures (fun _ e' h' => Staged none hand e'.books.registry h' ∧
      e'.liveNumbers = e.liveNumbers.erase f.number) (Broken none)
      ((do
        Books.setRegistry r'
        Books.uncount g
        releaseEach g.tracker.pending : Work Unit) e) h := by
  have hdrops := replaces.drops staged.numbered hnumber drops
  have hnumbers : e.liveNumbers = r.live.map (·.number) := replaces.map_number hnumber
  -- what is left to do once the finding is gone
  have release : ∀ e₁ h₁, Staged none hand e₁.books.registry h₁ →
      e₁.liveNumbers = e.liveNumbers.erase f.number →
      Ensures (fun _ e' h' => Staged none hand e'.books.registry h' ∧
        e'.liveNumbers = e.liveNumbers.erase f.number) (Broken none)
        (releaseEach g.tracker.pending e₁) h₁ := by
    intro e₁ h₁ staged₁ hnumbers₁
    refine (staged_of_keeps (leaves_releaseEach detached_registry _) (.inl rfl) staged₁).imp ?_
    rintro - e₂ h₂ ⟨staged₂, hregistry⟩
    refine ⟨staged₂, ?_⟩
    rw [liveNumbers, hregistry]
    exact hnumbers₁
  simp only [ensures_bind, ensures_setRegistry, Books.uncount, ensures_ite, ensures_modifyFinding,
    ensures_pure]
  constructor
  · intro counted
    have hdrops' := hdrops.modify staged.numbered hnumber fun f => { f with inInitialScan := false }
    rw [← hnumber] at hdrops'
    have dropped := staged.drops hdrops' hnumber ⟨rfl, rfl, unpublished, rfl⟩ hdetails
    refine (staged_of_keeps (e := { e with books.registry := _ })
      (leaves_lower detached_registry _) (.inl rfl) dropped).imp ?_
    rintro - e₁ h₁ ⟨staged₁, hregistry₁⟩
    refine release e₁ h₁ staged₁ ?_
    rw [liveNumbers, hregistry₁, hnumbers]
    exact hdrops'.map_number staged.numbered
  · intro uncounted
    have dropped := staged.drops hdrops hnumber ⟨rfl, rfl, unpublished, by simpa using uncounted⟩
      hdetails
    refine release _ _ dropped ?_
    rw [hnumbers]
    exact hdrops.map_number staged.numbered

/-- Deleting a live finding. -/
theorem staged_deleteFinding {f : Finding} (staged : Staged none hand e.books.registry h)
    (live : f ∈ e.books.registry.live) :
    Ensures (fun _ e' h' => Staged none hand e'.books.registry h' ∧
      e'.liveNumbers = e.liveNumbers.erase f.number) (Broken none)
      (deleteFinding f.number e) h := by
  have hget : e.books.registry.get? f.number = some f :=
    staged.numbered.get?_number (List.mem_append_left _ live)
  simp only [deleteFinding, Books.delete, ensures_bind, ensures_books_get, hget]
  refine (staged_unpublish staged live).imp ?_
  rintro - e₁ h₁ ⟨staged₁, replaces⟩
  have numbered := staged.numbered.replaces replaces rfl
  obtain ⟨r, hremove, drops⟩ := Registry.remove_drops numbered replaces.mem'
  simp only [hremove]
  have hnumbers : e₁.liveNumbers = e.liveNumbers := replaces.map_number rfl
  rw [← hnumbers]
  exact staged_removed staged₁ replaces rfl rfl rfl drops

/-- Deleting all live findings one after another leaves none. -/
theorem staged_deleteEach {numbers : List Nat} (staged : Staged none hand e.books.registry h)
    (all : e.liveNumbers = numbers) :
    Ensures (fun _ e' h' => Staged none hand e'.books.registry h' ∧
      e'.books.registry.live = []) (Broken none)
      ((Books.deleteEach (fun _ ops => releaseEach ops) numbers : Work Unit) e) h := by
  induction numbers generalizing e h with
  | nil => exact ⟨staged, List.map_eq_nil_iff.1 all⟩
  | cons number rest ih =>
      obtain ⟨f, others, hlive, rfl, hrest⟩ := List.map_eq_cons_iff.1 all
      simp only [Books.deleteEach, ensures_bind]
      refine (staged_deleteFinding staged (by simp [hlive])).imp ?_
      rintro - e₁ h₁ ⟨staged₁, hnumbers₁⟩
      exact ih staged₁ (by rw [hnumbers₁, all, List.erase_cons_head])

/-- Deleting every finding leaves nothing at hand. -/
theorem staged_deleteFindings (staged : Staged none hand e.books.registry h) :
    Ensures (fun _ e' h' => Staged none none e'.books.registry h' ∧
      e'.books.registry.live = []) (Broken none) (deleteFindings e) h := by
  simp only [deleteFindings, Books.deleteAll, ensures_bind, ensures_books_get]
  refine (staged_deleteEach staged rfl).imp ?_
  rintro - e' h' ⟨staged', live⟩
  exact ⟨staged'.of_live_nil live, live⟩

/-! ## Ending a session -/

/-- Stopping all browses leaves no finding. -/
theorem staged_browserStop (staged : Staged none hand e.books.registry h) :
    Ensures (fun _ e' h' => Staged none none e'.books.registry h' ∧
      e'.books.registry.live = []) (Broken none) (browserStop e) h := by
  simp only [browserStop, ensures_bind, ensures_get, ensures_modify]
  refine (staged_of_keeps (leaves_stopEach detached_registry (fun _ => id) _) (.inl rfl) staged).imp ?_
  rintro - e₁ h₁ ⟨staged₁, -⟩
  exact staged_deleteFindings staged₁

/-- Tearing a session down leaves nothing at hand. -/
theorem staged_restartDefer (staged : Staged none hand e.books.registry h) :
    Ensures (fun _ e' h' => Staged none none e'.books.registry h') (Broken none)
      (restartDefer e) h := by
  simp only [restartDefer]
  rw [ensures_bind]
  refine (staged_browserStop staged).imp ?_
  rintro - e₁ h₁ ⟨staged₁, live₁⟩
  have leaves : Leaves (fun _ => True) (fun e => e.books.registry) (do
      clientStop
      armRestartTimer : Work Unit) :=
    (leaves_clientStop offline_registry trivial).bind fun _ =>
      leaves_armRestartTimer offline_registry (fun _ => trivial) fun _ => trivial
  refine (staged_of_idle leaves staged₁ live₁).imp ?_
  exact fun _ _ _ staged₂ => staged₂.1

end Engine

end ScannerDiscovery
