import ScannerDiscovery.Proofs.Engine.Balance
import ScannerDiscovery.Proofs.Engine.Ensures

/-!
# How the engine conducts its books

The routines that count tasks off and delete findings are sequences of moves, and never fail
while the books are balanced, nor if tasks have been lost.

Main definitions:

- `SoundUpToLosses` : a point at which nothing is counted off that has not been counted.
- `Sound` : a point at which the three invariants of the books hold.
- `Session` : what only the routines of client and browses change.

Main results:

- `ensures_lower` : counting a task off never fails.
- `ensures_deleteFinding`, `ensures_deleteFindings` : deleting findings.
-/

namespace ScannerDiscovery.Engine

variable {E : Fault → Engine → History → Prop} {p : Point} {e : Engine} {h : History}

/-! ## Sound points and sessions -/

/-- A point at which the registry is in order, resolves are linked, and no task is counted off that
has not been counted, though some may be lost. -/
structure SoundUpToLosses (p : Point) : Prop where
  registered : Registered p
  linked : Linked p
  tallied : ∃ lost, Tallied lost p

/-- A point at which the registry is in order, resolves are linked and the books balance. -/
structure Sound (p : Point) : Prop extends SoundUpToLosses p where
  balanced : Balanced p

/-- Every path from a point that is sound up to losses leads to one that is, -/
theorem SoundUpToLosses.path {p q : Point} (upToLosses : SoundUpToLosses p) (path : Path p q) :
    SoundUpToLosses q := by
  apply path.keeps _ upToLosses
  intro p q move upToLosses
  obtain ⟨lost, tallied⟩ := upToLosses.tallied
  exact ⟨upToLosses.registered.move move, upToLosses.linked.move move, lost, tallied.move move⟩

/-- and every path from a sound point to a sound one. -/
theorem Sound.path {p q : Point} (sound : Sound p) (path : Path p q) : Sound q :=
  ⟨sound.toSoundUpToLosses.path path,
    path.keeps (fun move balanced => balanced.move move) sound.balanced⟩

/-- What only the routines of client and browses, and the calls themselves, change. -/
structure Session where
  enabled : Bool
  ipVersion : IpVersion
  started : Bool
  failure : Option Violation
  browserRunning : Bool
  clientRunning : Bool
  browsers : OrderedMap Service Ticket

/-- The session of an engine. -/
def session (e : Engine) : Session :=
  ⟨e.enabled, e.ipVersion, e.started, e.failure, e.browserRunning, e.clientRunning, e.browsers⟩

theorem Disturbed.session {e e' : Engine} (h : Disturbed e e') : e'.session = e.session := by
  rw [h.eq]
  rfl

theorem Disturbed.books {e e' : Engine} (h : Disturbed e e') : e'.books = e.books := by
  rw [h.eq]

/-! ## Counting off -/

/-- Methods are reported done one after another. -/
theorem ensures_report {methods : List Method} {ops : List Ticket}
    (path : Path p ⟨{ signals := methods, ops }, e.holdings, h⟩) :
    Ensures (fun _ e' h' => Path p ⟨{ ops }, e'.holdings, h'⟩ ∧ e'.session = e.session ∧
      e'.books = e.books) E ((Books.report methods : Work Unit) e) h := by
  induction methods generalizing e h with
  | nil => exact ⟨path, rfl, rfl⟩
  | cons m rest ih =>
      simp only [Books.report, ensures_bind]
      refine ensures_routine_ask fun answer e' admits disturbed => ?_
      have next :
          Path p ⟨{ signals := rest, ops }, e'.holdings, .asked e (.scanDone m) () :: h⟩ := by
        rw [disturbed.holdings]
        exact path.tail (.signalled rfl)
      refine (ih next).imp ?_
      rintro - e'' h'' ⟨path, hsession, hbooks⟩
      exact ⟨path, hsession.trans disturbed.session, hbooks.trans disturbed.books⟩

/-- Counting a task off never fails. -/
theorem ensures_lower {m : Method} {ops : List Ticket} (upToLosses : SoundUpToLosses p)
    (path : Path p ⟨{ task := some m, ops }, e.holdings, h⟩) :
    Ensures (fun _ e' h' => Path p ⟨{ ops }, e'.holdings, h'⟩ ∧ e'.session = e.session ∧
      e'.books.registry = e.books.registry) E ((Books.lower m : Work Unit) e) h := by
  simp only [Books.lower, ensures_bind, ensures_books_get]
  cases dec : e.books.gate.dec m with
  | none =>
      obtain ⟨lost, tallied⟩ := (upToLosses.path path).tallied
      exact absurd dec (tallied.dec_ne_none rfl)
  | some result =>
      obtain ⟨gate, fired⟩ := result
      simp only [ensures_bind, ensures_setGate]
      have next : Path p ⟨{ signals := fired, ops },
          ({ e with books.gate := gate } : Engine).holdings, h⟩ := path.tail (.countedOff dec)
      refine (ensures_report next).imp ?_
      rintro - e' h' ⟨path, hsession, hbooks⟩
      exact ⟨path, hsession, by rw [hbooks]⟩

/-! ## Releasing resolves -/

/-- The resolves of a removed finding are cancelled one after another. -/
theorem ensures_releaseEach {ops : List Ticket} (path : Path p ⟨{ ops }, e.holdings, h⟩) :
    Ensures (fun _ e' h' => Path p ⟨{}, e'.holdings, h'⟩ ∧ e'.session = e.session ∧
      e'.books = e.books) E (releaseEach ops e) h := by
  induction ops generalizing e h with
  | nil => exact ⟨path, rfl, rfl⟩
  | cons op rest ih =>
      simp only [releaseEach, ensures_bind, ensures_modify]
      refine ensures_ask fun answer e' admits disturbed => ?_
      refine (ih ?_).imp ?_
      · rw [disturbed.holdings]
        exact path.tail (.cancelled rfl)
      · rintro - e'' h'' ⟨path, hsession, hbooks⟩
        exact ⟨path, hsession.trans disturbed.session, hbooks.trans disturbed.books⟩

/-! ## Deleting findings -/

/-- The numbers of the live findings. -/
def liveNumbers (e : Engine) : List Nat :=
  e.books.registry.live.map (·.number)

theorem Disturbed.liveNumbers {e e' : Engine} (h : Disturbed e e') :
    e'.liveNumbers = e.liveNumbers := by
  unfold Engine.liveNumbers
  rw [h.books]

/-- The findings of a point that is sound up to losses are numbered. -/
theorem SoundUpToLosses.numbered {d : Debt} (upToLosses : SoundUpToLosses p)
    (path : Path p ⟨d, e.holdings, h⟩) :
    e.books.registry.WellNumbered :=
  (upToLosses.path path).registered.numbered

/-- Withdrawing a live finding leaves it in its place. -/
theorem ensures_unpublish {f : Finding} (upToLosses : SoundUpToLosses p)
    (path : Path p ⟨{}, e.holdings, h⟩) (live : f ∈ e.books.registry.live) :
    Ensures (fun _ e' h' => Path p ⟨{}, e'.holdings, h'⟩ ∧ e'.session = e.session ∧
      e'.liveNumbers = e.liveNumbers ∧
      ∃ f' ∈ e'.books.registry.live, f'.number = f.number ∧ f'.isPublished = false) E
      ((Books.unpublish f : Work Unit) e) h := by
  simp only [Books.unpublish, ensures_ite, ensures_bind]
  constructor
  · intro published
    refine ensures_routine_ask fun answer e' admits disturbed => ?_
    obtain rfl : answer = .ok () := admits
    have path' : Path p ⟨{}, e'.holdings, h⟩ := disturbed.holdings ▸ path
    have live' : f ∈ e'.books.registry.live := disturbed.books ▸ live
    have replaces := Registry.modify_replaces (upToLosses.numbered path') live'
      fun f => { f with isPublished := false }
    have hnumbers := replaces.map_number rfl
    simp only [ensures_ofExcept, Ends, ensures_modifyFinding]
    refine ⟨?_, disturbed.session, hnumbers.trans disturbed.liveNumbers, _, replaces.mem', rfl, rfl⟩
    exact path'.tail (.withdrawn disturbed.holdings.symm published replaces)
  · intro unpublished
    exact ⟨path, rfl, rfl, f, live, rfl, by simpa using unpublished⟩

/-- Removing a finding that is not published, counting it off and cancelling its resolves never
fails. -/
theorem ensures_removed {f : Finding} {r : Registry} (upToLosses : SoundUpToLosses p)
    (path : Path p ⟨{}, e.holdings, h⟩) (unpublished : f.isPublished = false)
    (drops : e.books.registry.Drops f { f with state := .deleted, tracker := .empty } r) :
    Ensures (fun _ e' h' => Path p ⟨{}, e'.holdings, h'⟩ ∧ e'.session = e.session ∧
      e'.liveNumbers = e.liveNumbers.erase f.number) E
      ((do
        Books.setRegistry r
        Books.uncount f
        releaseEach f.tracker.pending : Work Unit) e) h := by
  have numbered := upToLosses.numbered path
  simp only [ensures_bind, ensures_setRegistry, Books.uncount, ensures_ite, ensures_modifyFinding,
    ensures_pure]
  constructor
  · intro counted
    have drops' := drops.modify numbered rfl fun f => { f with inInitialScan := false }
    have hnumbers := drops'.map_number numbered
    have next := path.tail (.removed unpublished rfl drops')
    rw [if_pos counted] at next
    refine (ensures_lower upToLosses next).imp ?_
    rintro - e₁ h₁ ⟨path₁, hsession₁, hregistry₁⟩
    refine (ensures_releaseEach path₁).imp ?_
    rintro - e₂ h₂ ⟨path₂, hsession₂, hbooks₂⟩
    refine ⟨path₂, hsession₂.trans hsession₁, ?_⟩
    rw [liveNumbers, hbooks₂, hregistry₁]
    exact hnumbers
  · intro uncounted
    have hflag : f.inInitialScan = false := by simpa using uncounted
    have hnumbers := drops.map_number numbered
    have next := path.tail (.removed unpublished (by rw [← hflag]) drops)
    rw [if_neg uncounted] at next
    refine (ensures_releaseEach next).imp ?_
    rintro - e₁ h₁ ⟨path₁, hsession₁, hbooks₁⟩
    refine ⟨path₁, hsession₁, ?_⟩
    rw [liveNumbers, hbooks₁]
    exact hnumbers

/-- Deleting a live finding never fails. -/
theorem ensures_deleteFinding {f : Finding} (upToLosses : SoundUpToLosses p)
    (path : Path p ⟨{}, e.holdings, h⟩) (live : f ∈ e.books.registry.live) :
    Ensures (fun _ e' h' => Path p ⟨{}, e'.holdings, h'⟩ ∧ e'.session = e.session ∧
      e'.liveNumbers = e.liveNumbers.erase f.number) E (deleteFinding f.number e) h := by
  have hget : e.books.registry.get? f.number = some f :=
    (upToLosses.numbered path).get?_number (List.mem_append_left _ live)
  simp only [deleteFinding, Books.delete, ensures_bind, ensures_books_get, hget]
  refine (ensures_unpublish upToLosses path live).imp ?_
  rintro - e₁ h₁ ⟨path₁, hsession₁, hnumbers₁, f₁, live₁, hnumber₁, unpublished₁⟩
  obtain ⟨r, hremove, drops⟩ := Registry.remove_drops (upToLosses.numbered path₁) live₁
  rw [hnumber₁] at hremove
  simp only [hremove]
  refine (ensures_removed upToLosses path₁ unpublished₁ drops).imp ?_
  rintro - e₂ h₂ ⟨path₂, hsession₂, hnumbers₂⟩
  exact ⟨path₂, hsession₂.trans hsession₁, by rw [hnumbers₂, hnumbers₁, hnumber₁]⟩

/-- Deleting all live findings one after another leaves none. -/
theorem ensures_deleteEach {numbers : List Nat} (upToLosses : SoundUpToLosses p)
    (path : Path p ⟨{}, e.holdings, h⟩) (all : e.liveNumbers = numbers) :
    Ensures (fun _ e' h' => Path p ⟨{}, e'.holdings, h'⟩ ∧ e'.session = e.session ∧
      e'.books.registry.live = []) E
      ((Books.deleteEach (fun _ ops => releaseEach ops) numbers : Work Unit) e) h := by
  induction numbers generalizing e h with
  | nil => exact ⟨path, rfl, List.map_eq_nil_iff.1 all⟩
  | cons number rest ih =>
      obtain ⟨f, others, hlive, rfl, hrest⟩ := List.map_eq_cons_iff.1 all
      simp only [Books.deleteEach, ensures_bind]
      refine (ensures_deleteFinding upToLosses path (by simp [hlive])).imp ?_
      rintro - e₁ h₁ ⟨path₁, hsession₁, hnumbers₁⟩
      refine (ih path₁ (by rw [hnumbers₁, all, List.erase_cons_head])).imp ?_
      rintro - e₂ h₂ ⟨path₂, hsession₂, hlive₂⟩
      exact ⟨path₂, hsession₂.trans hsession₁, hlive₂⟩

/-- Deleting every finding never fails. -/
theorem ensures_deleteFindings (upToLosses : SoundUpToLosses p)
    (path : Path p ⟨{}, e.holdings, h⟩) :
    Ensures (fun _ e' h' => Path p ⟨{}, e'.holdings, h'⟩ ∧ e'.session = e.session ∧
      e'.books.registry.live = []) E (deleteFindings e) h := by
  simp only [deleteFindings, Books.deleteAll, ensures_bind, ensures_books_get]
  exact ensures_deleteEach upToLosses path rfl

end ScannerDiscovery.Engine
