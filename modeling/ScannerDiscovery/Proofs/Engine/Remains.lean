import ScannerDiscovery.Proofs.Engine.Breaks
import ScannerDiscovery.Proofs.Engine.InitialScan
import ScannerDiscovery.Proofs.Engine.Resources
import ScannerDiscovery.Proofs.Engine.Sessions.Recovery

/-!
# What a call leaves behind that is broken off

A call is broken off where the engine stops a browse, stops its client or starts it.  What it has
done by then is a sequence of moves, as it is in a call that goes on.  But the task of a browse that
is being stopped has ended and is not counted off: the engine has forgotten the browse before it
asked for the stop, and counts its task off only afterwards.  Nothing else is left half done.

Main definitions:

- `Abandons` : the task that is lost at a request.
- `BrowsesHeld` : how browses are accounted for, even if handles are given out again.
- `AccountedExcept` : points at which all is accounted for, but for a task that is lost.
- `Remains` : what is left where a call is broken off.

Main results:

- `Reached.at_entry` : the move by which an entry has come into a history.
- `Reached.remains` : what is left where a call is broken off.
- `Remains.accountedExcept` : one task is lost then.
-/

namespace ScannerDiscovery.Engine

variable {p q : Point} {e e' : Engine} {h h' before : History} {handle : Ticket}

/-! ## The moves that are recorded -/

/-- A move records one thing or nothing. -/
theorem Move.history_cases (move : Move p q) :
    q.history = p.history ∨ ∃ entry, q.history = entry :: p.history := by
  cases move <;> first | exact .inl rfl | exact .inr ⟨_, rfl⟩

/-- An entry has come into a history by a move. -/
theorem Path.at_entry {entry : Entry} (path : Path p q) (recorded : entry :: before <:+ q.history)
    (new : p.history <:+ before) :
    ∃ p' q', Path p p' ∧ Move p' q' ∧ p'.history = before ∧ q'.history = entry :: before := by
  induction path with
  | refl =>
      have shorter := List.length_cons ▸ recorded.length_le
      have longer := new.length_le
      omega
  | @tail p' q' path move ih =>
      rcases move.history_cases with same | ⟨entry', added⟩
      · rw [same] at recorded
        exact ih recorded
      · rw [added] at recorded
        rcases List.suffix_cons_iff.1 recorded with heq | earlier
        · obtain ⟨rfl, hbefore⟩ := List.cons.inj heq
          exact ⟨p', q', path, move, hbefore.symm, by rw [added, hbefore]⟩
        · exact ih earlier

/-- Every entry of an admissible run has come into its history by a move. -/
theorem Reached.at_entry {m : Moment} {entry : Entry} (reached : Reached m)
    (admissible : Admissible m.history) (recorded : entry :: before <:+ m.history) :
    ∃ p q, Path ⟨{}, .initial, []⟩ p ∧ Move p q ∧ p.history = before ∧
      q.history = entry :: before :=
  (reached.conducted admissible).1.at_entry recorded (List.nil_suffix)

/-- What is so when a browse has been asked to stop. -/
theorem Move.closing {answer : Except Fault Unit} (move : Move p q)
    (recorded : q.history = .asked e (.stopBrowse handle) answer :: p.history) :
    p.debt = {} ∧ ∃ service, p.holdings.browsers.get? service = some handle ∧
      e.holdings = { p.holdings with browsers := p.holdings.browsers.erase service } := by
  cases move with
  | noted at_e minor =>
      simp only [List.cons.injEq, Entry.asked.injEq] at recorded
      obtain ⟨⟨rfl, rfl, -⟩, -⟩ := recorded
      exact minor.elim
  | @closed w h e' service handle' answer' current at_e =>
      simp only [List.cons.injEq, Entry.asked.injEq, Request.stopBrowse.injEq] at recorded
      obtain ⟨⟨rfl, rfl, -⟩, -⟩ := recorded
      exact ⟨rfl, service, current, at_e⟩
  | _ => simp at recorded

/-- What is so when the client has been asked to stop. -/
theorem Move.stopping {answer : Except Fault Unit} (move : Move p q)
    (recorded : q.history = .asked e .stopClient answer :: p.history) :
    p.debt = {} ∧ p.holdings.clientRunning = true ∧ p.holdings.browsers = .empty ∧
      e.holdings = { p.holdings with clientRunning := false } := by
  cases move with
  | noted at_e minor =>
      simp only [List.cons.injEq, Entry.asked.injEq] at recorded
      obtain ⟨⟨rfl, rfl, -⟩, -⟩ := recorded
      exact minor.elim
  | @clientStopped w h e' answer' up browsers at_e =>
      simp only [List.cons.injEq, Entry.asked.injEq] at recorded
      obtain ⟨⟨rfl, -, -⟩, -⟩ := recorded
      exact ⟨rfl, up, browsers, at_e⟩
  | _ => simp at recorded

/-- What is so when the client has been started. -/
theorem Move.starting (move : Move p q)
    (recorded : q.history = .asked e .startClient (.ok ()) :: p.history) :
    p.debt = {} ∧ e.holdings = p.holdings := by
  cases move with
  | noted at_e minor =>
      simp only [List.cons.injEq, Entry.asked.injEq] at recorded
      obtain ⟨⟨rfl, rfl, hanswer⟩, -⟩ := recorded
      rw [eq_of_heq hanswer] at minor
      exact minor.elim
  | @clientStarted w h e' at_e down =>
      simp only [List.cons.injEq, Entry.asked.injEq] at recorded
      obtain ⟨⟨rfl, -, -⟩, -⟩ := recorded
      exact ⟨rfl, at_e⟩
  | _ => simp at recorded

/-! ## Browses -/

/-- Whether browses are accounted for, handles being given out again or not: a current one is a
browse of the client that runs and has been opened, and whatever else has been opened has been
closed. -/
structure BrowsesHeld (p : Point) : Prop where
  current : ∀ service handle, p.holdings.browsers.get? service = some handle →
    p.holdings.clientRunning = true ∧ (service, handle) ∈ opened p.history
  past : ∀ service handle, (service, handle) ∈ opened p.history →
    p.holdings.browsers.get? service = some handle ∨ handle ∈ closed p.history

/-- Browses stay accounted for while they are left alone, and the client does not stop. -/
theorem BrowsesHeld.same {d d' : Debt} {w w' : Holdings} {h h' : History}
    (held : BrowsesHeld ⟨d, w, h⟩) (hbrowsers : w'.browsers = w.browsers)
    (hclient : w.clientRunning = true → w'.clientRunning = true) (hopened : opened h' = opened h)
    (hclosed : closed h' = closed h) : BrowsesHeld ⟨d', w', h'⟩ := by
  refine ⟨?_, ?_⟩
  · intro service handle hget
    rw [hbrowsers] at hget
    rw [hopened]
    have current := held.current service handle hget
    exact ⟨hclient current.1, current.2⟩
  · intro service handle hs
    rw [hopened] at hs
    rw [hbrowsers, hclosed]
    exact held.past service handle hs

/-- A browse of the client is opened. -/
theorem BrowsesHeld.open {d d' : Debt} {w : Holdings} {h : History} {service : Service}
    {gate : Gate} (held : BrowsesHeld ⟨d, w, h⟩) (client : w.clientRunning = true)
    (vacant : w.browsers.get? service = none) :
    BrowsesHeld ⟨d', { w with browsers := w.browsers.insert service handle, gate },
      .asked e (.startBrowse service) (.ok handle) :: h⟩ := by
  have hopened : opened (.asked e (.startBrowse service) (.ok handle) :: h) =
      (service, handle) :: opened h := rfl
  refine ⟨?_, ?_⟩
  · intro s handle' hget
    refine ⟨client, ?_⟩
    rw [OrderedMap.get?_insert] at hget
    rw [hopened]
    by_cases heq : s = service
    · rw [if_pos heq, Option.some.injEq] at hget
      rw [heq, hget]
      exact List.mem_cons_self
    · rw [if_neg heq] at hget
      exact List.mem_cons_of_mem _ (held.current s handle' hget).2
  · intro s handle' hs
    rw [hopened] at hs
    rw [OrderedMap.get?_insert]
    rcases List.mem_cons.1 hs with heq | hs
    · obtain ⟨rfl, rfl⟩ := Prod.mk.inj heq
      exact .inl (if_pos rfl)
    · rcases held.past s handle' hs with hget | hclosed
      · have hne : s ≠ service := by
          rintro rfl
          rw [vacant] at hget
          cases hget
        exact .inl ((if_neg hne).trans hget)
      · exact .inr hclosed

/-- A browse is closed. -/
theorem BrowsesHeld.close {d d' : Debt} {w : Holdings} {h : History} {service : Service}
    {answer : Except Fault Unit} (held : BrowsesHeld ⟨d, w, h⟩)
    (hcurrent : w.browsers.get? service = some handle) :
    BrowsesHeld ⟨d', { w with browsers := w.browsers.erase service },
      .asked e (.stopBrowse handle) answer :: h⟩ := by
  have hclosed : closed (.asked e (.stopBrowse handle) answer :: h) = handle :: closed h := rfl
  refine ⟨?_, ?_⟩
  · intro s handle' hget
    rw [OrderedMap.get?_erase] at hget
    by_cases heq : s = service
    · rw [if_pos heq] at hget
      cases hget
    · rw [if_neg heq] at hget
      exact held.current s handle' hget
  · intro s handle' hs
    rw [OrderedMap.get?_erase, hclosed]
    rcases held.past s handle' hs with hget | hmem
    · by_cases heq : s = service
      · rw [heq, hcurrent, Option.some.injEq] at hget
        rw [hget]
        exact .inr List.mem_cons_self
      · exact .inl ((if_neg heq).trans hget)
    · exact .inr (List.mem_cons_of_mem _ hmem)

/-- The client is stopped, there being no browses. -/
theorem BrowsesHeld.stopClient {d d' : Debt} {w : Holdings} {h : History}
    {answer : Except Fault Unit} {clientRunning : Bool} (held : BrowsesHeld ⟨d, w, h⟩)
    (browsers : w.browsers = .empty) :
    BrowsesHeld ⟨d', { w with clientRunning }, .asked e .stopClient answer :: h⟩ := by
  refine ⟨?_, held.past⟩
  intro service handle hget
  rw [browsers] at hget
  cases hget

/-- Every move keeps browses accounted for. -/
theorem BrowsesHeld.move (move : Move p q) (held : BrowsesHeld p) : BrowsesHeld q := by
  cases move with
  | @noted d w h e request answer at_e minor =>
      obtain ⟨-, -, -, hopened, hclosed, -⟩ := minor.no_use e h
      exact held.same rfl id hopened hclosed
  | opened at_e client vacant => exact held.open client vacant
  | closed current at_e => exact held.close current
  | clientStarted at_e down => exact held.same rfl (fun _ => rfl) rfl rfl
  | clientStopped up browsers at_e => exact held.stopClient browsers
  | _ => exact held.same rfl id rfl rfl

theorem BrowsesHeld.initial : BrowsesHeld ⟨{}, .initial, []⟩ := by
  refine ⟨?_, ?_⟩
  · intro service handle hget
    cases hget
  · intro service handle hopened
    exact absurd hopened List.not_mem_nil

/-! ## One task lost -/

/-- Whether everything at a point is accounted for, except for a task that is lost, if any. -/
structure AccountedExcept (task : Option Method) (p : Point) : Prop where
  registered : Registered p
  linked : Linked p
  tallied : Tallied (fun m => if task = some m then 1 else 0) p
  client : ClientKept p
  browses : BrowsesHeld p

theorem AccountedExcept.soundUpToLosses {task : Option Method}
    (accounted : AccountedExcept task p) :
    SoundUpToLosses p :=
  ⟨accounted.registered, accounted.linked, _, accounted.tallied⟩

/-- A task that is lost stays lost. -/
theorem AccountedExcept.path {task : Option Method} (accounted : AccountedExcept task p)
    (path : Path p q) : AccountedExcept task q := by
  apply path.keeps _ accounted
  intro p q move accounted
  exact ⟨accounted.registered.move move, accounted.linked.move move, accounted.tallied.move move,
    accounted.client.move move, accounted.browses.move move⟩

/-- A task that has ended and will not be counted off is lost. -/
theorem AccountedExcept.of_path {task : Option Method} {w : Holdings}
    (path : Path ⟨{}, .initial, []⟩ ⟨{ task }, w, h⟩) : AccountedExcept task ⟨{}, w, h⟩ := by
  have sound := Sound.initial.path path
  have client : ClientKept ⟨{ task }, w, h⟩ := path.keeps (fun move => ClientKept.move move)
    Kept.initial.client
  have browses : BrowsesHeld ⟨{ task }, w, h⟩ := path.keeps (fun move => BrowsesHeld.move move)
    .initial
  refine ⟨sound.registered.same rfl (.inl rfl), sound.linked, ⟨?_, by simp⟩,
    client.same rfl rfl, browses.same rfl id rfl rfl⟩
  exact sound.balanced.count

/-! ## Where a call is broken off -/

/-- Whether a task, if any, is lost if a call is broken off at a request: that of a browse in its
initial phase which is being stopped. -/
def Abandons (e : Engine) (before : History) : Request → Option Method → Prop
  | .stopBrowse handle, task => ∃ service, (service, handle) ∈ opened before ∧
    task = if e.gate.inInitialScan service then some service.method else none
  | _, task => task = none

/-- What is left of an engine where a call is broken off at a request. -/
structure Remains (e : Engine) (request : Request) (before : History) (task : Option Method) :
    Prop where
  abandons : Abandons e before request task
  /-- While browses are stopped the client runs. -/
  browsing : ∀ handle, request = .stopBrowse handle → e.clientRunning = true
  /-- The client is stopped when everything else has been given back. -/
  torn : request = .stopClient → e.clientRunning = false ∧ e.browsers = .empty ∧
    e.registry.live = [] ∧ (catalogAfter before).findings = .empty

/-- The moves that lead to where a call is broken off, and what is left there. -/
theorem Reached.remains {call : Call} {fault : Fault} {request : Request} {answer : request.Answer}
    {e₀ : Engine} {h₀ : History} {r : Except Fault Unit} (reached : Reached ⟨e₀, h₀⟩)
    (possible : call.IsPossible e₀)
    (runs : Runs (call.routine e₀) (.called e₀ call :: h₀) r e' (.asked e request answer :: before))
    (new : .called e₀ call :: h₀ <:+ before) (admissible : Admissible before)
    (breaks : BreaksOff fault request answer) :
    ∃ task, Path ⟨{}, .initial, []⟩ ⟨{ task }, e.holdings, .asked e request answer :: before⟩ ∧
      Remains e request before task := by
  have resumed {answer' : request.Answer} (admits : request.Admits answer') :
      ∃ m, Reached m ∧ Admissible m.history ∧ .asked e request answer' :: before <:+ m.history := by
    obtain ⟨r', e'', h'', runs', admissible', recorded⟩ := runs.resumed new admissible admits
    exact ⟨⟨e'', h''⟩, reached.step (.call call possible runs'), admissible', recorded⟩
  cases request with
  | stopBrowse handle =>
      have granted : Request.Admits (.stopBrowse handle) (.ok ()) := trivial
      obtain ⟨m, reached', admissible', recorded⟩ := resumed granted
      obtain ⟨⟨d, w, h⟩, q, path, move, rfl, hq⟩ := reached'.at_entry admissible' recorded
      obtain ⟨rfl, service, current, at_e⟩ := move.closing hq
      have held : BrowsesHeld ⟨{}, w, h⟩ := path.keeps (fun move => BrowsesHeld.move move) .initial
      obtain ⟨client, hopened⟩ := held.current service handle current
      have hgate : e.gate = w.gate := congrArg Holdings.gate at_e
      have up : e.clientRunning = true := (congrArg Holdings.clientRunning at_e).trans client
      refine ⟨if e.gate.inInitialScan service then some service.method else none, ?_, ?_⟩
      · rw [at_e, hgate]
        exact path.tail (.closed current at_e)
      · exact ⟨⟨service, hopened, rfl⟩, fun _ _ => up, by simp⟩
  | stopClient =>
      have granted : Request.Admits .stopClient (.ok ()) := trivial
      obtain ⟨m, reached', admissible', recorded⟩ := resumed granted
      obtain ⟨live, withdrawn⟩ := reached'.torn admissible' recorded trivial
      obtain ⟨⟨d, w, h⟩, q, path, move, rfl, hq⟩ := reached'.at_entry admissible' recorded
      obtain ⟨rfl, up, browsers, at_e⟩ := move.stopping hq
      have down : e.clientRunning = false := congrArg Holdings.clientRunning at_e
      have none : e.browsers = .empty := (congrArg Holdings.browsers at_e).trans browsers
      refine ⟨.none, ?_, ?_⟩
      · rw [at_e]
        exact path.tail (.clientStopped up browsers at_e)
      · exact ⟨rfl, by simp, fun _ => ⟨down, none, live, withdrawn⟩⟩
  | startClient =>
      have granted : Request.Admits .startClient (.ok ()) := trivial
      obtain ⟨m, reached', admissible', recorded⟩ := resumed granted
      obtain ⟨⟨d, w, h⟩, q, path, move, rfl, hq⟩ := reached'.at_entry admissible' recorded
      obtain ⟨rfl, at_e⟩ := move.starting hq
      have failed : answer = .error fault := breaks
      refine ⟨.none, ?_, ⟨rfl, by simp, by simp⟩⟩
      rw [at_e, failed]
      exact path.tail (.noted at_e trivial)
  | _ => exact breaks.elim

end ScannerDiscovery.Engine
