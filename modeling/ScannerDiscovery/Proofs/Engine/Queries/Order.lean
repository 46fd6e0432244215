import ScannerDiscovery.Proofs.Engine.Queries.Handlers

/-!
# Desks in order

A query is replied to when all events that were posted before it have been handled and none that was
posted after it.  Until then it waits in the mailbox.  It fails if the engine halts or is stopped
before, so that none is lost; and the mailbox counts what is not yet finished, so that those who
wait until nothing is left wait for just that.

Main definitions:

- `Settlement.Explained` : how queries are settled.
- `Stage.Fits` : how what is at work on an engine agrees with its state.
- `Desk.Sound` : what holds at a desk at every moment.

Main results:

- `Desk.take_cases`, `Desk.answered_cases`, `Desk.stop_cases` : how a handler or the stop goes on.
- `Desk.Sound.serve`, `Desk.Sound.close` : a handler and the stop leave a desk sound.
- `Desk.Sound.act` : whatever happens leaves a desk sound.
-/

namespace ScannerDiscovery.Engine

variable {answer : Question → Registry → Except Fault Reply}

/-! ## Sound desks -/

/-- Whether it is explained how a query has been settled.  In a turn it has been replied to in its
place among the events, or the turn has halted the engine.  The stop has failed it.  Otherwise it
has been settled as it was issued: refused by a halted engine, or replied to without a mailbox. -/
def Settlement.Explained (answer : Question → Registry → Except Fault Reply) (d : Desk)
    (s : Settlement) : Prop :=
  match s.call with
  | .turn =>
    match s.engine.failure with
    | none => ∃ question later, d.posted = s.handled ++ .query s.ticket question :: later ∧
      s.outcome = answer question s.engine.registry
    | some broken => d.engine.failure = some broken ∧ s.outcome = .error (.invariant broken)
  | .stop => d.engine.mailbox = none ∧ s.outcome = .error .stopped
  | .query ticket question => s.ticket = ticket ∧
    match s.engine.failure with
    | none => s.engine.mailbox = none ∧ s.outcome = answer question s.engine.registry
    | some _ => s.outcome = .error (.invariant .halted)
  | .start => False

/-- Whether what is at work on an engine is what its state shows. -/
def Stage.Fits (e : Engine) : Stage → Prop
  | .idle => e.started = true
  | .handling event _ resume => event.ticket? = none ∧ e.mailbox.isSome = true ∧
    e.started = true ∧ ∀ answer e', e'.mailbox.isSome → Serves (front e') (resume answer e')
  | .stopping _ resume => e.mailbox.isSome = false ∧
    ∀ answer e', SparesFrom (fun r => ¬r.Replies) back (back e') (resume answer e')
  | .stopped => e.mailbox.isSome = false

theorem Stage.Fits.aside {stage : Stage} {e e' : Engine} (fits : stage.Fits e)
    (mailbox : e'.mailbox.isSome = e.mailbox.isSome) (started : e'.started = e.started) :
    stage.Fits e' := by
  cases stage with
  | idle => exact started.trans fits
  | handling event request resume =>
      obtain ⟨other, waits, running, next⟩ := fits
      exact ⟨other, mailbox.trans waits, started.trans running, next⟩
  | stopping request resume => exact ⟨mailbox.trans fits.1, fits.2⟩
  | stopped => exact mailbox.trans fits

namespace Desk

/-- What holds at a desk at every moment.  Every query has been settled once, or it is among the
events left; the mailbox counts these, and they are the last ones posted.  After a halt none is
left, and if none is left nobody waits. -/
structure Sound (answer : Question → Registry → Except Fault Reply) (d : Desk) : Prop where
  issued : d.issued.Nodup
  kept : d.issued.Perm (d.settled.map (·.ticket) ++ tickets d.left)
  explained : ∀ s ∈ d.settled, s.Explained answer d
  counted : ∀ box, d.engine.mailbox = some box → box.unfinished = d.left.length
  ordered : d.engine.mailbox.isSome → d.engine.failure = none → d.posted = d.handled ++ d.left
  halted : d.engine.failure.isSome → d.left = []
  drained : d.left = [] → d.drains = []
  fits : d.stage.Fits d.engine

end Desk

/-- An explanation goes on to hold. -/
theorem Settlement.Explained.mono {d d' : Desk} {s : Settlement} (explained : s.Explained answer d)
    (posted : ∃ more, d'.posted = d.posted ++ more)
    (failed : ∀ broken, d.engine.failure = some broken → d'.engine.failure = some broken)
    (closed : d.engine.mailbox = none → d'.engine.mailbox = none) : s.Explained answer d' := by
  obtain ⟨more, hposted⟩ := posted
  unfold Explained at explained ⊢
  cases hcall : s.call with
  | turn =>
      simp only [hcall] at explained ⊢
      cases hfailure : s.engine.failure with
      | none =>
          simp only [hfailure] at explained ⊢
          obtain ⟨question, later, before, outcome⟩ := explained
          exact ⟨question, later ++ more, by simp [hposted, before], outcome⟩
      | some broken =>
          simp only [hfailure] at explained ⊢
          exact ⟨failed broken explained.1, explained.2⟩
  | stop =>
      simp only [hcall] at explained ⊢
      exact ⟨closed explained.1, explained.2⟩
  | query ticket question =>
      simp only [hcall] at explained ⊢
      exact explained
  | start =>
      simp only [hcall] at explained

namespace Desk

variable {d d' : Desk} {event : Event} {box : Mailbox} {e : Engine}

theorem tickets_append (events more : List Event) :
    tickets (events ++ more) = tickets events ++ tickets more :=
  List.filterMap_append

theorem tickets_cons_of_none (other : event.ticket? = none) (events : List Event) :
    tickets (event :: events) = tickets events :=
  List.filterMap_cons_none other

theorem noted_nil (d : Desk) (call : Call) : d.noted call [] = d := by
  simp [noted]

theorem settled_noted (d : Desk) (call : Call) (given : List (Nat × Except Fault Reply × Engine)) :
    (d.noted call given).settled.map (·.ticket) = d.settled.map (·.ticket) ++ given.map (·.1) := by
  simp [noted, Function.comp_def]

/-- Explanations go on to hold while the mailbox is there and nothing has failed before. -/
theorem Sound.explained_of (sound : d.Sound answer) (intact : d.engine.failure = none)
    (opened : d.engine.mailbox.isSome) (posted : d'.posted = d.posted) :
    ∀ s ∈ d.settled, s.Explained answer d' := by
  intro s hs
  refine (sound.explained s hs).mono ⟨[], by simp [posted]⟩ (by simp [intact]) fun closed => ?_
  simp [closed] at opened

/-! ## Handlers -/

/-- Whether an event is being handled, with what else is in the mailbox, from where its handler
stands. -/
structure Serving (d : Desk) (event : Event) (box : Mailbox)
    (o : Outcome requests Engine Fault Unit) : Prop where
  other : event.ticket? = none
  intact : d.engine.failure = none
  opened : d.engine.mailbox.isSome
  left : d.left = event :: box.waiting
  counts : box.unfinished = box.waiting.length + 1
  serves : Serves (some box, none, true) o

/-- A handler that goes on leaves a desk sound. -/
theorem Sound.waits (sound : d.Sound answer) {request : Request}
    {resume : request.Answer → Engine → Outcome requests Engine Fault Unit}
    (serving : Serving d event box (.paused e request resume))
    (seen : front e = (some box, none, true)) (silent : ¬request.Replies)
    (next : ∀ answer e', e'.mailbox.isSome → Serves (front e') (resume answer e')) :
    (d.serve event (.paused e request resume)).Sound answer := by
  obtain ⟨other, intact, opened, left, counts, -⟩ := serving
  obtain ⟨hmailbox, hfailure, hstarted⟩ : e.mailbox = some box ∧ e.failure = none ∧
      e.started = true := by
    simpa only [front, Prod.mk.injEq] using seen
  have served : d.serve event (.paused e request resume) =
      { d with
        engine := e
        stage := .handling event request resume
        asked := d.asked ++ [request] } := by
    rw [Desk.serve, afterReplies_of_silent silent, replies_of_silent silent, noted_nil]
  have same : (d.serve event (.paused e request resume)).left = d.left := by
    rw [served, Desk.left, waiting, hmailbox, left]
    rfl
  rw [served] at same ⊢
  refine ⟨sound.issued, same ▸ sound.kept, sound.explained_of intact opened rfl, ?_,
    fun _ _ => same ▸ sound.ordered opened intact, ?_, ?_, other, ?_, hstarted, next⟩
  · intro box' hbox'
    obtain rfl : box = box' := Option.some.inj (hmailbox.symm.trans hbox')
    rw [same, left, counts, List.length_cons]
  · intro failed
    simp [hfailure] at failed
  · intro empty
    rw [same, left] at empty
    cases empty
  · simp [hmailbox]

/-- The end of a handler leaves a desk sound. -/
theorem Sound.ends (sound : d.Sound answer) (intact : d.engine.failure = none)
    (opened : d.engine.mailbox.isSome) {w : List Event}
    {given : List (Nat × Except Fault Reply × Engine)}
    (hmailbox : e.mailbox = some ⟨w, w.length⟩) (hstarted : e.started = true)
    (kept : (tickets d.left).Perm (given.map (·.1) ++ tickets w))
    (goes_on : e.failure = none → d.left = event :: w)
    (halts : e.failure.isSome → w = [])
    (explained : ∀ ticket outcome engine, (ticket, outcome, engine) ∈ given →
      Settlement.Explained answer ((d.noted .turn given).finished event e)
        { ticket, outcome, call := .turn, engine, handled := d.handled }) :
    ((d.noted .turn given).finished event e).Sound answer := by
  have left : ((d.noted .turn given).finished event e).left = w := by
    rw [Desk.left, Engine.waiting, finished, hmailbox]
    rfl
  refine ⟨sound.issued, ?_, ?_, ?_, ?_, ?_, ?_, hstarted⟩
  · rw [left]
    refine sound.kept.trans ?_
    change List.Perm _ ((d.noted .turn given).settled.map (·.ticket) ++ _)
    rw [settled_noted, List.append_assoc]
    exact kept.append_left _
  · intro s hs
    rcases List.mem_append.1 hs with known | new
    · have posted : ((d.noted .turn given).finished event e).posted = d.posted := rfl
      exact sound.explained_of intact opened posted s known
    · obtain ⟨⟨ticket, outcome, engine⟩, hgiven, rfl⟩ := List.mem_map.1 new
      exact explained ticket outcome engine hgiven
  · intro box' hbox'
    obtain rfl : ⟨w, w.length⟩ = box' := Option.some.inj (hmailbox.symm.trans hbox')
    rw [left]
  · intro _ running
    rw [left]
    change d.posted = (d.handled ++ [event]) ++ w
    rw [sound.ordered opened intact, goes_on running, List.append_assoc, List.singleton_append]
  · intro failed
    rw [left]
    exact halts failed
  · intro empty
    rw [left] at empty
    simp [finished, hmailbox, empty, Mailbox.isDrained]

theorem serve_of_end {o : Outcome requests Engine Fault Unit}
    (ends : afterReplies o = .returned () e ∨ ∃ fault, afterReplies o = .raised fault e)
    (d : Desk) (event : Event) :
    d.serve event o = (d.noted .turn (replies o)).finished event e := by
  rcases ends with ends | ⟨fault, ends⟩ <;> rw [serve, ends] <;> rfl

/-- A handler leaves a desk sound. -/
theorem Sound.serve (sound : d.Sound answer) {o : Outcome requests Engine Fault Unit}
    (serving : Serving d event box o) : (d.serve event o).Sound answer := by
  obtain ⟨other, intact, opened, left, counts, serves⟩ := id serving
  have kept : tickets d.left = tickets box.waiting := by rw [left, tickets_cons_of_none other]
  generalize hv : (some box, (none : Option Violation), true) = v at serves
  cases serves with
  | waits silent next => exact sound.waits serving hv.symm silent next
  | @finishes _ box' failure started e ends at_end =>
      simp only [Prod.mk.injEq, Option.some.injEq] at hv
      obtain ⟨rfl, rfl, rfl⟩ := hv
      obtain ⟨hmailbox, hfailure, hstarted⟩ : e.mailbox = some box.finish ∧ e.failure = none ∧
          e.started = true := by
        simpa only [front, Prod.mk.injEq] using at_end
      have silent : replies o = [] ∧ afterReplies o = o := by
        rcases ends with rfl | ⟨fault, rfl⟩ <;> exact ⟨rfl, rfl⟩
      rw [serve_of_end (by rwa [silent.2]), silent.1]
      refine sound.ends intact opened (w := box.waiting) ?_ hstarted (by simp [kept])
        (fun _ => left) (by simp [hfailure]) (by simp)
      rw [hmailbox, Mailbox.finish, counts, Nat.add_sub_cancel]
  | @halts _ box' failure started broken e e' failed given ends at_end =>
      simp only [Prod.mk.injEq, Option.some.injEq] at hv
      obtain ⟨rfl, rfl, rfl⟩ := hv
      obtain ⟨hmailbox, hfailure, hstarted⟩ : e'.mailbox =
          some ⟨[], box.unfinished - box.waiting.length - 1⟩ ∧ e'.failure = some broken ∧
          e'.started = true := by
        simpa only [front, Prod.mk.injEq] using at_end
      rw [serve_of_end (.inl ends), given]
      refine sound.ends intact opened (w := []) ?_ hstarted ?_ (by simp [hfailure])
        (fun _ => rfl) ?_
      · rw [hmailbox, counts, Nat.add_sub_cancel_left]
        rfl
      · rw [kept]
        simp [Function.comp_def]
      · intro ticket outcome engine hgiven
        obtain ⟨ticket', -, heq⟩ := List.mem_map.1 hgiven
        obtain ⟨rfl, rfl, rfl⟩ := by simpa only [Prod.mk.injEq] using heq
        simp only [Settlement.Explained, failed, and_true]
        exact hfailure

/-! ## Everything that can happen -/

theorem left_of_idle (idle : d.stage = .idle) : d.left = d.engine.waiting := by
  rw [left, idle]
  rfl

theorem isConsuming_iff (e : Engine) :
    e.isConsuming = true ↔ e.started = true ∧ e.failure = none ∧ e.mailbox.isSome = true := by
  simp [isConsuming, isRunning, and_assoc]

/-- The first event that is taken is handled, or it is a query and replied to. -/
theorem take_cases (sound : d.Sound answer) (acted : d.act answer .take = some d') :
    (∃ event box o, Serving d event box o ∧ d' = d.serve event o) ∨
    ∃ ticket question rest, d.engine.failure = none ∧ d.engine.mailbox.isSome ∧
      d.engine.started = true ∧ d.left = .query ticket question :: rest ∧
      d' = (d.noted .turn [(ticket, answer question d.engine.registry,
          { d.engine with mailbox := some ⟨rest, rest.length + 1⟩ })]).finished
        (.query ticket question) { d.engine with mailbox := some ⟨rest, rest.length⟩ } := by
  cases hstage : d.stage with
  | idle =>
      cases hnext : d.engine.next? with
      | none => simp [act, hstage, hnext] at acted
      | some event =>
          simp only [act, hstage, hnext, Option.ite_none_right_eq_some, Option.some.injEq] at acted
          obtain ⟨consuming, rfl⟩ := acted
          obtain ⟨started, intact, opened⟩ := (isConsuming_iff _).1 consuming
          obtain ⟨rest, unfinished, hbox⟩ := exists_take? hnext
          have left : d.left = event :: rest := by
            rw [left_of_idle hstage, waiting, hbox]
            rfl
          have counts : unfinished = rest.length + 1 := by
            have counted := sound.counted _ hbox
            rwa [left, List.length_cons] at counted
          cases hticket : event.ticket? with
          | none =>
              have serves := serves_turnBy answer hticket hbox
              rw [intact, started] at serves
              exact .inl ⟨event, _, _, ⟨hticket, intact, opened, left, counts, serves⟩, rfl⟩
          | some ticket =>
              cases event with
              | query ticket question =>
                  obtain ⟨given, ends⟩ := turnBy_query answer hbox
                  rw [serve_of_end (.inl ends), given, counts, Nat.add_sub_cancel]
                  exact .inr ⟨ticket, question, rest, intact, opened, started, left, rfl⟩
              | _ => cases hticket
  | _ => simp [act, hstage] at acted

/-- The first event is taken. -/
theorem Sound.take (sound : d.Sound answer) (acted : d.act answer .take = some d') :
    d'.Sound answer := by
  rcases take_cases sound acted with ⟨event, box, o, serving, rfl⟩ |
    ⟨ticket, question, rest, intact, opened, started, left, rfl⟩
  · exact sound.serve serving
  · refine sound.ends intact opened (w := rest) rfl started ?_ (fun _ => left)
      (by simp [intact]) ?_
    · rw [left]
      exact .refl _
    · intro ticket' outcome engine hgiven
      obtain ⟨rfl, rfl, rfl⟩ := by simpa using hgiven
      simp only [Settlement.Explained, intact]
      refine ⟨question, rest, ?_, rfl⟩
      change d.posted = d.handled ++ _
      rw [sound.ordered opened intact, left]

/-- Where the stop waits or ends, there is no mailbox, and no event is being handled. -/
theorem close_eq {o : Outcome requests Engine Fault Unit}
    (spares : SparesFrom (fun r => ¬r.Replies) back (none, d.engine.failure) (afterReplies o)) :
    ∃ stage asked, stage.event? = none ∧ stage.Fits (standsAt (afterReplies o)) ∧
      back (standsAt (afterReplies o)) = (none, d.engine.failure) ∧
      d.close o = { d.noted .stop (replies o) with
        engine := standsAt (afterReplies o), stage, asked } := by
  have closed {e : Engine} (seen : back e = (none, d.engine.failure)) :
      e.mailbox.isSome = false := by
    rw [(Prod.mk.inj seen).1, Option.isSome_none]
  unfold Desk.close
  generalize afterReplies o = stands at spares
  cases stands with
  | returned value e => exact ⟨.stopped, d.asked, rfl, closed spares, spares, rfl⟩
  | raised fault e => exact ⟨.stopped, d.asked, rfl, closed spares, spares, rfl⟩
  | paused e request resume =>
      obtain ⟨seen, -, next⟩ := spares
      exact ⟨.stopping request resume, d.asked ++ [request], rfl, ⟨closed seen, next⟩, seen, rfl⟩

/-- The stop goes on and leaves a desk sound. -/
theorem Sound.close (sound : d.Sound answer) (idle : d.drains = [])
    {o : Outcome requests Engine Fault Unit}
    (kept : (tickets d.left).Perm ((replies o).map (·.1)))
    (fails : ∀ ticket outcome engine, (ticket, outcome, engine) ∈ replies o →
      outcome = .error .stopped)
    (spares : SparesFrom (fun r => ¬r.Replies) back (none, d.engine.failure) (afterReplies o)) :
    (d.close o).Sound answer := by
  obtain ⟨stage, asked, nothing, fits, seen, closes⟩ := close_eq spares
  obtain ⟨closed, failure⟩ := Prod.mk.inj seen
  have left : (d.close o).left = [] := by
    rw [closes, Desk.left, nothing, waiting, closed]
    rfl
  rw [closes] at left ⊢
  refine ⟨sound.issued, ?_, ?_, ?_, ?_, fun _ => left, fun _ => idle, fits⟩
  · rw [left, tickets_nil, List.append_nil]
    refine sound.kept.trans ?_
    change List.Perm _ ((d.noted .stop (replies o)).settled.map (·.ticket))
    rw [settled_noted]
    exact kept.append_left _
  · intro s hs
    rcases List.mem_append.1 hs with known | new
    · refine (sound.explained s known).mono ⟨[], ?_⟩ (fun broken => failure.trans) fun _ => closed
      exact (List.append_nil _).symm
    · obtain ⟨⟨ticket, outcome, engine⟩, hgiven, rfl⟩ := List.mem_map.1 new
      exact ⟨closed, fails ticket outcome engine hgiven⟩
  · simp [closed]
  · simp [closed]

/-- The engine is stopped while nothing is at work, so that the count comes down to nothing. -/
theorem stop_cases (sound : d.Sound answer) (acted : d.act answer .stop = some d') :
    d.stage = .idle ∧ d.engine.started = true ∧
      d' = { d with drains := [] }.close (Engine.stop d.engine) := by
  cases hstage : d.stage with
  | idle =>
      have started : d.engine.started = true := by
        have fits := sound.fits
        rwa [hstage] at fits
      have discards : ((d.engine.mailbox.map fun box =>
          box.unfinished - box.waiting.length).all (· == 0)) = true := by
        cases hbox : d.engine.mailbox with
        | none => rfl
        | some box =>
            have counted := sound.counted box hbox
            rw [left_of_idle hstage, waiting, hbox] at counted
            simp [counted]
      simp only [act, hstage, discards, if_true, Option.some.injEq] at acted
      exact ⟨rfl, started, acted.symm⟩
  | _ => simp [act, hstage] at acted

/-- The engine is stopped. -/
theorem Sound.stop (sound : d.Sound answer) (acted : d.act answer .stop = some d') :
    d'.Sound answer := by
  obtain ⟨idle, started, rfl⟩ := stop_cases sound acted
  have undrained : Sound answer { d with drains := [] } :=
    { sound with drained := fun _ => rfl }
  refine undrained.close rfl ?_ ?_ ?_
  · rw [replies_stop started]
    change (tickets d.left).Perm _
    rw [left_of_idle idle]
    simp [Function.comp_def]
  · intro ticket outcome engine hgiven
    rw [replies_stop started] at hgiven
    obtain ⟨ticket', -, heq⟩ := List.mem_map.1 hgiven
    simp only [Prod.mk.injEq] at heq
    exact heq.2.1.symm
  · rw [afterReplies_stop started]
    exact spares_back_release { d.engine with stopping := true, mailbox := none }

/-- If what is waited for is answered, the handler or the stop goes on. -/
theorem answered_cases {answers : (request : Request) → request.Answer} (sound : d.Sound answer)
    (acted : d.act answer (.answer answers) = some d') :
    (∃ event box o, Serving d event box o ∧ d' = d.serve event o) ∨
    ∃ o, d.engine.mailbox = none ∧ d.left = [] ∧
      SparesFrom (fun r => ¬r.Replies) back (none, d.engine.failure) o ∧ d' = d.close o := by
  have fits := sound.fits
  cases hstage : d.stage with
  | handling event request resume =>
      simp only [act, hstage, Option.some.injEq] at acted
      rw [hstage] at fits
      obtain ⟨other, opened, started, next⟩ := fits
      obtain ⟨box, hbox⟩ := Option.isSome_iff_exists.1 opened
      have left : d.left = event :: box.waiting := by
        rw [Desk.left, hstage, waiting, hbox]
        rfl
      have intact : d.engine.failure = none := by
        refine Option.not_isSome_iff_eq_none.1 fun failed => ?_
        rw [sound.halted failed] at left
        cases left
      have counts := sound.counted box hbox
      rw [left, List.length_cons] at counts
      have serves := next (answers request) d.engine opened
      rw [front, hbox, intact, started] at serves
      exact .inl ⟨event, box, _, ⟨other, intact, opened, left, counts, serves⟩, acted.symm⟩
  | stopping request resume =>
      simp only [act, hstage, Option.some.injEq] at acted
      rw [hstage] at fits
      obtain ⟨closed, next⟩ := fits
      have closed : d.engine.mailbox = none := by simpa using closed
      have spares := next (answers request) d.engine
      rw [back, closed] at spares
      refine .inr ⟨_, closed, ?_, spares, acted.symm⟩
      simp [Desk.left, hstage, Stage.event?, waiting, closed]
  | _ => simp [act, hstage] at acted

/-- What is waited for is answered. -/
theorem Sound.answered {answers : (request : Request) → request.Answer} (sound : d.Sound answer)
    (acted : d.act answer (.answer answers) = some d') : d'.Sound answer := by
  rcases answered_cases sound acted with
    ⟨event, box, o, serving, rfl⟩ | ⟨o, closed, left, spares, rfl⟩
  · exact sound.serve serving
  · obtain ⟨silent, stands⟩ := spares.replies_eq
    refine sound.close (sound.drained left) ?_ (by simp [silent]) (by rwa [stands])
    rw [left, silent]
    exact .refl _

/-- Something changes beside the mailbox. -/
theorem Sound.aside (sound : d.Sound answer) (mailbox : e.mailbox = d.engine.mailbox)
    (failure : e.failure = d.engine.failure) (started : e.started = d.engine.started) :
    Sound answer { d with engine := e } := by
  have left : Desk.left { d with engine := e } = d.left := by
    simp only [Desk.left, waiting, mailbox]
  refine ⟨sound.issued, left ▸ sound.kept, ?_, ?_, ?_, ?_, left ▸ sound.drained,
    sound.fits.aside (congrArg Option.isSome mailbox) started⟩
  · intro s hs
    exact (sound.explained s hs).mono ⟨[], (List.append_nil _).symm⟩ (fun _ => failure.trans)
      mailbox.trans
  · intro box hbox
    rw [left]
    exact sound.counted box (mailbox.symm.trans hbox)
  · intro opened intact
    rw [left]
    exact sound.ordered (by rwa [← mailbox]) (failure.symm.trans intact)
  · intro failed
    rw [left]
    exact sound.halted (by rwa [← failure])

/-- An event is put into the mailbox. -/
theorem Sound.put (sound : d.Sound answer) (hbox : d.engine.mailbox = some box)
    (intact : d.engine.failure = none)
    (fresh : ∀ ticket, event.ticket? = some ticket → ticket ∉ d.issued)
    (mailbox : e.mailbox = some (box.put event)) (failure : e.failure = none)
    (started : e.started = d.engine.started) :
    Sound answer { d with
      engine := e, posted := d.posted ++ [event], issued := d.issued ++ event.ticket?.toList } := by
  have left : Desk.left { d with
      engine := e, posted := d.posted ++ [event], issued := d.issued ++ event.ticket?.toList } =
        d.left ++ [event] := by
    simp only [Desk.left, waiting, mailbox, hbox, Mailbox.put, Option.elim_some, List.append_assoc]
  have added : tickets [event] = event.ticket?.toList := by
    cases h : event.ticket? <;> simp [tickets, h]
  refine ⟨?_, ?_, ?_, ?_, ?_, ?_, ?_, ?_⟩
  · refine List.nodup_append.2 ⟨sound.issued, ?_, ?_⟩
    · cases event.ticket? <;> simp
    · rintro ticket known _ new rfl
      exact fresh ticket (by simpa using new) known
  · rw [left, tickets_append, added, ← List.append_assoc]
    exact sound.kept.append_right _
  · intro s hs
    refine (sound.explained s hs).mono ⟨[event], rfl⟩ (by simp [intact]) (by simp [hbox])
  · intro box' hbox'
    obtain rfl : box.put event = box' := Option.some.inj (mailbox.symm.trans hbox')
    rw [left, List.length_append, ← sound.counted box hbox]
    rfl
  · intro _ _
    rw [left, ← List.append_assoc]
    exact congrArg (· ++ [event]) (sound.ordered (by simp [hbox]) intact)
  · simp [failure]
  · intro empty
    rw [left] at empty
    simp at empty
  · exact sound.fits.aside (by simp [mailbox, hbox]) started

/-- Whatever is handed to the engine is put into the mailbox, or dropped. -/
theorem Sound.post (sound : d.Sound answer) (other : event.ticket? = none)
    (mailbox : e.mailbox = (d.engine.post event).mailbox) (failure : e.failure = d.engine.failure)
    (started : e.started = d.engine.started) :
    Sound answer { d.received event with engine := e } := by
  by_cases opened : d.engine.mailbox.isSome = true ∧ d.engine.failure = none
  · obtain ⟨hopened, intact⟩ := opened
    obtain ⟨box, hbox⟩ := Option.isSome_iff_exists.1 hopened
    have put : e.mailbox = some (box.put event) := by
      rw [mailbox, Engine.post, hbox, intact]
    have added := sound.put hbox intact (by simp [other]) put (failure.trans intact) started
    simpa [received, hbox, intact, other] using added
  · have dropped : e.mailbox = d.engine.mailbox := by
      rw [mailbox, Engine.post]
      split
      · simp_all
      · rfl
    have same : d.received event = d := by
      rw [received, if_neg]
      simpa using opened
    rw [same]
    exact sound.aside dropped failure started

/-- A query is settled as it is issued. -/
theorem Sound.settled {ticket : Nat} {s : Settlement} (sound : d.Sound answer)
    (fresh : ticket ∉ d.issued) (hticket : s.ticket = ticket) (explained : s.Explained answer d) :
    Sound answer { d with issued := d.issued ++ [ticket], settled := d.settled ++ [s] } where
  issued := by
    refine List.nodup_append.2 ⟨sound.issued, List.nodup_singleton ticket, ?_⟩
    rintro ticket' known _ new rfl
    exact fresh (List.mem_singleton.1 new ▸ known)
  kept := by
    change List.Perm _ ((d.settled ++ [s]).map (·.ticket) ++ tickets d.left)
    rw [List.map_append, List.map_singleton, hticket]
    refine (sound.kept.append_right [ticket]).trans ?_
    rw [List.append_assoc, List.append_assoc]
    exact List.perm_append_comm.append_left _
  explained s' hs' := by
    rcases List.mem_append.1 hs' with known | new
    · exact (sound.explained s' known).mono ⟨[], (List.append_nil _).symm⟩ (fun _ => id) id
    · rw [List.mem_singleton.1 new]
      exact explained.mono ⟨[], (List.append_nil _).symm⟩ (fun _ => id) id
  counted := sound.counted
  ordered := sound.ordered
  halted := sound.halted
  drained := sound.drained
  fits := sound.fits

/-- A question is asked. -/
theorem Sound.query {ticket : Nat} {question : Question} (sound : d.Sound answer)
    (acted : d.act answer (.query ticket question) = some d') : d'.Sound answer := by
  simp only [act, Option.ite_none_left_eq_some, Option.some.injEq] at acted
  obtain ⟨fresh, rfl⟩ := acted
  by_cases failed : d.engine.failure.isSome = true
  · obtain ⟨given, ends⟩ := queryBy_of_failure answer ticket question failed
    obtain ⟨broken, hfailure⟩ := Option.isSome_iff_exists.1 failed
    have refused := sound.settled (s := ⟨ticket, .error (.invariant .halted),
      .query ticket question, d.engine, d.handled⟩) fresh rfl
        (by simp [Settlement.Explained, hfailure])
    rw [given, ends]
    simpa [received, hfailure, noted, standsAt] using refused
  · have intact : d.engine.failure = none := by simpa using failed
    cases hbox : d.engine.mailbox with
    | none =>
        obtain ⟨given, ends⟩ := queryBy_of_closed answer ticket question intact hbox
        have replied := sound.settled (s := ⟨ticket, answer question d.engine.registry,
          .query ticket question, d.engine, d.handled⟩) fresh rfl
            (by simp [Settlement.Explained, intact, hbox])
        rw [given, ends]
        simpa [received, hbox, noted, standsAt] using replied
    | some box =>
        have asked := queryBy_of_open answer ticket question intact (by simp [hbox])
        have put : (d.engine.post (.query ticket question)).mailbox =
            some (box.put (.query ticket question)) := by
          rw [Engine.post, hbox, intact]
        have unissued : ∀ ticket', (Event.query ticket question).ticket? = some ticket' →
            ticket' ∉ d.issued := fun _ hticket => Option.some.inj hticket ▸ fresh
        have added := sound.put hbox intact unissued put (by rw [post_eq, intact]) (by rw [post_eq])
        rw [asked]
        simpa [received, hbox, intact, noted, standsAt, replies, afterReplies, Event.ticket?]
          using added

/-- Somebody wants to wait until nothing is left. -/
theorem Sound.drain {caller : Nat} (sound : d.Sound answer)
    (acted : d.act answer (.drain caller) = some d') : d'.Sound answer := by
  simp only [act] at acted
  split at acted
  · rename_i busy
    obtain rfl := Option.some.inj acted
    refine { sound with drained := fun empty => ?_ }
    have empty : d.left = [] := empty
    cases hbox : d.engine.mailbox with
    | none => simp [hbox] at busy
    | some box =>
        have counted := sound.counted box hbox
        rw [empty, List.length_nil] at counted
        simp [hbox, Mailbox.isDrained, counted] at busy
  · exact Option.some.inj acted ▸ sound

/-- Whatever happens leaves a desk sound. -/
theorem Sound.act (sound : d.Sound answer) {deed : Deed} (acted : d.act answer deed = some d') :
    d'.Sound answer := by
  cases deed with
  | post event =>
      simp only [Desk.act, Option.ite_none_left_eq_some, Option.some.injEq] at acted
      obtain ⟨other, rfl⟩ := acted
      exact sound.post (by simpa using other) rfl (by rw [post_eq]) (by rw [post_eq])
  | timer generation =>
      obtain rfl := Option.some.inj acted
      have seen := front_restartTimerFired d.engine generation
      rw [front, front, post_eq] at seen
      simp only [Prod.mk.injEq] at seen
      exact sound.post rfl seen.1 seen.2.1 seen.2.2
  | listener name =>
      obtain rfl := Option.some.inj acted
      exact sound.aside rfl rfl rfl
  | query ticket question => exact sound.query acted
  | drain caller => exact sound.drain acted
  | take => exact sound.take acted
  | answer answers => exact sound.answered acted
  | stop => exact sound.stop acted

end Desk

end ScannerDiscovery.Engine
