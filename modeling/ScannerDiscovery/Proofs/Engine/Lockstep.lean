import ScannerDiscovery.Proofs.Engine.Frame

/-!
# Routines in lockstep

Two routines run in lockstep if they ask for the same things as long as both are answered alike and
the same happens beside both, and end in the same way; and at each of these moments the engines that
they work on are alike.  So nobody who answers the one can tell it from the other.

Main definitions:

- `InStep` : two routines in lockstep.
- `essence` : what is left of an engine once it has forgotten its past.
- `renewed` : a fresh engine with the phases, the reports and the listeners of another.

Main results:

- `InStep.bind` : routines one after another.
- `inStep_start` : a stopped and empty engine starts like a fresh one.
-/

namespace ScannerDiscovery.Engine

variable {α β : Type} {like : Engine → Engine → Prop} {e f : Engine}

/-! ## Lockstep -/

/-- Whether two routines, from where they stand, run in lockstep: they end or ask alike, on engines
that are alike, and go on in lockstep when they are answered alike and the same has happened beside
both. -/
inductive InStep (like : Engine → Engine → Prop) :
    Outcome requests Engine Fault α → Outcome requests Engine Fault α → Prop
  | returned (value : α) {e f : Engine} (alike : like e f) :
      InStep like (.returned value e) (.returned value f)
  | raised (fault : Fault) {e f : Engine} (alike : like e f) :
      InStep like (.raised fault e) (.raised fault f)
  | paused {e f : Engine} {request : Request}
      {resume resume' : request.Answer → Engine → Outcome requests Engine Fault α}
      (alike : like e f)
      (rest : ∀ answer (beside : List Disturbance),
        InStep like (resume answer (beside.foldl Disturbance.apply e))
          (resume' answer (beside.foldl Disturbance.apply f))) :
      InStep like (.paused e request resume) (.paused f request resume')

/-- Routines one after another are in lockstep if their parts are. -/
theorem InStep.bind {o o' : Outcome requests Engine Fault α} {next next' : α → Work β}
    (first : InStep like o o')
    (second : ∀ value e f, like e f → InStep like (next value e) (next' value f)) :
    InStep like (o.bind next) (o'.bind next') := by
  induction first with
  | returned value alike => exact second value _ _ alike
  | raised fault alike => exact .raised fault alike
  | paused alike rest ih => exact .paused alike ih

/-! ## Engines that are alike -/

/-- An engine without its past: how many restart timers it has armed and which findings have been
removed; and whether it has been told to stop, which it takes no notice of while discovery is
disabled. -/
def essence (e : Engine) : Engine :=
  { e with
    generation := 0
    stopping := e.enabled && e.stopping
    books.registry.removed := [] }

/-- Whether two engines are the same but for their pasts. -/
def Alike (e f : Engine) : Prop :=
  e.essence = f.essence

/-- Engines stay alike by a change that has nothing to do with their pasts. -/
theorem Alike.change (alike : Alike e f) (change : Engine → Engine)
    (apart : ∀ e : Engine, (change e).essence = change e.essence) :
    Alike (change e) (change f) := by
  rw [Alike, apart, apart]
  exact congrArg change alike

/-- What happens beside an engine has nothing to do with its past. -/
theorem essence_apply (e : Engine) (d : Disturbance) :
    (d.apply e).essence = d.apply e.essence := by
  have post (e : Engine) (event : Event) : (e.post event).essence = e.essence.post event := by
    cases hmailbox : e.mailbox with
    | none => simp only [Engine.post, essence, hmailbox]
    | some box =>
        cases hfailure : e.failure <;> simp only [Engine.post, essence, hmailbox, hfailure]
  cases d with
  | post event => exact post e event
  | timer generation =>
      simp only [Disturbance.apply, restartTimerFired, post]
      by_cases h : e.restart = some generation
      · have h' : e.essence.restart = some generation := h
        rw [if_pos h, if_pos h']
        rfl
      · have h' : ¬e.essence.restart = some generation := h
        rw [if_neg h, if_neg h']
  | listener name => rfl

/-- Engines stay alike when the same happens beside them. -/
theorem Alike.disturbed (alike : Alike e f) (beside : List Disturbance) :
    Alike (beside.foldl Disturbance.apply e) (beside.foldl Disturbance.apply f) := by
  induction beside generalizing e f with
  | nil => exact alike
  | cons d rest ih => exact ih (alike.change (fun e => d.apply e) fun e => essence_apply e d)

/-- The same methods are reported done in lockstep. -/
theorem inStep_report (methods : List Method) (alike : Alike e f) :
    InStep Alike ((Books.report methods : Work Unit) e) ((Books.report methods : Work Unit) f) := by
  induction methods generalizing e f with
  | nil => exact .returned () alike
  | cons m rest ih => exact .paused alike fun _ beside => ih (alike.disturbed beside)

/-! ## Fresh engines -/

/-- A fresh engine with the settings, the phases, the reports and the listeners of another. -/
def renewed (e : Engine) : Engine :=
  { enabled := e.enabled
    ipVersion := e.ipVersion
    books := ⟨{ Gate.initial with phases := e.gate.phases, reported := e.gate.reported }, .empty⟩
    listeners := e.listeners }

/-- Whether an engine is not started and holds nothing; and it has not been halted, if discovery is
disabled. -/
structure StoppedAndEmpty (e : Engine) : Prop where
  started : e.started = false
  mailbox : e.mailbox = none
  restart : e.restart = none
  client : e.clientRunning = false
  browsing : e.browserRunning = false
  browsers : e.browsers = .empty
  resolving : e.resolving = .empty
  live : e.registry.live = []
  count : ∀ m, e.gate.count m = 0
  unfailed : e.enabled = false → e.failure = none

/-- A stopped and empty engine is like a fresh one, once it takes events again. -/
theorem StoppedAndEmpty.alike_renewed (empty : StoppedAndEmpty e) (mailbox : Option Mailbox) :
    Alike { e with mailbox, stopping := false, failure := none }
      { e.renewed with mailbox, stopping := false, failure := none } := by
  have hcounts : e.books.gate.counts = PerMethod.const 0 := by
    apply PerMethod.ext_get
    intro m
    rw [PerMethod.get_const]
    exact empty.count m
  have hgate : e.books.gate = e.renewed.books.gate := by
    change e.books.gate = ⟨PerMethod.const 0, e.books.gate.phases, e.books.gate.reported⟩
    rw [← hcounts]
  have hlive : e.books.registry.live = [] := empty.live
  simp only [Alike, essence, renewed, hgate, hlive, empty.started, empty.restart, empty.client,
    empty.browsing, empty.browsers, empty.resolving]
  rfl

/-- If discovery is disabled, it is like a fresh one at once. -/
theorem StoppedAndEmpty.alike_of_disabled (empty : StoppedAndEmpty e)
    (disabled : e.enabled = false) :
    Alike e e.renewed := by
  have alike := empty.alike_renewed none
  have hessence : e.essence = ({ e with mailbox := none, stopping := false, failure := none } :
      Engine).essence := by
    simp only [essence, disabled, empty.mailbox, empty.unfailed disabled, Bool.false_and]
  exact hessence.trans alike

/-- A stopped and empty engine starts like a fresh one. -/
theorem inStep_start (empty : StoppedAndEmpty e) : InStep Alike (start e) (start e.renewed) := by
  have unstarted : ¬e.started = true := by simp [empty.started]
  have unstarted' : ¬e.renewed.started = true := by simp [renewed]
  rw [start, bind_get, bind_get, if_neg unstarted, if_neg unstarted']
  by_cases disabled : (!e.enabled) = true
  · have disabled' : (!e.renewed.enabled) = true := disabled
    rw [if_pos disabled, if_pos disabled']
    have alike := empty.alike_of_disabled (by simpa using disabled)
    have hgate : e.books.gate = e.renewed.books.gate := congrArg (·.books.gate) alike
    have fired : InStep Alike ((Books.fireAll : Work Unit) e)
        ((Books.fireAll : Work Unit) e.renewed) := by
      rw [Books.fireAll, bind_getBooks, bind_getBooks, hgate]
      apply inStep_report
      exact alike.change (fun f => { f with books.gate := e.renewed.books.gate.fireAll.1 })
        fun _ => rfl
    apply fired.bind
    intro value e₁ f₁ alike₁
    exact .returned () (alike₁.change (fun f => { f with started := true }) fun _ => rfl)
  · have enabled' : ¬(!e.renewed.enabled) = true := disabled
    rw [if_neg disabled, if_neg enabled']
    have alike := empty.alike_renewed (some .empty)
    refine .paused alike fun answer beside => ?_
    have after := alike.disturbed beside
    cases answer with
    | ok value =>
        exact .returned () <|
          after.change (fun f => { f with clientRunning := true, started := true }) fun _ => rfl
    | error fault =>
        cases fault with
        | transport cause =>
            exact .raised (.startup cause) <|
              after.change (fun f => { f with mailbox := none }) fun _ => rfl
        | _ => exact .raised _ after

end ScannerDiscovery.Engine
