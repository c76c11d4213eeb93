import OopsysAgent.Domain.Runtime
import OopsysAgent.Gateway.Invariant

/-!
# The reported queue status

What `POST /health` says about the queue, against the outcome of the last thing that happened to it.
-/

namespace OopsysAgent.Gateway
open Concurrency NatsGateway

def attempted : Outcome → ConnectPc → Option Bool
  | .raised, .connecting _ | .raised, .starting _ => some false
  | .ok, .starting _ => some true
  | _, _ => none

/-- The outcome of the connection attempt, publish or close that a step completes. -/
def completed {ι : Type} (label : Label ι) (g : NatsGateway ι) : Option Bool :=
  match label with
  | .startStep outcome =>
      match g.start with
      | .connecting pc => attempted outcome pc
      | _ => none
  | .retryStep outcome =>
      match g.retry with
      | .connecting pc => attempted outcome pc
      | _ => none
  | .publishCall _ => if g.broker.isNone then some false else none
  | .published _ .ok => some true
  | .published _ .raised => some false
  | .closeCall => if g.retry.alive || g.broker.isSome then none else some false
  | .closeResumed => if g.broker.isSome then none else some false
  | .closeStopped => some false
  | _ => none

section

variable {c c' : Connection} {pc : ConnectPc} {outcome : Outcome} {p : Progress}

theorem connectOnce_queueConnected (c : Connection) :
    (connectOnce c).2.queueConnected = c.queueConnected := by
  unfold connectOnce
  cases c.broker <;> rfl

theorem connectStep_queueConnected (moved : connectStep outcome pc c = some (p, c')) :
    c'.queueConnected = (attempted outcome pc).getD c.queueConnected := by
  cases pc <;> cases outcome <;> cases moved <;> rfl

end

section

variable {ι : Type} {g g' : NatsGateway ι}

theorem safeClose_queueConnected :
    g.safeClose.queueConnected =
      ((if g.broker.isSome then none else some false : Option Bool)).getD g.queueConnected := by
  cases held : g.broker with
  | none => rw [safeClose_closed held]; rfl
  | some b => rw [safeClose_held held]; rfl

variable [DecidableEq ι]

theorem step_queueConnected {label : Label ι} (inv : Inv g) (stepped : Step label g g') :
    g'.queueConnected = (completed label g).getD g.queueConnected ∨
      ∃ c, label = .published c .ok ∧ g'.queueConnected = g.queueConnected := by
  cases stepped with
  | publishedOk inside => exact .inr ⟨_, rfl, rfl⟩
  | startCall idle =>
      left
      rw [startAt_toConnection, connectOnce_queueConnected]
      rfl
  | startStep inside moved =>
      left
      rw [startAt_toConnection, connectStep_queueConnected moved, completed, inside]
  | retryBegin created live =>
      left
      rw [retryAt_toConnection, connectOnce_queueConnected]
      rfl
  | retryStep inside live moved =>
      left
      rw [retryAt_toConnection, connectStep_queueConnected moved, completed, inside]
  | slept sleeping live =>
      left
      rw [retryAt_toConnection, connectOnce_queueConnected]
      rfl
  | publishRefused idle closed =>
      left
      rw [completed, closed]
      exact inv.sound.disconnected closed
  | publishBegun idle held =>
      left
      rw [completed, held]
      rfl
  | closeCalled started uncalled dead =>
      left
      rw [safeClose_queueConnected, completed, dead, Bool.false_or]
  | closeResumed waiting finished =>
      left
      rw [safeClose_queueConnected, completed]
  | closeWaits started uncalled alive =>
      left
      rw [completed, alive]
      rfl
  | _ => exact .inl rfl

end

/-- The outcome of what completed last in a run; nothing has connected before. -/
def lastOutcome {ι : Type} [DecidableEq ι] (labels : List (Label ι)) : Bool :=
  ((machine ι).observe completed labels init).getLast?.getD false

def reported {ι : Type} (g : NatsGateway ι) (runtime : AppRuntime) (version : String)
    (now : DateTime) (select1 : Except String Unit) : Bool :=
  (health { runtime with queueConnected := g.queueConnected } version now select1).queueConnected

section

variable {ι : Type} [DecidableEq ι] {labels : List (Label ι)} {g : NatsGateway ι}

theorem lastOutcome_snoc {label : Label ι} {g' : NatsGateway ι}
    (ran : (machine ι).run labels init = some g) (stepped : (machine ι).step label g = some g') :
    lastOutcome (labels ++ [label]) = (completed label g).getD (lastOutcome labels) := by
  rw [lastOutcome, Machine.observe_snoc ran stepped]
  cases completed label g with
  | none => simp [lastOutcome]
  | some outcome => simp

/-- Every publish that returns normally does so after a success. -/
def UpOnSuccess (labels : List (Label ι)) : Prop :=
  ∀ before c after, labels = before ++ .published c .ok :: after → lastOutcome before = true

theorem UpOnSuccess.snoc {label : Label ι} (up : UpOnSuccess (labels ++ [label])) :
    UpOnSuccess labels ∧ ∀ c, label = .published c .ok → lastOutcome labels = true := by
  constructor
  · rintro before c after rfl
    exact up before c (after ++ [label]) (by simp)
  · rintro c rfl
    exact up labels c [] rfl

theorem queueConnected_eq_lastOutcome (ran : (machine ι).run labels init = some g)
    (up : UpOnSuccess labels) : g.queueConnected = lastOutcome labels := by
  have general : g.Inv ∧ (machine ι).run labels init = some g ∧
      (UpOnSuccess labels → g.queueConnected = lastOutcome labels) := by
    refine Machine.history_invariant
      (I := fun past m => m.Inv ∧ (machine ι).run past init = some m ∧
        (UpOnSuccess past → m.queueConnected = lastOutcome past))
      ?_ ran ⟨inv_init, rfl, fun _ => rfl⟩
    rintro past label m m' ⟨inv, reached, accurate⟩ stepped
    refine ⟨step_inv inv (step_sound stepped), Machine.run_snoc reached stepped, ?_⟩
    intro up
    obtain ⟨before, here⟩ := up.snoc
    rw [lastOutcome_snoc reached stepped, ← accurate before]
    obtain follows | ⟨c, rfl, same⟩ := step_queueConnected inv (step_sound stepped)
    · exact follows
    · rw [same, accurate before, here c rfl]
      rfl
  exact general.2.2 up

end

/-- At every point of a run the reported status is the last outcome, exactly if no publish returns
normally when a failure or a close was the last to complete. -/
theorem health_reports_lastOutcome {ι : Type} [DecidableEq ι] (labels : List (Label ι))
    (g : NatsGateway ι) (ran : (machine ι).run labels init = some g) :
    (∀ before after m runtime version now select1, labels = before ++ after →
      (machine ι).run before init = some m →
      reported m runtime version now select1 = lastOutcome before) ↔
    ∀ before c after, labels = before ++ .published c .ok :: after → lastOutcome before = true := by
  constructor
  · rintro accurate before c after rfl
    obtain ⟨m, reached, -⟩ := (machine ι).run_append_eq_some.mp ran
    obtain ⟨m', stepped, -⟩ := Machine.run_split ran reached
    have runtime : AppRuntime := { startedAt := sampleNow }
    have down : m.queueConnected = lastOutcome before :=
      accurate _ _ m runtime "" sampleNow (.ok ()) rfl reached
    have told : m'.queueConnected = lastOutcome (before ++ [.published c .ok]) :=
      accurate _ after m' runtime "" sampleNow (.ok ()) (by simp) (Machine.run_snoc reached stepped)
    rw [lastOutcome_snoc reached stepped] at told
    have moved : Step (.published c .ok) m m' := step_sound stepped
    have kept : m'.queueConnected = m.queueConnected := by
      cases moved
      rfl
    rw [← down, ← kept, told]
    rfl
  · rintro up before after m runtime version now select1 rfl reached
    refine queueConnected_eq_lastOutcome reached ?_
    rintro earlier c later rfl
    exact up earlier c (later ++ after) (by simp)

def firstPublish : List (Label Nat) :=
  [.startCall, .startStep .ok, .startStep .ok, .startStep .ok, .publishCall 0, .published 0 .ok]

theorem health_reports_lastOutcome_firstPublish :
    ∃ g, (machine Nat).run firstPublish init = some g ∧ g.publishes 0 = .returned true ∧
      reported g { startedAt := sampleNow } "1" sampleNow (.ok ()) = lastOutcome firstPublish := by
  refine ⟨_, rfl, rfl, ?_⟩
  refine (health_reports_lastOutcome firstPublish _ rfl).mpr ?_ _ [] _ _ _ _ _ rfl rfl
  intro before c after split
  have published : firstPublish[before.length]? = some (.published c .ok) := by simp [split]
  have earlier : before = firstPublish.take before.length := by simp [split]
  rw [earlier]
  generalize before.length = n at published
  -- only the last step is a publish
  obtain rfl : n = 5 := by
    rcases n with _ | _ | _ | _ | _ | _ | n <;> simp [firstPublish] at published ⊢
  rfl

def flakyPublish : List (Label Nat) :=
  [.startCall, .startStep .ok, .startStep .ok, .startStep .ok, .publishCall 0,
    .published 0 .raised, .publishLogged 0, .publishCall 1, .published 1 .ok]

/-- The second publish returned `True`, and the status stays down. -/
theorem flakyPublish_reported_down :
    ∃ g, (machine Nat).run flakyPublish init = some g ∧ g.publishes 1 = .returned true ∧
      reported g { startedAt := sampleNow } "1" sampleNow (.ok ()) = false ∧
      lastOutcome flakyPublish = true :=
  ⟨_, rfl, rfl, rfl, rfl⟩

end OopsysAgent.Gateway
