import OopsysAgent.Gateway.Invariant

/-!
# One open broker

`_connect_once` builds a broker only when every earlier one was stopped or never connected, so the
last one built is the only one that can be open.
-/

namespace OopsysAgent.Gateway
open Concurrency NatsGateway

structure Connection.Newest (c : Connection) : Prop where
  opened : ∀ b, (c.brokers b).isOpen = true → b + 1 = c.built
  held : ∀ b, c.broker = some b → b + 1 = c.built

def Connection.NoneOpen (c : Connection) : Prop := ∀ b, (c.brokers b).isOpen = false

/-- What `_connect_once` knows of the brokers where it is suspended. -/
def ConnectPc.Knows (c : Connection) : ConnectPc → Prop
  | .connecting b | .starting b | .stopping b => b + 1 = c.built
  | .logFailed => c.NoneOpen
  | .closing _ | .logReady => True

def Progress.Knows (c : Connection) : Progress → Prop
  | .suspended pc => pc.Knows c
  | .returned connected => connected = false → c.NoneOpen

section

variable {c c' : Connection} {b b' : Nat} {f : Broker → Broker}

theorem Connection.modify_self : (c.modify b f).brokers b = f (c.brokers b) :=
  Function.update_self ..

theorem Connection.modify_of_ne (other : b' ≠ b) : (c.modify b f).brokers b' = c.brokers b' :=
  Function.update_of_ne other ..

theorem Connection.Newest.modify (newest : c.Newest)
    (opens : (f (c.brokers b)).isOpen = true → b + 1 = c.built) : (c.modify b f).Newest := by
  refine ⟨?_, newest.held⟩
  intro b' opened
  by_cases same : b' = b
  · subst same
    rw [Connection.modify_self] at opened
    exact opens opened
  · rw [Connection.modify_of_ne same] at opened
    exact newest.opened b' opened

theorem Connection.Newest.callStop (newest : c.Newest) : (c.callStop b).Newest :=
  newest.modify (newest.opened b)

theorem isOpen_endStop (broker : Broker) : Broker.isOpen { broker with stopped := true } = false :=
  Bool.and_false _

theorem Connection.Newest.endStop (newest : c.Newest) : (c.endStop b).Newest :=
  newest.modify fun opened => absurd opened (by simp [isOpen_endStop])

theorem Connection.Newest.noneOpen_endStop (newest : c.Newest) (last : b + 1 = c.built) :
    (c.endStop b).NoneOpen := by
  intro b'
  by_cases same : b' = b
  · subst same
    rw [Connection.endStop, Connection.modify_self]
    exact isOpen_endStop _
  · rw [Connection.endStop, Connection.modify_of_ne same]
    refine Bool.eq_false_iff.mpr fun opened => same ?_
    have newest' := newest.opened b' opened
    omega

theorem Connection.NoneOpen.newest (noneOpen : c.NoneOpen) (closed : c.broker = none) :
    c.Newest := by
  constructor
  · intro b opened
    rw [noneOpen b] at opened
    cases opened
  · intro b held
    rw [closed] at held
    cases held

theorem buildBroker_noneOpen (noneOpen : c.NoneOpen) : (buildBroker c).2.NoneOpen := by
  intro b
  by_cases same : b = c.built
  · subst same
    simp [buildBroker, Broker.isOpen]
  · simpa [buildBroker, same] using noneOpen b

theorem connectOnce_knows (noneOpen : c.NoneOpen) (closed : c.broker = none) :
    (connectOnce c).1.Knows (connectOnce c).2 ∧ (connectOnce c).2.Newest := by
  rw [connectOnce, closed]
  exact ⟨rfl, (buildBroker_noneOpen noneOpen).newest rfl⟩

theorem connectFailed_knows (newest : c.Newest) (last : b + 1 = c.built) :
    (connectFailed b c).1.Knows (connectFailed b c).2 ∧ (connectFailed b c).2.Newest :=
  ⟨last, Connection.Newest.callStop ⟨newest.opened, newest.held⟩⟩

theorem connectStep_knows {pc : ConnectPc} {outcome : Outcome} {p : Progress}
    (newest : c.Newest) (fits : pc.Fits c) (knows : pc.Knows c)
    (moved : connectStep outcome pc c = some (p, c')) : p.Knows c' ∧ c'.Newest := by
  cases pc with
  | closing old => cases fits
  | connecting b =>
      cases outcome with
      | ok =>
          cases moved
          exact ⟨knows, newest.modify fun _ => knows⟩
      | raised =>
          cases moved
          exact connectFailed_knows newest knows
  | starting b =>
      cases outcome with
      | ok =>
          cases moved
          have started : (c.modify b fun broker => { broker with started := true }).Newest :=
            newest.modify fun _ => knows
          refine ⟨trivial, started.opened, ?_⟩
          intro held same
          cases same
          exact knows
      | raised =>
          cases moved
          exact connectFailed_knows newest knows
  | stopping b =>
      cases moved
      refine ⟨?_, newest.endStop⟩
      have noneOpen : (c.endStop b).NoneOpen := newest.noneOpen_endStop knows
      split
      · exact fun _ => noneOpen
      · exact noneOpen
  | logFailed =>
      cases outcome with
      | ok =>
          cases moved
          exact ⟨fun _ => knows, newest.opened, newest.held⟩
      | raised => cases moved
  | logReady =>
      cases outcome with
      | ok =>
          cases moved
          exact ⟨fun failed => (by cases failed), newest⟩
      | raised => cases moved

end

/-! ## The gateway -/

namespace NatsGateway

variable {ι : Type} {g g' : NatsGateway ι} {next : Progress × Connection}

structure Exclusive (g : NatsGateway ι) : Prop where
  newest : g.Newest
  inside : ∀ pc, g.start = .connecting pc ∨ g.retry = .connecting pc → pc.Knows g.toConnection
  idle : g.start = .notCalled ∨ g.retry = .created ∨ g.retry = .sleeping → g.NoneOpen

theorem exclusive_init : Exclusive (init : NatsGateway ι) where
  newest := Connection.NoneOpen.newest (fun _ => rfl) rfl
  inside pc inside := by rcases inside with inside | inside <;> cases inside
  idle _ _ := rfl

theorem Exclusive.startAt (absent : g.retry = .absent) (knows : next.1.Knows next.2)
    (newest : next.2.Newest) : Exclusive (g.startAt next) := by
  refine ⟨by rwa [startAt_toConnection], ?_, ?_⟩
  · intro pc inside
    rw [startAt_inside absent inside] at knows
    rw [startAt_toConnection]
    exact knows
  · intro idle
    rw [startAt_idle absent idle] at knows
    rw [startAt_toConnection]
    exact knows rfl

theorem Exclusive.retryAt {connected : Bool} (started : g.start = .returned connected)
    (knows : next.1.Knows next.2) (newest : next.2.Newest) : Exclusive (g.retryAt next) := by
  refine ⟨by rwa [retryAt_toConnection], ?_, ?_⟩
  · intro pc inside
    rw [retryAt_inside started inside] at knows
    rw [retryAt_toConnection]
    exact knows
  · intro idle
    rw [retryAt_idle started idle] at knows
    rw [retryAt_toConnection]
    exact knows rfl

/-- After `start` has returned and the retry task is over nobody is in `_connect_once` again. -/
theorem Exclusive.of_dead {connected : Bool} (started : g.start = .returned connected)
    (dead : g.retry.alive = false) (newest : g.Newest) : Exclusive g where
  newest := newest
  inside pc inside := absurd inside (not_inside started dead pc)
  idle idle := absurd idle (not_idle started dead)

theorem Exclusive.safeClose (exclusive : Exclusive g) {connected : Bool}
    (started : g.start = .returned connected) (dead : g.retry.alive = false) :
    Exclusive g.safeClose := by
  cases held : g.broker with
  | none =>
      rw [safeClose_closed held]
      exact .of_dead started dead ⟨exclusive.newest.opened, exclusive.newest.held⟩
  | some b =>
      rw [safeClose_held held]
      exact .of_dead started dead exclusive.newest.callStop

theorem Exclusive.endClose (exclusive : Exclusive g) (inv : Inv g) {b : Nat}
    (stopping : g.close = .stopping b) : Exclusive (g.endClose b) := by
  have fits := inv.close
  rw [stopping] at fits
  obtain ⟨⟨connected, started⟩, dead, -⟩ := fits
  have newest : (g.endStop b).Newest := exclusive.newest.endStop
  exact .of_dead started dead ⟨newest.opened, fun b held => by cases held⟩

theorem Exclusive.disconnect (exclusive : Exclusive g) :
    Exclusive { g with queueConnected := false } := by
  refine ⟨⟨exclusive.newest.opened, exclusive.newest.held⟩, ?_, exclusive.idle⟩
  intro pc inside
  have knows := exclusive.inside pc inside
  cases pc <;> exact knows

variable [DecidableEq ι]

theorem step_exclusive {label : Label ι} (inv : Inv g) (exclusive : Exclusive g)
    (stepped : Step label g g') : Exclusive g' := by
  cases stepped with
  | startCall idle =>
      obtain ⟨knows, newest⟩ :=
        connectOnce_knows (exclusive.idle (.inl idle)) (inv.idle (.inl idle))
      exact .startAt (inv.retried.mpr (by simp [idle])) knows newest
  | startStep inside moved =>
      obtain ⟨knows, newest⟩ := connectStep_knows exclusive.newest (inv.inside _ (.inl inside))
        (exclusive.inside _ (.inl inside)) moved
      exact .startAt (inv.retried.mpr (by simp [inside])) knows newest
  | retryBegin created live =>
      have idle : g.start = .notCalled ∨ g.retry = .created ∨ g.retry = .sleeping :=
        .inr (.inl created)
      obtain ⟨knows, newest⟩ := connectOnce_knows (exclusive.idle idle) (inv.idle idle)
      exact .retryAt (inv.started_of_retry (by simp [created])) knows newest
  | retryStep inside live moved =>
      obtain ⟨knows, newest⟩ := connectStep_knows exclusive.newest (inv.inside _ (.inr inside))
        (exclusive.inside _ (.inr inside)) moved
      exact .retryAt (inv.started_of_retry (by simp [inside])) knows newest
  | slept sleeping live =>
      have idle : g.start = .notCalled ∨ g.retry = .created ∨ g.retry = .sleeping :=
        .inr (.inr sleeping)
      obtain ⟨knows, newest⟩ := connectOnce_knows (exclusive.idle idle) (inv.idle idle)
      exact .retryAt (inv.started_of_retry (by simp [sleeping])) knows newest
  | cancelDelivered cancelled alive =>
      have present : g.retry ≠ .absent := fun absent => by simp [absent, RetryPc.alive] at alive
      exact .of_dead (inv.started_of_retry present) rfl exclusive.newest
  | publishedRaised inside =>
      exact (⟨exclusive.newest, exclusive.inside, exclusive.idle⟩ :
        Exclusive (g.publishAt _ .logging)).disconnect
  | closeCalled started uncalled dead => exact exclusive.safeClose started dead
  | closeResumed waiting finished =>
      have fits := inv.close
      rw [waiting] at fits
      obtain ⟨connected, started⟩ := fits.1
      exact exclusive.safeClose started (by rw [finished]; rfl)
  | closeStopped inside => exact exclusive.endClose inv inside
  | _ => exact ⟨exclusive.newest, exclusive.inside, exclusive.idle⟩

theorem run_exclusive {labels : List (Label ι)} (ran : (machine ι).run labels init = some g) :
    Inv g ∧ Exclusive g :=
  Machine.invariant (I := fun m : NatsGateway ι => Inv m ∧ Exclusive m)
    (fun _ _ _ before stepped =>
      ⟨step_inv before.1 (step_sound stepped),
        step_exclusive before.1 before.2 (step_sound stepped)⟩)
    ran ⟨inv_init, exclusive_init⟩

end NatsGateway

/-- At every suspension point of a run. -/
theorem gateway_connection {ι : Type} [DecidableEq ι] (labels : List (Label ι))
    (g : NatsGateway ι) (ran : (machine ι).run labels init = some g) :
    (∀ b b', (g.brokers b).isOpen = true → (g.brokers b').isOpen = true → b = b') ∧
      (∀ b, g.broker = some b →
        b < g.built ∧ (g.brokers b).connected = true ∧ (g.brokers b).started = true) ∧
      (g.queueConnected = true → g.broker ≠ none) ∧
      (∀ pc pc', ¬(g.start = .connecting pc ∧ g.retry = .connecting pc')) ∧
      ∀ c, g.publishes c = .idle → g.broker = none →
        step (.publishCall c) g =
          some { g with publishes := Function.update g.publishes c (.returned false) } := by
  obtain ⟨inv, exclusive⟩ := run_exclusive ran
  refine ⟨?_, ?_, ?_, ?_, ?_⟩
  · intro b b' opened opened'
    have last := exclusive.newest.opened b opened
    have last' := exclusive.newest.opened b' opened'
    omega
  · intro b held
    have last := exclusive.newest.held b held
    obtain ⟨connected, started, -⟩ := inv.sound.held b held
    exact ⟨by omega, connected, started⟩
  · intro connected closed
    rw [inv.sound.disconnected closed] at connected
    cases connected
  · intro pc pc' both
    have failed := inv.started_of_retry (by simp [both.2])
    rw [failed] at both
    cases both.1
  · intro c idle closed
    simp only [step, idle, closed]
    rfl

/-- The first broker connected and could not be started; the retry task builds a second one. -/
def secondBroker : List (Label Nat) :=
  [.startCall, .startStep .ok, .startStep .raised, .startStep .raised, .startStep .ok, .retryBegin,
    .retryStep .ok, .retryStep .ok, .publishCall 0]

theorem gateway_connection_secondBroker :
    ∃ g, (machine Nat).run secondBroker init = some g ∧ g.broker = some 1 ∧
      (g.brokers 0).connected = true ∧ ∀ b, (g.brokers b).isOpen = true → b = 1 := by
  refine ⟨_, rfl, rfl, rfl, ?_⟩
  intro b opened
  exact (gateway_connection secondBroker _ rfl).1 b 1 opened rfl

end OopsysAgent.Gateway
