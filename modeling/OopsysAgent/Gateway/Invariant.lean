import OopsysAgent.Gateway.Model

namespace OopsysAgent.Gateway
open Concurrency

/-! ## The connection -/

structure Connection.Sound (c : Connection) : Prop where
  queue : c.queueConnected = true → c.broker.isSome = true
  held : ∀ b, c.broker = some b → (c.brokers b).connected = true ∧
    (c.brokers b).started = true ∧ (c.brokers b).stopped = false

theorem Connection.Sound.disconnected {c : Connection} (sound : c.Sound) (closed : c.broker = none) :
    c.queueConnected = false := by
  apply Bool.eq_false_iff.mpr
  intro connected
  have held := sound.queue connected
  rw [closed] at held
  cases held

theorem Connection.sound_of_closed {c : Connection} (closed : c.broker = none)
    (disconnected : c.queueConnected = false) : c.Sound where
  queue connected := by rw [disconnected] at connected; cases connected
  held b some := by rw [closed] at some; cases some

/-- What holds where `_connect_once` is suspended. It is only called while no broker is held, so it
never closes one. -/
def ConnectPc.Fits (c : Connection) : ConnectPc → Prop
  | .closing _ => False
  | .connecting b => c.broker = none ∧ c.brokers b = {}
  | .starting b => c.broker = none ∧ c.brokers b = { connected := true }
  | .stopping b => c.broker = none ∧ (c.brokers b).stopCalled = true
  | .logFailed => c.broker = none
  | .logReady => c.broker.isSome = true

def Progress.Fits (c : Connection) : Progress → Prop
  | .suspended pc => pc.Fits c
  | .returned connected => c.broker.isSome = connected

section

variable {c c' : Connection} {pc : ConnectPc} {outcome : Outcome} {p : Progress}

theorem connectOnce_fits (sound : c.Sound) (closed : c.broker = none) :
    (connectOnce c).1.Fits (connectOnce c).2 ∧ (connectOnce c).2.Sound := by
  rw [connectOnce, closed]
  exact ⟨⟨rfl, Function.update_self ..⟩,
    Connection.sound_of_closed rfl (sound.disconnected closed)⟩

theorem connectFailed_fits (b : Nat) (closed : c.broker = none) :
    (connectFailed b c).1.Fits (connectFailed b c).2 ∧ (connectFailed b c).2.Sound := by
  refine ⟨⟨closed, ?_⟩, Connection.sound_of_closed closed rfl⟩
  simp [connectFailed, Connection.callStop, Connection.modify]

theorem connectStep_fits (sound : c.Sound) (fits : pc.Fits c)
    (moved : connectStep outcome pc c = some (p, c')) : p.Fits c' ∧ c'.Sound := by
  cases pc with
  | closing old => cases fits
  | connecting b =>
      obtain ⟨closed, fresh⟩ := fits
      cases outcome with
      | ok =>
          cases moved
          refine ⟨⟨closed, ?_⟩, Connection.sound_of_closed closed (sound.disconnected closed)⟩
          simp [Connection.modify, fresh]
      | raised =>
          cases moved
          exact connectFailed_fits b closed
  | starting b =>
      obtain ⟨closed, connected⟩ := fits
      cases outcome with
      | ok =>
          cases moved
          refine ⟨rfl, fun _ => rfl, ?_⟩
          intro held same
          cases same
          simp [Connection.modify, connected]
      | raised =>
          cases moved
          exact connectFailed_fits b closed
  | stopping b =>
      obtain ⟨closed, -⟩ := fits
      cases moved
      refine ⟨?_, Connection.sound_of_closed closed (sound.disconnected closed)⟩
      split
      · simp [Progress.Fits, Connection.endStop, Connection.modify, closed]
      · exact closed
  | logFailed =>
      cases outcome with
      | ok =>
          cases moved
          have closed : c.broker = none := fits
          exact ⟨by simp [Progress.Fits, closed], sound.queue, sound.held⟩
      | raised => cases moved
  | logReady =>
      cases outcome with
      | ok =>
          cases moved
          exact ⟨fits, sound⟩
      | raised => cases moved

end

/-! ## The gateway -/

namespace NatsGateway

variable {ι : Type}

def CloseFits (g : NatsGateway ι) : ClosePc → Prop
  | .notCalled => g.cancelled = false ∧
      (g.start = .returned true ∨ g.retry = .finished → g.broker.isSome = true)
  | .awaitingRetry => (∃ connected, g.start = .returned connected) ∧ g.cancelled = true
  | .stopping b => (∃ connected, g.start = .returned connected) ∧ g.retry.alive = false ∧
      g.broker = some b ∧ (g.brokers b).stopCalled = true
  | .returned => (∃ connected, g.start = .returned connected) ∧ g.retry.alive = false ∧
      g.broker = none ∧ g.queueConnected = false

structure Inv (g : NatsGateway ι) : Prop where
  sound : g.Sound
  inside : ∀ pc, g.start = .connecting pc ∨ g.retry = .connecting pc → pc.Fits g.toConnection
  idle : g.start = .notCalled ∨ g.retry = .created ∨ g.retry = .sleeping → g.broker = none
  retried : g.retry = .absent ↔ g.start ≠ .returned false
  close : g.CloseFits g.close

theorem inv_init : Inv (init : NatsGateway ι) where
  sound := Connection.sound_of_closed rfl rfl
  inside pc inside := by rcases inside with inside | inside <;> cases inside
  idle _ := rfl
  retried := by simp [init]
  close := by simp [CloseFits, init]

section

variable {g g' : NatsGateway ι} {next : Progress × Connection}

theorem Inv.notClosed (inv : Inv g) (running : ∀ connected, g.start ≠ .returned connected) :
    g.close = .notCalled := by
  have fits := inv.close
  cases called : g.close with
  | notCalled => rfl
  | _ =>
      rw [called] at fits
      obtain ⟨connected, returned⟩ := fits.1
      exact absurd returned (running connected)

/-- While the retry task is alive, `close` has at most been called. -/
theorem Inv.close_of_alive (inv : Inv g) (alive : g.retry.alive = true) :
    g.close = if g.cancelled then .awaitingRetry else .notCalled := by
  have fits := inv.close
  cases called : g.close with
  | notCalled =>
      rw [called] at fits
      rw [fits.1]
      rfl
  | awaitingRetry =>
      rw [called] at fits
      rw [fits.2]
      rfl
  | stopping b =>
      rw [called] at fits
      exact absurd alive (by simp [fits.2.1])
  | returned =>
      rw [called] at fits
      exact absurd alive (by simp [fits.2.1])

theorem startAt_inside (absent : g.retry = .absent) {pc : ConnectPc}
    (inside : (g.startAt next).start = .connecting pc ∨ (g.startAt next).retry = .connecting pc) :
    next.1 = .suspended pc := by
  obtain ⟨⟨pc'⟩ | ⟨⟨⟩ | ⟨⟩⟩, c⟩ := next
  · simp only [NatsGateway.startAt, absent, StartPc.connecting.injEq, reduceCtorEq,
      or_false] at inside
    rw [inside]
  · simp [NatsGateway.startAt] at inside
  · simp [NatsGateway.startAt, absent] at inside

theorem startAt_idle (absent : g.retry = .absent) (idle : (g.startAt next).start = .notCalled ∨
    (g.startAt next).retry = .created ∨ (g.startAt next).retry = .sleeping) :
    next.1 = .returned false := by
  obtain ⟨⟨pc⟩ | ⟨⟨⟩ | ⟨⟩⟩, c⟩ := next
  · simp [NatsGateway.startAt, absent] at idle
  · rfl
  · simp [NatsGateway.startAt, absent] at idle

theorem retryAt_inside {connected : Bool} (started : g.start = .returned connected)
    {pc : ConnectPc}
    (inside : (g.retryAt next).start = .connecting pc ∨ (g.retryAt next).retry = .connecting pc) :
    next.1 = .suspended pc := by
  obtain ⟨⟨pc'⟩ | ⟨⟨⟩ | ⟨⟩⟩, c⟩ := next
  · simp only [NatsGateway.retryAt, started, reduceCtorEq, RetryPc.connecting.injEq,
      false_or] at inside
    rw [inside]
  · simp [NatsGateway.retryAt, started] at inside
  · simp [NatsGateway.retryAt, started] at inside

theorem retryAt_idle {connected : Bool} (started : g.start = .returned connected)
    (idle : (g.retryAt next).start = .notCalled ∨
      (g.retryAt next).retry = .created ∨ (g.retryAt next).retry = .sleeping) :
    next.1 = .returned false := by
  obtain ⟨⟨pc⟩ | ⟨⟨⟩ | ⟨⟩⟩, c⟩ := next
  · simp [NatsGateway.retryAt, started] at idle
  · rfl
  · simp [NatsGateway.retryAt, started] at idle

theorem Inv.startAt (inv : Inv g) (running : ∀ connected, g.start ≠ .returned connected)
    (fits : next.1.Fits next.2) (sound : next.2.Sound) : Inv (g.startAt next) := by
  have uncalled := inv.notClosed running
  have absent := inv.retried.mpr (running false)
  have live := inv.close
  rw [uncalled] at live
  refine ⟨by rwa [startAt_toConnection], ?_, ?_, ?_, ?_⟩
  · intro pc inside
    rw [startAt_inside absent inside] at fits
    rw [startAt_toConnection]
    exact fits
  · intro idle
    rw [startAt_idle absent idle] at fits
    rw [startAt_toConnection]
    simpa [Progress.Fits] using fits
  · obtain ⟨⟨pc⟩ | ⟨⟨⟩ | ⟨⟩⟩, c⟩ := next <;> simp [NatsGateway.startAt, absent]
  · rw [startAt_close, uncalled]
    obtain ⟨⟨pc⟩ | ⟨⟨⟩ | ⟨⟩⟩, c⟩ := next
    · simp [NatsGateway.startAt, CloseFits, live.1, absent]
    · simp [NatsGateway.startAt, CloseFits, live.1]
    · have held : c.broker.isSome = true := fits
      simp [NatsGateway.startAt, CloseFits, live.1, held]

theorem Inv.started_of_retry (inv : Inv g) (present : g.retry ≠ .absent) :
    g.start = .returned false := by
  by_contra other
  exact present (inv.retried.mpr other)

theorem Inv.retryAt (inv : Inv g) (present : g.retry ≠ .absent) (live : g.cancelled = false)
    (alive : g.retry.alive = true) (fits : next.1.Fits next.2) (sound : next.2.Sound) :
    Inv (g.retryAt next) := by
  have started := inv.started_of_retry present
  have uncalled : g.close = .notCalled := by
    rw [inv.close_of_alive alive, live]
    rfl
  refine ⟨by rwa [retryAt_toConnection], ?_, ?_, ?_, ?_⟩
  · intro pc inside
    rw [retryAt_inside started inside] at fits
    rw [retryAt_toConnection]
    exact fits
  · intro idle
    rw [retryAt_idle started idle] at fits
    rw [retryAt_toConnection]
    simpa [Progress.Fits] using fits
  · obtain ⟨⟨pc⟩ | ⟨⟨⟩ | ⟨⟩⟩, c⟩ := next <;> simp [NatsGateway.retryAt, started]
  · rw [retryAt_close, uncalled]
    obtain ⟨⟨pc⟩ | ⟨⟨⟩ | ⟨⟩⟩, c⟩ := next
    · simp [NatsGateway.retryAt, CloseFits, live, started]
    · simp [NatsGateway.retryAt, CloseFits, live, started]
    · have held : c.broker.isSome = true := fits
      simp [NatsGateway.retryAt, CloseFits, live, held]

theorem not_inside {connected : Bool} (started : g.start = .returned connected)
    (dead : g.retry.alive = false) (pc : ConnectPc) :
    ¬(g.start = .connecting pc ∨ g.retry = .connecting pc) := by
  rintro (inside | inside)
  · simp [started] at inside
  · simp [inside, RetryPc.alive] at dead

theorem not_idle {connected : Bool} (started : g.start = .returned connected)
    (dead : g.retry.alive = false) :
    ¬(g.start = .notCalled ∨ g.retry = .created ∨ g.retry = .sleeping) := by
  rintro (idle | idle | idle)
  · simp [started] at idle
  · simp [idle, RetryPc.alive] at dead
  · simp [idle, RetryPc.alive] at dead

theorem Inv.safeClose (inv : Inv g) {connected : Bool} (started : g.start = .returned connected)
    (dead : g.retry.alive = false) : Inv g.safeClose := by
  have inside := not_inside started dead
  have idle := not_idle started dead
  cases held : g.broker with
  | none =>
      rw [safeClose_closed held]
      exact ⟨Connection.sound_of_closed held rfl, fun pc here => absurd here (inside pc),
        fun here => absurd here idle, inv.retried, ⟨connected, started⟩, dead, held, rfl⟩
  | some b =>
      rw [safeClose_held held]
      refine ⟨⟨inv.sound.queue, fun other same => ?_⟩, fun pc here => absurd here (inside pc),
        fun here => absurd here idle, inv.retried, ⟨connected, started⟩, dead, held, ?_⟩
      · obtain rfl : b = other := Option.some.inj (held.symm.trans same)
        simpa [Connection.callStop, Connection.modify] using inv.sound.held b held
      · simp [Connection.callStop, Connection.modify]

theorem Inv.endClose (inv : Inv g) {b : Nat} (stopping : g.close = .stopping b) :
    Inv (g.endClose b) := by
  have fits := inv.close
  rw [stopping] at fits
  obtain ⟨⟨connected, started⟩, dead, -⟩ := fits
  exact ⟨Connection.sound_of_closed rfl rfl, fun pc here => absurd here (not_inside started dead pc),
    fun _ => rfl, inv.retried, ⟨connected, started⟩, dead, rfl, rfl⟩

theorem Inv.disconnect (inv : Inv g) : Inv { g with queueConnected := false } := by
  refine ⟨⟨fun connected => (by cases connected), inv.sound.held⟩, ?_, inv.idle, inv.retried, ?_⟩
  · intro pc inside
    have fits := inv.inside pc inside
    cases pc <;> exact fits
  · have fits := inv.close
    cases called : g.close <;> rw [called] at fits
    · exact fits
    · exact fits
    · exact fits
    · exact ⟨fits.1, fits.2.1, fits.2.2.1, rfl⟩

variable [DecidableEq ι]

theorem step_inv {label : Label ι} (inv : Inv g) (stepped : Step label g g') : Inv g' := by
  cases stepped with
  | startCall idle =>
      have closed := inv.idle (.inl idle)
      obtain ⟨fits, sound⟩ := connectOnce_fits inv.sound closed
      exact inv.startAt (by simp [idle]) fits sound
  | startStep inside moved =>
      obtain ⟨fits, sound⟩ := connectStep_fits inv.sound (inv.inside _ (.inl inside)) moved
      exact inv.startAt (by simp [inside]) fits sound
  | retryBegin created live =>
      have closed := inv.idle (.inr (.inl created))
      obtain ⟨fits, sound⟩ := connectOnce_fits inv.sound closed
      exact inv.retryAt (by simp [created]) live (by rw [created]; rfl) fits sound
  | retryStep inside live moved =>
      obtain ⟨fits, sound⟩ := connectStep_fits inv.sound (inv.inside _ (.inr inside)) moved
      exact inv.retryAt (by simp [inside]) live (by rw [inside]; rfl) fits sound
  | slept sleeping live =>
      have closed := inv.idle (.inr (.inr sleeping))
      obtain ⟨fits, sound⟩ := connectOnce_fits inv.sound closed
      exact inv.retryAt (by simp [sleeping]) live (by rw [sleeping]; rfl) fits sound
  | cancelDelivered cancelled alive =>
      have waiting : g.close = .awaitingRetry := by
        rw [inv.close_of_alive alive, cancelled]
        rfl
      have fits := inv.close
      rw [waiting] at fits
      obtain ⟨connected, started⟩ := fits.1
      refine ⟨inv.sound, ?_, ?_, ?_, ?_⟩
      · intro pc inside
        rcases inside with inside | inside
        · exact inv.inside pc (.inl inside)
        · cases inside
      · intro idle
        simp [started] at idle
      · have present : g.retry ≠ .absent := fun absent => by simp [absent, RetryPc.alive] at alive
        simpa using mt inv.retried.mpr present
      · simpa [waiting, CloseFits] using fits
  | publishedRaised inside =>
      exact (⟨inv.sound, inv.inside, inv.idle, inv.retried, inv.close⟩ :
        Inv (g.publishAt _ .logging)).disconnect
  | closeWaits started uncalled alive =>
      exact ⟨inv.sound, inv.inside, inv.idle, inv.retried, ⟨_, started⟩, rfl⟩
  | closeCalled started uncalled dead => exact inv.safeClose started dead
  | closeResumed waiting finished =>
      have fits := inv.close
      rw [waiting] at fits
      obtain ⟨connected, started⟩ := fits.1
      exact inv.safeClose started (by rw [finished]; rfl)
  | closeStopped inside => exact inv.endClose inside
  | _ => exact ⟨inv.sound, inv.inside, inv.idle, inv.retried, inv.close⟩

theorem run_inv {labels : List (Label ι)} (ran : (machine ι).run labels g = some g')
    (inv : Inv g) : Inv g' :=
  Machine.invariant (I := Inv) (fun _ _ _ before stepped => step_inv before (step_sound stepped))
    ran inv

end

end NatsGateway

end OopsysAgent.Gateway
