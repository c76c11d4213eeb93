import OopsysAgent.Gateway.Invariant

/-!
# Closing the gateway

Every connected broker has been told to stop, is held by the gateway, or is the local variable of a
`_connect_once` that is suspended in `broker.start()`. The last kind is lost when the task is
cancelled there.
-/

namespace OopsysAgent.Gateway
open Concurrency NatsGateway

/-- No connected broker is running but the one held and the one that `p` is starting. -/
def Connection.Released (c : Connection) (p : Progress) : Prop :=
  ∀ b, (c.brokers b).connected = true → (c.brokers b).stopCalled = true ∨ c.broker = some b ∨
    p = .suspended (.starting b)

section

variable {c c' : Connection} {pc : ConnectPc} {outcome : Outcome} {p : Progress} {b : Nat}

theorem Connection.Released.stopped (released : c.Released p) (closed : c.broker = none)
    (settled : ∀ b, p ≠ .suspended (.starting b)) (connected : (c.brokers b).connected = true) :
    (c.brokers b).stopCalled = true := by
  rcases released b connected with stopped | held | starting
  · exact stopped
  · rw [closed] at held
    cases held
  · exact absurd starting (settled b)

theorem Connection.Released.modify (stopped : ∀ b', b' ≠ b → (c.brokers b').connected = true →
    (c.brokers b').stopCalled = true) {f : Broker → Broker}
    (here : (f (c.brokers b)).stopCalled = true ∨ c.broker = some b ∨
      p = .suspended (.starting b)) : (c.modify b f).Released p := by
  intro b' connected
  by_cases same : b' = b
  · subst same
    simpa [Connection.modify] using here
  · left
    simp only [Connection.modify, Function.update_of_ne same] at connected ⊢
    exact stopped b' same connected

theorem connectOnce_released (closed : c.broker = none)
    (stopped : ∀ b, (c.brokers b).connected = true → (c.brokers b).stopCalled = true) :
    (connectOnce c).2.Released (connectOnce c).1 := by
  rw [connectOnce, closed]
  intro b connected
  by_cases same : b = c.built
  · subst same
    simp [buildBroker] at connected
  · left
    simp only [buildBroker, Function.update_of_ne same] at connected ⊢
    exact stopped b connected

theorem connectFailed_released (stopped : ∀ b', b' ≠ b → (c.brokers b').connected = true →
    (c.brokers b').stopCalled = true) : (connectFailed b c).2.Released p :=
  Connection.Released.modify (c := { c with queueConnected := false })
    (f := fun broker => { broker with stopCalled := true }) stopped (.inl rfl)

theorem connectStep_released (fits : pc.Fits c) (released : c.Released (.suspended pc))
    (moved : connectStep outcome pc c = some (p, c')) : c'.Released p := by
  cases pc with
  | closing old => cases fits
  | connecting b =>
      have stopped : ∀ b', (c.brokers b').connected = true → (c.brokers b').stopCalled = true :=
        fun b' connected => released.stopped fits.1 (by simp) connected
      cases outcome with
      | ok =>
          cases moved
          exact .modify (fun b' _ => stopped b') (.inr (.inr rfl))
      | raised =>
          cases moved
          exact connectFailed_released fun b' _ => stopped b'
  | starting b =>
      have stopped : ∀ b', b' ≠ b → (c.brokers b').connected = true →
          (c.brokers b').stopCalled = true := by
        intro b' other connected
        rcases released b' connected with stopped | held | starting
        · exact stopped
        · rw [fits.1] at held
          cases held
        · cases starting
          exact absurd rfl other
      cases outcome with
      | ok =>
          cases moved
          exact Connection.Released.modify (f := fun broker => { broker with started := true })
            (c := { c with
              broker := some b
              queueConnected := true
              connectFailedLogged := false }) stopped (.inr (.inl rfl))
      | raised =>
          cases moved
          exact connectFailed_released stopped
  | stopping b =>
      cases moved
      exact .modify (fun b' _ connected => released.stopped fits.1 (by simp) connected)
        (.inl fits.2)
  | logFailed =>
      cases outcome with
      | ok =>
          cases moved
          exact fun b connected => .inl (released.stopped fits (by simp) connected)
      | raised => cases moved
  | logReady =>
      cases outcome with
      | ok =>
          cases moved
          intro b connected
          rcases released b connected with stopped | held | starting
          · exact .inl stopped
          · exact .inr (.inl held)
          · cases starting
      | raised => cases moved

end

namespace NatsGateway

variable {ι : Type}

def Released (g : NatsGateway ι) : Prop :=
  ∀ b, (g.brokers b).connected = true → (g.brokers b).stopCalled = true ∨ g.broker = some b ∨
    g.start = .connecting (.starting b) ∨ g.retry = .connecting (.starting b)

section

variable {g g' : NatsGateway ι} {next : Progress × Connection}

theorem Released.inside (released : g.Released) {pc : ConnectPc}
    (only : ∀ b, g.start = .connecting (.starting b) ∨ g.retry = .connecting (.starting b) →
      pc = .starting b) : g.toConnection.Released (.suspended pc) := by
  intro b connected
  rcases released b connected with stopped | held | starting
  · exact .inl stopped
  · exact .inr (.inl held)
  · exact .inr (.inr (by rw [only b starting]))

theorem Released.stopped (released : g.Released) (closed : g.broker = none)
    (settled : ∀ b, ¬(g.start = .connecting (.starting b) ∨ g.retry = .connecting (.starting b)))
    (b : Nat) (connected : (g.brokers b).connected = true) : (g.brokers b).stopCalled = true := by
  rcases released b connected with stopped | held | starting
  · exact stopped
  · rw [closed] at held
    cases held
  · exact absurd starting (settled b)

theorem Released.startAt (released : next.2.Released next.1) : (g.startAt next).Released := by
  intro b connected
  rw [startAt_toConnection] at connected ⊢
  rcases released b connected with stopped | held | starting
  · exact .inl stopped
  · exact .inr (.inl held)
  · obtain ⟨_, c⟩ := next
    cases starting
    exact .inr (.inr (.inl rfl))

theorem Released.retryAt (released : next.2.Released next.1) : (g.retryAt next).Released := by
  intro b connected
  rw [retryAt_toConnection] at connected ⊢
  rcases released b connected with stopped | held | starting
  · exact .inl stopped
  · exact .inr (.inl held)
  · obtain ⟨_, c⟩ := next
    cases starting
    exact .inr (.inr (.inr rfl))

theorem Released.safeClose (released : g.Released) : g.safeClose.Released := by
  cases held : g.broker with
  | none =>
      rw [safeClose_closed held]
      exact released
  | some b =>
      rw [safeClose_held held]
      intro b' connected
      by_cases same : b' = b
      · subst same
        exact .inl (by simp [Connection.callStop, Connection.modify])
      · simp only [Connection.callStop, Connection.modify, Function.update_of_ne same]
          at connected ⊢
        exact released b' connected

def NotStarting (g : NatsGateway ι) : Prop := ∀ b, g.retry ≠ .connecting (.starting b)

structure Tidy (g : NatsGateway ι) : Prop where
  inv : g.Inv
  released : g.Released
  settled : g.cancelled = true → g.NotStarting

theorem tidy_init : Tidy (init : NatsGateway ι) where
  inv := inv_init
  released b connected := by cases connected
  settled cancelled := by cases cancelled

theorem safeClose_frame : g.safeClose.cancelled = g.cancelled ∧ g.safeClose.retry = g.retry ∧
    g.safeClose.close ≠ .notCalled := by
  cases held : g.broker with
  | none => rw [safeClose_closed held]; exact ⟨rfl, rfl, by simp⟩
  | some b => rw [safeClose_held held]; exact ⟨rfl, rfl, by simp⟩

theorem Inv.live (inv : Inv g) (running : ∀ connected, g.start ≠ .returned connected) :
    g.cancelled = false := by
  have fits := inv.close
  rw [inv.notClosed running] at fits
  exact fits.1

structure Closed (g : NatsGateway ι) : Prop where
  stopped : ∀ b, (g.brokers b).connected = true → (g.brokers b).stopCalled = true
  broker : g.broker = none
  queueConnected : g.queueConnected = false
  retry : g.retry = .absent ∨ g.retry = .finished

theorem retry_dead {retry : RetryPc} (dead : retry.alive = false) :
    retry = .absent ∨ retry = .finished := by
  cases retry <;> simp_all [RetryPc.alive]

theorem Tidy.of_live (inv : g.Inv) (released : g.Released) (live : g.cancelled = false) :
    Tidy g := by
  refine ⟨inv, released, ?_⟩
  intro cancelled
  rw [live] at cancelled
  cases cancelled

theorem Released.endClose (released : g.Released) (inv : g.Inv) {b : Nat}
    (stopping : g.close = .stopping b) : (g.endClose b).Released := by
  have fits := inv.close
  rw [stopping] at fits
  obtain ⟨⟨connected, started⟩, dead, held, stopped⟩ := fits
  intro b' connected
  left
  by_cases same : b' = b
  · subst same
    simpa [NatsGateway.endClose, Connection.endStop, Connection.modify] using stopped
  · simp only [NatsGateway.endClose, Connection.endStop, Connection.modify,
      Function.update_of_ne same] at connected ⊢
    rcases released b' connected with stopped | here | starting
    · exact stopped
    · exact absurd (Option.some.inj (here.symm.trans held)) same
    · exact absurd starting (not_inside started dead _)

theorem Tidy.safeClose (tidy : Tidy g) (inv : g.safeClose.Inv) : Tidy g.safeClose := by
  refine ⟨inv, tidy.released.safeClose, ?_⟩
  rw [NotStarting, safeClose_frame.1, safeClose_frame.2.1]
  exact tidy.settled

theorem Tidy.closed (tidy : Tidy g) (returned : g.close = .returned) : Closed g := by
  have fits := tidy.inv.close
  rw [returned] at fits
  obtain ⟨⟨connected, started⟩, dead, closed, disconnected⟩ := fits
  exact ⟨tidy.released.stopped closed fun b => not_inside started dead _, closed, disconnected,
    retry_dead dead⟩

variable [DecidableEq ι]

theorem step_tidy {label : Label ι} (tidy : Tidy g) (quiet : label = .closeCall → g.NotStarting)
    (stepped : Step label g g') : Tidy g' := by
  have inv := step_inv tidy.inv stepped
  have released := tidy.released
  -- outside `_connect_once` every connected broker that is not held was told to stop
  have opening (closed : g.broker = none)
      (outside : ¬∃ b, g.start = .connecting (.starting b) ∨ g.retry = .connecting (.starting b)) :
      (connectOnce g.toConnection).2.Released (connectOnce g.toConnection).1 :=
    connectOnce_released closed (released.stopped closed fun b inside => outside ⟨b, inside⟩)
  have absent (running : ∀ connected, g.start ≠ .returned connected) : g.retry = .absent :=
    tidy.inv.retried.mpr (running false)
  have returned (present : g.retry ≠ .absent) : g.start = .returned false := by
    by_contra other
    exact present (tidy.inv.retried.mpr other)
  cases stepped with
  | startCall idle =>
      have retry := absent (by simp [idle])
      have connecting := opening (tidy.inv.idle (.inl idle)) (by simp [idle, retry])
      refine .of_live inv (.startAt connecting) ?_
      rw [startAt_cancelled, tidy.inv.live (by simp [idle])]
  | startStep inside moved =>
      have retry := absent (by simp [inside])
      have connecting := connectStep_released (tidy.inv.inside _ (.inl inside))
        (released.inside (by simp [inside, retry])) moved
      refine .of_live inv (.startAt connecting) ?_
      rw [startAt_cancelled, tidy.inv.live (by simp [inside])]
  | retryBegin created live =>
      have start := returned (by simp [created])
      have connecting := opening (tidy.inv.idle (.inr (.inl created))) (by simp [created, start])
      refine .of_live inv (.retryAt connecting) ?_
      rw [retryAt_cancelled, live]
  | retryStep inside live moved =>
      have start := returned (by simp [inside])
      have connecting := connectStep_released (tidy.inv.inside _ (.inr inside))
        (released.inside (by simp [inside, start])) moved
      refine .of_live inv (.retryAt connecting) ?_
      rw [retryAt_cancelled, live]
  | slept sleeping live =>
      have start := returned (by simp [sleeping])
      have connecting := opening (tidy.inv.idle (.inr (.inr sleeping))) (by simp [sleeping, start])
      refine .of_live inv (.retryAt connecting) ?_
      rw [retryAt_cancelled, live]
  | cancelDelivered cancelled alive =>
      refine ⟨inv, ?_, fun _ b starting => by cases starting⟩
      intro b connected
      rcases released b connected with stopped | held | starting | starting
      · exact .inl stopped
      · exact .inr (.inl held)
      · exact .inr (.inr (.inl starting))
      · exact absurd starting (tidy.settled cancelled b)
  | closeWaits started uncalled alive => exact ⟨inv, released, fun _ => quiet rfl⟩
  | closeCalled started uncalled dead => exact tidy.safeClose inv
  | closeResumed waiting finished => exact tidy.safeClose inv
  | closeStopped inside => exact ⟨inv, released.endClose tidy.inv inside, tidy.settled⟩
  | _ => exact ⟨inv, released, tidy.settled⟩

/-! ## After `close` -/

theorem run_returned (inv : g.Inv) (returned : g.close = .returned) {more : List (Label ι)}
    (ran : (machine ι).run more g = some g') :
    g'.brokers = g.brokers ∧ g'.broker = g.broker ∧ g'.queueConnected = g.queueConnected ∧
      g'.retry = g.retry := by
  have general : g'.Inv ∧ g'.close = .returned ∧ g'.brokers = g.brokers ∧ g'.broker = g.broker ∧
      g'.queueConnected = g.queueConnected ∧ g'.retry = g.retry := by
    refine Machine.invariant (I := fun m => m.Inv ∧ m.close = .returned ∧ m.brokers = g.brokers ∧
        m.broker = g.broker ∧ m.queueConnected = g.queueConnected ∧ m.retry = g.retry)
      ?_ ran ⟨inv, returned, rfl, rfl, rfl, rfl⟩
    rintro label m m' ⟨here, ended, brokers, broker, queueConnected, retry⟩ stepped
    have moved := step_sound stepped
    refine ⟨step_inv here moved, ?_⟩
    have fits := here.close
    rw [ended] at fits
    obtain ⟨⟨connected, started⟩, dead, closed, disconnected⟩ := fits
    cases moved with
    | publishedRaised inside =>
        exact ⟨ended, brokers, broker, disconnected.symm.trans queueConnected, retry⟩
    | startCall idle => simp [started] at idle
    | startStep inside moved => simp [started] at inside
    | retryBegin created live => simp [created, RetryPc.alive] at dead
    | retryStep inside live moved => simp [inside, RetryPc.alive] at dead
    | slept sleeping live => simp [sleeping, RetryPc.alive] at dead
    | cancelDelivered cancelled alive => simp [alive] at dead
    | closeWaits started uncalled alive => simp [ended] at uncalled
    | closeCalled started uncalled dead => simp [ended] at uncalled
    | closeResumed waiting finished => simp [ended] at waiting
    | closeStopped inside => simp [ended] at inside
    | _ => exact ⟨ended, brokers, broker, queueConnected, retry⟩
  exact general.2.2

/-- A broker that connected and that nothing will stop any more. -/
structure Leaked (b : Nat) (g : NatsGateway ι) : Prop where
  running : g.brokers b = { connected := true }
  broker : g.broker = none
  cancelled : g.cancelled = true
  closing : g.close = .awaitingRetry ∨ g.close = .returned

theorem run_leaked {b : Nat} (inv : g.Inv) (leaked : Leaked b g) {more : List (Label ι)}
    (ran : (machine ι).run more g = some g') : Leaked b g' := by
  have general : g'.Inv ∧ Leaked b g' := by
    refine Machine.invariant (I := fun m => m.Inv ∧ Leaked b m) ?_ ran ⟨inv, leaked⟩
    rintro label m m' ⟨here, running, broker, cancelled, closing⟩ stepped
    have moved := step_sound stepped
    refine ⟨step_inv here moved, ?_⟩
    have started : ∃ connected, m.start = .returned connected := by
      have fits := here.close
      rcases closing with closing | closing <;> rw [closing] at fits <;> exact fits.1
    obtain ⟨connected, started⟩ := started
    cases moved with
    | startCall idle => simp [started] at idle
    | startStep inside moved => simp [started] at inside
    | retryBegin created live => simp [cancelled] at live
    | retryStep inside live moved => simp [cancelled] at live
    | slept sleeping live => simp [cancelled] at live
    | closeWaits started uncalled alive => simp [uncalled] at closing
    | closeCalled started uncalled dead => simp [uncalled] at closing
    | closeResumed waiting finished =>
        rw [safeClose_closed broker]
        exact ⟨running, broker, cancelled, .inr rfl⟩
    | closeStopped inside => simp [inside] at closing
    | _ => exact ⟨running, broker, cancelled, closing⟩
  exact general.2

theorem step_called {label : Label ι} (called : g.close ≠ .notCalled) (stepped : Step label g g') :
    g'.close ≠ .notCalled := by
  cases stepped with
  | startCall idle => rwa [startAt_close]
  | startStep inside moved => rwa [startAt_close]
  | retryBegin created live => rwa [retryAt_close]
  | retryStep inside live moved => rwa [retryAt_close]
  | slept sleeping live => rwa [retryAt_close]
  | closeWaits started uncalled alive => simp
  | closeCalled started uncalled dead => exact safeClose_frame.2.2
  | closeResumed waiting finished => exact safeClose_frame.2.2
  | closeStopped inside => simp [endClose]
  | _ => exact called

theorem step_closeCall (stepped : Step .closeCall g g') :
    g.close = .notCalled ∧ g'.close ≠ .notCalled := by
  cases stepped with
  | closeWaits started uncalled alive => exact ⟨uncalled, by simp⟩
  | closeCalled started uncalled dead => exact ⟨uncalled, safeClose_frame.2.2⟩

theorem run_called {labels : List (Label ι)} (called : g.close ≠ .notCalled)
    (ran : (machine ι).run labels g = some g') : g'.close ≠ .notCalled :=
  Machine.invariant (I := fun m : NatsGateway ι => m.close ≠ .notCalled)
    (fun _ _ _ before stepped => step_called before (step_sound stepped)) ran called

theorem closeCall_splits {labels : List (Label ι)} (ran : (machine ι).run labels g = some g')
    (member : .closeCall ∈ labels) :
    ∃ earlier m, (machine ι).run earlier g = some m ∧ m.close = .notCalled ∧
      g'.close ≠ .notCalled := by
  obtain ⟨earlier, later, rfl⟩ := List.append_of_mem member
  obtain ⟨m, reached, rest⟩ := (Machine.run_append_eq_some _).mp ran
  obtain ⟨m', stepped, rest⟩ := (Machine.run_cons_eq_some _).mp rest
  obtain ⟨uncalled, called⟩ := step_closeCall (step_sound stepped)
  exact ⟨earlier, m, reached, uncalled, run_called called rest⟩

theorem run_tidy {labels : List (Label ι)} (ran : (machine ι).run labels g = some g')
    (uncalled : .closeCall ∉ labels) (tidy : Tidy g) : Tidy g' :=
  Machine.invariant_of_labels (I := Tidy) (P := (· ≠ .closeCall))
    (fun _ _ _ other before stepped =>
      step_tidy before (fun same => absurd same other) (step_sound stepped))
    ran (fun _ member => ne_of_mem_of_not_mem member uncalled) tidy

end

end NatsGateway

/-- When `close` has returned nothing is left running and nothing changes any more, exactly if the
retry task was not suspended in `broker.start()` when `close` was called. -/
theorem close_leaves_nothing {ι : Type} [DecidableEq ι] (before after : List (Label ι))
    (g₀ g : NatsGateway ι) (called : (machine ι).run before init = some g₀)
    (ran : (machine ι).run (.closeCall :: after) g₀ = some g) (returned : g.close = .returned) :
    (g.Closed ∧ ∀ more g', (machine ι).run more g = some g' →
      g'.brokers = g.brokers ∧ g'.broker = g.broker ∧ g'.queueConnected = g.queueConnected ∧
        g'.retry = g.retry) ↔ g₀.NotStarting := by
  obtain ⟨g₁, stepped, rest⟩ := (Machine.run_cons_eq_some _).mp ran
  have closing : Step .closeCall g₀ g₁ := step_sound stepped
  have inv₀ : g₀.Inv := run_inv called inv_init
  have inv₁ : g₁.Inv := step_inv inv₀ closing
  constructor
  · rintro ⟨closed, -⟩ b starting
    have fits := inv₀.inside _ (.inr starting)
    have leaked : Leaked b g₁ := by
      cases closing with
      | closeWaits started uncalled alive => exact ⟨fits.2, fits.1, rfl, .inl rfl⟩
      | closeCalled started uncalled dead => simp [starting, RetryPc.alive] at dead
    have running := (run_leaked inv₁ leaked rest).running
    have stopped := closed.stopped b (by rw [running])
    rw [running] at stopped
    cases stopped
  · intro quiet
    have first : .closeCall ∉ before := by
      intro member
      obtain ⟨-, -, -, -, already⟩ := closeCall_splits called member
      exact already (step_closeCall closing).1
    have last : .closeCall ∉ after := by
      intro member
      obtain ⟨earlier, m, reached, uncalled, -⟩ := closeCall_splits rest member
      exact run_called (step_closeCall closing).2 reached uncalled
    have tidy₁ : g₁.Tidy := step_tidy (run_tidy called first tidy_init) (fun _ => quiet) closing
    have tidy : g.Tidy := run_tidy rest last tidy₁
    exact ⟨tidy.closed returned, fun more g' later => run_returned tidy.inv returned later⟩

/-- The first attempt of `start` fails, and the retry task gets as far as its `broker.start()`. -/
def retryStarting : List (Label Nat) :=
  [.startCall, .startStep .raised, .startStep .ok, .startStep .ok, .retryBegin, .retryStep .ok]

theorem close_leaves_nothing_connecting :
    ∃ g₀ g, (machine Nat).run (retryStarting.take 5) init = some g₀ ∧
      (machine Nat).run [.closeCall, .cancelDelivered, .closeResumed] g₀ = some g ∧ g.Closed := by
  refine ⟨_, _, rfl, rfl, ?_⟩
  exact ((close_leaves_nothing (retryStarting.take 5) [.cancelDelivered, .closeResumed] _ _ rfl rfl
    rfl).mpr fun b starting => by cases starting).1

/-- `close` one step later: the second broker connected, and nothing ever stops it. -/
theorem retryStarting_leaks :
    ∃ g, (machine Nat).run (retryStarting ++ [.closeCall, .cancelDelivered, .closeResumed]) init =
        some g ∧ g.close = .returned ∧ (g.brokers 1).connected = true ∧
      (g.brokers 1).stopCalled = false ∧ ¬g.Closed := by
  refine ⟨_, rfl, rfl, rfl, rfl, ?_⟩
  intro closed
  exact absurd (closed.stopped 1 rfl) Bool.false_ne_true

end OopsysAgent.Gateway
