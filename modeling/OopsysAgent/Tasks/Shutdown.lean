import OopsysAgent.Gateway.Shutdown
import OopsysAgent.Tasks.Lifespan

/-!
# Startup and shutdown

The metrics task runs from its creation until `scheduler.stop()`, and is over before the gateway is
closed. A shutdown that comes to its end leaves no task and no broker behind, and no client whose
`close()` was not called.
-/

namespace OopsysAgent
open Concurrency Gateway

/-! ## The metrics task -/

/-- What the metrics task, or its end, leaves of the clients. -/
def LoopPc.Works (clients : Clients) : LoopPc → Prop
  | .created => clients.Settled
  | .running call next => Clients.Safe (.act call next) Clients.schedulerEnd clients
  | .absent | .ended => clients.Closable

def LoopPc.Alive (s : AgentScheduler) : LoopPc → Prop
  | .created => True
  | .running call next =>
      Prompt s (.act call next) ∧ (Program.act call next).Raises (· = .cancelled)
  | .absent | .ended => False

/-- The metrics task, cancelled or not. -/
def LoopPc.Stoppable (s : AgentScheduler) : LoopPc → Prop
  | .created | .ended => True
  | .running call next => ∃ st, Prompt s (.act call next) st
  | .absent => False

section

variable {s : AgentScheduler} {clients clients' : Clients} {rest : Coroutine Unit} {call : Call}
  {next : Answer call → Coroutine Unit} {r : Answer call}

theorem schedulerEnd_closable {error : Exc}
    (ended : Clients.schedulerEnd (.error error) clients) : clients.Closable := by
  cases error with
  | cancelled => exact ended
  | exception exc => exact Clients.Settled.closable ended

theorem works_of (safe : Clients.Safe rest Clients.schedulerEnd clients) :
    (LoopPc.of rest).Works clients := by
  cases rest with
  | ret _ => exact Clients.Settled.closable safe
  | raise error => exact schedulerEnd_closable safe
  | act call next => exact safe

theorem works_next (safe : Clients.Safe rest Clients.schedulerEnd clients) :
    (LoopPc.next s rest).Works clients := by
  cases rest with
  | ret _ => exact works_of (Clients.iteration_safe s safe)
  | raise error => exact works_of safe
  | act call next => exact safe

theorem LoopPc.Alive.stoppable {loop : LoopPc} (alive : loop.Alive s) : loop.Stoppable s := by
  cases loop with
  | created => trivial
  | running call next => exact ⟨.clear, alive.1⟩
  | absent | ended => exact alive.elim

theorem stoppable_next {st : Interruption} (prompt : Prompt s rest st) :
    (LoopPc.next s rest).Stoppable s := by
  cases rest with
  | ret _ => exact ⟨.clear, iteration_prompt⟩
  | raise error => trivial
  | act call next => exact ⟨st, prompt⟩

theorem alive_iteration : (LoopPc.of s.iteration).Alive s := ⟨iteration_prompt, iteration_raises⟩

theorem alive_next (prompt : Prompt s rest) (raises : rest.Raises (· = .cancelled)) :
    (LoopPc.next s rest).Alive s := by
  cases rest with
  | ret _ => exact alive_iteration
  | raise error =>
      obtain rfl : error = .cancelled := raises
      simp [Prompt, Program.Meets, promptEnd] at prompt
  | act call next => exact ⟨prompt, raises⟩

end

/-! ## The end of the client -/

/-- Returns unless a call is cancelled, which is then its last. -/
def Returns (p : Coroutine Unit) (told : Bool) : Prop :=
  p.Meets (fun told entry => some (told || isCancelled entry)) (fun _ told => told = false)
    (fun o told => o = .ok () ↔ told = false) told

theorem ask_returns {call : Call} {f : Answer call → Coroutine Unit}
    (calm : ∀ r, isCancelled ⟨call, r⟩ = false) (later : ∀ r, Returns (f r) false) :
    Returns (do let r ← Coroutine.ask call; f r) false := by
  refine ⟨rfl, ?_⟩
  rintro r told same
  obtain rfl := Option.some.inj same
  rw [calm r]
  exact later r

theorem modify_returns (f : DockerMonitor → DockerMonitor) :
    Returns (DockerMonitor.modify f) false := by
  apply ask_returns fun _ => rfl
  intro monitor
  refine ⟨rfl, ?_⟩
  rintro r told same
  obtain rfl := Option.some.inj same
  exact ⟨fun _ => rfl, fun _ => rfl⟩

theorem safeClose_returns : Returns DockerMonitor.safeClose false := by
  apply ask_returns fun _ => rfl
  intro monitor
  split
  · refine ⟨rfl, ?_⟩
    rintro ((_ | exc) | ⟨⟩) told same <;> obtain rfl := Option.some.inj same
    · exact ⟨nofun, nofun⟩
    · exact modify_returns _
    · exact modify_returns _
  · exact ⟨fun _ => rfl, fun _ => rfl⟩

/-! ## Answers -/

/-- Answers of surroundings in which nothing fails. -/
def calmAnswer (monitor : DockerMonitor) : (call : Call) → Answer call
  | .monitor => monitor
  | call => sampleAnswer (.ok ()) (.ok ()) call

/-- Answers to a task that is cancelled at its next await. `collect_server_metrics` and `Docker()` are
called without an `await`. -/
def cancelAnswer (monitor : DockerMonitor) : (call : Call) → Answer call
  | .commit _ => .error .cancelled
  | .sessionClose => .cancelled
  | .brokerPublish _ _ => .error .cancelled
  | .log _ => .cancelled
  | .sleep => .cancelled
  | .dockerVersion => .error .cancelled
  | .dockerClose => .error .cancelled
  | .containersList => .error .cancelled
  | call => calmAnswer monitor call

theorem calmAnswer_calm (monitor : DockerMonitor) (call : Call) :
    isCancelled ⟨call, calmAnswer monitor call⟩ = false := by
  cases call <;> rfl

theorem calmAnswer_uninterrupted (s : AgentScheduler) (monitor : DockerMonitor) (call : Call) :
    interrupts s ⟨call, calmAnswer monitor call⟩ = false := by
  cases call <;> rfl

theorem calmAnswer_answers (clients : Clients) (call : Call) :
    ∃ clients', clients.update? ⟨call, calmAnswer clients.monitor call⟩ = some clients' := by
  cases call <;> simp [Clients.update?, calmAnswer, sampleAnswer]

theorem cancelAnswer_answers (clients : Clients) (call : Call) :
    ∃ clients', clients.update? ⟨call, cancelAnswer clients.monitor call⟩ = some clients' := by
  cases call <;> simp [Clients.update?, cancelAnswer, calmAnswer, sampleAnswer]

/-! ## The phases -/

namespace Lifespan

variable {ι : Type}

/-- `gateway.start()` has returned, and `gateway.close()` was not called. -/
def Started (g : NatsGateway ι) : Prop :=
  (∃ connected, g.start = .returned connected) ∧ g.close = .notCalled

def Waits (g : NatsGateway ι) : Prop := g.close = .awaitingRetry → g.retry ≠ .absent

def Phase (s : AgentScheduler) (l : Lifespan ι) : LifespanPc → Prop
  | .preparing => l.loop = .absent ∧ l.clients.Disconnected ∧ l.gateway.start = .notCalled
  | .startingGateway => l.loop = .absent ∧ l.clients.Disconnected ∧ l.gateway.close = .notCalled
  | .connectingDocker call next =>
      l.loop = .absent ∧ Clients.Safe (.act call next) Clients.schedulerEnd l.clients ∧
        Started l.gateway
  | .logStarted | .serving => l.loop.Alive s ∧ l.loop.Works l.clients ∧ Started l.gateway
  | .awaitingLoop => l.loop.Stoppable s ∧ l.loop.Works l.clients ∧ Started l.gateway
  | .closingDocker call next =>
      l.loop = .ended ∧ Started l.gateway ∧ Returns (.act call next) false ∧
        ∃ available, Clients.Safe (.act call next) (Clients.closeEnd available) l.clients
  | .logStopped => l.loop = .ended ∧ l.clients.Closed ∧ Started l.gateway
  | .closingGateway =>
      l.loop = .ended ∧ l.clients.Closed ∧ l.gateway.close ≠ .notCalled ∧ Waits l.gateway
  | .closingContainer | .returned =>
      l.loop = .ended ∧ l.clients.Closed ∧ l.gateway.close = .returned
  | .raised =>
      l.loop.Works l.clients ∧ (l.gateway.close ≠ .notCalled → l.loop = .ended ∧ l.clients.Closed)

structure Inv (s : AgentScheduler) (l : Lifespan ι) : Prop where
  gateway : l.gateway.Inv
  phase : Phase s l l.pc

theorem init_inv (s : AgentScheduler) : Inv s (init : Lifespan ι) :=
  ⟨NatsGateway.inv_init, rfl, Clients.initial_disconnected, rfl⟩

variable {s : AgentScheduler} {l l' : Lifespan ι}

/-- What the gateway's own steps leave of its `start` and its `close`. -/
structure Frame (g g' : NatsGateway ι) : Prop where
  idle : g.start = .notCalled → g'.start = .notCalled
  started : ∀ connected, g.start = .returned connected → g'.start = .returned connected
  uncalled : g.close = .notCalled → g'.close = .notCalled
  called : g.close ≠ .notCalled → g'.close ≠ .notCalled
  closed : g.close = .returned → g'.close = .returned
  waits : Waits g → Waits g'

theorem startAt_present {g : NatsGateway ι} {after : Progress × Connection}
    (present : g.retry ≠ .absent) : (g.startAt after).retry ≠ .absent := by
  obtain ⟨⟨pc⟩ | ⟨⟨⟩ | ⟨⟩⟩, c⟩ := after
  · exact present
  · nofun
  · exact present

theorem retryAt_present {g : NatsGateway ι} {after : Progress × Connection} :
    (g.retryAt after).retry ≠ .absent := by
  obtain ⟨⟨pc⟩ | ⟨⟨⟩ | ⟨⟩⟩, c⟩ := after <;> nofun

theorem safeClose_waits {g : NatsGateway ι} : Waits g.safeClose := by
  unfold Waits NatsGateway.safeClose
  split <;> nofun

theorem step_waits [DecidableEq ι] {label : Gateway.Label ι} {g g' : NatsGateway ι}
    (waits : Waits g) (moved : NatsGateway.Step label g g') : Waits g' := by
  cases moved with
  | startCall idle | startStep inside moved =>
      intro waiting
      rw [NatsGateway.startAt_close] at waiting
      exact startAt_present (waits waiting)
  | retryBegin created live | retryStep inside live moved | slept sleeping live =>
      exact fun _ => retryAt_present
  | cancelDelivered cancelled alive => nofun
  | closeWaits started uncalled alive =>
      rintro - absent
      change g.retry = .absent at absent
      rw [absent] at alive
      cases alive
  | closeCalled started uncalled dead | closeResumed waiting finished => exact safeClose_waits
  | closeStopped inside => nofun
  | _ => exact waits

theorem gateway_frame [DecidableEq ι] {label : Gateway.Label ι} {g g' : NatsGateway ι}
    (own : ownStep label = true) (moved : NatsGateway.Step label g g') : Frame g g' := by
  have called := fun called => NatsGateway.step_called called moved
  have waits := fun waits => step_waits waits moved
  cases moved with
  | startCall idle | closeWaits started uncalled alive | closeCalled started uncalled dead =>
      cases own
  | startStep inside moved =>
      exact ⟨by simp [inside], by simp [inside], by simp, called, by simp, waits⟩
  | retryBegin created live | retryStep inside live moved | slept sleeping live =>
      exact ⟨by simp, by simp, by simp, called, by simp, waits⟩
  | closeResumed waiting finished =>
      have start : g.safeClose.start = g.start := by
        unfold NatsGateway.safeClose
        split <;> rfl
      exact ⟨by simp [start], by simp [start], by simp [waiting], called, by simp [waiting], waits⟩
  | closeStopped inside =>
      exact ⟨id, fun _ => id, by simp [inside], called, by simp [inside], waits⟩
  | _ => exact ⟨id, fun _ => id, id, called, id, waits⟩

theorem Frame.ready {g g' : NatsGateway ι} (frame : Frame g g') (started : Started g) :
    Started g' := by
  obtain ⟨⟨connected, started⟩, uncalled⟩ := started
  exact ⟨⟨connected, frame.started connected started⟩, frame.uncalled uncalled⟩

theorem Frame.phase {g : NatsGateway ι} (frame : Frame l.gateway g) {pc : LifespanPc}
    (phase : Phase s l pc) : Phase s { l with gateway := g } pc := by
  cases pc with
  | preparing => exact ⟨phase.1, phase.2.1, frame.idle phase.2.2⟩
  | startingGateway => exact ⟨phase.1, phase.2.1, frame.uncalled phase.2.2⟩
  | connectingDocker => exact ⟨phase.1, phase.2.1, frame.ready phase.2.2⟩
  | logStarted | serving => exact ⟨phase.1, phase.2.1, frame.ready phase.2.2⟩
  | awaitingLoop => exact ⟨phase.1, phase.2.1, frame.ready phase.2.2⟩
  | closingDocker => exact ⟨phase.1, frame.ready phase.2.1, phase.2.2⟩
  | logStopped => exact ⟨phase.1, phase.2.1, frame.ready phase.2.2⟩
  | closingGateway =>
      exact ⟨phase.1, phase.2.1, frame.called phase.2.2.1, frame.waits phase.2.2.2⟩
  | closingContainer | returned => exact ⟨phase.1, phase.2.1, frame.closed phase.2.2⟩
  | raised =>
      refine ⟨phase.1, ?_⟩
      intro called
      exact phase.2 fun uncalled => called (frame.uncalled uncalled)

theorem Phase.raised {pc : LifespanPc} (phase : Phase s l pc) (breaks : pc.breaks = true)
    (inv : l.gateway.Inv) : Phase s { l with pc := .raised } .raised := by
  have closable {clients : Clients} (absent : l.loop = .absent ∨ l.loop = .ended)
      (closable : clients.Closable) : l.loop.Works clients := by
    rcases absent with same | same <;> exact same ▸ closable
  cases pc with
  | preparing =>
      obtain ⟨absent, disconnected, idle⟩ := phase
      have uncalled := inv.notClosed (by simp [idle])
      refine ⟨closable (.inl absent) disconnected.toClosed.closable, ?_⟩
      exact fun called => absurd uncalled called
  | startingGateway =>
      obtain ⟨absent, disconnected, uncalled⟩ := phase
      refine ⟨closable (.inl absent) disconnected.toClosed.closable, ?_⟩
      exact fun called => absurd uncalled called
  | logStarted =>
      obtain ⟨-, works, -, uncalled⟩ := phase
      exact ⟨works, fun called => absurd uncalled called⟩
  | logStopped | closingGateway | closingContainer =>
      obtain ⟨ended, closed, -⟩ := phase
      exact ⟨closable (.inr ended) closed.closable, fun _ => ⟨ended, closed⟩⟩
  | _ => cases breaks

theorem Phase.loop {pc : LifespanPc} {loop : LoopPc} {clients : Clients} (phase : Phase s l pc)
    (present : l.loop ≠ .absent) (live : l.loop ≠ .ended)
    (works : l.loop.Works l.clients → loop.Works clients)
    (alive : pc.cancels = false → l.loop.Alive s → loop.Alive s)
    (stoppable : l.loop.Stoppable s → loop.Stoppable s) :
    Phase s { l with loop, clients } pc := by
  cases pc with
  | logStarted | serving => exact ⟨alive rfl phase.1, works phase.2.1, phase.2.2⟩
  | awaitingLoop => exact ⟨stoppable phase.1, works phase.2.1, phase.2.2⟩
  | raised => exact ⟨works phase.1, fun called => absurd (phase.2 called).1 live⟩
  | preparing | startingGateway | connectingDocker => exact absurd phase.1 present
  | closingDocker | logStopped | closingGateway | closingContainer | returned =>
      exact absurd phase.1 live

theorem Phase.connect {rest : Coroutine Unit} (absent : l.loop = .absent)
    (safe : Clients.Safe rest Clients.schedulerEnd l.clients) (started : Started l.gateway) :
    Phase s (l.afterConnect rest) (l.afterConnect rest).pc := by
  cases rest with
  | ret _ => exact ⟨trivial, safe, started⟩
  | raise error =>
      refine ⟨?_, fun called => absurd started.2 called⟩
      exact absent ▸ schedulerEnd_closable safe
  | act call next => exact ⟨absent, safe, started⟩

theorem Phase.close {rest : Coroutine Unit} {available : Bool} (ended : l.loop = .ended)
    (started : Started l.gateway) {told : Bool} (returns : Returns rest told)
    (safe : Clients.Safe rest (Clients.closeEnd available) l.clients) :
    Phase s (l.afterClose rest) (l.afterClose rest).pc := by
  cases rest with
  | ret _ => exact ⟨ended, safe.1, started⟩
  | raise error =>
      refine ⟨?_, fun called => absurd started.2 called⟩
      exact ended ▸ safe
  | act call next =>
      obtain rfl : told = false := returns.1
      exact ⟨ended, started, returns, available, safe⟩

theorem afterConnect_gateway (rest : Coroutine Unit) :
    (l.afterConnect rest).gateway = l.gateway := by
  cases rest <;> rfl

theorem afterClose_gateway (rest : Coroutine Unit) : (l.afterClose rest).gateway = l.gateway := by
  cases rest <;> rfl

theorem step_inv [DecidableEq ι] {label : Label ι} (inv : Inv s l) (stepped : Step s label l l') :
    Inv s l' := by
  obtain ⟨gateway, phase⟩ := inv
  cases stepped with
  | prepared preparing moved =>
      rw [preparing] at phase
      obtain ⟨absent, disconnected, idle⟩ := phase
      refine ⟨NatsGateway.step_inv gateway moved, absent, disconnected, ?_⟩
      have uncalled := gateway.notClosed (by simp [idle])
      cases moved
      simpa using uncalled
  | gatewayStarted starting started =>
      rw [starting] at phase
      obtain ⟨absent, disconnected, uncalled⟩ := phase
      refine ⟨(afterConnect_gateway _).symm ▸ gateway,
        Phase.connect absent ?_ ⟨⟨_, started⟩, uncalled⟩⟩
      exact Clients.connectAndCopy_safe disconnected
  | connect inside answered =>
      rw [inside] at phase
      obtain ⟨absent, safe, started⟩ := phase
      refine ⟨(afterConnect_gateway _).symm ▸ gateway, Phase.connect absent ?_ started⟩
      exact safe.2 _ _ answered
  | started logging =>
      rw [logging] at phase
      exact ⟨gateway, phase⟩
  | shutdown serving =>
      rw [serving] at phase
      obtain ⟨alive, works, started⟩ := phase
      exact ⟨gateway, alive.stoppable, works, started⟩
  | loopBegun created =>
      refine ⟨gateway, phase.loop (by simp [created]) (by simp [created]) ?_ ?_ ?_⟩
      · intro works
        rw [created] at works
        exact works_of (Clients.iteration_safe s works)
      · exact fun _ _ => alive_iteration
      · exact fun _ => alive_iteration.stoppable
  | loop running answered cancelled =>
      refine ⟨gateway, phase.loop (by simp [running]) (by simp [running]) ?_ ?_ ?_⟩
      · intro works
        rw [running] at works
        exact works_next (works.2 _ _ answered)
      · intro live alive
        rw [running] at alive
        obtain ⟨prompt, raises⟩ := alive
        apply alive_next (prompt.next _) (raises _)
        apply Bool.eq_false_iff.mpr
        intro interrupted
        cases live.symm.trans (cancelled interrupted)
      · intro stoppable
        rw [running] at stoppable
        obtain ⟨st, prompt⟩ := stoppable
        exact stoppable_next (prompt.told _)
  | loopDropped created cancelled =>
      refine ⟨gateway, phase.loop (by simp [created]) (by simp [created]) ?_ ?_ ?_⟩
      · intro works
        rw [created] at works
        exact works.closable
      · intro live
        cases live.symm.trans cancelled
      · exact fun _ => trivial
  | loopAwaited awaiting ended =>
      rw [awaiting] at phase
      obtain ⟨-, works, started⟩ := phase
      rw [ended] at works
      have safe := Clients.safeClose_safe works
      exact ⟨(afterClose_gateway _).symm ▸ gateway, Phase.close ended started safeClose_returns safe⟩
  | @close _ answer call _ _ inside answered =>
      rw [inside] at phase
      obtain ⟨ended, started, returns, available, safe⟩ := phase
      have returns := returns.2 (answer call) _ rfl
      have safe := safe.2 _ _ answered
      exact ⟨(afterClose_gateway _).symm ▸ gateway, Phase.close ended started returns safe⟩
  | stopped logging moved =>
      rw [logging] at phase
      obtain ⟨ended, closed, -, uncalled⟩ := phase
      have waits : Waits l.gateway := by simp [Waits, uncalled]
      refine ⟨NatsGateway.step_inv gateway moved, ended, closed, ?_, step_waits waits moved⟩
      exact (NatsGateway.step_closeCall moved).2
  | gatewayClosed closing closed =>
      rw [closing] at phase
      exact ⟨gateway, phase.1, phase.2.1, closed⟩
  | containerClosed closing =>
      rw [closing] at phase
      exact ⟨gateway, phase⟩
  | raised breaks => exact ⟨gateway, phase.raised breaks gateway⟩
  | gateway own moved =>
      exact ⟨NatsGateway.step_inv gateway moved, (gateway_frame own moved).phase phase⟩

theorem run_inv [DecidableEq ι] {labels : List (Label ι)}
    (ran : (machine ι s).run labels init = some l) : Inv s l :=
  Machine.invariant (I := Inv s) (fun _ _ _ inv stepped => step_inv inv (step_sound stepped)) ran
    (init_inv s)

/-! ## The way to the end -/

def CanReturn [DecidableEq ι] (s : AgentScheduler) (l : Lifespan ι) : Prop :=
  ∃ labels l', (machine ι s).run labels l = some l' ∧ l'.pc = .returned

def CanClose [DecidableEq ι] (g : NatsGateway ι) : Prop :=
  ∃ labels g', (NatsGateway.machine ι).run labels g = some g' ∧ g'.close = .returned ∧
    ∀ label ∈ labels, ownStep label = true

section

variable [DecidableEq ι] {g g' : NatsGateway ι}

theorem CanClose.of_step {label : Gateway.Label ι} (stepped : NatsGateway.step label g = some g')
    (own : ownStep label = true) (later : CanClose g') : CanClose g := by
  obtain ⟨labels, g'', ran, closed, owns⟩ := later
  refine ⟨label :: labels, g'', ?_, closed, List.forall_mem_cons.mpr ⟨own, owns⟩⟩
  exact (Machine.run_cons_eq_some _).mpr ⟨g', stepped, ran⟩

theorem CanClose.of_returned (returned : g.close = .returned) : CanClose g :=
  ⟨[], g, rfl, returned, nofun⟩

theorem canClose_stopping {b : Nat} (stopping : g.close = .stopping b) : CanClose g := by
  have stepped : NatsGateway.step .closeStopped g = some (g.endClose b) := by
    simp [NatsGateway.step, stopping]
  exact .of_step stepped rfl (.of_returned rfl)

theorem canClose_safeClose : CanClose g.safeClose := by
  cases held : g.broker with
  | none =>
      rw [NatsGateway.safeClose_closed held]
      exact .of_returned rfl
  | some b =>
      rw [NatsGateway.safeClose_held held]
      exact canClose_stopping rfl

theorem canClose_finished (waiting : g.close = .awaitingRetry) (finished : g.retry = .finished) :
    CanClose g := by
  have stepped : NatsGateway.step .closeResumed g = some g.safeClose := by
    simp [NatsGateway.step, waiting, finished]
  exact .of_step stepped rfl canClose_safeClose

theorem canClose (inv : g.Inv) (called : g.close ≠ .notCalled) (waits : Waits g) : CanClose g := by
  have fits := inv.close
  cases closing : g.close with
  | notCalled => exact absurd closing called
  | stopping b => exact canClose_stopping closing
  | returned => exact .of_returned closing
  | awaitingRetry =>
      rw [closing] at fits
      cases alive : g.retry.alive with
      | true =>
          have stepped :
              NatsGateway.step .cancelDelivered g = some { g with retry := .finished } := by
            simp [NatsGateway.step, fits.2, alive]
          exact .of_step stepped rfl (canClose_finished closing rfl)
      | false =>
          rcases NatsGateway.retry_dead alive with absent | finished
          · exact absurd absent (waits closing)
          · exact canClose_finished closing finished

theorem CanReturn.of_step {label : Label ι} (stepped : step s label l = some l')
    (later : CanReturn s l') : CanReturn s l := by
  obtain ⟨labels, l'', ran, returned⟩ := later
  exact ⟨label :: labels, l'', (Machine.run_cons_eq_some _).mpr ⟨l', stepped, ran⟩, returned⟩

theorem canReturn_container (closing : l.pc = .closingContainer) : CanReturn s l := by
  have stepped : step s .containerClosed l = some { l with pc := .returned } := by
    simp [step, closing]
  exact .of_step stepped ⟨[], _, rfl, rfl⟩

theorem canReturn_gateway (closing : l.pc = .closingGateway) (close : CanClose l.gateway) :
    CanReturn s l := by
  obtain ⟨labels, g, ran, closed, own⟩ := close
  induction labels generalizing l with
  | nil =>
      obtain rfl := Option.some.inj ran
      have stepped : step s .gatewayClosed l = some { l with pc := .closingContainer } := by
        simp [step, closing, closed]
      exact .of_step stepped (canReturn_container rfl)
  | cons label labels ih =>
      obtain ⟨between, stepped, ran⟩ := (Machine.run_cons_eq_some _).mp ran
      obtain ⟨here, own⟩ := List.forall_mem_cons.mp own
      have stepped : NatsGateway.step label l.gateway = some between := stepped
      have moved : step s (.gateway label) l = some { l with gateway := between } := by
        simp [step, here, stepped]
      exact .of_step moved (ih closing ran own)

theorem canReturn_stopped (inv : l.gateway.Inv) (logging : l.pc = .logStopped)
    (started : Started l.gateway) : CanReturn s l := by
  obtain ⟨⟨connected, started⟩, uncalled⟩ := started
  obtain ⟨g, moved⟩ : ∃ g, NatsGateway.step .closeCall l.gateway = some g := by
    simp [NatsGateway.step, started, uncalled]
  have stepped : step s .stopped l = some { l with pc := .closingGateway, gateway := g } := by
    simp [step, logging, moved]
  have sound := NatsGateway.step_sound moved
  have waits : Waits l.gateway := by simp [Waits, uncalled]
  have close : CanClose g :=
    canClose (NatsGateway.step_inv inv sound) (NatsGateway.step_closeCall sound).2
      (step_waits waits sound)
  exact .of_step stepped (canReturn_gateway rfl close)

theorem canReturn_close {rest : Coroutine Unit} (inv : l.gateway.Inv) (returns : Returns rest false)
    (started : Started l.gateway) : CanReturn s (l.afterClose rest) := by
  induction rest generalizing l with
  | ret _ => exact canReturn_stopped inv rfl started
  | raise error => simp [Returns, Program.Meets] at returns
  | act call next ih =>
      obtain ⟨clients, answered⟩ := calmAnswer_answers l.clients call
      set answer := calmAnswer l.clients.monitor
      have stepped : step s (.close answer) (l.afterClose (.act call next)) =
          some ({ l with clients }.afterClose (next (answer call))) := by
        simp [step, afterClose, answered]
      have later := returns.2 (answer call) _ rfl
      rw [calmAnswer_calm] at later
      exact .of_step stepped (ih _ inv later started)

theorem canReturn_ended (inv : l.gateway.Inv) (awaiting : l.pc = .awaitingLoop)
    (ended : l.loop = .ended) (started : Started l.gateway) : CanReturn s l := by
  have stepped : step s .loopAwaited l = some (l.afterClose DockerMonitor.safeClose) := by
    simp [step, awaiting, ended]
  exact .of_step stepped (canReturn_close inv safeClose_returns started)

theorem step_loop {call : Call} {next : Answer call → Coroutine Unit}
    {answer : (call : Call) → Answer call} (awaiting : l.pc = .awaitingLoop)
    (running : l.loop = .running call next)
    (answers : ∃ clients, l.clients.update? ⟨call, answer call⟩ = some clients) :
    ∃ clients, step s (.loop answer) l =
      some { l with clients, loop := .next s (next (answer call)) } := by
  obtain ⟨clients, answered⟩ := answers
  exact ⟨clients, by simp [step, running, awaiting, LifespanPc.cancels, answered]⟩

/-- The task was cancelled, and at most closes its session yet. -/
theorem canReturn_cancelled {rest : Coroutine Unit} {st : Interruption} (inv : l.gateway.Inv)
    (awaiting : l.pc = .awaitingLoop) (started : Started l.gateway)
    (running : l.loop = .next s rest) (prompt : Prompt s rest st)
    (cancelled : st = .delivered ∨ st = .closed) : CanReturn s l := by
  cases rest with
  | ret _ =>
      have clear : st = .clear := (promptEnd_iff (by simp)).mp prompt
      simp [clear] at cancelled
  | raise error => exact canReturn_ended inv awaiting running started
  | act call next =>
      obtain rfl | rfl := cancelled
      · obtain rfl : call = .sessionClose := prompt.1
        obtain ⟨clients, stepped⟩ := step_loop (s := s) awaiting running
          (calmAnswer_answers l.clients .sessionClose)
        have later : Prompt s (next .returned) .closed := prompt.told .returned
        obtain ⟨-, raised⟩ := later.closed (.nil _)
        have ended : LoopPc.next s (next .returned) = .ended := by rw [raised]; rfl
        exact .of_step stepped (canReturn_ended inv awaiting ended started)
      · exact prompt.1.elim

theorem after_cancelled {st : Interruption} {entry : Entry Call Answer}
    (cancelled : isCancelled entry = true) :
    st.after s entry = .delivered ∨ st.after s entry = .closed := by
  obtain ⟨call, r⟩ := entry
  by_cases close : call = .sessionClose
  · subst close
    cases r with
    | returned => cases cancelled
    | cancelled => exact .inr rfl
  · exact .inl (by rw [after_of_ne close, if_pos cancelled])

/-- The cancellation is delivered where the task is suspended. -/
theorem canReturn_suspended {call : Call} {next : Answer call → Coroutine Unit} {st : Interruption}
    (inv : l.gateway.Inv) (awaiting : l.pc = .awaitingLoop) (started : Started l.gateway)
    (running : l.loop = .running call next) (prompt : Prompt s (.act call next) st)
    (cancelled : isCancelled ⟨call, cancelAnswer l.clients.monitor call⟩ = true) :
    CanReturn s l := by
  obtain ⟨clients, stepped⟩ := step_loop (s := s) awaiting running
    (cancelAnswer_answers l.clients call)
  have later := prompt.told (cancelAnswer l.clients.monitor call)
  exact .of_step stepped
    (canReturn_cancelled inv awaiting started rfl later (after_cancelled cancelled))

/-- A new iteration reads the metrics of the host and is suspended in the commit. -/
theorem canReturn_iteration (inv : l.gateway.Inv) (awaiting : l.pc = .awaitingLoop)
    (started : Started l.gateway) (running : l.loop = .of s.iteration) : CanReturn s l := by
  obtain ⟨clients, stepped⟩ := step_loop (s := s) awaiting running
    (calmAnswer_answers l.clients .collectServerMetrics)
  have prompt := (iteration_prompt (s := s)).next
    (calmAnswer_uninterrupted s l.clients.monitor .collectServerMetrics)
  exact .of_step stepped (canReturn_suspended inv awaiting started rfl prompt rfl)

theorem canReturn_next {rest : Coroutine Unit} {st : Interruption} (inv : l.gateway.Inv)
    (awaiting : l.pc = .awaitingLoop) (started : Started l.gateway)
    (running : l.loop = .next s rest) (prompt : Prompt s rest st) : CanReturn s l := by
  induction rest generalizing l st with
  | ret _ => exact canReturn_iteration inv awaiting started running
  | raise error => exact canReturn_ended inv awaiting running started
  | act call next ih =>
      by_cases cancelled : st = .delivered ∨ st = .closed
      · exact canReturn_cancelled inv awaiting started running prompt cancelled
      cases suspended : isCancelled ⟨call, cancelAnswer l.clients.monitor call⟩ with
      | true => exact canReturn_suspended inv awaiting started running prompt suspended
      | false =>
        obtain ⟨clients, stepped⟩ := step_loop (s := s) awaiting running
          (cancelAnswer_answers l.clients call)
        exact .of_step stepped (ih _ inv awaiting started rfl (prompt.told _))

theorem canReturn_awaiting (inv : l.gateway.Inv) (awaiting : l.pc = .awaitingLoop)
    (stoppable : l.loop.Stoppable s) (started : Started l.gateway) : CanReturn s l := by
  cases loop : l.loop with
  | absent =>
      rw [loop] at stoppable
      exact stoppable.elim
  | ended => exact canReturn_ended inv awaiting loop started
  | running call next =>
      rw [loop] at stoppable
      obtain ⟨st, prompt⟩ := stoppable
      have running : l.loop = .next s (.act call next) := loop
      exact canReturn_next inv awaiting started running prompt
  | created =>
      have stepped : step s .loopDropped l = some { l with loop := .ended } := by
        simp [step, loop, awaiting, LifespanPc.cancels]
      exact .of_step stepped (canReturn_ended inv awaiting rfl started)

theorem Inv.canReturn (inv : Inv s l) (stopping : l.pc.stopping = true) : CanReturn s l := by
  obtain ⟨gateway, phase⟩ := inv
  cases pc : l.pc with
  | awaitingLoop =>
      rw [pc] at phase
      exact canReturn_awaiting gateway pc phase.1 phase.2.2
  | closingDocker call next =>
      rw [pc] at phase
      have same : l = l.afterClose (.act call next) := by simp [afterClose, ← pc]
      rw [same]
      exact canReturn_close gateway phase.2.2.1 phase.2.1
  | logStopped =>
      rw [pc] at phase
      exact canReturn_stopped gateway pc phase.2.2
  | closingGateway =>
      rw [pc] at phase
      exact canReturn_gateway pc (canClose gateway phase.2.2.1 phase.2.2.2)
  | closingContainer => exact canReturn_container pc
  | _ => simp [pc, LifespanPc.stopping] at stopping

end

/-! ## Every run of the application -/

def Awaits (l : Lifespan ι) (call : Call) : Prop :=
  (∃ next, l.pc = .connectingDocker call next) ∨ (∃ next, l.pc = .closingDocker call next) ∨
    ∃ next, l.loop = .running call next

theorem allows_tidy {call : Call} {clients : Clients} (allows : Clients.Allows call clients) :
    clients.Tidy := by
  cases call with
  | aiodocker =>
      have none : clients.closeDue = [] := allows
      simp [Clients.Tidy, none]
  | dockerVersion | containersList => exact Clients.Due.tidy allows
  | dockerClose => exact allows.1
  | _ => exact allows

theorem Works.tidy {loop : LoopPc} {clients : Clients} (works : loop.Works clients) :
    clients.Tidy := by
  cases loop with
  | created => exact Clients.Settled.tidy works
  | running call next => exact allows_tidy works.1
  | absent | ended => exact Clients.Closable.tidy works

theorem Phase.works {pc : LifespanPc} (phase : Phase s l pc) : l.clients.Tidy ∧
    ∀ call next, l.loop = .running call next → Clients.Allows call l.clients := by
  have running {call : Call} {next : Answer call → Coroutine Unit} (works : l.loop.Works l.clients)
      (running : l.loop = .running call next) : Clients.Allows call l.clients := by
    rw [running] at works
    exact works.1
  cases pc with
  | preparing | startingGateway =>
      exact ⟨phase.2.1.toClosed.tidy, by simp [phase.1]⟩
  | connectingDocker call next => exact ⟨allows_tidy phase.2.1.1, by simp [phase.1]⟩
  | logStarted | serving | awaitingLoop =>
      exact ⟨Works.tidy phase.2.1, fun _ _ => running phase.2.1⟩
  | closingDocker call next =>
      obtain ⟨available, safe⟩ := phase.2.2.2
      exact ⟨allows_tidy safe.1, by simp [phase.1]⟩
  | logStopped | closingGateway | closingContainer | returned =>
      exact ⟨phase.2.1.tidy, by simp [phase.1]⟩
  | raised => exact ⟨Works.tidy phase.1, fun _ _ => running phase.1⟩

theorem Inv.allows (inv : Inv s l) {call : Call} (awaits : l.Awaits call) :
    Clients.Allows call l.clients := by
  have phase := inv.phase
  obtain ⟨next, inside⟩ | ⟨next, inside⟩ | ⟨next, running⟩ := awaits
  · rw [inside] at phase
    exact phase.2.1.1
  · rw [inside] at phase
    obtain ⟨available, safe⟩ := phase.2.2.2
    exact safe.1
  · exact phase.works.2 call next running

def heldClient : DockerMonitor := { docker := true, available := true }

/-- The gateway and the Docker client connect, and the application ends during the commit of the first
host metrics. -/
def stopsInIteration : List (Label Nat) :=
  [.prepared, .gateway (.startStep .ok), .gateway (.startStep .ok), .gateway (.startStep .ok),
    .gatewayStarted, .connect (calmAnswer {}), .connect (calmAnswer {}), .connect (calmAnswer {}),
    .connect (calmAnswer {}), .connect (calmAnswer { docker := true }), .connect (calmAnswer {}),
    .connect (calmAnswer heldClient), .connect (calmAnswer {}), .started, .loopBegun,
    .loop (calmAnswer heldClient), .shutdown]

/-- The metrics task is cancelled in its commit and closes the session, then the client and the gateway
are closed. -/
def closesAll : List (Label Nat) :=
  [.loop (cancelAnswer heldClient), .loop (calmAnswer heldClient), .loopAwaited,
    .close (calmAnswer heldClient), .close (calmAnswer {}), .close (calmAnswer heldClient),
    .close (calmAnswer {}), .stopped, .gateway .closeStopped, .gatewayClosed, .containerClosed]

/-- Never is the `close()` of more than one Docker client due, nor that of one out of `_docker`'s
reach. None is asked for anything after its `close()`, and once the scheduler has stopped `close()` has
been called on all. -/
theorem clients_never_leak [DecidableEq ι] (labels : List (Label ι))
    (ran : (machine ι s).run labels init = some l) :
    l.clients.Tidy ∧ (∀ call, l.Awaits call → Clients.Allows call l.clients) ∧
      (l.pc.schedulerStopped = true → l.clients.closeDue = []) := by
  have inv := run_inv ran
  refine ⟨inv.phase.works.1, fun call => inv.allows, ?_⟩
  intro stopped
  have phase := inv.phase
  cases pc : l.pc with
  | logStopped | closingGateway | closingContainer | returned =>
      rw [pc] at phase
      exact phase.2.1.closeDue
  | _ => simp [pc, LifespanPc.schedulerStopped] at stopped

theorem clients_never_leak_stops :
    ∃ l, (machine Nat sampleScheduler).run (stopsInIteration ++ closesAll) init = some l ∧
      l.clients.made = 1 ∧ l.clients.Tidy ∧
      (∀ call, l.Awaits call → Clients.Allows call l.clients) ∧
      (l.pc.schedulerStopped = true → l.clients.closeDue = []) :=
  ⟨_, rfl, rfl, clients_never_leak (stopsInIteration ++ closesAll) rfl⟩

/-- The metrics task is alive while the application is served, and over when the gateway is closed. By
then `close()` has been called on every Docker client. After a shutdown no task and no broker is left. -/
theorem shutdown_in_order [DecidableEq ι] (labels : List (Label ι))
    (ran : (machine ι s).run labels init = some l) :
    (l.pc = .serving → l.loop ≠ .absent ∧ l.loop ≠ .ended) ∧
    (l.gateway.close ≠ .notCalled → l.loop = .ended ∧ l.clients.closeDue = []) ∧
    (l.pc = .returned → l.gateway.retry.alive = false ∧ l.gateway.broker = none ∧
      l.gateway.queueConnected = false) := by
  obtain ⟨gateway, phase⟩ := run_inv ran
  refine ⟨?_, ?_, ?_⟩
  · intro serving
    rw [serving] at phase
    have alive := phase.1
    constructor <;> intro same <;> rw [same] at alive <;> exact alive
  · intro called
    cases pc : l.pc with
    | preparing =>
        rw [pc] at phase
        exact absurd (gateway.notClosed (by simp [phase.2.2])) called
    | startingGateway =>
        rw [pc] at phase
        exact absurd phase.2.2 called
    | connectingDocker | logStarted | serving | awaitingLoop | logStopped =>
        rw [pc] at phase
        exact absurd phase.2.2.2 called
    | closingDocker =>
        rw [pc] at phase
        exact absurd phase.2.1.2 called
    | closingGateway | closingContainer | returned =>
        rw [pc] at phase
        exact ⟨phase.1, phase.2.1.closeDue⟩
    | raised =>
        rw [pc] at phase
        obtain ⟨ended, closed⟩ := phase.2 called
        exact ⟨ended, closed.closeDue⟩
  · intro returned
    rw [returned] at phase
    have fits := gateway.close
    rw [phase.2.2] at fits
    exact fits.2

theorem shutdown_in_order_stops :
    ∃ l, (machine Nat sampleScheduler).run (stopsInIteration ++ closesAll) init = some l ∧
      (l.pc = .serving → l.loop ≠ .absent ∧ l.loop ≠ .ended) ∧
      (l.gateway.close ≠ .notCalled → l.loop = .ended ∧ l.clients.closeDue = []) ∧
      (l.pc = .returned → l.gateway.retry.alive = false ∧ l.gateway.broker = none ∧
        l.gateway.queueConnected = false) :=
  ⟨_, rfl, shutdown_in_order (stopsInIteration ++ closesAll) rfl⟩

/-- However the tasks were interleaved before, a shutdown under way can come to its end. -/
theorem shutdown_completes [DecidableEq ι] (labels : List (Label ι))
    (ran : (machine ι s).run labels init = some l) (stopping : l.pc.stopping = true) :
    ∃ more l', (machine ι s).run more l = some l' ∧ l'.pc = .returned :=
  (run_inv ran).canReturn stopping

theorem shutdown_completes_stops :
    ∃ l, (machine Nat sampleScheduler).run stopsInIteration init = some l ∧
      ∃ more l', (machine Nat sampleScheduler).run more l = some l' ∧ l'.pc = .returned :=
  ⟨_, rfl, shutdown_completes stopsInIteration rfl rfl⟩

end Lifespan

end OopsysAgent
