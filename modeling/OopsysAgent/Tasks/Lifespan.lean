import OopsysAgent.Gateway.Invariant
import OopsysAgent.Tasks.Cancellation
import OopsysAgent.Tasks.Clients

/-!
# The lifespan of the application

`lifespan` starts the gateway and the scheduler, waits for the end of the application, and stops
them in the opposite order. It runs beside the metrics task and the tasks of the gateway. The
gateway's answers to `publish` are arbitrary here, so the calls of the metrics task are among those
that the gateway makes by itself.
-/

namespace OopsysAgent
open Concurrency Gateway

inductive LifespanPc
  -- the identity, the configuration and the log calls at the start
  | preparing
  -- in `gateway.start()` and the log call after it
  | startingGateway
  -- in `scheduler.start()`, in `docker.connect()`
  | connectingDocker (call : Call) (next : Answer call → Coroutine Unit)
  -- in the log call of `scheduler.start()`, with the metrics task created
  | logStarted
  | serving
  -- in `scheduler.stop()`, which has cancelled the metrics task and awaits it
  | awaitingLoop
  -- in `docker.close()`
  | closingDocker (call : Call) (next : Answer call → Coroutine Unit)
  | logStopped
  -- in `gateway.close()`
  | closingGateway
  -- in `container.close()` and the log call after it
  | closingContainer
  | returned
  | raised

/-- The metrics task is cancelled by `scheduler.stop()`, or by the event loop that ends. -/
def LifespanPc.cancels : LifespanPc → Bool
  | .awaitingLoop | .raised => true
  | _ => false

/-- The `finally` clause of `lifespan`. -/
def LifespanPc.stopping : LifespanPc → Bool
  | .awaitingLoop | .closingDocker _ _ | .logStopped | .closingGateway | .closingContainer => true
  | _ => false

def LifespanPc.schedulerStopped : LifespanPc → Bool
  | .logStopped | .closingGateway | .closingContainer | .returned => true
  | _ => false

/-- Where an exception ends `lifespan`. While the application is served it leads to the `finally`
clause, and in `scheduler.stop()` it is suppressed; the calls of the monitor are answered with it. -/
def LifespanPc.breaks : LifespanPc → Bool
  | .preparing | .startingGateway | .logStarted | .logStopped | .closingGateway
  | .closingContainer => true
  | _ => false

/-- The metrics task, with the call that its current iteration awaits. -/
inductive LoopPc
  | absent
  | created
  | running (call : Call) (next : Answer call → Coroutine Unit)
  | ended

def LoopPc.of : Coroutine Unit → LoopPc
  | .act call next => .running call next
  | _ => .ended

/-- `_metrics_loop` begins its next iteration when one is through. -/
def LoopPc.next (s : AgentScheduler) : Coroutine Unit → LoopPc
  | .ret _ => .of s.iteration
  | rest => .of rest

structure Lifespan (ι : Type) where
  pc : LifespanPc := .preparing
  loop : LoopPc := .absent
  clients : Clients := {}
  gateway : NatsGateway ι := .init

namespace Lifespan

inductive Label (ι : Type)
  | prepared
  | gatewayStarted
  | connect (answer : (call : Call) → Answer call)
  | started
  -- the application ended, normally or with an exception
  | shutdown
  | loopBegun
  | loop (answer : (call : Call) → Answer call)
  -- the metrics task was cancelled before its first step
  | loopDropped
  | loopAwaited
  | close (answer : (call : Call) → Answer call)
  | stopped
  | gatewayClosed
  | containerClosed
  -- an exception ends `lifespan` where it is suspended
  | raised
  | gateway (label : Gateway.Label ι)

def ownStep {ι : Type} : Gateway.Label ι → Bool
  | .startCall | .closeCall => false
  | _ => true

/-- `docker.connect()` and the copy of its result, as `scheduler.start()` makes them. -/
def connectDocker : Coroutine Unit := do
  let _ ← DockerMonitor.connect
  AgentScheduler.copyDockerStatus

variable {ι : Type}

def init : Lifespan ι := {}

def afterConnect (l : Lifespan ι) : Coroutine Unit → Lifespan ι
  | .ret _ => { l with pc := .logStarted, loop := .created }
  | .raise _ => { l with pc := .raised }
  | .act call next => { l with pc := .connectingDocker call next }

def afterClose (l : Lifespan ι) : Coroutine Unit → Lifespan ι
  | .ret _ => { l with pc := .logStopped }
  | .raise _ => { l with pc := .raised }
  | .act call next => { l with pc := .closingDocker call next }

variable [DecidableEq ι]

def step (s : AgentScheduler) (label : Label ι) (l : Lifespan ι) : Option (Lifespan ι) :=
  match label with
  | .prepared =>
      match l.pc with
      | .preparing =>
          (NatsGateway.step .startCall l.gateway).map fun gateway =>
            { l with pc := .startingGateway, gateway }
      | _ => none
  | .gatewayStarted =>
      match l.pc, l.gateway.start with
      | .startingGateway, .returned _ => some (l.afterConnect connectDocker)
      | _, _ => none
  | .connect answer =>
      match l.pc with
      | .connectingDocker call next =>
          (l.clients.update? ⟨call, answer call⟩).map fun clients =>
            { l with clients }.afterConnect (next (answer call))
      | _ => none
  | .started =>
      match l.pc with
      | .logStarted => some { l with pc := .serving }
      | _ => none
  | .shutdown =>
      match l.pc with
      | .serving => some { l with pc := .awaitingLoop }
      | _ => none
  | .loopBegun =>
      match l.loop with
      | .created => some { l with loop := .of s.iteration }
      | _ => none
  | .loop answer =>
      match l.loop with
      | .running call next =>
          if interrupts s ⟨call, answer call⟩ && !l.pc.cancels then none
          else
            (l.clients.update? ⟨call, answer call⟩).map fun clients =>
              { l with clients, loop := .next s (next (answer call)) }
      | _ => none
  | .loopDropped =>
      match l.loop with
      | .created => if l.pc.cancels then some { l with loop := .ended } else none
      | _ => none
  | .loopAwaited =>
      match l.pc, l.loop with
      | .awaitingLoop, .ended => some (l.afterClose DockerMonitor.safeClose)
      | _, _ => none
  | .close answer =>
      match l.pc with
      | .closingDocker call next =>
          (l.clients.update? ⟨call, answer call⟩).map fun clients =>
            { l with clients }.afterClose (next (answer call))
      | _ => none
  | .stopped =>
      match l.pc with
      | .logStopped =>
          (NatsGateway.step .closeCall l.gateway).map fun gateway =>
            { l with pc := .closingGateway, gateway }
      | _ => none
  | .gatewayClosed =>
      match l.pc, l.gateway.close with
      | .closingGateway, .returned => some { l with pc := .closingContainer }
      | _, _ => none
  | .containerClosed =>
      match l.pc with
      | .closingContainer => some { l with pc := .returned }
      | _ => none
  | .raised => if l.pc.breaks then some { l with pc := .raised } else none
  | .gateway label =>
      if ownStep label then (NatsGateway.step label l.gateway).map fun gateway => { l with gateway }
      else none

def machine (ι : Type) [DecidableEq ι] (s : AgentScheduler) : Machine (Lifespan ι) (Label ι) where
  step := step s

inductive Step (s : AgentScheduler) : Label ι → Lifespan ι → Lifespan ι → Prop
  | prepared {l : Lifespan ι} {g : NatsGateway ι} (preparing : l.pc = .preparing)
      (moved : NatsGateway.Step .startCall l.gateway g) :
      Step s .prepared l { l with pc := .startingGateway, gateway := g }
  | gatewayStarted {l : Lifespan ι} {connected : Bool} (starting : l.pc = .startingGateway)
      (started : l.gateway.start = .returned connected) :
      Step s .gatewayStarted l (l.afterConnect connectDocker)
  | connect {l : Lifespan ι} {answer : (call : Call) → Answer call} {call : Call}
      {next : Answer call → Coroutine Unit} {clients : Clients}
      (inside : l.pc = .connectingDocker call next)
      (answered : l.clients.update? ⟨call, answer call⟩ = some clients) :
      Step s (.connect answer) l ({ l with clients }.afterConnect (next (answer call)))
  | started {l : Lifespan ι} (logging : l.pc = .logStarted) :
      Step s .started l { l with pc := .serving }
  | shutdown {l : Lifespan ι} (serving : l.pc = .serving) :
      Step s .shutdown l { l with pc := .awaitingLoop }
  | loopBegun {l : Lifespan ι} (created : l.loop = .created) :
      Step s .loopBegun l { l with loop := .of s.iteration }
  | loop {l : Lifespan ι} {answer : (call : Call) → Answer call} {call : Call}
      {next : Answer call → Coroutine Unit} {clients : Clients}
      (running : l.loop = .running call next)
      (answered : l.clients.update? ⟨call, answer call⟩ = some clients)
      (cancelled : interrupts s ⟨call, answer call⟩ = true → l.pc.cancels = true) :
      Step s (.loop answer) l { l with clients, loop := .next s (next (answer call)) }
  | loopDropped {l : Lifespan ι} (created : l.loop = .created) (cancelled : l.pc.cancels = true) :
      Step s .loopDropped l { l with loop := .ended }
  | loopAwaited {l : Lifespan ι} (awaiting : l.pc = .awaitingLoop) (ended : l.loop = .ended) :
      Step s .loopAwaited l (l.afterClose DockerMonitor.safeClose)
  | close {l : Lifespan ι} {answer : (call : Call) → Answer call} {call : Call}
      {next : Answer call → Coroutine Unit} {clients : Clients}
      (inside : l.pc = .closingDocker call next)
      (answered : l.clients.update? ⟨call, answer call⟩ = some clients) :
      Step s (.close answer) l ({ l with clients }.afterClose (next (answer call)))
  | stopped {l : Lifespan ι} {g : NatsGateway ι} (logging : l.pc = .logStopped)
      (moved : NatsGateway.Step .closeCall l.gateway g) :
      Step s .stopped l { l with pc := .closingGateway, gateway := g }
  | gatewayClosed {l : Lifespan ι} (closing : l.pc = .closingGateway)
      (closed : l.gateway.close = .returned) :
      Step s .gatewayClosed l { l with pc := .closingContainer }
  | containerClosed {l : Lifespan ι} (closing : l.pc = .closingContainer) :
      Step s .containerClosed l { l with pc := .returned }
  | raised {l : Lifespan ι} (breaks : l.pc.breaks = true) :
      Step s .raised l { l with pc := .raised }
  | gateway {l : Lifespan ι} {label : Gateway.Label ι} {g : NatsGateway ι}
      (own : ownStep label = true) (moved : NatsGateway.Step label l.gateway g) :
      Step s (.gateway label) l { l with gateway := g }

theorem step_sound {s : AgentScheduler} {label : Label ι} {l l' : Lifespan ι}
    (stepped : step s label l = some l') : Step s label l l' := by
  cases label <;> simp only [step] at stepped
  case prepared =>
      split at stepped
      · obtain ⟨g, moved, rfl⟩ := Option.map_eq_some_iff.mp stepped
        exact .prepared ‹_› (NatsGateway.step_sound moved)
      · cases stepped
  case gatewayStarted =>
      split at stepped <;> cases stepped
      exact .gatewayStarted ‹_› ‹_›
  case connect answer =>
      split at stepped
      · obtain ⟨clients, answered, rfl⟩ := Option.map_eq_some_iff.mp stepped
        exact .connect ‹_› answered
      · cases stepped
  case started =>
      split at stepped <;> cases stepped
      exact .started ‹_›
  case shutdown =>
      split at stepped <;> cases stepped
      exact .shutdown ‹_›
  case loopBegun =>
      split at stepped <;> cases stepped
      exact .loopBegun ‹_›
  case loop answer =>
      split at stepped
      · split at stepped
        · cases stepped
        · rename_i live
          obtain ⟨clients, answered, rfl⟩ := Option.map_eq_some_iff.mp stepped
          exact .loop ‹_› answered (by simpa using live)
      · cases stepped
  case loopDropped =>
      split at stepped
      · split at stepped <;> cases stepped
        exact .loopDropped ‹_› ‹_›
      · cases stepped
  case loopAwaited =>
      split at stepped <;> cases stepped
      exact .loopAwaited ‹_› ‹_›
  case close answer =>
      split at stepped
      · obtain ⟨clients, answered, rfl⟩ := Option.map_eq_some_iff.mp stepped
        exact .close ‹_› answered
      · cases stepped
  case stopped =>
      split at stepped
      · obtain ⟨g, moved, rfl⟩ := Option.map_eq_some_iff.mp stepped
        exact .stopped ‹_› (NatsGateway.step_sound moved)
      · cases stepped
  case gatewayClosed =>
      split at stepped <;> cases stepped
      exact .gatewayClosed ‹_› ‹_›
  case containerClosed =>
      split at stepped <;> cases stepped
      exact .containerClosed ‹_›
  case raised =>
      split at stepped <;> cases stepped
      exact .raised ‹_›
  case gateway label =>
      split at stepped
      · obtain ⟨g, moved, rfl⟩ := Option.map_eq_some_iff.mp stepped
        exact .gateway ‹_› (NatsGateway.step_sound moved)
      · cases stepped

end Lifespan

end OopsysAgent
