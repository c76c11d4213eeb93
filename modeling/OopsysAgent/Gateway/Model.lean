import OopsysAgent.Library.Machine

/-!
# NatsGateway

The tasks of one event loop that touch the gateway, cut at their `await`s: `start`, the retry task,
any number of `publish` calls and `close`. What runs between two suspension points is one step.
-/

namespace OopsysAgent.Gateway
open Concurrency

/-- One broker object. `stopCalled` is set when `stop()` is called, `stopped` when it ended. -/
structure Broker where
  connected : Bool := false
  started : Bool := false
  stopCalled : Bool := false
  stopped : Bool := false
  deriving DecidableEq

/-- From the call of `start()`, which follows `connect()`, to the end of `stop()`. -/
def Broker.isOpen (broker : Broker) : Bool := broker.connected && !broker.stopped

/-- The fields that `_connect_once` and `_safe_close` write, and every broker built so far. -/
structure Connection where
  broker : Option Nat := none
  brokers : Nat → Broker := fun _ => {}
  built : Nat := 0
  queueConnected : Bool := false
  connectFailedLogged : Bool := false

namespace Connection

def modify (c : Connection) (b : Nat) (f : Broker → Broker) : Connection :=
  { c with brokers := Function.update c.brokers b (f (c.brokers b)) }

def callStop (c : Connection) (b : Nat) : Connection :=
  c.modify b fun broker => { broker with stopCalled := true }

def endStop (c : Connection) (b : Nat) : Connection :=
  c.modify b fun broker => { broker with stopped := true }

end Connection

/-- Where a call of `_connect_once` is suspended. -/
inductive ConnectPc
  -- in `_safe_close`, in `stop()` of the broker held so far
  | closing (old : Nat)
  | connecting (b : Nat)
  | starting (b : Nat)
  -- in the `except` clause, in `stop()` of the new broker
  | stopping (b : Nat)
  -- in the log call of the `except` clause
  | logFailed
  -- in the log call at the end
  | logReady
  deriving DecidableEq

/-- How an awaited broker or log call ends; the cancellation of its task is a step of its own. -/
inductive Outcome
  | ok
  | raised
  deriving DecidableEq

inductive Progress
  | suspended (pc : ConnectPc)
  | returned (connected : Bool)
  deriving DecidableEq

section

open Progress

def buildBroker (c : Connection) : Progress × Connection :=
  (suspended (.connecting c.built),
    { c with
      broker := none
      brokers := Function.update c.brokers c.built {}
      built := c.built + 1 })

def connectOnce (c : Connection) : Progress × Connection :=
  match c.broker with
  | some old => (suspended (.closing old), c.callStop old)
  | none => buildBroker c

def connectFailed (b : Nat) (c : Connection) : Progress × Connection :=
  (suspended (.stopping b), { c with queueConnected := false }.callStop b)

/-- `_connect_once` from one suspension to the next. The log calls do not raise. -/
def connectStep (outcome : Outcome) (pc : ConnectPc) (c : Connection) :
    Option (Progress × Connection) :=
  match pc, outcome with
  -- `_safe_close` suppresses what `stop()` raises
  | .closing old, _ => some (buildBroker (c.endStop old))
  | .connecting b, .ok =>
      some (suspended (.starting b), c.modify b fun broker => { broker with connected := true })
  | .connecting b, .raised => some (connectFailed b c)
  | .starting b, .ok =>
      some (suspended .logReady,
        { c.modify b fun broker => { broker with started := true } with
          broker := some b
          queueConnected := true
          connectFailedLogged := false })
  | .starting b, .raised => some (connectFailed b c)
  | .stopping b, _ =>
      some (if c.connectFailedLogged then returned false else suspended .logFailed, c.endStop b)
  | .logFailed, .ok => some (returned false, { c with connectFailedLogged := true })
  | .logReady, .ok => some (returned true, c)
  | .logFailed, .raised | .logReady, .raised => none

end

inductive StartPc
  | notCalled
  | connecting (pc : ConnectPc)
  | returned (connected : Bool)
  deriving DecidableEq

inductive RetryPc
  | absent
  | created
  | connecting (pc : ConnectPc)
  | sleeping
  | finished
  deriving DecidableEq

inductive ClosePc
  | notCalled
  | awaitingRetry
  | stopping (b : Nat)
  | returned
  deriving DecidableEq

inductive PublishPc
  | idle
  | publishing (b : Nat)
  | logging
  | returned (enqueued : Bool)
  | cancelled
  deriving DecidableEq

def RetryPc.alive : RetryPc → Bool
  | .absent | .finished => false
  | _ => true

structure NatsGateway (ι : Type) extends Connection where
  start : StartPc := .notCalled
  retry : RetryPc := .absent
  -- `close` has cancelled the retry task
  cancelled : Bool := false
  close : ClosePc := .notCalled
  publishes : ι → PublishPc := fun _ => .idle

inductive Label (ι : Type)
  | startCall
  | startStep (outcome : Outcome)
  | retryBegin
  | retryStep (outcome : Outcome)
  | slept
  | cancelDelivered
  | publishCall (c : ι)
  | published (c : ι) (outcome : Outcome)
  | publishLogged (c : ι)
  | publishCancelled (c : ι)
  | closeCall
  | closeResumed
  | closeStopped

namespace NatsGateway

variable {ι : Type}

def init : NatsGateway ι := {}

def startAt (g : NatsGateway ι) : Progress × Connection → NatsGateway ι
  | (.suspended pc, c) => { g with toConnection := c, start := .connecting pc }
  | (.returned true, c) => { g with toConnection := c, start := .returned true }
  | (.returned false, c) =>
      { g with toConnection := c, start := .returned false, retry := .created }

/-- `_retry_loop` returns after a connect and sleeps after a failure. -/
def retryAt (g : NatsGateway ι) : Progress × Connection → NatsGateway ι
  | (.suspended pc, c) => { g with toConnection := c, retry := .connecting pc }
  | (.returned true, c) => { g with toConnection := c, retry := .finished }
  | (.returned false, c) => { g with toConnection := c, retry := .sleeping }

section

variable (g : NatsGateway ι) (next : Progress × Connection)

@[simp] theorem startAt_toConnection : (g.startAt next).toConnection = next.2 := by
  obtain ⟨⟨pc⟩ | ⟨⟨⟩ | ⟨⟩⟩, c⟩ := next <;> rfl

@[simp] theorem startAt_cancelled : (g.startAt next).cancelled = g.cancelled := by
  obtain ⟨⟨pc⟩ | ⟨⟨⟩ | ⟨⟩⟩, c⟩ := next <;> rfl

@[simp] theorem startAt_close : (g.startAt next).close = g.close := by
  obtain ⟨⟨pc⟩ | ⟨⟨⟩ | ⟨⟩⟩, c⟩ := next <;> rfl

@[simp] theorem startAt_publishes : (g.startAt next).publishes = g.publishes := by
  obtain ⟨⟨pc⟩ | ⟨⟨⟩ | ⟨⟩⟩, c⟩ := next <;> rfl

@[simp] theorem retryAt_toConnection : (g.retryAt next).toConnection = next.2 := by
  obtain ⟨⟨pc⟩ | ⟨⟨⟩ | ⟨⟩⟩, c⟩ := next <;> rfl

@[simp] theorem retryAt_cancelled : (g.retryAt next).cancelled = g.cancelled := by
  obtain ⟨⟨pc⟩ | ⟨⟨⟩ | ⟨⟩⟩, c⟩ := next <;> rfl

@[simp] theorem retryAt_close : (g.retryAt next).close = g.close := by
  obtain ⟨⟨pc⟩ | ⟨⟨⟩ | ⟨⟩⟩, c⟩ := next <;> rfl

@[simp] theorem retryAt_publishes : (g.retryAt next).publishes = g.publishes := by
  obtain ⟨⟨pc⟩ | ⟨⟨⟩ | ⟨⟩⟩, c⟩ := next <;> rfl

@[simp] theorem retryAt_start : (g.retryAt next).start = g.start := by
  obtain ⟨⟨pc⟩ | ⟨⟨⟩ | ⟨⟩⟩, c⟩ := next <;> rfl

end

def safeClose (g : NatsGateway ι) : NatsGateway ι :=
  match g.broker with
  | some b => { g with toConnection := g.callStop b, close := .stopping b }
  | none => { g with queueConnected := false, close := .returned }

theorem safeClose_held {g : NatsGateway ι} {b : Nat} (held : g.broker = some b) :
    g.safeClose = { g with toConnection := g.callStop b, close := .stopping b } := by
  rw [safeClose, held]

theorem safeClose_closed {g : NatsGateway ι} (closed : g.broker = none) :
    g.safeClose = { g with queueConnected := false, close := .returned } := by
  rw [safeClose, closed]

def endClose (g : NatsGateway ι) (b : Nat) : NatsGateway ι :=
  { g with
    toConnection := { g.endStop b with broker := none, queueConnected := false }
    close := .returned }

variable [DecidableEq ι]

def publishAt (g : NatsGateway ι) (c : ι) (pc : PublishPc) : NatsGateway ι :=
  { g with publishes := Function.update g.publishes c pc }

def step (label : Label ι) (g : NatsGateway ι) : Option (NatsGateway ι) :=
  match label with
  | .startCall =>
      match g.start with
      | .notCalled => some (g.startAt (connectOnce g.toConnection))
      | _ => none
  | .startStep outcome =>
      match g.start with
      | .connecting pc => (connectStep outcome pc g.toConnection).map g.startAt
      | _ => none
  | .retryBegin =>
      match g.retry, g.cancelled with
      | .created, false => some (g.retryAt (connectOnce g.toConnection))
      | _, _ => none
  | .retryStep outcome =>
      match g.retry, g.cancelled with
      | .connecting pc, false => (connectStep outcome pc g.toConnection).map g.retryAt
      | _, _ => none
  | .slept =>
      match g.retry, g.cancelled with
      | .sleeping, false => some (g.retryAt (connectOnce g.toConnection))
      | _, _ => none
  | .cancelDelivered =>
      -- no `except Exception` on the way out of the task stops a `CancelledError`
      if g.cancelled && g.retry.alive then some { g with retry := .finished } else none
  | .publishCall c =>
      match g.publishes c, g.broker with
      | .idle, none => some (g.publishAt c (.returned false))
      | .idle, some b => some (g.publishAt c (.publishing b))
      | _, _ => none
  | .published c outcome =>
      match g.publishes c, outcome with
      | .publishing _, .ok => some (g.publishAt c (.returned true))
      | .publishing _, .raised => some { g.publishAt c .logging with queueConnected := false }
      | _, _ => none
  | .publishLogged c =>
      match g.publishes c with
      | .logging => some (g.publishAt c (.returned false))
      | _ => none
  | .publishCancelled c =>
      match g.publishes c with
      | .publishing _ | .logging => some (g.publishAt c .cancelled)
      | _ => none
  | .closeCall =>
      match g.start, g.close with
      | .returned _, .notCalled =>
          some
            (if g.retry.alive then { g with cancelled := true, close := .awaitingRetry }
            else g.safeClose)
      | _, _ => none
  | .closeResumed =>
      match g.close, g.retry with
      | .awaitingRetry, .finished => some g.safeClose
      | _, _ => none
  | .closeStopped =>
      match g.close with
      | .stopping b => some (g.endClose b)
      | _ => none

def machine (ι : Type) [DecidableEq ι] : Machine (NatsGateway ι) (Label ι) where
  step := step

inductive Step : Label ι → NatsGateway ι → NatsGateway ι → Prop
  | startCall {g : NatsGateway ι} (idle : g.start = .notCalled) :
      Step .startCall g (g.startAt (connectOnce g.toConnection))
  | startStep {g : NatsGateway ι} {outcome : Outcome} {pc : ConnectPc} {next : Progress × Connection}
      (inside : g.start = .connecting pc)
      (moved : connectStep outcome pc g.toConnection = some next) :
      Step (.startStep outcome) g (g.startAt next)
  | retryBegin {g : NatsGateway ι} (created : g.retry = .created) (live : g.cancelled = false) :
      Step .retryBegin g (g.retryAt (connectOnce g.toConnection))
  | retryStep {g : NatsGateway ι} {outcome : Outcome} {pc : ConnectPc} {next : Progress × Connection}
      (inside : g.retry = .connecting pc) (live : g.cancelled = false)
      (moved : connectStep outcome pc g.toConnection = some next) :
      Step (.retryStep outcome) g (g.retryAt next)
  | slept {g : NatsGateway ι} (sleeping : g.retry = .sleeping) (live : g.cancelled = false) :
      Step .slept g (g.retryAt (connectOnce g.toConnection))
  | cancelDelivered {g : NatsGateway ι} (cancelled : g.cancelled = true)
      (alive : g.retry.alive = true) : Step .cancelDelivered g { g with retry := .finished }
  | publishRefused {g : NatsGateway ι} {c : ι} (idle : g.publishes c = .idle)
      (closed : g.broker = none) : Step (.publishCall c) g (g.publishAt c (.returned false))
  | publishBegun {g : NatsGateway ι} {c : ι} {b : Nat} (idle : g.publishes c = .idle)
      (held : g.broker = some b) : Step (.publishCall c) g (g.publishAt c (.publishing b))
  | publishedOk {g : NatsGateway ι} {c : ι} {b : Nat} (inside : g.publishes c = .publishing b) :
      Step (.published c .ok) g (g.publishAt c (.returned true))
  | publishedRaised {g : NatsGateway ι} {c : ι} {b : Nat} (inside : g.publishes c = .publishing b) :
      Step (.published c .raised) g { g.publishAt c .logging with queueConnected := false }
  | publishLogged {g : NatsGateway ι} {c : ι} (inside : g.publishes c = .logging) :
      Step (.publishLogged c) g (g.publishAt c (.returned false))
  | publishCancelled {g : NatsGateway ι} {c : ι}
      (inside : (∃ b, g.publishes c = .publishing b) ∨ g.publishes c = .logging) :
      Step (.publishCancelled c) g (g.publishAt c .cancelled)
  | closeWaits {g : NatsGateway ι} {connected : Bool} (started : g.start = .returned connected)
      (uncalled : g.close = .notCalled) (alive : g.retry.alive = true) :
      Step .closeCall g { g with cancelled := true, close := .awaitingRetry }
  | closeCalled {g : NatsGateway ι} {connected : Bool} (started : g.start = .returned connected)
      (uncalled : g.close = .notCalled) (dead : g.retry.alive = false) :
      Step .closeCall g g.safeClose
  | closeResumed {g : NatsGateway ι} (waiting : g.close = .awaitingRetry)
      (finished : g.retry = .finished) : Step .closeResumed g g.safeClose
  | closeStopped {g : NatsGateway ι} {b : Nat} (inside : g.close = .stopping b) :
      Step .closeStopped g (g.endClose b)

theorem step_sound {label : Label ι} {g g' : NatsGateway ι} (stepped : step label g = some g') :
    Step label g g' := by
  cases label <;> simp only [step] at stepped
  case startCall =>
      split at stepped <;> cases stepped
      exact .startCall ‹_›
  case startStep outcome =>
      split at stepped
      · obtain ⟨next, moved, rfl⟩ := Option.map_eq_some_iff.mp stepped
        exact .startStep ‹_› moved
      · cases stepped
  case retryBegin =>
      split at stepped <;> cases stepped
      exact .retryBegin ‹_› ‹_›
  case retryStep outcome =>
      split at stepped
      · obtain ⟨next, moved, rfl⟩ := Option.map_eq_some_iff.mp stepped
        exact .retryStep ‹_› ‹_› moved
      · cases stepped
  case slept =>
      split at stepped <;> cases stepped
      exact .slept ‹_› ‹_›
  case cancelDelivered =>
      split at stepped <;> cases stepped
      rename_i both
      rw [Bool.and_eq_true] at both
      exact .cancelDelivered both.1 both.2
  case publishCall c =>
      split at stepped <;> cases stepped
      · exact .publishRefused ‹_› ‹_›
      · exact .publishBegun ‹_› ‹_›
  case published c outcome =>
      split at stepped <;> cases stepped
      · exact .publishedOk ‹_›
      · exact .publishedRaised ‹_›
  case publishLogged c =>
      split at stepped <;> cases stepped
      exact .publishLogged ‹_›
  case publishCancelled c =>
      split at stepped <;> cases stepped
      · exact .publishCancelled (.inl ⟨_, ‹_›⟩)
      · exact .publishCancelled (.inr ‹_›)
  case closeCall =>
      split at stepped
      · split at stepped <;> cases stepped
        · exact .closeWaits ‹_› ‹_› ‹_›
        · exact .closeCalled ‹_› ‹_› (Bool.eq_false_iff.mpr ‹_›)
      · cases stepped
  case closeResumed =>
      split at stepped <;> cases stepped
      exact .closeResumed ‹_› ‹_›
  case closeStopped =>
      split at stepped <;> cases stepped
      exact .closeStopped ‹_›

end NatsGateway

end OopsysAgent.Gateway
