import OopsysAgent.Docker.Container
import OopsysAgent.Domain.Runtime
import OopsysAgent.Events.Service
import OopsysAgent.Library.Task

/-!
# What the coroutines await

The coroutines of the agent are programs over these calls. A call that can raise is answered with
the exception or the value. Log calls, `asyncio.sleep` and the close of a session only return or are
cancelled, and opening a session awaits nothing.
-/

namespace OopsysAgent
open Concurrency Events

/-- The fields of a `DockerMonitor`; of `_docker` only whether it is there. -/
structure DockerMonitor where
  docker : Bool := false
  available : Bool := false
  reason : Option String := none
  deriving DecidableEq

inductive Pause
  | returned
  | cancelled
  deriving DecidableEq

inductive Call
  | utcNow
  -- `session.commit()`, in a session to which the rows were added
  | commit (rows : List HistoryRow)
  -- the close of the session on leaving its `async with`
  | sessionClose
  -- `gateway.publish`, which looks whether a broker is held
  | publishCall (subject : String) (envelope : Envelope)
  | brokerPublish (subject : String) (envelope : Envelope)
  | setQueueDown
  | log (event : String)
  | sleep
  | collectServerMetrics
  | setLastMetricsAt (now : DateTime)
  | aiodocker
  | dockerVersion
  | dockerClose
  | containersList
  | monitor
  | setMonitor (monitor : DockerMonitor)
  | setDockerStatus (status : DockerStatus)

@[reducible] def Answer : Call → Type
  | .utcNow => DateTime
  | .commit _ => Except Exc Unit
  | .sessionClose => Pause
  | .publishCall _ _ => Bool
  | .brokerPublish _ _ => Except Exc Unit
  | .setQueueDown => Unit
  | .log _ => Pause
  | .sleep => Pause
  | .collectServerMetrics => Except Exc ServerMetrics
  | .setLastMetricsAt _ => Unit
  | .aiodocker => Except Exc Unit
  | .dockerVersion => Except Exc Unit
  | .dockerClose => Except Exc Unit
  | .containersList => Except Exc (List Docker.Container)
  | .monitor => DockerMonitor
  | .setMonitor _ => Unit
  | .setDockerStatus _ => Unit

abbrev Coroutine := Program Call Answer Exc

abbrev Trace := List (Entry Call Answer)

namespace Coroutine

def ofExcept {α : Type} : Except Exc α → Coroutine α
  | .ok value => .ret value
  | .error error => .raise error

def ofPause : Pause → Coroutine Unit
  | .returned => .ret ()
  | .cancelled => .raise .cancelled

def ask (call : Call) : Coroutine (Answer call) := .act call .ret

def commit (rows : List HistoryRow) : Coroutine Unit := .act (.commit rows) ofExcept

def log (event : String) : Coroutine Unit := .act (.log event) ofPause

def sleep : Coroutine Unit := .act .sleep ofPause

def closeSession : Coroutine Unit := .act .sessionClose ofPause

/-- `try: body  except Exception as exc: handler` -/
def exceptException {α : Type} (body : Coroutine α) (handler : Raised → Coroutine α) : Coroutine α :=
  body.tryCatch fun
    | .cancelled => .raise .cancelled
    | .exception exc => handler exc

/-- `with contextlib.suppress(Exception): body` -/
def suppress (body : Coroutine Unit) : Coroutine Unit := body.exceptException fun _ => .ret ()

/-- `async with session_factory() as session: body` -/
def withSession (body : Coroutine Unit) : Coroutine Unit := do
  body.tryCatch fun error => do
    closeSession
    .raise error
  closeSession

end Coroutine

/-! ## Reading a trace -/

def stored? : Entry Call Answer → Option (List HistoryRow)
  | ⟨.commit rows, .ok _⟩ => some rows
  | _ => none

def refused? : Entry Call Answer → Option Exc
  | ⟨.commit _, .error error⟩ => some error
  | _ => none

def handed? : Entry Call Answer → Option (String × Envelope)
  | ⟨.publishCall subject envelope, _⟩ => some (subject, envelope)
  | _ => none

def transactions (es : Trace) : List (List HistoryRow) := es.filterMap stored?

def refusals (es : Trace) : List Exc := es.filterMap refused?

def handed (es : Trace) : List (String × Envelope) := es.filterMap handed?

/-- Calls that are answered by the cancellation of the coroutine. -/
def isCancelled : Entry Call Answer → Bool
  | ⟨.commit _, .error .cancelled⟩ | ⟨.brokerPublish _ _, .error .cancelled⟩
  | ⟨.sessionClose, .cancelled⟩ | ⟨.log _, .cancelled⟩ | ⟨.sleep, .cancelled⟩
  | ⟨.collectServerMetrics, .error .cancelled⟩
  | ⟨.aiodocker, .error .cancelled⟩ | ⟨.dockerVersion, .error .cancelled⟩
  | ⟨.dockerClose, .error .cancelled⟩ | ⟨.containersList, .error .cancelled⟩ => true
  | _ => false

/-- Surroundings in which every call succeeds but the commits and the broker may fail. -/
def sampleAnswer (commit broker : Except Exc Unit) : (call : Call) → Answer call
  | .utcNow => sampleNow
  | .commit _ => commit
  | .sessionClose => .returned
  | .publishCall _ _ => true
  | .brokerPublish _ _ => broker
  | .setQueueDown => ()
  | .log _ => .returned
  | .sleep => .returned
  | .collectServerMetrics =>
      .ok
        { cpuPercent := .finite 0
          memPercent := .finite 0
          memUsed := 0
          memTotal := 0
          netBytesSent := 0
          netBytesRecv := 0
          load1 := .finite 0
          load5 := .finite 0
          load15 := .finite 0
          capturedAt := sampleNow }
  | .setLastMetricsAt _ => ()
  | .aiodocker => .ok ()
  | .dockerVersion => .ok ()
  | .dockerClose => .ok ()
  | .containersList => .ok []
  | .monitor => {}
  | .setMonitor _ => ()
  | .setDockerStatus _ => ()

end OopsysAgent
