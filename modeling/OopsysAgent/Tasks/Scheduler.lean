import OopsysAgent.Tasks.Docker
import OopsysAgent.Tasks.Events

/-!
# AgentScheduler
-/

namespace OopsysAgent
open Concurrency

structure AgentScheduler where
  subjectPrefix : String
  agentId : String
  reading : Docker.Reading

namespace AgentScheduler
open Coroutine

variable (s : AgentScheduler)

def copyDockerStatus : Coroutine Unit := do
  let monitor ← ask .monitor
  ask (.setDockerStatus { available := monitor.available, reason := monitor.reason })

/-- The task of the metrics loop is created before the log call. -/
def start : Coroutine Unit := do
  let _ ← DockerMonitor.connect
  copyDockerStatus
  log "scheduler started"

def collectHost : Coroutine Unit := do
  let metrics ← Program.act .collectServerMetrics ofExcept
  withSession (EventService.recordServerMetrics s.subjectPrefix metrics s.agentId)
  let now ← ask .utcNow
  ask (.setLastMetricsAt now)

def refreshDocker : Coroutine Unit := do
  let monitor ← ask .monitor
  if !monitor.available then
    let _ ← DockerMonitor.connect
  copyDockerStatus

def collectContainers : Coroutine Unit := do
  let monitor ← ask .monitor
  if monitor.available then
    let states ← DockerMonitor.collect s.reading
    let now ← ask .utcNow
    withSession (EventService.recordContainerSnapshot s.subjectPrefix
      { capturedAt := now, containers := states } s.agentId)
    log "containers collected"

def collectOnce : Coroutine Unit := do
  s.collectHost
  refreshDocker
  s.collectContainers

def recordFault (fault : AgentFault) : Coroutine Unit :=
  exceptException (withSession (EventService.recordAgentFault s.subjectPrefix fault s.agentId))
    fun _ => log "failed to record agent fault"

/-- The `except` clause of `_guard`. -/
def handleFault (component operation : String) (exc : Raised) : Coroutine Unit := do
  log "agent fault"
  let now ← ask .utcNow
  s.recordFault (.fromException exc component operation now)

def guard (component operation : String) (func : Coroutine Unit) : Coroutine Unit :=
  exceptException func (s.handleFault component operation)

/-- The first `n` iterations of `_metrics_loop`, after which it goes on. -/
def metricsLoop : Nat → Coroutine Unit
  | 0 => return ()
  | n + 1 => do
      s.guard "monitor" "collect" s.collectOnce
      sleep
      metricsLoop n

end AgentScheduler

end OopsysAgent
