import OopsysAgent.Docker.Usable
import OopsysAgent.Tasks.Call

/-!
# DockerMonitor
-/

namespace OopsysAgent
open Concurrency Docker Numeric

namespace DockerMonitor
open Coroutine

def modify (f : DockerMonitor → DockerMonitor) : Coroutine Unit := do
  let monitor ← ask .monitor
  ask (.setMonitor (f monitor))

def safeClose : Coroutine Unit := do
  let monitor ← ask .monitor
  if monitor.docker then
    suppress (.act .dockerClose ofExcept)
    modify fun monitor => { monitor with docker := false }

/-- The `except` clause of `connect`. -/
def connectFailed (exc : Raised) : Coroutine Bool := do
  modify fun monitor => { monitor with available := false, reason := some exc.message }
  safeClose
  log "docker monitor unavailable"
  return false

def connect : Coroutine Bool := do
  let connected ← exceptException (do
      let () ← Program.act .aiodocker ofExcept
      modify fun monitor => { monitor with docker := true }
      let () ← Program.act .dockerVersion ofExcept
      return true)
    connectFailed
  if connected then
    modify fun monitor => { monitor with available := true, reason := none }
  return connected

/-- The loop of `collect`, with the states appended so far. -/
def collectFrom (reading : Reading) :
    List Container → List ContainerState → Coroutine (List ContainerState)
  | [], states => return states
  | container :: containers, states =>
      match buildState reading container with
      | .ok state => collectFrom reading containers (states ++ [state])
      | .error (.awaited .cancelled) => .raise .cancelled
      | .error _ => do
          log "skip container"
          collectFrom reading containers states

def collect (reading : Reading) : Coroutine (List ContainerState) := do
  let monitor ← ask .monitor
  if monitor.docker then
    let containers ← Program.act .containersList ofExcept
    collectFrom reading containers []
  else return []

end DockerMonitor

/-! ## Complete snapshots -/

section

variable {reading : Reading} {container : Container} {es : Trace}
  {states : List ContainerState}

/-- The list is asked for if there is a client, and then taken element by element. -/
theorem collect_cases {o : Except Exc (List ContainerState)}
    (ran : (DockerMonitor.collect reading).Runs es o) :
    ∃ monitor rest, es = ⟨.monitor, monitor⟩ :: rest ∧
      ((monitor.docker = false ∧ rest = [] ∧ o = .ok []) ∨
        monitor.docker = true ∧
          ((∃ error, rest = [⟨.containersList, .error error⟩] ∧ o = .error error) ∨
            ∃ containers loop, rest = ⟨.containersList, .ok containers⟩ :: loop ∧
              (DockerMonitor.collectFrom reading containers []).Runs loop o)) := by
  obtain ⟨monitor, rest, rfl, inside⟩ := ran
  refine ⟨monitor, rest, rfl, ?_⟩
  rcases monitor with ⟨⟨⟩ | ⟨⟩, available, reason⟩
  · exact .inl ⟨rfl, inside⟩
  · obtain ⟨answer, loop, rfl, later⟩ := inside
    cases answer with
    | error error =>
        obtain ⟨rfl, rfl⟩ := later
        exact .inr ⟨rfl, .inl ⟨error, rfl, rfl⟩⟩
    | ok containers => exact .inr ⟨rfl, .inr ⟨containers, loop, rfl, later⟩⟩

theorem collectFrom_takes (containers : List Container) (states : List ContainerState) :
    (DockerMonitor.collectFrom reading containers states).Takes
      (· = .log "skip container") := by
  induction containers generalizing states with
  | nil => trivial
  | cons container containers ih =>
      rw [DockerMonitor.collectFrom]
      split
      · exact ih _
      · trivial
      · refine ⟨rfl, ?_⟩
        intro pause
        cases pause with
        | returned => exact ih states
        | cancelled => trivial

end

/-- A float with a fractional part or outside a machine word is no integer. -/
def wholeFloat : Double → Option ℤ
  | .finite q => if q.den = 1 ∧ -2 ^ 63 ≤ q.num ∧ q.num < 2 ^ 63 then some q.num else none
  | _ => none

def sampleReading : Reading := { fromisoformat := fun _ => none, wholeFloat }

end OopsysAgent
