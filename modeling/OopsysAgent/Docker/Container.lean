import OopsysAgent.Docker.Ports
import OopsysAgent.Docker.Stats

/-!
# Containers
-/

namespace OopsysAgent.Docker
open Numeric

structure InspectState where
  status : Option String := none
  startedAt : Option String := none
  -- `Health.Status`
  health : Option String := none

structure InspectConfig where
  image : Option String := none
  labels : Option (List (String × String)) := none

/-- The fields of an info document that `_build_state` reads, each of its documented type. -/
structure Inspect where
  id : Option String := none
  name : Option String := none
  state : InspectState := {}
  config : InspectConfig := {}
  restartCount : Option Int := none
  -- `NetworkSettings.Ports`, empty where either is missing or null
  ports : Ports := {}

inductive BuildError
  | awaited (error : Exc)
  | operation (error : OpError)
  -- the model refused a value
  | validation
  deriving DecidableEq

/-- What `show()` returns: a document of the documented types, or one of another shape, with
whatever comes of it. -/
inductive Info
  | typed (info : Inspect)
  | other (built : Except BuildError ContainerState)

/-- One element of what the daemon lists, with the answers to the calls that are made on it. -/
structure Container where
  info : Except Exc Info
  stats : Except Exc Json
  now : DateTime

/-- What the code calls that is not its own: `datetime.fromisoformat`, the floats of the platform,
and the floats that the model accepts where it declares an `int`. -/
structure Reading where
  fromisoformat : String → Option DateTime
  format : Format := .binary64
  wholeFloat : Double → Option ℤ

structure Metrics where
  cpuPercent : Option Double := none
  memUsage : Option Number := none
  memPercent : Option Double := none
  netRx : Option Number := none
  netTx : Option Number := none
  blkRead : Option Number := none
  blkWrite : Option Number := none
  deriving DecidableEq

/-- `raw[0] if isinstance(raw, list) and raw else raw` -/
def firstDocument : Json → Json
  | .array (first :: _) => first
  | raw => raw

structure MetricFields where
  cpuPercent : Option Double := none
  memPercent : Option Double := none
  memUsage : Option Int := none
  netRx : Option Int := none
  netTx : Option Int := none
  blkRead : Option Int := none
  blkWrite : Option Int := none
  deriving DecidableEq

section

variable (reading : Reading)

def metricsOf (raw : Json) : Except OpError Metrics := do
  let stats := firstDocument raw
  match stats with
  | .object _ =>
      let cpuPercent ← cpuPercent reading.format stats
      let (memUsage, memPercent) ← mem reading.format stats
      let (netRx, netTx) ← network reading.format stats
      let (blkRead, blkWrite) ← blockIo reading.format stats
      return { cpuPercent, memUsage, memPercent, netRx, netTx, blkRead, blkWrite }
  | _ => return {}

/-- A field of type `int | None`. -/
def asInt : Option Number → Except BuildError (Option Int)
  | none => .ok none
  | some (.int n) => .ok (some n)
  | some (.float x) => (reading.wholeFloat x).elim (.error .validation) fun n => .ok (some n)

def Metrics.validate (metrics : Metrics) : Except BuildError MetricFields := do
  let memUsage ← asInt reading metrics.memUsage
  let netRx ← asInt reading metrics.netRx
  let netTx ← asInt reading metrics.netTx
  let blkRead ← asInt reading metrics.blkRead
  let blkWrite ← asInt reading metrics.blkWrite
  return {
    cpuPercent := metrics.cpuPercent
    memPercent := metrics.memPercent
    memUsage
    netRx
    netTx
    blkRead
    blkWrite }

def parseStartedAt (raw : Option String) : Option DateTime :=
  let raw := raw.getD ""
  if raw = "" ∨ "0001-01-01".toList.isPrefixOf raw.toList then none
  else reading.fromisoformat (raw.replace "Z" "+00:00")

def describe (info : Inspect) (fields : MetricFields) (now : DateTime) : ContainerState :=
  { containerId := String.ofList ((info.id.getD "").toList.take 64)
    name := String.ofList ((info.name.getD "").toList.dropWhile (· == '/'))
    image := info.config.image.getD ""
    status := info.state.status.getD "unknown"
    startedAt := parseStartedAt reading info.state.startedAt
    restarts := info.restartCount.getD 0
    cpuPercent := fields.cpuPercent
    memPercent := fields.memPercent
    memUsage := fields.memUsage
    netRx := fields.netRx
    netTx := fields.netTx
    blkRead := fields.blkRead
    blkWrite := fields.blkWrite
    labels := info.config.labels.getD []
    ports := formatPorts info.ports
    health := info.state.health
    capturedAt := now }

def Inspect.running (info : Inspect) : Bool := info.state.status.getD "unknown" = "running"

def readStats : Except Exc Json → Except BuildError MetricFields
  | .error error => .error (.awaited error)
  | .ok raw =>
      match metricsOf reading raw with
      | .error error => .error (.operation error)
      | .ok metrics => metrics.validate reading

def readMetrics (container : Container) (info : Inspect) : Except BuildError MetricFields :=
  if info.running then readStats reading container.stats else .ok {}

def buildState (container : Container) : Except BuildError ContainerState :=
  match container.info with
  | .error error => .error (.awaited error)
  | .ok (.other built) => built
  | .ok (.typed info) => do
      return describe reading info (← readMetrics reading container info) container.now

end

end OopsysAgent.Docker
