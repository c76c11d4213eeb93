import OopsysAgent.Domain.DateTime
import OopsysAgent.Library.Number

namespace OopsysAgent
open Numeric

inductive Json
  | null
  | bool (b : Bool)
  | number (n : Number)
  | string (s : String)
  | array (items : List Json)
  | object (entries : List (String × Json))

def truthy : Option String → Bool
  | none => false
  | some s => s != ""

inductive Severity
  | error
  | critical
  deriving DecidableEq

inductive Source
  | projects
  | server
  | docker
  | agent
  deriving DecidableEq

def Source.value : Source → String
  | .projects => "projects"
  | .server => "server"
  | .docker => "docker"
  | .agent => "agent"

structure ErrorReport where
  severity : Severity
  service : String
  environment : String
  exceptionType : String
  message : String
  traceback : String
  timestamp : DateTime
  context : List (String × Json) := []

structure ServerMetrics where
  cpuPercent : Double
  memPercent : Double
  memUsed : Int
  memTotal : Int
  netBytesSent : Int
  netBytesRecv : Int
  load1 : Double
  load5 : Double
  load15 : Double
  diskPercent : Option Double := none
  capturedAt : DateTime

structure ContainerState where
  containerId : String
  name : String
  image : String
  status : String
  startedAt : Option DateTime := none
  restarts : Int := 0
  cpuPercent : Option Double := none
  memPercent : Option Double := none
  memUsage : Option Int := none
  netRx : Option Int := none
  netTx : Option Int := none
  blkRead : Option Int := none
  blkWrite : Option Int := none
  labels : List (String × String) := []
  ports : List String := []
  health : Option String := none
  capturedAt : DateTime

structure ContainerSnapshot where
  capturedAt : DateTime
  containers : List ContainerState := []

structure AgentFault where
  component : String
  operation : String
  exceptionType : String
  message : String
  traceback : String
  severity : Severity := .error
  occurredAt : DateTime

/-- An instance of a subclass of `Exception`: its type's name, `str(exc)` and its traceback. -/
structure Raised where
  typeName : String
  message : String
  traceback : String := ""
  deriving DecidableEq

/-- How a call ends that does not return. `CancelledError` is no subclass of `Exception`. -/
inductive Exc
  | cancelled
  | exception (raised : Raised)
  deriving DecidableEq

def AgentFault.fromException (exc : Raised) (component operation : String) (now : DateTime) :
    AgentFault :=
  { component
    operation
    exceptionType := exc.typeName
    message := if exc.message ≠ "" then exc.message else exc.typeName
    traceback := exc.traceback
    occurredAt := now }

inductive Event
  | errorReport (report : ErrorReport)
  | serverMetrics (metrics : ServerMetrics)
  | containerSnapshot (snapshot : ContainerSnapshot)
  | containerState (state : ContainerState)
  | agentFault (fault : AgentFault)

def schemaVersion : Nat := 1

def buildSubject (pre agentId : String) (source : Source) : String :=
  pre ++ ".agents." ++ agentId ++ "." ++ source.value

structure Envelope where
  schemaVersion : Nat := OopsysAgent.schemaVersion
  agentId : String
  source : Source
  occurredAt : DateTime
  payload : Event

end OopsysAgent
