import OopsysAgent.Domain.Events

namespace OopsysAgent.Events
open Numeric

/-! ## Rows of the local history -/

structure ErrorReportRecord where
  severity : Severity
  service : String
  environment : String
  exceptionType : String
  message : String
  traceback : String
  context : List (String × Json)
  occurredAt : DateTime
  receivedAt : DateTime

structure ServerMetricRecord where
  cpuPercent : Double
  memPercent : Double
  memUsed : Int
  memTotal : Int
  netBytesSent : Int
  netBytesRecv : Int
  load1 : Double
  load5 : Double
  load15 : Double
  diskPercent : Option Double
  capturedAt : DateTime

structure ContainerStateRecord where
  containerId : String
  name : String
  image : String
  status : String
  startedAt : Option DateTime
  restarts : Int
  cpuPercent : Option Double
  memPercent : Option Double
  memUsage : Option Int
  netRx : Option Int
  netTx : Option Int
  blkRead : Option Int
  blkWrite : Option Int
  labels : List (String × String)
  capturedAt : DateTime

structure AgentFaultRecord where
  component : String
  operation : String
  exceptionType : String
  message : String
  traceback : String
  severity : Severity
  occurredAt : DateTime

inductive HistoryRow
  | errorReport (record : ErrorReportRecord)
  | serverMetric (record : ServerMetricRecord)
  | containerState (record : ContainerStateRecord)
  | agentFault (record : AgentFaultRecord)

/-- A row as the `DateTime` columns give it back. -/
def HistoryRow.stored : HistoryRow → HistoryRow
  | .errorReport record =>
      .errorReport
        { record with occurredAt := record.occurredAt.naive, receivedAt := record.receivedAt.naive }
  | .serverMetric record => .serverMetric { record with capturedAt := record.capturedAt.naive }
  | .containerState record =>
      .containerState
        { record with
          startedAt := record.startedAt.map DateTime.naive
          capturedAt := record.capturedAt.naive }
  | .agentFault record => .agentFault { record with occurredAt := record.occurredAt.naive }

/-! ## EventService -/

/-- What a `record_*` method adds to its session, and what it enqueues after the commit. -/
structure Recording where
  rows : List HistoryRow
  source : Source
  payload : Event

def errorReportRecord (report : ErrorReport) (now : DateTime) : ErrorReportRecord :=
  { severity := report.severity
    service := report.service
    environment := report.environment
    exceptionType := report.exceptionType
    message := report.message
    traceback := report.traceback
    context := report.context
    occurredAt := report.timestamp
    receivedAt := now }

def serverMetricRecord (metrics : ServerMetrics) : ServerMetricRecord :=
  { cpuPercent := metrics.cpuPercent
    memPercent := metrics.memPercent
    memUsed := metrics.memUsed
    memTotal := metrics.memTotal
    netBytesSent := metrics.netBytesSent
    netBytesRecv := metrics.netBytesRecv
    load1 := metrics.load1
    load5 := metrics.load5
    load15 := metrics.load15
    diskPercent := metrics.diskPercent
    capturedAt := metrics.capturedAt }

def containerStateRecord (state : ContainerState) : ContainerStateRecord :=
  { containerId := state.containerId
    name := state.name
    image := state.image
    status := state.status
    startedAt := state.startedAt
    restarts := state.restarts
    cpuPercent := state.cpuPercent
    memPercent := state.memPercent
    memUsage := state.memUsage
    netRx := state.netRx
    netTx := state.netTx
    blkRead := state.blkRead
    blkWrite := state.blkWrite
    labels := state.labels
    capturedAt := state.capturedAt }

def agentFaultRecord (fault : AgentFault) : AgentFaultRecord :=
  { component := fault.component
    operation := fault.operation
    exceptionType := fault.exceptionType
    message := fault.message
    traceback := fault.traceback
    severity := fault.severity
    occurredAt := fault.occurredAt }

def recordErrorReport (report : ErrorReport) (now : DateTime) : Recording :=
  { rows := [.errorReport (errorReportRecord report now)]
    source := .projects
    payload := .errorReport report }

def recordServerMetrics (metrics : ServerMetrics) : Recording :=
  { rows := [.serverMetric (serverMetricRecord metrics)]
    source := .server
    payload := .serverMetrics metrics }

def recordContainerSnapshot (snapshot : ContainerSnapshot) : Recording :=
  { rows := snapshot.containers.map fun state => .containerState (containerStateRecord state)
    source := .docker
    payload := .containerSnapshot snapshot }

def recordContainerState (state : ContainerState) : Recording :=
  { rows := [.containerState (containerStateRecord state)]
    source := .docker
    payload := .containerState state }

def recordAgentFault (fault : AgentFault) : Recording :=
  { rows := [.agentFault (agentFaultRecord fault)]
    source := .agent
    payload := .agentFault fault }

def recordEvent (event : Event) (now : DateTime) : Recording :=
  match event with
  | .errorReport report => recordErrorReport report now
  | .serverMetrics metrics => recordServerMetrics metrics
  | .containerSnapshot snapshot => recordContainerSnapshot snapshot
  | .containerState state => recordContainerState state
  | .agentFault fault => recordAgentFault fault

def Recording.envelope (recording : Recording) (agentId : String) (now : DateTime) : Envelope :=
  { agentId, source := recording.source, occurredAt := now, payload := recording.payload }

def Recording.subject (recording : Recording) (pre agentId : String) : String :=
  buildSubject pre agentId recording.source

end OopsysAgent.Events
