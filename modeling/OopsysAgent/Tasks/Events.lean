import OopsysAgent.Tasks.Call

/-!
# EventService

The history first, then the queue. Each method commits its rows in one transaction and hands one
envelope to the gateway.
-/

namespace OopsysAgent
open Concurrency Events

namespace EventService
open Coroutine

/-- The `except` clause of `NatsGateway.publish`. -/
def publishFailed : Coroutine Bool := do
  let () ← ask .setQueueDown
  log "enqueue failed"
  return false

def publishHeld (subject : String) (envelope : Envelope) : Coroutine Bool :=
  exceptException (do
      let () ← Program.act (.brokerPublish subject envelope) ofExcept
      return true)
    fun _ => publishFailed

def publish (subject : String) (envelope : Envelope) : Coroutine Bool := do
  if ← ask (.publishCall subject envelope) then publishHeld subject envelope else return false

def enqueue (pre agentId : String) (source : Source) (payload : Event) : Coroutine Unit := do
  let now ← ask .utcNow
  let envelope : Envelope := { agentId, source, occurredAt := now, payload }
  let _ ← publish (buildSubject pre agentId source) envelope

def record (pre agentId : String) (recording : Recording) : Coroutine Unit := do
  commit recording.rows
  enqueue pre agentId recording.source recording.payload

def recordErrorReport (pre : String) (report : ErrorReport) (agentId : String) : Coroutine Unit := do
  let now ← ask .utcNow
  record pre agentId (Events.recordErrorReport report now)

def recordServerMetrics (pre : String) (metrics : ServerMetrics) (agentId : String) : Coroutine Unit :=
  record pre agentId (Events.recordServerMetrics metrics)

def recordContainerSnapshot (pre : String) (snapshot : ContainerSnapshot) (agentId : String) :
    Coroutine Unit :=
  record pre agentId (Events.recordContainerSnapshot snapshot)

def recordContainerState (pre : String) (state : ContainerState) (agentId : String) : Coroutine Unit :=
  record pre agentId (Events.recordContainerState state)

def recordAgentFault (pre : String) (fault : AgentFault) (agentId : String) : Coroutine Unit :=
  record pre agentId (Events.recordAgentFault fault)

def recordEvent (pre agentId : String) : Event → Coroutine Unit
  | .errorReport report => recordErrorReport pre report agentId
  | .serverMetrics metrics => recordServerMetrics pre metrics agentId
  | .containerSnapshot snapshot => recordContainerSnapshot pre snapshot agentId
  | .containerState state => recordContainerState pre state agentId
  | .agentFault fault => recordAgentFault pre fault agentId

end EventService

/-! ## What a call has done -/

/-- What a call has stored and handed on so far, when no commit failed. Unless it is cancelled it
ends well. -/
structure Did {α : Type} (rows : List (List HistoryRow)) (messages : List (String × Envelope))
    (es : Trace) (q : Coroutine α) : Prop where
  stored : transactions es = rows
  sent : handed es = messages
  unrefused : refusals es = []
  ended : ∀ o, q.outcome? = some o → (∃ value, o = .ok value) ∨
    o = .error .cancelled ∧ ∃ entry ∈ es, isCancelled entry = true

section

variable {α : Type} {rows : List (List HistoryRow)} {messages : List (String × Envelope)}
  {subject : String} {envelope : Envelope} {es : Trace} {q : Coroutine α}

theorem did_nil (unfinished : q.outcome? = none) : Did [] [] [] q :=
  ⟨rfl, rfl, rfl, fun o same => by rw [unfinished] at same; cases same⟩

theorem did_ret (value : α) : Did [] [] [] (.ret value : Coroutine α) :=
  ⟨rfl, rfl, rfl, fun _ same => .inl ⟨value, (Option.some.inj same).symm⟩⟩

theorem did_cancelled {entry : Entry Call Answer} (stored : stored? entry = none)
    (sent : handed? entry = none) (unrefused : refused? entry = none)
    (cancelled : isCancelled entry = true) :
    Did [] [] [entry] (.raise .cancelled : Coroutine α) := by
  refine ⟨by simp [transactions, stored], by simp [handed, sent], by simp [refusals, unrefused], ?_⟩
  intro o same
  exact .inr ⟨(Option.some.inj same).symm, entry, List.mem_singleton.mpr rfl, cancelled⟩

theorem Did.cons {rows' : List (List HistoryRow)} {messages' : List (String × Envelope)}
    (did : Did rows messages es q) {entry : Entry Call Answer}
    (stored : (stored? entry).toList ++ rows = rows')
    (sent : (handed? entry).toList ++ messages = messages') (unrefused : refused? entry = none) :
    Did rows' messages' (entry :: es) q := by
  refine ⟨?_, ?_, ?_, fun o same => (did.ended o same).imp_right ?_⟩
  · rw [← stored, ← did.stored, transactions, List.filterMap_cons]
    cases stored? entry <;> rfl
  · rw [← sent, ← did.sent, handed, List.filterMap_cons]
    cases handed? entry <;> rfl
  · rw [refusals, List.filterMap_cons, unrefused]
    exact did.unrefused
  · rintro ⟨cancelled, entry', member, answered⟩
    exact ⟨cancelled, entry', List.mem_cons_of_mem entry member, answered⟩

theorem Did.drop (did : Did rows messages es q) :
    Did rows messages es (q >>= fun _ => (.ret () : Coroutine Unit)) := by
  refine ⟨did.stored, did.sent, did.unrefused, ?_⟩
  intro o same
  cases q with
  | ret value => exact .inl ⟨(), (Option.some.inj same).symm⟩
  | raise error =>
      obtain ⟨value, ended⟩ | ⟨cancelled, answered⟩ := did.ended (.error error) rfl
      · cases ended
      · cases cancelled
        exact .inr ⟨(Option.some.inj same).symm, answered⟩
  | act a next => cases same

theorem publishFailed_did {q : Coroutine Bool}
    (follows : EventService.publishFailed.Follows es q) : Did [] [] es q := by
  cases follows with
  | nil => exact did_nil rfl
  | cons rest =>
      cases rest with
      | nil => exact (did_nil rfl).cons rfl rfl rfl
      | @cons _ _ pause _ _ rest =>
          cases pause with
          | returned =>
              cases rest
              exact ((did_ret false).cons rfl rfl rfl).cons rfl rfl rfl
          | cancelled =>
              cases rest
              exact (did_cancelled rfl rfl rfl rfl).cons rfl rfl rfl

theorem publishHeld_did {q : Coroutine Bool}
    (follows : (EventService.publishHeld subject envelope).Follows es q) : Did [] [] es q := by
  cases follows with
  | nil => exact did_nil rfl
  | @cons _ _ answer es _ rest =>
      rcases answer with (_ | exc) | ⟨⟩
      · cases rest
        exact did_cancelled rfl rfl rfl rfl
      · have failed : EventService.publishFailed.Follows es q := rest
        exact (publishFailed_did failed).cons rfl rfl rfl
      · cases rest
        exact (did_ret true).cons rfl rfl rfl

theorem publish_did {q : Coroutine Bool}
    (follows : (EventService.publish subject envelope).Follows es q) :
    (es = [] ∧ q.outcome? = none) ∨ Did [] [(subject, envelope)] es q := by
  cases follows with
  | nil => exact .inl ⟨rfl, rfl⟩
  | @cons _ _ held es _ rest =>
      right
      cases held with
      | false =>
          cases rest
          exact (did_ret false).cons rfl rfl rfl
      | true =>
          have inside : (EventService.publishHeld subject envelope).Follows es q := rest
          exact (publishHeld_did inside).cons rfl rfl rfl

end

def messageOf (pre agentId : String) (source : Source) (payload : Event) (now : DateTime) :
    String × Envelope :=
  (buildSubject pre agentId source, { agentId, source, occurredAt := now, payload })

section

variable {pre agentId : String} {source : Source} {payload : Event} {recording : Recording}
  {es : Trace} {q : Coroutine Unit}

theorem enqueue_did (follows : (EventService.enqueue pre agentId source payload).Follows es q) :
    (Did [] [] es q ∧ q.outcome? = none) ∨
      ∃ now, Did [] [messageOf pre agentId source payload now] es q := by
  cases follows with
  | nil => exact .inl ⟨did_nil rfl, rfl⟩
  | @cons _ _ now es _ rest =>
      have inside : (EventService.publish (buildSubject pre agentId source)
          (messageOf pre agentId source payload now).2 >>=
          fun _ => (.ret () : Coroutine Unit)).Follows es q := rest
      obtain ⟨p', first, rfl⟩ | ⟨es₁, es₂, value, rfl, first, second⟩ := Program.follows_bind inside
      · obtain ⟨rfl, unfinished⟩ | did := publish_did first
        · refine .inl ⟨(did_nil ?_).cons rfl rfl rfl, ?_⟩ <;> cases p' <;> first | rfl | cases unfinished
        · exact .inr ⟨now, did.drop.cons rfl rfl rfl⟩
      · cases second
        obtain ⟨-, unfinished⟩ | did := publish_did first
        · cases unfinished
        · rw [List.append_nil]
          exact .inr ⟨now, did.drop.cons rfl rfl rfl⟩

/-- Nothing is handed on before the rows are stored, and nothing at all if they are not. -/
theorem record_did (follows : (EventService.record pre agentId recording).Follows es q) :
    (Did [] [] es q ∧ q.outcome? = none) ∨
      (∃ error, es = [⟨.commit recording.rows, .error error⟩] ∧ q = .raise error) ∨
      (Did [recording.rows] [] es q ∧ q.outcome? = none) ∨
      ∃ now, Did [recording.rows]
        [messageOf pre agentId recording.source recording.payload now] es q := by
  cases follows with
  | nil => exact .inl ⟨did_nil rfl, rfl⟩
  | @cons _ _ answer es _ rest =>
      right
      cases answer with
      | error error =>
          cases rest
          exact .inl ⟨error, rfl, rfl⟩
      | ok _ =>
          right
          have inside : (EventService.enqueue pre agentId recording.source
              recording.payload).Follows es q := rest
          obtain ⟨did, unfinished⟩ | ⟨now, did⟩ := enqueue_did inside
          · exact .inl ⟨did.cons rfl rfl rfl, unfinished⟩
          · exact .inr ⟨now, did.cons rfl rfl rfl⟩

end

/-! ## Exactly once -/

def Event.source : Event → Source
  | .errorReport _ => .projects
  | .serverMetrics _ => .server
  | .containerSnapshot _ | .containerState _ => .docker
  | .agentFault _ => .agent

/-- `received_at` is not the report's. -/
structure ReportRow (report : ErrorReport) (record : ErrorReportRecord) : Prop where
  severity : record.severity = report.severity
  service : record.service = report.service
  environment : record.environment = report.environment
  exceptionType : record.exceptionType = report.exceptionType
  message : record.message = report.message
  traceback : record.traceback = report.traceback
  context : record.context = report.context
  occurredAt : record.occurredAt = report.timestamp

structure MetricsRow (metrics : ServerMetrics) (record : ServerMetricRecord) : Prop where
  cpuPercent : record.cpuPercent = metrics.cpuPercent
  memPercent : record.memPercent = metrics.memPercent
  memUsed : record.memUsed = metrics.memUsed
  memTotal : record.memTotal = metrics.memTotal
  netBytesSent : record.netBytesSent = metrics.netBytesSent
  netBytesRecv : record.netBytesRecv = metrics.netBytesRecv
  load1 : record.load1 = metrics.load1
  load5 : record.load5 = metrics.load5
  load15 : record.load15 = metrics.load15
  diskPercent : record.diskPercent = metrics.diskPercent
  capturedAt : record.capturedAt = metrics.capturedAt

/-- The ports and the health of a container are not in the history. -/
structure StateRow (state : ContainerState) (record : ContainerStateRecord) : Prop where
  containerId : record.containerId = state.containerId
  name : record.name = state.name
  image : record.image = state.image
  status : record.status = state.status
  startedAt : record.startedAt = state.startedAt
  restarts : record.restarts = state.restarts
  cpuPercent : record.cpuPercent = state.cpuPercent
  memPercent : record.memPercent = state.memPercent
  memUsage : record.memUsage = state.memUsage
  netRx : record.netRx = state.netRx
  netTx : record.netTx = state.netTx
  blkRead : record.blkRead = state.blkRead
  blkWrite : record.blkWrite = state.blkWrite
  labels : record.labels = state.labels
  capturedAt : record.capturedAt = state.capturedAt

structure FaultRow (fault : AgentFault) (record : AgentFaultRecord) : Prop where
  component : record.component = fault.component
  operation : record.operation = fault.operation
  exceptionType : record.exceptionType = fault.exceptionType
  message : record.message = fault.message
  traceback : record.traceback = fault.traceback
  severity : record.severity = fault.severity
  occurredAt : record.occurredAt = fault.occurredAt

/-- The rows of an event: one, or one for each container of a snapshot, in its order. -/
inductive RowsOf : Event → List HistoryRow → Prop
  | errorReport {report : ErrorReport} {record : ErrorReportRecord} (of : ReportRow report record) :
      RowsOf (.errorReport report) [.errorReport record]
  | serverMetrics {metrics : ServerMetrics} {record : ServerMetricRecord}
      (of : MetricsRow metrics record) : RowsOf (.serverMetrics metrics) [.serverMetric record]
  | containerSnapshot {snapshot : ContainerSnapshot} {records : List ContainerStateRecord}
      (of : List.Forall₂ StateRow snapshot.containers records) :
      RowsOf (.containerSnapshot snapshot) (records.map .containerState)
  | containerState {state : ContainerState} {record : ContainerStateRecord}
      (of : StateRow state record) : RowsOf (.containerState state) [.containerState record]
  | agentFault {fault : AgentFault} {record : AgentFaultRecord} (of : FaultRow fault record) :
      RowsOf (.agentFault fault) [.agentFault record]

theorem containerStateRecord_row (state : ContainerState) :
    StateRow state (containerStateRecord state) := by
  constructor <;> rfl

theorem recordEvent_rows (event : Event) (now : DateTime) :
    RowsOf event (Events.recordEvent event now).rows := by
  cases event with
  | errorReport report => exact .errorReport (by constructor <;> rfl)
  | serverMetrics metrics => exact .serverMetrics (by constructor <;> rfl)
  | containerSnapshot snapshot =>
      have of : List.Forall₂ StateRow snapshot.containers
          (snapshot.containers.map containerStateRecord) :=
        List.forall₂_map_right_iff.mpr
          (List.forall₂_same.mpr fun state _ => containerStateRecord_row state)
      have rows := RowsOf.containerSnapshot of
      rwa [List.map_map] at rows
  | containerState state => exact .containerState (containerStateRecord_row state)
  | agentFault fault => exact .agentFault (by constructor <;> rfl)

/-- Where a `record_*` call is, and what it has done by then. -/
inductive Stage (pre agentId : String) (event : Event) (es : Trace) (q : Coroutine Unit) : Prop
  | begun (stored : transactions es = []) (sent : handed es = []) (unrefused : refusals es = [])
      (unfinished : q.outcome? = none)
  | refused (error : Exc) (stored : transactions es = []) (sent : handed es = [])
      (refused : refusals es = [error]) (raised : q.outcome? = some (.error error))
  | stored (rows : List HistoryRow) (of : RowsOf event rows) (stored : transactions es = [rows])
      (sent : handed es = []) (unrefused : refusals es = []) (unfinished : q.outcome? = none)
  | handedOn (rows : List HistoryRow) (of : RowsOf event rows) (now : DateTime)
      (stored : transactions es = [rows])
      (sent : handed es = [messageOf pre agentId event.source event now])
      (unrefused : refusals es = [])
      (ended : ∀ o, q.outcome? = some o → o = .ok () ∨
        o = .error .cancelled ∧ ∃ entry ∈ es, isCancelled entry = true)

section

variable {pre agentId : String} {event : Event} {es : Trace} {q : Coroutine Unit}

theorem Stage.utcNow (stage : Stage pre agentId event es q) (now : DateTime) :
    Stage pre agentId event (⟨.utcNow, now⟩ :: es) q := by
  cases stage with
  | begun stored sent unrefused unfinished => exact .begun stored sent unrefused unfinished
  | refused error stored sent refused raised => exact .refused error stored sent refused raised
  | stored rows of stored sent unrefused unfinished =>
      exact .stored rows of stored sent unrefused unfinished
  | handedOn rows of now stored sent unrefused ended =>
      refine .handedOn rows of now stored sent unrefused fun o same => (ended o same).imp_right ?_
      rintro ⟨cancelled, entry, member, answered⟩
      exact ⟨cancelled, entry, List.mem_cons_of_mem _ member, answered⟩

theorem record_stage {recording : Recording} (of : RowsOf event recording.rows)
    (source : recording.source = event.source) (payload : recording.payload = event)
    (follows : (EventService.record pre agentId recording).Follows es q) :
    Stage pre agentId event es q := by
  obtain ⟨did, unfinished⟩ | ⟨error, rfl, rfl⟩ | ⟨did, unfinished⟩ | ⟨now, did⟩ :=
    record_did follows
  · exact .begun did.stored did.sent did.unrefused unfinished
  · exact .refused error rfl rfl rfl rfl
  · exact .stored recording.rows of did.stored did.sent did.unrefused unfinished
  · rw [source, payload] at did
    refine .handedOn recording.rows of now did.stored did.sent did.unrefused fun o same => ?_
    exact (did.ended o same).imp_left fun ⟨_, ended⟩ => ended

theorem recordEvent_stage (follows : (EventService.recordEvent pre agentId event).Follows es q) :
    Stage pre agentId event es q := by
  have rows := recordEvent_rows event
  cases event with
  | errorReport report =>
      cases follows with
      | nil => exact .begun rfl rfl rfl rfl
      | @cons _ _ now es _ rest => exact (record_stage (rows now) rfl rfl rest).utcNow now
  | serverMetrics | containerSnapshot | containerState | agentFault =>
      -- these do not read the clock
      exact record_stage (rows sampleNow) rfl rfl follows

end

/-- At every point of every interleaving of any number of calls, each has stored all the rows of
its event or none, hands its one envelope on after them, and raises only what its commit raised. -/
theorem events_recorded_once {ι : Type} [DecidableEq ι] (pre : String) (calls : ι → String × Event)
    (labels : List (ι × ((call : Call) → Answer call))) (T : Tasks ι Call Answer Exc Unit)
    (ran : tasks.run labels
      { progs := fun i => EventService.recordEvent pre (calls i).1 (calls i).2 } = some T) (i : ι) :
    Stage pre (calls i).1 (calls i).2 (T.traceOf i) (T.progs i) :=
  recordEvent_stage (tasks_follows ran i)

def diskFull : Raised := { typeName := "OperationalError", message := "disk is full" }

def timedOut : Raised := { typeName := "TimeoutError", message := "" }

def snapshotOf (names : List String) : Event :=
  .containerSnapshot
    { capturedAt := sampleNow
      containers := names.map fun name =>
        { containerId := name, name, image := "nginx", status := "running", capturedAt := sampleNow } }

/-- Two snapshots are recorded in turns. The second commit fails, and so does the first publish. -/
def twoSnapshots : List (Bool × ((call : Call) → Answer call)) :=
  [(false, sampleAnswer (.ok ()) (.ok ())),
    (true, sampleAnswer (.error (.exception diskFull)) (.ok ())),
    (false, sampleAnswer (.ok ()) (.ok ())), (false, sampleAnswer (.ok ()) (.ok ())),
    (false, sampleAnswer (.ok ()) (.error (.exception timedOut))),
    (false, sampleAnswer (.ok ()) (.ok ())), (false, sampleAnswer (.ok ()) (.ok ()))]

theorem events_recorded_once_twoSnapshots :
    ∃ T : Tasks Bool Call Answer Exc Unit, tasks.run twoSnapshots
        { progs := fun i => EventService.recordEvent "oopsys" "a1"
            (snapshotOf (if i then ["cache", "queue"] else ["web", "db"])) } = some T ∧
      (T.progs false).outcome? = some (.ok ()) ∧
      (transactions (T.traceOf false)).map List.length = [2] ∧
      (T.progs true).outcome? = some (.error (.exception diskFull)) ∧
      ∀ i, Stage "oopsys" "a1" (snapshotOf (if i then ["cache", "queue"] else ["web", "db"]))
        (T.traceOf i) (T.progs i) := by
  refine ⟨_, rfl, rfl, rfl, rfl, ?_⟩
  exact events_recorded_once "oopsys"
    (fun i => ("a1", snapshotOf (if i then ["cache", "queue"] else ["web", "db"]))) twoSnapshots _ rfl

end OopsysAgent
