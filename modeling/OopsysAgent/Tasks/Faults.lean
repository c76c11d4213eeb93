import OopsysAgent.Tasks.Scheduler

/-!
# The metrics loop

The loop goes on after every failure, and attempts to record each exactly once.
-/

namespace OopsysAgent
open Concurrency Events

/-! ## Reading a trace -/

def attempted? : Entry Call Answer → Option (List HistoryRow)
  | ⟨.commit rows, _⟩ => some rows
  | _ => none

def lastMetrics? : Entry Call Answer → Option DateTime
  | ⟨.setLastMetricsAt now, _⟩ => some now
  | _ => none

def faultRow? : HistoryRow → Option AgentFaultRecord
  | .agentFault record => some record
  | _ => none

def attempts (es : Trace) : List (List HistoryRow) := es.filterMap attempted?

def faultAttempts (es : Trace) : List AgentFaultRecord :=
  (attempts es).flatMap fun rows => rows.filterMap faultRow?

def lastMetrics (es : Trace) : List DateTime := es.filterMap lastMetrics?

/-- Calls that neither store, nor hand on, nor update `last_metrics_at`. -/
def Idle : Call → Prop
  | .commit _ | .publishCall _ _ | .setLastMetricsAt _ => False
  | _ => True

section

variable (es es' : Trace)

@[simp] theorem transactions_append :
    transactions (es ++ es') = transactions es ++ transactions es' := List.filterMap_append

@[simp] theorem handed_append : handed (es ++ es') = handed es ++ handed es' :=
  List.filterMap_append

@[simp] theorem attempts_append : attempts (es ++ es') = attempts es ++ attempts es' :=
  List.filterMap_append

@[simp] theorem lastMetrics_append : lastMetrics (es ++ es') = lastMetrics es ++ lastMetrics es' :=
  List.filterMap_append

@[simp] theorem faultAttempts_append :
    faultAttempts (es ++ es') = faultAttempts es ++ faultAttempts es' := by
  simp [faultAttempts]

end

section

variable {es es' : Trace}

structure Silent (es : Trace) : Prop where
  stored : transactions es = []
  sent : handed es = []
  attempted : attempts es = []
  untouched : lastMetrics es = []

theorem silent_of_idle (idle : ∀ entry ∈ es, Idle entry.action) : Silent es := by
  induction es with
  | nil => exact ⟨rfl, rfl, rfl, rfl⟩
  | cons entry es ih =>
      obtain ⟨here, later⟩ := List.forall_mem_cons.mp idle
      obtain ⟨stored, sent, attempted, untouched⟩ := ih later
      obtain ⟨call, answer⟩ := entry
      cases call <;> first | exact ⟨stored, sent, attempted, untouched⟩ | exact here.elim

theorem silent_singleton {entry : Entry Call Answer} (idle : Idle entry.action) :
    Silent [entry] :=
  silent_of_idle (List.forall_mem_singleton.mpr idle)

theorem attempts_of_unrefused (unrefused : refusals es = []) : attempts es = transactions es := by
  induction es with
  | nil => rfl
  | cons entry es ih =>
      obtain ⟨call, answer⟩ := entry
      cases call
      case commit rows =>
        cases answer with
        | ok _ => exact congrArg (rows :: ·) (ih unrefused)
        | error error => cases unrefused
      all_goals exact ih unrefused

end

/-! ## Calls that end well or are cancelled -/

structure Quiet {α : Type} (p : Coroutine α) : Prop where
  takes : p.Takes Idle
  raises : p.Raises (· = .cancelled)

section

variable {α β : Type} {p : Coroutine α} {f : α → Coroutine β}

theorem Quiet.runs {es : Trace} {o : Except Exc α} (quiet : Quiet p) (ran : p.Runs es o) :
    Silent es ∧ ((∃ value, o = .ok value) ∨ o = .error .cancelled) := by
  refine ⟨silent_of_idle (quiet.takes.of_runs ran), ?_⟩
  cases o with
  | ok value => exact .inl ⟨value, rfl⟩
  | error error => exact .inr (congrArg _ (quiet.raises.of_runs ran))

theorem quiet_ret (value : α) : Quiet (.ret value) := ⟨trivial, trivial⟩

theorem Quiet.bind (quiet : Quiet p) (later : ∀ value, Quiet (f value)) : Quiet (p >>= f) :=
  ⟨quiet.takes.bind fun value => (later value).takes,
    quiet.raises.bind fun value => (later value).raises⟩

theorem quiet_ask (call : Call) (idle : Idle call) : Quiet (Coroutine.ask call) :=
  ⟨⟨idle, fun _ => trivial⟩, fun _ => trivial⟩

theorem quiet_log (event : String) : Quiet (Coroutine.log event) :=
  ⟨⟨trivial, fun pause => by cases pause <;> trivial⟩, fun pause => by cases pause <;> trivial⟩

theorem quiet_exceptException {handler : Raised → Coroutine α} (takes : p.Takes Idle)
    (handled : ∀ exc, Quiet (handler exc)) : Quiet (p.exceptException handler) := by
  refine ⟨takes.tryCatch fun error => ?_, Program.raises_tryCatch p fun error => ?_⟩
  · cases error with
    | cancelled => trivial
    | exception exc => exact (handled exc).takes
  · cases error with
    | cancelled => rfl
    | exception exc => exact (handled exc).raises

end

theorem takes_ofExcept {α : Type} {P : Call → Prop} (result : Except Exc α) :
    (Coroutine.ofExcept result).Takes P := by
  cases result <;> trivial

theorem modify_quiet (f : DockerMonitor → DockerMonitor) : Quiet (DockerMonitor.modify f) :=
  (quiet_ask .monitor trivial).bind fun _ => quiet_ask (.setMonitor _) trivial

theorem safeClose_quiet : Quiet DockerMonitor.safeClose := by
  apply (quiet_ask .monitor trivial).bind
  intro monitor
  split
  · have closing : (.act .dockerClose Coroutine.ofExcept : Coroutine Unit).Takes Idle :=
      ⟨trivial, takes_ofExcept⟩
    exact (quiet_exceptException closing fun _ => quiet_ret ()).bind fun _ => modify_quiet _
  · exact quiet_ret _

theorem connectFailed_quiet (exc : Raised) : Quiet (DockerMonitor.connectFailed exc) :=
  (modify_quiet _).bind fun _ => safeClose_quiet.bind fun _ => (quiet_log _).bind fun _ =>
    quiet_ret false

theorem connect_quiet : Quiet DockerMonitor.connect := by
  have tried : Quiet _ := quiet_exceptException (p := do
      let () ← Program.act .aiodocker Coroutine.ofExcept
      DockerMonitor.modify fun monitor => { monitor with docker := true }
      let () ← Program.act .dockerVersion Coroutine.ofExcept
      return true) ?_ connectFailed_quiet
  · apply tried.bind
    intro connected
    split
    · exact (modify_quiet _).bind fun _ => quiet_ret _
    · exact quiet_ret _
  · refine Program.Takes.bind ⟨trivial, takes_ofExcept⟩ fun _ => ?_
    apply (modify_quiet _).takes.bind
    intro _
    exact Program.Takes.bind ⟨trivial, takes_ofExcept⟩ fun _ => trivial

theorem refreshDocker_quiet : Quiet AgentScheduler.refreshDocker := by
  have copied : Quiet AgentScheduler.copyDockerStatus :=
    (quiet_ask .monitor trivial).bind fun _ => quiet_ask (.setDockerStatus _) trivial
  apply (quiet_ask .monitor trivial).bind
  intro monitor
  split
  · exact connect_quiet.bind fun _ => copied
  · exact copied

theorem exceptException_runs {α : Type} {body : Coroutine α} {handler : Raised → Coroutine α}
    {es : Trace} {o : Except Exc α} (ran : (body.exceptException handler).Runs es o) :
    (∃ value, body.Runs es (.ok value) ∧ o = .ok value) ∨
      (body.Runs es (.error .cancelled) ∧ o = .error .cancelled) ∨
      ∃ es₁ es₂ exc, es = es₁ ++ es₂ ∧ body.Runs es₁ (.error (.exception exc)) ∧
        (handler exc).Runs es₂ o := by
  obtain ⟨value, tried, rfl⟩ | ⟨es₁, es₂, error, rfl, tried, handled⟩ := Program.runs_tryCatch.mp ran
  · exact .inl ⟨value, tried, rfl⟩
  · cases error with
    | cancelled =>
        obtain ⟨rfl, rfl⟩ := handled
        exact .inr (.inl ⟨by simpa using tried, rfl⟩)
    | exception exc => exact .inr (.inr ⟨es₁, es₂, exc, rfl, tried, handled⟩)

/-- The session is closed last, however its body ends. -/
theorem withSession_runs {body : Coroutine Unit} {es : Trace} {o : Except Exc Unit}
    (ran : body.withSession.Runs es o) :
    ∃ es' o' pause, es = es' ++ [⟨.sessionClose, pause⟩] ∧ body.Runs es' o' ∧
      (pause = .returned ∧ o = o' ∨ pause = .cancelled ∧ o = .error .cancelled) := by
  obtain ⟨_, tried, rfl⟩ | ⟨es₁, es₂, _, rfl, tried, pause, _, rfl, closed⟩ :=
    Program.runs_bind.mp ran
  · obtain ⟨_, -, same⟩ | ⟨es₁, es₂, error, rfl, raised, pause, _, rfl, closed⟩ :=
      Program.runs_tryCatch.mp tried
    · cases same
    · refine ⟨es₁, .error error, pause, ?_⟩
      cases pause with
      | returned =>
          obtain ⟨rfl, same⟩ := closed
          exact ⟨rfl, raised, .inl ⟨rfl, same⟩⟩
      | cancelled =>
          obtain ⟨rfl, same⟩ := closed
          exact ⟨rfl, raised, .inr ⟨rfl, same⟩⟩
  · obtain ⟨_, ended, same⟩ | ⟨es₃, es₄, error, rfl, -, pause', _, rfl, closed'⟩ :=
      Program.runs_tryCatch.mp tried
    · refine ⟨es₁, .ok (), pause, ?_⟩
      cases pause with
      | returned =>
          obtain ⟨rfl, same⟩ := closed
          exact ⟨rfl, ended, .inl ⟨rfl, same⟩⟩
      | cancelled =>
          obtain ⟨rfl, same⟩ := closed
          exact ⟨rfl, ended, .inr ⟨rfl, same⟩⟩
    · cases pause' <;> cases closed'.2

theorem withSession_takes {P : Call → Prop} {body : Coroutine Unit} (takes : body.Takes P)
    (close : P .sessionClose) : body.withSession.Takes P := by
  have closing : Coroutine.closeSession.Takes P := ⟨close, fun pause => by cases pause <;> trivial⟩
  refine (takes.tryCatch fun error => ?_).bind fun _ => closing
  exact ⟨close, fun pause => by cases pause <;> trivial⟩

structure Recorded (rows : List HistoryRow) (message : DateTime → String × Envelope)
    (es : Trace) : Prop where
  stored : transactions es = [rows]
  attempted : attempts es = [rows]
  sent : ∃ now, handed es = [message now]

section

variable {es es' : Trace}

theorem Recorded.append {rows : List HistoryRow} {message : DateTime → String × Envelope}
    (recorded : Recorded rows message es) (silent : Silent es') :
    Recorded rows message (es ++ es') := by
  obtain ⟨now, sent⟩ := recorded.sent
  exact ⟨by simp [recorded.stored, silent.stored], by simp [recorded.attempted, silent.attempted],
    now, by simp [sent, silent.sent]⟩

theorem Recorded.prepend {rows : List HistoryRow} {message : DateTime → String × Envelope}
    (recorded : Recorded rows message es') (silent : Silent es) :
    Recorded rows message (es ++ es') := by
  obtain ⟨now, sent⟩ := recorded.sent
  exact ⟨by simp [recorded.stored, silent.stored], by simp [recorded.attempted, silent.attempted],
    now, by simp [sent, silent.sent]⟩

end

def RecordingCall : Call → Prop
  | .commit _ | .utcNow | .publishCall _ _ | .brokerPublish _ _ | .setQueueDown | .log _ => True
  | _ => False

def SessionCall (call : Call) : Prop := call = .sessionClose ∨ RecordingCall call

theorem lastMetrics_of_recording {es : Trace}
    (recording : ∀ entry ∈ es, RecordingCall entry.action) : lastMetrics es = [] := by
  apply List.filterMap_eq_nil_iff.mpr
  intro entry member
  have here := recording entry member
  obtain ⟨call, answer⟩ := entry
  cases call <;> first | rfl | exact here.elim

section

variable {pre agentId : String} {recording : Recording} {es : Trace} {o : Except Exc Unit}

theorem publish_takes (subject : String) (envelope : Envelope) :
    (EventService.publish subject envelope).Takes RecordingCall := by
  refine ⟨trivial, ?_⟩
  intro held
  cases held with
  | false => trivial
  | true =>
      refine Program.Takes.tryCatch ⟨trivial, fun result => ?_⟩ fun error => ?_
      · cases result <;> trivial
      · cases error with
        | cancelled => trivial
        | exception exc =>
            exact ⟨trivial, fun _ => ⟨trivial, fun pause => by cases pause <;> trivial⟩⟩

theorem record_takes : (EventService.record pre agentId recording).Takes RecordingCall := by
  have committed : (Coroutine.commit recording.rows).Takes RecordingCall := ⟨trivial, takes_ofExcept⟩
  exact committed.bind fun _ => ⟨trivial, fun now => (publish_takes _ _).bind fun _ => trivial⟩

theorem session_takes : (EventService.record pre agentId recording).withSession.Takes SessionCall :=
  withSession_takes (record_takes.mono fun _ => .inr) (.inl rfl)

/-- Only the commit can fail, and nothing is handed on if it does. -/
theorem record_runs (ran : (EventService.record pre agentId recording).Runs es o) :
    lastMetrics es = [] ∧
      ((∃ error, es = [⟨.commit recording.rows, .error error⟩] ∧ o = .error error) ∨
        Recorded recording.rows (messageOf pre agentId recording.source recording.payload) es ∧
          (o = .ok () ∨ o = .error .cancelled)) := by
  refine ⟨lastMetrics_of_recording (record_takes.of_runs ran), ?_⟩
  obtain ⟨q, follows, finished⟩ := ran.follows
  obtain ⟨-, unfinished⟩ | ⟨error, rfl, rfl⟩ | ⟨-, unfinished⟩ | ⟨now, did⟩ := record_did follows
  · rw [unfinished] at finished
    cases finished
  · exact .inl ⟨error, rfl, (Option.some.inj finished).symm⟩
  · rw [unfinished] at finished
    cases finished
  · have attempted := (attempts_of_unrefused did.unrefused).trans did.stored
    refine .inr ⟨⟨did.stored, attempted, now, did.sent⟩, ?_⟩
    exact (did.ended o finished).imp (fun ⟨_, ended⟩ => ended) And.left

/-- A call in a session of its own. A cancellation of the close takes the place of what the commit
raised. -/
theorem session_runs (ran : (EventService.record pre agentId recording).withSession.Runs es o) :
    lastMetrics es = [] ∧
      ((∃ error pause, es = [⟨.commit recording.rows, .error error⟩, ⟨.sessionClose, pause⟩] ∧
          (pause = .returned ∧ o = .error error ∨ o = .error .cancelled)) ∨
        Recorded recording.rows (messageOf pre agentId recording.source recording.payload) es ∧
          (o = .ok () ∨ o = .error .cancelled)) := by
  obtain ⟨es, o', pause, rfl, recorded, ended⟩ := withSession_runs ran
  have closing : Silent [(⟨.sessionClose, pause⟩ : Entry Call Answer)] :=
    silent_singleton trivial
  obtain ⟨untouched, ⟨error, rfl, rfl⟩ | ⟨recorded, ended'⟩⟩ := record_runs recorded
  · exact ⟨rfl, .inl ⟨error, pause, rfl, ended.imp_right And.right⟩⟩
  · refine ⟨by simp [untouched, closing.untouched], .inr ⟨recorded.append closing, ?_⟩⟩
    obtain ⟨-, rfl⟩ | ⟨-, rfl⟩ := ended
    · exact ended'
    · exact .inr rfl

end

/-- The host metrics were stored and handed on, and `last_metrics_at` was updated. -/
structure HostDone (s : AgentScheduler) (metrics : ServerMetrics) (es : Trace) : Prop where
  recorded : Recorded (recordServerMetrics metrics).rows
    (messageOf s.subjectPrefix s.agentId .server (.serverMetrics metrics)) es
  updated : ∃ now, lastMetrics es = [now]

/-- The traces on which an iteration fails, by the stage that fails. -/
inductive Failed (s : AgentScheduler) (exc : Raised) : Trace → Prop
  | hostMetrics : Failed s exc [⟨.collectServerMetrics, .error (.exception exc)⟩]
  | hostCommit (metrics : ServerMetrics) : Failed s exc
      [⟨.collectServerMetrics, .ok metrics⟩,
        ⟨.commit (recordServerMetrics metrics).rows, .error (.exception exc)⟩,
        ⟨.sessionClose, .returned⟩]
  | containersList {es : Trace} (metrics : ServerMetrics) (host : HostDone s metrics es) :
      Failed s exc (es ++ [⟨.containersList, .error (.exception exc)⟩])
  | snapshotCommit {es : Trace} (metrics : ServerMetrics) (host : HostDone s metrics es)
      (snapshot : ContainerSnapshot) :
      Failed s exc
        (es ++ [⟨.commit (recordContainerSnapshot snapshot).rows, .error (.exception exc)⟩,
          ⟨.sessionClose, .returned⟩])

/-- What an iteration stores that does not fail. -/
inductive Completed (s : AgentScheduler) (es : Trace) : Prop
  | host (metrics : ServerMetrics) (host : HostDone s metrics es)
  | containers {es₁ es₂ : Trace} (metrics : ServerMetrics) (host : HostDone s metrics es₁)
      (snapshot : ContainerSnapshot)
      (recorded : Recorded (recordContainerSnapshot snapshot).rows
        (messageOf s.subjectPrefix s.agentId .docker (.containerSnapshot snapshot)) es₂)
      (untouched : lastMetrics es₂ = []) (same : es = es₁ ++ es₂)

section

variable {s : AgentScheduler} {es es' : Trace} {o : Except Exc Unit}

theorem HostDone.append {metrics : ServerMetrics} (host : HostDone s metrics es)
    (silent : Silent es') : HostDone s metrics (es ++ es') := by
  obtain ⟨now, updated⟩ := host.updated
  exact ⟨host.recorded.append silent, now, by simp [updated, silent.untouched]⟩

theorem Recorded.faultAttempts {rows : List HistoryRow} {message : DateTime → String × Envelope}
    (recorded : Recorded rows message es) : faultAttempts es = rows.filterMap faultRow? := by
  simp [OopsysAgent.faultAttempts, recorded.attempted]

theorem HostDone.unattempted {metrics : ServerMetrics} (host : HostDone s metrics es) :
    OopsysAgent.faultAttempts es = [] :=
  host.recorded.faultAttempts

@[simp] theorem snapshot_faultRow (snapshot : ContainerSnapshot) :
    (recordContainerSnapshot snapshot).rows.filterMap faultRow? = [] := by
  simp [recordContainerSnapshot, List.filterMap_eq_nil_iff, faultRow?]

theorem collectHost_runs (ran : s.collectHost.Runs es o) :
    (∃ metrics, HostDone s metrics es ∧ o = .ok ()) ∨
      (∃ exc, Failed s exc es ∧ lastMetrics es = [] ∧ o = .error (.exception exc)) ∨
      faultAttempts es = [] ∧ o = .error .cancelled := by
  obtain ⟨answer, rest, rfl, later⟩ := ran
  cases answer with
  | error error =>
      obtain ⟨rfl, rfl⟩ := later
      cases error with
      | cancelled => exact .inr (.inr ⟨rfl, rfl⟩)
      | exception exc => exact .inr (.inl ⟨exc, .hostMetrics, rfl, rfl⟩)
  | ok metrics =>
      have inside : (do
          (EventService.recordServerMetrics s.subjectPrefix metrics s.agentId).withSession
          let now ← Coroutine.ask .utcNow
          Coroutine.ask (.setLastMetricsAt now)).Runs rest o := later
      obtain ⟨error, recorded, rfl⟩ | ⟨es₁, es₂, _, rfl, recorded, ended⟩ :=
        Program.runs_bind.mp inside
      · obtain ⟨-, ⟨error, pause, rfl, ⟨rfl, same⟩ | same⟩ | ⟨recorded, ended | ended⟩⟩ :=
          session_runs recorded
        · cases same
          cases error with
          | cancelled => exact .inr (.inr ⟨rfl, rfl⟩)
          | exception exc => exact .inr (.inl ⟨exc, .hostCommit metrics, rfl, rfl⟩)
        · exact .inr (.inr ⟨rfl, same⟩)
        · cases ended
        · have unattempted : faultAttempts rest = [] := recorded.faultAttempts
          exact .inr (.inr ⟨unattempted, ended⟩)
      · obtain ⟨untouched, ⟨error, pause, rfl, ⟨-, same⟩ | same⟩ | ⟨recorded, -⟩⟩ :=
          session_runs recorded
        · cases same
        · cases same
        · obtain ⟨now, _, rfl, _, _, rfl, rfl, rfl⟩ := ended
          obtain ⟨now', sent⟩ := recorded.sent
          refine .inl ⟨metrics, ⟨⟨?_, ?_, now', ?_⟩, now, ?_⟩, rfl⟩
          · exact (transactions_append es₁ _).trans (congrArg (· ++ []) recorded.stored)
          · exact (attempts_append es₁ _).trans (congrArg (· ++ []) recorded.attempted)
          · exact (handed_append es₁ _).trans (congrArg (· ++ []) sent)
          · exact (lastMetrics_append es₁ _).trans (congrArg (· ++ [now]) untouched)

theorem Silent.append (first : Silent es) (second : Silent es') : Silent (es ++ es') :=
  ⟨by simp [first.stored, second.stored], by simp [first.sent, second.sent],
    by simp [first.attempted, second.attempted], by simp [first.untouched, second.untouched]⟩

theorem Silent.faultAttempts (silent : Silent es) : faultAttempts es = [] := by
  simp [OopsysAgent.faultAttempts, silent.attempted]

/-- Without the daemon nothing is done. With it the states are collected and then stored. -/
theorem collectContainers_cases (ran : s.collectContainers.Runs es o) :
    ∃ monitor rest, es = ⟨.monitor, monitor⟩ :: rest ∧
      ((monitor.available = false ∧ rest = [] ∧ o = .ok ()) ∨
        monitor.available = true ∧
          ((∃ error, (DockerMonitor.collect s.reading).Runs rest (.error error) ∧
              o = .error error) ∨
            ∃ es₁ es₂ states now, rest = es₁ ++ ⟨.utcNow, now⟩ :: es₂ ∧
              (DockerMonitor.collect s.reading).Runs es₁ (.ok states) ∧
              (do
                (EventService.recordContainerSnapshot s.subjectPrefix
                  { capturedAt := now, containers := states } s.agentId).withSession
                Coroutine.log "containers collected").Runs es₂ o)) := by
  obtain ⟨monitor, rest, rfl, inside⟩ := ran
  refine ⟨monitor, rest, rfl, ?_⟩
  rcases monitor with ⟨docker, ⟨⟩ | ⟨⟩, reason⟩
  · exact .inl ⟨rfl, inside⟩
  · have body : (do
        let states ← DockerMonitor.collect s.reading
        let now ← Coroutine.ask .utcNow
        (EventService.recordContainerSnapshot s.subjectPrefix
          { capturedAt := now, containers := states } s.agentId).withSession
        Coroutine.log "containers collected").Runs rest o := inside
    obtain failed | ⟨es₁, es', states, rfl, collected, now, es₂, rfl, storing⟩ :=
      Program.runs_bind.mp body
    · exact .inr ⟨rfl, .inl failed⟩
    · exact .inr ⟨rfl, .inr ⟨es₁, es₂, states, now, rfl, collected, storing⟩⟩

end

/-! ## The handler -/

/-- What the handler does with an exception, unless it is cancelled before it comes to the fault. -/
inductive Handled (s : AgentScheduler) (exc : Raised) : Trace → Except Exc Unit → Prop
  | interrupted : Handled s exc [⟨.log "agent fault", .cancelled⟩] (.error .cancelled)
  | refused {es : Trace} {o : Except Exc Unit} (now : DateTime)
      (attempted : attempts es =
        [(recordAgentFault (.fromException exc "monitor" "collect" now)).rows])
      (stored : transactions es = []) (sent : handed es = []) (untouched : lastMetrics es = [])
      (ended : o = .ok () ∨ o = .error .cancelled) : Handled s exc es o
  | recorded {es : Trace} {o : Except Exc Unit} (now : DateTime)
      (recorded : Recorded (recordAgentFault (.fromException exc "monitor" "collect" now)).rows
        (messageOf s.subjectPrefix s.agentId .agent
          (.agentFault (.fromException exc "monitor" "collect" now))) es)
      (untouched : lastMetrics es = []) (ended : o = .ok () ∨ o = .error .cancelled) :
      Handled s exc es o

section

variable {s : AgentScheduler} {exc : Raised} {es : Trace} {o : Except Exc Unit}

theorem log_runs {event : String} (ran : (Coroutine.log event).Runs es o) :
    Silent es ∧ (o = .ok () ∨ o = .error .cancelled) := by
  obtain ⟨silent, ended⟩ := (quiet_log event).runs ran
  exact ⟨silent, ended.imp_left fun ⟨_, same⟩ => same⟩

/-- The fault is attempted once, and what goes wrong with it goes no further. -/
theorem recordFault_runs {fault : AgentFault} (ran : (s.recordFault fault).Runs es o) :
    lastMetrics es = [] ∧ (o = .ok () ∨ o = .error .cancelled) ∧
      ((attempts es = [(recordAgentFault fault).rows] ∧ transactions es = [] ∧ handed es = []) ∨
        Recorded (recordAgentFault fault).rows
          (messageOf s.subjectPrefix s.agentId .agent (.agentFault fault)) es) := by
  obtain ⟨_, recorded, rfl⟩ | ⟨recorded, rfl⟩ | ⟨es₁, es₂, exc, rfl, recorded, logged⟩ :=
    exceptException_runs ran
  · obtain ⟨untouched, ⟨_, _, -, ⟨-, same⟩ | same⟩ | ⟨recorded, -⟩⟩ := session_runs recorded
    · cases same
    · cases same
    · exact ⟨untouched, .inl rfl, .inr recorded⟩
  · obtain ⟨untouched, ⟨_, _, rfl, -⟩ | ⟨recorded, -⟩⟩ := session_runs recorded
    · exact ⟨untouched, .inr rfl, .inl ⟨rfl, rfl, rfl⟩⟩
    · exact ⟨untouched, .inr rfl, .inr recorded⟩
  · obtain ⟨silent, ended⟩ := log_runs logged
    obtain ⟨untouched, ⟨_, _, rfl, -⟩ | ⟨-, same | same⟩⟩ := session_runs recorded
    · refine ⟨?_, ended, .inl ⟨?_, ?_, ?_⟩⟩
      · rw [lastMetrics_append, untouched, silent.untouched, List.append_nil]
      · rw [attempts_append, silent.attempted, List.append_nil]
        rfl
      · rw [transactions_append, silent.stored, List.append_nil]
        rfl
      · rw [handed_append, silent.sent, List.append_nil]
        rfl
    · cases same
    · cases same

theorem handleFault_runs (ran : (s.handleFault "monitor" "collect" exc).Runs es o) :
    Handled s exc es o := by
  obtain ⟨pause, rest, rfl, later⟩ := ran
  cases pause with
  | cancelled =>
      obtain ⟨rfl, rfl⟩ := later
      exact .interrupted
  | returned =>
      obtain ⟨now, rest, rfl, recording⟩ := later
      obtain ⟨untouched, ended, ⟨attempted, stored, sent⟩ | recorded⟩ := recordFault_runs recording
      · exact .refused now attempted stored sent untouched ended
      · have before : Silent [(⟨.log "agent fault", .returned⟩ : Entry Call Answer),
            ⟨.utcNow, now⟩] := ⟨rfl, rfl, rfl, rfl⟩
        exact .recorded now (recorded.prepend before) untouched ended

end

/-! ## The loop -/

/-- An iteration of the loop, without the sleep after it. -/
inductive Iteration (s : AgentScheduler) : Trace → Except Exc Unit → Prop
  | completed {es : Trace} (returned : s.collectOnce.Runs es (.ok ())) (completed : Completed s es)
      (unattempted : faultAttempts es = []) : Iteration s es (.ok ())
  | cancelled {es : Trace} (raised : s.collectOnce.Runs es (.error .cancelled))
      (unattempted : faultAttempts es = []) : Iteration s es (.error .cancelled)
  | failed {es₁ es₂ : Trace} {o : Except Exc Unit} (exc : Raised)
      (raised : s.collectOnce.Runs es₁ (.error (.exception exc))) (failed : Failed s exc es₁)
      (updated : lastMetrics es₁ ≠ [] ↔ transactions es₁ ≠ []) (unattempted : faultAttempts es₁ = [])
      (handled : Handled s exc es₂ o) : Iteration s (es₁ ++ es₂) o

/-- `n` iterations, with the sleep after each, unless one of them is cancelled. -/
inductive Iterations (s : AgentScheduler) : Nat → Trace → Except Exc Unit → Prop
  | nil : Iterations s 0 [] (.ok ())
  | cancelled {n : Nat} {es : Trace} (iteration : Iteration s es (.error .cancelled)) :
      Iterations s (n + 1) es (.error .cancelled)
  | woken {n : Nat} {es : Trace} (iteration : Iteration s es (.ok ())) :
      Iterations s (n + 1) (es ++ [⟨.sleep, .cancelled⟩]) (.error .cancelled)
  | cons {n : Nat} {es es' : Trace} {o : Except Exc Unit} (iteration : Iteration s es (.ok ()))
      (rest : Iterations s n es' o) : Iterations s (n + 1) (es ++ ⟨.sleep, .returned⟩ :: es') o

section

variable {s : AgentScheduler} {exc : Raised} {es : Trace} {o : Except Exc Unit}

theorem Completed.unattempted (completed : Completed s es) : faultAttempts es = [] := by
  cases completed with
  | host metrics host => exact host.unattempted
  | containers metrics host snapshot recorded untouched same =>
      rw [same, faultAttempts_append, host.unattempted, recorded.faultAttempts, snapshot_faultRow,
        List.append_nil]

theorem Failed.unattempted (failed : Failed s exc es) : faultAttempts es = [] := by
  cases failed with
  | hostMetrics => rfl
  | hostCommit metrics => rfl
  | containersList metrics host =>
      rw [faultAttempts_append, host.unattempted]
      rfl
  | snapshotCommit metrics host snapshot =>
      rw [faultAttempts_append, host.unattempted]
      simp [faultAttempts, attempts, attempted?]

theorem Iteration.ended (iteration : Iteration s es o) : o = .ok () ∨ o = .error .cancelled := by
  cases iteration with
  | completed | cancelled => simp
  | failed exc raised failed updated unattempted handled =>
      cases handled with
      | interrupted => exact .inr rfl
      | refused now attempted stored sent untouched ended => exact ended
      | recorded now recorded untouched ended => exact ended

theorem Iterations.ended {n : Nat} (iterations : Iterations s n es o) :
    o = .ok () ∨ o = .error .cancelled := by
  induction iterations with
  | nil => exact .inl rfl
  | cancelled | woken => exact .inr rfl
  | cons iteration rest ih => exact ih

end

def sampleScheduler : AgentScheduler :=
  { subjectPrefix := "oopsys", agentId := "a1", reading := sampleReading }

def sampleFault (exc : Raised) : AgentFault := .fromException exc "monitor" "collect" sampleNow

def sampleMetrics : ServerMetrics :=
  { cpuPercent := .finite 0
    memPercent := .finite 0
    memUsed := 0
    memTotal := 0
    netBytesSent := 0
    netBytesRecv := 0
    load1 := .finite 0
    load5 := .finite 0
    load15 := .finite 0
    capturedAt := sampleNow }

def hostTrace : Trace :=
  [⟨.collectServerMetrics, .ok sampleMetrics⟩,
    ⟨.commit (recordServerMetrics sampleMetrics).rows, .ok ()⟩, ⟨.utcNow, sampleNow⟩,
    ⟨.publishCall (messageOf "oopsys" "a1" .server (.serverMetrics sampleMetrics) sampleNow).1
      (messageOf "oopsys" "a1" .server (.serverMetrics sampleMetrics) sampleNow).2, false⟩,
    ⟨.sessionClose, .returned⟩, ⟨.utcNow, sampleNow⟩, ⟨.setLastMetricsAt sampleNow, ()⟩]

/-- The daemon is there, up to the call that lists the containers. -/
def upToList : Trace :=
  hostTrace ++
    [⟨.monitor, { docker := true, available := true }⟩,
      ⟨.monitor, { docker := true, available := true }⟩,
      ⟨.setDockerStatus { available := true }, ()⟩,
      ⟨.monitor, { docker := true, available := true }⟩,
      ⟨.monitor, { docker := true, available := true }⟩]

end OopsysAgent
