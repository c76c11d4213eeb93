import OopsysAgent.Tasks.Faults

/-!
# The reported Docker status

`available` belongs to the monitor and is copied into the runtime, from where `/health` reads it.
-/

namespace OopsysAgent
open Concurrency Events

structure Availability where
  monitor : DockerMonitor := {}
  status : DockerStatus := {}

/-- What a call makes of the state, if its answer is the one that the state gives. -/
def Availability.update? (st : Availability) : Entry Call Answer → Option Availability
  | ⟨.monitor, monitor⟩ => if monitor = st.monitor then some st else none
  | ⟨.setMonitor monitor, _⟩ => some { st with monitor }
  | ⟨.setDockerStatus status, _⟩ => some { st with status }
  | _ => some st

def replay (es : Trace) (st : Availability) : Option Availability :=
  es.foldlM Availability.update? st

/-- The calls of `aiodocker` that show whether the daemon is there. -/
inductive DaemonCall
  | docker
  | version
  | list
  deriving DecidableEq

def daemonCall? : Entry Call Answer → Option (DaemonCall × Except Raised Unit)
  | ⟨.aiodocker, .ok _⟩ => some (.docker, .ok ())
  | ⟨.aiodocker, .error (.exception exc)⟩ => some (.docker, .error exc)
  | ⟨.dockerVersion, .ok _⟩ => some (.version, .ok ())
  | ⟨.dockerVersion, .error (.exception exc)⟩ => some (.version, .error exc)
  | ⟨.containersList, .ok _⟩ => some (.list, .ok ())
  | ⟨.containersList, .error (.exception exc)⟩ => some (.list, .error exc)
  | _ => none

def daemonCalls (es : Trace) : List (DaemonCall × Except Raised Unit) := es.filterMap daemonCall?

/-- What `/health` should report after an answer of the daemon. -/
def reported : Except Raised Unit → DockerHealth
  | .ok _ => .available
  | .error exc => .unavailable "docker monitor unavailable" (some exc.message)

/-- The report is the one for the last call of the iteration. -/
def Truthful (es : Trace) (st : Availability) : Prop :=
  ∃ call answer, (daemonCalls es).getLast? = some (call, answer) ∧
    ∀ runtime version now select1, runtime.docker = st.status →
      (health runtime version now select1).docker = reported answer

/-- A daemon that was gone at the end of an iteration is connected to in the next. -/
def Reconnects (before after : Trace × Availability) : Prop :=
  ∀ call exc, (daemonCalls before.1).getLast? = some (call, .error exc) →
    ∃ answer, ⟨.aiodocker, answer⟩ ∈ after.1

/-- No `containers.list()` raised. -/
def Listed (es : Trace) : Prop := ∀ exc, ⟨.containersList, .error (.exception exc)⟩ ∉ es

/-! ## Replaying a trace -/

section

variable {st st' : Availability} {es es' : Trace} {entry : Entry Call Answer}

theorem replay_append : replay (es ++ es') st = some st' ↔
    ∃ between, replay es st = some between ∧ replay es' between = some st' := by
  simp [replay, Option.bind_eq_some_iff]

theorem replay_cons : replay (entry :: es) st = some st' ↔
    ∃ between, st.update? entry = some between ∧ replay es between = some st' := by
  simp [replay, Option.bind_eq_some_iff]

theorem replay_monitor {monitor : DockerMonitor} :
    replay (⟨.monitor, monitor⟩ :: es) st = some st' ↔
      monitor = st.monitor ∧ replay es st = some st' := by
  simp [replay_cons, Availability.update?]

@[simp] theorem replay_nil : replay [] st = some st := rfl

@[simp] theorem daemonCalls_nil : daemonCalls [] = [] := rfl

@[simp] theorem daemonCalls_append (es es' : Trace) :
    daemonCalls (es ++ es') = daemonCalls es ++ daemonCalls es' := List.filterMap_append

def Detached : Call → Prop
  | .monitor | .setMonitor _ | .setDockerStatus _ | .aiodocker | .dockerVersion
  | .containersList => False
  | _ => True

theorem detached_entry (st : Availability) (detached : Detached entry.action) :
    st.update? entry = some st ∧ daemonCall? entry = none := by
  obtain ⟨call, answer⟩ := entry
  cases call <;> first | exact ⟨rfl, rfl⟩ | exact detached.elim

theorem replay_detached (st : Availability) (detached : ∀ entry ∈ es, Detached entry.action) :
    replay es st = some st ∧ daemonCalls es = [] := by
  induction es with
  | nil => exact ⟨rfl, rfl⟩
  | cons entry es ih =>
      obtain ⟨here, later⟩ := List.forall_mem_cons.mp detached
      obtain ⟨updated, silent⟩ := detached_entry st here
      obtain ⟨replayed, uncalled⟩ := ih later
      exact ⟨replay_cons.mpr ⟨st, updated, replayed⟩,
        (List.filterMap_cons_none silent).trans uncalled⟩

theorem Detached.replay {α : Type} {p : Coroutine α} {o : Except Exc α} (takes : p.Takes Detached)
    (ran : p.Runs es o) (replayed : replay es st = some st') : st' = st ∧ daemonCalls es = [] := by
  obtain ⟨same, uncalled⟩ := replay_detached st (takes.of_runs ran)
  exact ⟨Option.some.inj (replayed.symm.trans same), uncalled⟩

/-! ## The monitor -/

def monitorAfter : Except Raised Unit → DockerMonitor
  | .ok _ => { docker := true, available := true }
  | .error exc => { reason := some exc.message }

/-- The calls of a `connect` that ended as in `answer`. -/
inductive Connects : List (DaemonCall × Except Raised Unit) → Except Raised Unit → Prop
  | version (answer : Except Raised Unit) :
      Connects [(.docker, .ok ()), (.version, answer)] answer
  | docker (exc : Raised) : Connects [(.docker, .error exc)] (.error exc)

theorem modify_replay {f : DockerMonitor → DockerMonitor} {o : Except Exc Unit}
    (ran : (DockerMonitor.modify f).Runs es o) (replayed : replay es st = some st') :
    o = .ok () ∧ st' = { st with monitor := f st.monitor } ∧ daemonCalls es = [] := by
  obtain ⟨monitor, _, rfl, _, _, rfl, rfl, rfl⟩ := ran
  obtain ⟨rfl, replayed⟩ := replay_monitor.mp replayed
  exact ⟨rfl, (Option.some.inj replayed).symm, rfl⟩

theorem safeClose_replay (ran : DockerMonitor.safeClose.Runs es (.ok ()))
    (replayed : replay es st = some st') :
    st' = { st with monitor := { st.monitor with docker := false } } ∧ daemonCalls es = [] := by
  obtain ⟨monitor, rest, rfl, inside⟩ := ran
  obtain ⟨rfl, later⟩ := replay_monitor.mp replayed
  obtain ⟨⟨docker, available, reason⟩, status⟩ := st
  cases docker with
  | false =>
      obtain ⟨rfl, -⟩ := inside
      exact ⟨(Option.some.inj later).symm, rfl⟩
  | true =>
      have body : (do
          Coroutine.suppress (.act .dockerClose Coroutine.ofExcept)
          DockerMonitor.modify fun monitor => { monitor with docker := false }).Runs rest
            (.ok ()) := inside
      obtain ⟨_, _, same⟩ | ⟨es₁, es₂, _, rfl, closing, modifying⟩ := Program.runs_bind.mp body
      · cases same
      · obtain ⟨between, closed, modified⟩ := replay_append.mp later
        have takes : (Coroutine.suppress (.act .dockerClose Coroutine.ofExcept)).Takes Detached :=
          Program.Takes.tryCatch ⟨trivial, takes_ofExcept⟩ fun error => by cases error <;> trivial
        obtain ⟨rfl, uncalled⟩ := Detached.replay takes closing closed
        obtain ⟨-, rfl, uncalled'⟩ := modify_replay modifying modified
        refine ⟨rfl, ?_⟩
        exact (daemonCalls_append es₁ _).trans (by rw [uncalled, uncalled', List.append_nil])

theorem connectFailed_replay {exc : Raised} {connected : Bool}
    (ran : (DockerMonitor.connectFailed exc).Runs es (.ok connected))
    (replayed : replay es st = some st') :
    connected = false ∧ st' = { st with monitor := monitorAfter (.error exc) } ∧
      daemonCalls es = [] := by
  obtain ⟨_, _, same⟩ | ⟨es₁, es₂, _, rfl, modifying, later⟩ := Program.runs_bind.mp ran
  · cases same
  obtain ⟨_, _, same⟩ | ⟨es₃, es₄, _, rfl, closing, logged⟩ := Program.runs_bind.mp later
  · cases same
  obtain ⟨marked, modified, replayed⟩ := replay_append.mp replayed
  obtain ⟨closed, closedFrom, replayed⟩ := replay_append.mp replayed
  obtain ⟨-, rfl, uncalled₁⟩ := modify_replay modifying modified
  obtain ⟨rfl, uncalled₂⟩ := safeClose_replay closing closedFrom
  obtain ⟨pause, rest, rfl, ended⟩ := logged
  cases pause with
  | cancelled => cases ended.2
  | returned =>
      obtain ⟨rfl, same⟩ := ended
      cases same
      refine ⟨rfl, (Option.some.inj replayed).symm, ?_⟩
      rw [daemonCalls_append, daemonCalls_append, uncalled₁, uncalled₂]
      rfl

theorem tried_replay {o : Except Exc Bool} (ran : (do
      let () ← Program.act .aiodocker Coroutine.ofExcept
      DockerMonitor.modify fun monitor => { monitor with docker := true }
      let () ← Program.act .dockerVersion Coroutine.ofExcept
      return true : Coroutine Bool).Runs es o)
    (replayed : replay es st = some st') (uncancelled : o ≠ .error .cancelled) :
    st'.status = st.status ∧
      ((o = .ok true ∧ Connects (daemonCalls es) (.ok ()) ∧ st'.monitor.docker = true) ∨
        ∃ exc, o = .error (.exception exc) ∧ Connects (daemonCalls es) (.error exc)) := by
  obtain ⟨opened, rest, rfl, inside⟩ := ran
  have later : replay rest st = some st' := replayed
  rcases opened with (_ | exc) | ⟨⟩
  · exact absurd inside.2 uncancelled
  · obtain ⟨rfl, rfl⟩ := inside
    obtain rfl := Option.some.inj later
    exact ⟨rfl, .inr ⟨exc, rfl, .docker exc⟩⟩
  obtain ⟨monitor, _, rfl, _, _, rfl, answered, rest, rfl, ended⟩ := inside
  obtain ⟨rfl, marked⟩ := replay_monitor.mp later
  rcases answered with (_ | exc) | ⟨⟩
  · exact absurd ended.2 uncancelled
  · obtain ⟨rfl, rfl⟩ := ended
    obtain rfl := Option.some.inj marked
    exact ⟨rfl, .inr ⟨exc, rfl, .version (.error exc)⟩⟩
  · obtain ⟨rfl, rfl⟩ := ended
    obtain rfl := Option.some.inj marked
    exact ⟨rfl, .inl ⟨rfl, .version (.ok ()), rfl⟩⟩

theorem connect_replay {connected : Bool} (ran : DockerMonitor.connect.Runs es (.ok connected))
    (replayed : replay es st = some st') :
    ∃ answer, Connects (daemonCalls es) answer ∧ st' = { st with monitor := monitorAfter answer } := by
  obtain ⟨_, _, same⟩ | ⟨es₁, es₂, value, rfl, trying, later⟩ := Program.runs_bind.mp ran
  · cases same
  obtain ⟨between, replayed₁, replayed₂⟩ := replay_append.mp replayed
  rw [daemonCalls_append]
  obtain ⟨_, tried, same⟩ | ⟨-, same⟩ | ⟨es₃, es₄, exc, rfl, tried, failing⟩ :=
    exceptException_runs trying
  · cases same
    obtain ⟨status, ⟨same, connects, docker⟩ | ⟨_, same, _⟩⟩ := tried_replay tried replayed₁ nofun
    · cases same
      have body : (do
          DockerMonitor.modify fun monitor => { monitor with available := true, reason := none }
          return true).Runs es₂ (.ok connected) := later
      obtain ⟨_, _, same⟩ | ⟨es₃, es₄, _, rfl, modifying, rfl, -⟩ := Program.runs_bind.mp body
      · cases same
      · obtain ⟨marked, modified, ended⟩ := replay_append.mp replayed₂
        obtain ⟨-, rfl, uncalled⟩ := modify_replay modifying modified
        obtain rfl := Option.some.inj ended
        refine ⟨.ok (), by simpa [uncalled] using connects, ?_⟩
        rw [docker, status]
        rfl
    · cases same
  · cases same
  · obtain ⟨opened, replayed₃, replayed₄⟩ := replay_append.mp replayed₁
    obtain ⟨status, ⟨same, _, _⟩ | ⟨_, same, connects⟩⟩ := tried_replay tried replayed₃ nofun
    · cases same
    · cases same
      obtain ⟨rfl, rfl, uncalled⟩ := connectFailed_replay failing replayed₄
      obtain ⟨rfl, -⟩ := later
      refine ⟨.error exc, ?_, ?_⟩
      · simpa [uncalled] using connects
      · rw [← status]
        exact (Option.some.inj replayed₂).symm

/-! ## An iteration -/

theorem SessionCall.detached (call : Call) (session : SessionCall call) : Detached call := by
  rcases session with rfl | recording
  · trivial
  · cases call <;> trivial

theorem log_takes (event : String) : (Coroutine.log event).Takes Detached :=
  ⟨trivial, fun pause => by cases pause <;> trivial⟩

theorem collectHost_takes (s : AgentScheduler) : s.collectHost.Takes Detached := by
  have collected : (.act .collectServerMetrics Coroutine.ofExcept :
      Coroutine ServerMetrics).Takes Detached := ⟨trivial, takes_ofExcept⟩
  refine collected.bind fun metrics => (session_takes.mono SessionCall.detached).bind fun _ => ?_
  exact ⟨trivial, fun now => ⟨trivial, fun _ => trivial⟩⟩

theorem handleFault_takes (s : AgentScheduler) (component operation : String) (exc : Raised) :
    (s.handleFault component operation exc).Takes Detached := by
  refine (log_takes _).bind fun _ => ⟨trivial, fun now => ?_⟩
  apply (session_takes.mono SessionCall.detached).tryCatch
  intro error
  cases error with
  | cancelled => trivial
  | exception exc => exact log_takes _

def settled (answer : Except Raised Unit) : Availability :=
  { monitor := monitorAfter answer
    status :=
      { available := (monitorAfter answer).available
        reason := (monitorAfter answer).reason } }

theorem copyDockerStatus_replay {o : Except Exc Unit} (ran : AgentScheduler.copyDockerStatus.Runs es o)
    (replayed : replay es st = some st') :
    o = .ok () ∧ daemonCalls es = [] ∧ st' = { st with
      status := { available := st.monitor.available, reason := st.monitor.reason } } := by
  obtain ⟨monitor, _, rfl, _, _, rfl, rfl, rfl⟩ := ran
  obtain ⟨rfl, copied⟩ := replay_monitor.mp replayed
  exact ⟨rfl, rfl, (Option.some.inj copied).symm⟩

theorem connectAndCopy_replay (ran : (do
      let _ ← DockerMonitor.connect
      AgentScheduler.copyDockerStatus).Runs es (.ok ()))
    (replayed : replay es st = some st') :
    ∃ answer, Connects (daemonCalls es) answer ∧ st' = settled answer := by
  obtain ⟨_, _, same⟩ | ⟨es₁, es₂, connected, rfl, connecting, copying⟩ := Program.runs_bind.mp ran
  · cases same
  · obtain ⟨between, replayed₁, replayed₂⟩ := replay_append.mp replayed
    obtain ⟨answer, connects, rfl⟩ := connect_replay connecting replayed₁
    obtain ⟨-, uncalled, rfl⟩ := copyDockerStatus_replay copying replayed₂
    exact ⟨answer, by simpa [uncalled] using connects, rfl⟩

theorem start_replay (ran : AgentScheduler.start.Runs es (.ok ()))
    (replayed : replay es st = some st') : ∃ answer, st' = settled answer := by
  obtain ⟨_, _, same⟩ | ⟨es₁, es₂, connected, rfl, connecting, later⟩ := Program.runs_bind.mp ran
  · cases same
  obtain ⟨_, _, same⟩ | ⟨es₂, es₃, _, rfl, copying, logged⟩ := Program.runs_bind.mp later
  · cases same
  obtain ⟨between, replayed₁, replayed₂⟩ := replay_append.mp replayed
  obtain ⟨copied, replayed₃, replayed₄⟩ := replay_append.mp replayed₂
  obtain ⟨answer, -, rfl⟩ := connect_replay connecting replayed₁
  obtain ⟨-, -, rfl⟩ := copyDockerStatus_replay copying replayed₃
  obtain ⟨rfl, -⟩ := Detached.replay (log_takes _) logged replayed₄
  exact ⟨answer, rfl⟩

theorem refreshDocker_replay {before : Except Raised Unit}
    (ran : AgentScheduler.refreshDocker.Runs es (.ok ()))
    (replayed : replay es (settled before) = some st') :
    (before = .ok () ∧ daemonCalls es = [] ∧ st' = settled before) ∨
      ∃ exc answer, before = .error exc ∧ Connects (daemonCalls es) answer ∧ st' = settled answer := by
  obtain ⟨monitor, rest, rfl, inside⟩ := ran
  obtain ⟨rfl, later⟩ := replay_monitor.mp replayed
  rcases before with exc | ⟨⟩
  · have body : (do
        let _ ← DockerMonitor.connect
        AgentScheduler.copyDockerStatus).Runs rest (.ok ()) := inside
    obtain ⟨answer, connects, same⟩ := connectAndCopy_replay body later
    exact .inr ⟨exc, answer, rfl, connects, same⟩
  · have body : AgentScheduler.copyDockerStatus.Runs rest (.ok ()) := inside
    obtain ⟨-, uncalled, rfl⟩ := copyDockerStatus_replay body later
    exact .inl ⟨rfl, uncalled, rfl⟩

theorem collect_replay {reading : Docker.Reading}
    {o : Except Exc (List ContainerState)} (ran : (DockerMonitor.collect reading).Runs es o)
    (replayed : replay es st = some st') (docker : st.monitor.docker = true)
    (uncancelled : o ≠ .error .cancelled) :
    st' = st ∧ ∃ listed, daemonCalls es = [(.list, listed)] := by
  obtain ⟨monitor, rest, rfl, ended⟩ := collect_cases ran
  obtain ⟨rfl, later⟩ := replay_monitor.mp replayed
  obtain ⟨missing, -⟩ | ⟨-, ⟨error, rfl, rfl⟩ | ⟨containers, loop, rfl, looping⟩⟩ := ended
  · rw [docker] at missing
    cases missing
  · obtain rfl := Option.some.inj later
    cases error with
    | cancelled => exact absurd rfl uncancelled
    | exception exc => exact ⟨rfl, .error exc, rfl⟩
  · have takes : (DockerMonitor.collectFrom reading containers []).Takes Detached :=
      (collectFrom_takes containers []).mono fun _ same => by rw [same]; trivial
    have skipped : replay loop st = some st' := later
    obtain ⟨rfl, uncalled⟩ := Detached.replay takes looping skipped
    exact ⟨rfl, .ok (), congrArg (_ :: ·) uncalled⟩

theorem collectContainers_replay {s : AgentScheduler} {answer : Except Raised Unit}
    {o : Except Exc Unit} (ran : s.collectContainers.Runs es o)
    (replayed : replay es (settled answer) = some st') (uncancelled : o ≠ .error .cancelled) :
    st' = settled answer ∧
      ((∃ exc, answer = .error exc ∧ daemonCalls es = []) ∨
        answer = .ok () ∧ ∃ listed, daemonCalls es = [(.list, listed)]) := by
  obtain ⟨monitor, rest, rfl, ended⟩ := collectContainers_cases ran
  obtain ⟨rfl, later⟩ := replay_monitor.mp replayed
  rcases answer with exc | ⟨⟩
  · obtain ⟨-, rfl, -⟩ | ⟨available, -⟩ := ended
    · exact ⟨(Option.some.inj later).symm, .inl ⟨exc, rfl, rfl⟩⟩
    · cases available
  obtain ⟨missing, -⟩ | ⟨-, ⟨error, collecting, rfl⟩ |
      ⟨es₁, es₂, states, now, rfl, collecting, storing⟩⟩ := ended
  · cases missing
  · have raised : (.error error : Except Exc (List ContainerState)) ≠ .error .cancelled :=
      fun same => uncancelled (by cases same; rfl)
    obtain ⟨rfl, listed, called⟩ := collect_replay collecting later rfl raised
    exact ⟨rfl, .inr ⟨rfl, listed, called⟩⟩
  · obtain ⟨between, replayed₁, replayed₂⟩ := replay_append.mp later
    obtain ⟨rfl, listed, called⟩ := collect_replay collecting replayed₁ rfl nofun
    have takes : (do
        (EventService.recordContainerSnapshot s.subjectPrefix
          { capturedAt := now, containers := states } s.agentId).withSession
        Coroutine.log "containers collected").Takes Detached :=
      (session_takes.mono SessionCall.detached).bind fun _ => log_takes _
    have stored : replay es₂ (settled (.ok ())) = some st' := replayed₂
    obtain ⟨rfl, uncalled⟩ := Detached.replay takes storing stored
    refine ⟨rfl, .inr ⟨rfl, listed, ?_⟩⟩
    exact (daemonCalls_append es₁ _).trans (congrArg₂ (· ++ ·) called uncalled)

/-- The calls of an iteration that finds the monitor as `before` and leaves it as `after`. -/
inductive Asked : Except Raised Unit → Except Raised Unit →
    List (DaemonCall × Except Raised Unit) → Prop
  | listed (answer : Except Raised Unit) : Asked (.ok ()) (.ok ()) [(.list, answer)]
  | connected (exc : Raised) (answer : Except Raised Unit) :
      Asked (.error exc) (.ok ()) [(.docker, .ok ()), (.version, .ok ()), (.list, answer)]
  | unconnected (exc exc' : Raised) {calls : List (DaemonCall × Except Raised Unit)}
      (connects : Connects calls (.error exc')) : Asked (.error exc) (.error exc') calls

theorem collectOnce_replay {s : AgentScheduler} {before : Except Raised Unit} {o : Except Exc Unit}
    (ran : s.collectOnce.Runs es o) (replayed : replay es (settled before) = some st')
    (hosted : lastMetrics es ≠ []) (uncancelled : o ≠ .error .cancelled) :
    ∃ after, st' = settled after ∧ Asked before after (daemonCalls es) := by
  obtain ⟨error, hosting, rfl⟩ | ⟨es₁, es', _, rfl, hosting, later⟩ := Program.runs_bind.mp ran
  · obtain ⟨_, _, same⟩ | ⟨_, _, untouched, _⟩ | ⟨_, same⟩ := collectHost_runs hosting
    · cases same
    · exact absurd untouched hosted
    · cases same
      exact absurd rfl uncancelled
  obtain ⟨between, replayed₁, replayed₂⟩ := replay_append.mp replayed
  obtain ⟨rfl, uncalled⟩ := Detached.replay (collectHost_takes s) hosting replayed₁
  obtain ⟨error, refreshing, rfl⟩ | ⟨es₂, es₃, _, rfl, refreshing, collecting⟩ :=
    Program.runs_bind.mp later
  · obtain ⟨_, same⟩ | same := (refreshDocker_quiet.runs refreshing).2
    · cases same
    · cases same
      exact absurd rfl uncancelled
  obtain ⟨refreshed, replayed₃, replayed₄⟩ := replay_append.mp replayed₂
  rw [daemonCalls_append, uncalled, List.nil_append, daemonCalls_append]
  obtain ⟨rfl, called, rfl⟩ | ⟨exc, answer, rfl, connects, rfl⟩ :=
    refreshDocker_replay refreshing replayed₃
  · obtain ⟨rfl, ⟨_, same, _⟩ | ⟨-, listed, called'⟩⟩ :=
      collectContainers_replay collecting replayed₄ uncancelled
    · cases same
    · refine ⟨.ok (), rfl, ?_⟩
      rw [called, called']
      exact .listed listed
  · obtain ⟨rfl, ⟨exc', rfl, called⟩ | ⟨rfl, listed, called⟩⟩ :=
      collectContainers_replay collecting replayed₄ uncancelled
    · refine ⟨.error exc', rfl, ?_⟩
      rw [called, List.append_nil]
      exact .unconnected exc exc' connects
    · refine ⟨.ok (), rfl, ?_⟩
      generalize daemonCalls es₂ = calls at connects
      cases connects
      rw [called]
      exact .connected exc listed

theorem Handled.untouched {s : AgentScheduler} {exc : Raised} {o : Except Exc Unit}
    (handled : Handled s exc es o) : lastMetrics es = [] := by
  cases handled with
  | interrupted => rfl
  | refused now attempted stored sent untouched ended => exact untouched
  | recorded now recorded untouched ended => exact untouched

theorem guard_replay {s : AgentScheduler} {before : Except Raised Unit}
    (ran : (s.guard "monitor" "collect" s.collectOnce).Runs es (.ok ()))
    (replayed : replay es (settled before) = some st') (hosted : lastMetrics es ≠ []) :
    ∃ after, st' = settled after ∧ Asked before after (daemonCalls es) := by
  obtain ⟨_, collected, -⟩ | ⟨_, same⟩ | ⟨es₁, es₂, exc, rfl, collected, handling⟩ :=
    exceptException_runs ran
  · exact collectOnce_replay collected replayed hosted nofun
  · cases same
  · obtain ⟨between, replayed₁, replayed₂⟩ := replay_append.mp replayed
    rw [lastMetrics_append, (handleFault_runs handling).untouched, List.append_nil] at hosted
    obtain ⟨after, rfl, asked⟩ := collectOnce_replay collected replayed₁ hosted nofun
    obtain ⟨rfl, uncalled⟩ := Detached.replay (handleFault_takes s _ _ exc) handling replayed₂
    exact ⟨after, rfl, by simpa [uncalled] using asked⟩

/-! ## Reports -/

theorem reports_iff {after answer : Except Raised Unit} :
    (∀ runtime version now select1, runtime.docker = (settled after).status →
      (health runtime version now select1).docker = reported answer) ↔
      reported after = reported answer := by
  have same (runtime : AppRuntime) (version : String) (now : DateTime)
      (select1 : Except String Unit) (status : runtime.docker = (settled after).status) :
      (health runtime version now select1).docker = reported after := by
    cases after <;> simp [health, status, settled, monitorAfter, reported]
  constructor
  · intro reports
    rw [← reports { startedAt := sampleNow, docker := (settled after).status } "" sampleNow
      (.ok ()) rfl]
    exact (same _ "" sampleNow (.ok ()) rfl).symm
  · intro reports runtime version now select1 status
    rw [same runtime version now select1 status, reports]

theorem mem_daemonCalls_list {exc : Raised} :
    (.list, .error exc) ∈ daemonCalls es ↔ ⟨.containersList, .error (.exception exc)⟩ ∈ es := by
  refine List.mem_filterMap.trans ⟨?_, fun member => ⟨_, member, rfl⟩⟩
  rintro ⟨entry, member, called⟩
  unfold daemonCall? at called
  split at called <;> cases called
  exact member

theorem mem_daemonCalls_docker {answer : Except Raised Unit}
    (called : (.docker, answer) ∈ daemonCalls es) : ∃ answer, ⟨.aiodocker, answer⟩ ∈ es := by
  obtain ⟨entry, member, called⟩ := List.mem_filterMap.mp called
  unfold daemonCall? at called
  split at called <;> cases called <;> exact ⟨_, member⟩

theorem Asked.truthful_iff {before after : Except Raised Unit}
    (asked : Asked before after (daemonCalls es)) :
    Truthful es (settled after) ↔ Listed es := by
  unfold Truthful Listed
  simp only [reports_iff, ← mem_daemonCalls_list]
  generalize daemonCalls es = calls at asked
  cases asked with
  | listed answer => cases answer <;> simp [reported]
  | connected exc answer => cases answer <;> simp [reported]
  | unconnected exc exc' connects => cases connects <;> simp [reported]

theorem Asked.reconnects {exc : Raised} {after : Except Raised Unit}
    (asked : Asked (.error exc) after (daemonCalls es)) : ∃ answer, ⟨.aiodocker, answer⟩ ∈ es := by
  have called : ∃ answer, (.docker, answer) ∈ daemonCalls es := by
    generalize daemonCalls es = calls at asked
    cases asked with
    | connected exc answer => exact ⟨.ok (), by simp⟩
    | unconnected exc exc' connects =>
        cases connects with
        | version => exact ⟨.ok (), by simp⟩
        | docker => exact ⟨.error exc', by simp⟩
  obtain ⟨answer, called⟩ := called
  exact mem_daemonCalls_docker called

theorem Asked.last {before after : Except Raised Unit} {call : DaemonCall} {exc : Raised}
    (asked : Asked before after (daemonCalls es)) (listed : Listed es)
    (last : (daemonCalls es).getLast? = some (call, .error exc)) : after = .error exc := by
  simp only [Listed, ← mem_daemonCalls_list] at listed
  generalize daemonCalls es = calls at asked listed last
  cases asked with
  | listed answer =>
      cases last
      exact absurd List.mem_cons_self (listed exc)
  | connected exc' answer =>
      cases last
      exact absurd (by simp) (listed exc)
  | unconnected exc' exc'' connects =>
      cases connects <;> cases last <;> rfl

end

/-! ## Runs of the scheduler -/

/-- The body of `_metrics_loop`. -/
def AgentScheduler.iteration (s : AgentScheduler) : Coroutine Unit := do
  s.guard "monitor" "collect" s.collectOnce
  Coroutine.sleep

/-- Iterations of the loop whose host metrics succeed, each with the state that it leaves. -/
inductive Iterated (s : AgentScheduler) : Availability → List (Trace × Availability) → Prop
  | nil (st : Availability) : Iterated s st []
  | cons {st st' : Availability} {es : Trace} {run : List (Trace × Availability)}
      (ran : s.iteration.Runs es (.ok ())) (hosted : lastMetrics es ≠ [])
      (replayed : replay es st = some st') (rest : Iterated s st' run) : Iterated s st ((es, st') :: run)

section

variable {s : AgentScheduler} {st st' : Availability} {es : Trace}
  {run : List (Trace × Availability)}

theorem iteration_replay {before : Except Raised Unit} (ran : s.iteration.Runs es (.ok ()))
    (hosted : lastMetrics es ≠ []) (replayed : replay es (settled before) = some st') :
    ∃ after, st' = settled after ∧ Asked before after (daemonCalls es) := by
  obtain ⟨_, _, same⟩ | ⟨es₁, es₂, _, rfl, guarded, pause, rest, rfl, ended⟩ :=
    Program.runs_bind.mp ran
  · cases same
  cases pause with
  | cancelled => cases ended.2
  | returned =>
      obtain ⟨rfl, -⟩ := ended
      obtain ⟨between, replayed₁, replayed₂⟩ := replay_append.mp replayed
      have updated : lastMetrics es₁ ≠ [] := by simpa [lastMetrics, lastMetrics?] using hosted
      obtain ⟨after, rfl, asked⟩ := guard_replay guarded replayed₁ updated
      obtain rfl := Option.some.inj replayed₂
      have slept : daemonCalls (es₁ ++ [⟨.sleep, .returned⟩]) = daemonCalls es₁ :=
        (daemonCalls_append es₁ _).trans (List.append_nil _)
      exact ⟨after, rfl, slept ▸ asked⟩

theorem Iterated.metricsLoop (iterated : Iterated s st run) :
    (s.metricsLoop run.length).Runs (run.flatMap Prod.fst) (.ok ()) := by
  induction iterated with
  | nil st => exact ⟨rfl, rfl⟩
  | @cons st st' es run ran hosted replayed rest ih =>
      obtain ⟨_, _, same⟩ | ⟨es₁, es₂, _, rfl, guarded, pause, _, rfl, ended⟩ :=
        Program.runs_bind.mp ran
      · cases same
      cases pause with
      | cancelled => cases ended.2
      | returned =>
          obtain ⟨rfl, -⟩ := ended
          rw [List.flatMap_cons, List.append_assoc]
          exact Program.runs_bind.mpr (.inr ⟨es₁, _, _, rfl, guarded, .returned, _, rfl, ih⟩)

/-- Every run of the loop is one of iterations, which starts in any state that replays it. -/
theorem metricsLoop_iterated {n : Nat} (ran : (s.metricsLoop n).Runs es (.ok ()))
    (replayed : replay es st = some st') :
    ∃ run, run.length = n ∧ run.flatMap Prod.fst = es ∧
      ((∀ iteration ∈ run, lastMetrics iteration.1 ≠ []) → Iterated s st run) := by
  induction n generalizing es st with
  | zero =>
      obtain ⟨rfl, -⟩ := ran
      exact ⟨[], rfl, rfl, fun _ => .nil st⟩
  | succ n ih =>
      obtain ⟨_, _, same⟩ | ⟨es₁, es₂, _, rfl, guarded, pause, rest, rfl, later⟩ :=
        Program.runs_bind.mp ran
      · cases same
      cases pause with
      | cancelled => cases later.2
      | returned =>
          rw [← List.singleton_append, ← List.append_assoc] at replayed ⊢
          obtain ⟨between, replayed₁, replayed₂⟩ := replay_append.mp replayed
          obtain ⟨run, rfl, rfl, iterated⟩ := ih later replayed₂
          refine ⟨(_, between) :: run, rfl, rfl, ?_⟩
          intro hosted
          obtain ⟨here, others⟩ := List.forall_mem_cons.mp hosted
          have iteration : s.iteration.Runs (es₁ ++ [⟨.sleep, .returned⟩]) (.ok ()) :=
            Program.runs_bind.mpr (.inr ⟨es₁, _, _, rfl, guarded, .returned, _, rfl, rfl, rfl⟩)
          exact .cons iteration here replayed₁ (iterated others)

theorem Iterated.truthful_iff {before : Except Raised Unit}
    (iterated : Iterated s (settled before) run) :
    ∀ iteration ∈ run, Truthful iteration.1 iteration.2 ↔ Listed iteration.1 := by
  induction run generalizing before with
  | nil => simp
  | cons iteration run ih =>
      cases iterated with
      | cons ran hosted replayed rest =>
          obtain ⟨after, rfl, asked⟩ := iteration_replay ran hosted replayed
          exact List.forall_mem_cons.mpr ⟨asked.truthful_iff, ih rest⟩

theorem Iterated.reconnects {before : Except Raised Unit}
    (iterated : Iterated s (settled before) run) (listed : ∀ iteration ∈ run, Listed iteration.1) :
    run.IsChain Reconnects := by
  induction run generalizing before with
  | nil => exact .nil
  | cons iteration run ih =>
      obtain ⟨here, later⟩ := List.forall_mem_cons.mp listed
      cases iterated with
      | cons ran hosted replayed rest =>
          obtain ⟨after, rfl, asked⟩ := iteration_replay ran hosted replayed
          have chain := ih rest later
          cases rest with
          | nil => exact .singleton _
          | cons ran' hosted' replayed' rest =>
              refine .cons_cons (fun call exc last => ?_) chain
              obtain rfl := asked.last here last
              obtain ⟨after', -, asked'⟩ := iteration_replay ran' hosted' replayed'
              exact asked'.reconnects

end

/-- At the end of every iteration `/health` tells what the daemon last answered, and a daemon that
is gone is connected to in the next, exactly if `containers.list()` never raises. -/
theorem docker_status_reported (s : AgentScheduler) (es : Trace) (st : Availability)
    (started : AgentScheduler.start.Runs es (.ok ())) (replayed : replay es {} = some st)
    (run : List (Trace × Availability)) (iterated : Iterated s st run) :
    ((∀ iteration ∈ run, Truthful iteration.1 iteration.2) ∧ run.IsChain Reconnects) ↔
      ∀ iteration ∈ run, Listed iteration.1 := by
  obtain ⟨answer, rfl⟩ := start_replay started replayed
  have truthful := iterated.truthful_iff
  constructor
  · rintro ⟨reported, -⟩ iteration member
    exact (truthful iteration member).mp (reported iteration member)
  · intro listed
    exact ⟨fun iteration member => (truthful iteration member).mpr (listed iteration member),
      iterated.reconnects listed⟩

def daemonGone : Raised :=
  { typeName := "ClientConnectorError", message := "Cannot connect to host unix://localhost" }

/-- The client is made and asked for the version. -/
def tryTrace (monitor : DockerMonitor) (version : Except Exc Unit) : Trace :=
  [⟨.aiodocker, .ok ()⟩, ⟨.monitor, monitor⟩, ⟨.setMonitor { monitor with docker := true }, ()⟩,
    ⟨.dockerVersion, version⟩]

def connectedTrace (monitor : DockerMonitor) : Trace :=
  tryTrace monitor (.ok ()) ++
    [⟨.monitor, { monitor with docker := true }⟩, ⟨.setMonitor (monitorAfter (.ok ())), ()⟩]

def unconnectedTrace (monitor : DockerMonitor) (exc : Raised) : Trace :=
  tryTrace monitor (.error (.exception exc)) ++
    [⟨.monitor, { monitor with docker := true }⟩,
      ⟨.setMonitor { docker := true, reason := some exc.message }, ()⟩,
      ⟨.monitor, { docker := true, reason := some exc.message }⟩, ⟨.dockerClose, .ok ()⟩,
      ⟨.monitor, { docker := true, reason := some exc.message }⟩,
      ⟨.setMonitor (monitorAfter (.error exc)), ()⟩, ⟨.log "docker monitor unavailable", .returned⟩]

def copyTrace (answer : Except Raised Unit) : Trace :=
  [⟨.monitor, monitorAfter answer⟩,
    ⟨.setDockerStatus
      { available := (monitorAfter answer).available, reason := (monitorAfter answer).reason }, ()⟩]

def snapshotTrace : Trace :=
  [⟨.utcNow, sampleNow⟩, ⟨.commit (recordContainerSnapshot { capturedAt := sampleNow }).rows, .ok ()⟩,
    ⟨.utcNow, sampleNow⟩,
    ⟨.publishCall (messageOf "oopsys" "a1" .docker (.containerSnapshot { capturedAt := sampleNow })
        sampleNow).1
      (messageOf "oopsys" "a1" .docker (.containerSnapshot { capturedAt := sampleNow }) sampleNow).2,
      false⟩,
    ⟨.sessionClose, .returned⟩, ⟨.log "containers collected", .returned⟩]

/-! The daemon is gone at the start and in the first iteration. -/

def startGone : Trace :=
  unconnectedTrace {} daemonGone ++ copyTrace (.error daemonGone) ++
    [⟨.log "scheduler started", .returned⟩]

theorem startGone_runs : AgentScheduler.start.Runs startGone (.ok ()) :=
  ⟨_, _, rfl, _, _, rfl, _, _, rfl, _, _, rfl, _, _, rfl, _, _, rfl, _, _, rfl, _, _, rfl, _, _, rfl,
    _, _, rfl, .returned, _, rfl, _, _, rfl, _, _, rfl, .returned, _, rfl, rfl, rfl⟩

def goneIteration : Trace :=
  hostTrace ++ ⟨.monitor, monitorAfter (.error daemonGone)⟩ ::
    (unconnectedTrace (monitorAfter (.error daemonGone)) daemonGone ++
      copyTrace (.error daemonGone)) ++
    [⟨.monitor, monitorAfter (.error daemonGone)⟩, ⟨.sleep, .returned⟩]

theorem goneIteration_runs : sampleScheduler.iteration.Runs goneIteration (.ok ()) :=
  ⟨_, _, rfl, _, _, rfl, _, _, rfl, _, _, rfl, .returned, _, rfl, _, _, rfl, _, _, rfl, _, _, rfl,
    _, _, rfl, _, _, rfl, _, _, rfl, _, _, rfl, _, _, rfl, _, _, rfl, _, _, rfl, _, _, rfl, _, _, rfl,
    _, _, rfl, .returned, _, rfl, _, _, rfl, _, _, rfl, _, _, rfl, .returned, _, rfl, rfl, rfl⟩

def backIteration : Trace :=
  hostTrace ++ ⟨.monitor, monitorAfter (.error daemonGone)⟩ ::
    (connectedTrace (monitorAfter (.error daemonGone)) ++ copyTrace (.ok ())) ++
    [⟨.monitor, monitorAfter (.ok ())⟩, ⟨.monitor, monitorAfter (.ok ())⟩,
      ⟨.containersList, .ok []⟩] ++
    snapshotTrace ++ [⟨.sleep, .returned⟩]

theorem backIteration_runs : sampleScheduler.iteration.Runs backIteration (.ok ()) :=
  ⟨_, _, rfl, _, _, rfl, _, _, rfl, _, _, rfl, .returned, _, rfl, _, _, rfl, _, _, rfl, _, _, rfl,
    _, _, rfl, _, _, rfl, _, _, rfl, _, _, rfl, _, _, rfl, _, _, rfl, _, _, rfl, _, _, rfl, _, _, rfl,
    _, _, rfl, _, _, rfl, _, _, rfl, _, _, rfl, _, _, rfl, _, _, rfl, .returned, _, rfl,
    .returned, _, rfl, .returned, _, rfl, rfl, rfl⟩

def goneAndBack : List (Trace × Availability) :=
  [(goneIteration, settled (.error daemonGone)), (backIteration, settled (.ok ()))]

theorem docker_status_reported_goneAndBack :
    (∀ iteration ∈ goneAndBack, Truthful iteration.1 iteration.2) ∧
      goneAndBack.IsChain Reconnects := by
  have iterated : Iterated sampleScheduler (settled (.error daemonGone)) goneAndBack :=
    .cons goneIteration_runs (by simp [goneIteration, hostTrace, lastMetrics, lastMetrics?]) rfl
      (.cons backIteration_runs (by simp [backIteration, hostTrace, lastMetrics, lastMetrics?]) rfl
        (.nil _))
  refine (docker_status_reported _ _ _ startGone_runs rfl _ iterated).mpr ?_
  have called : daemonCalls goneIteration = [(.docker, .ok ()), (.version, .error daemonGone)] := rfl
  have called' : daemonCalls backIteration =
      [(.docker, .ok ()), (.version, .ok ()), (.list, .ok ())] := rfl
  intro iteration member exc raised
  have failed := mem_daemonCalls_list.mpr raised
  rcases List.mem_cons.mp member with rfl | member
  · simp [called] at failed
  · obtain rfl := List.mem_singleton.mp member
    simp [called'] at failed

/-! The daemon is there at the start, and gone ever after. -/

def startTrace : Trace :=
  connectedTrace {} ++ copyTrace (.ok ()) ++ [⟨.log "scheduler started", .returned⟩]

theorem startTrace_runs : AgentScheduler.start.Runs startTrace (.ok ()) :=
  ⟨_, _, rfl, _, _, rfl, _, _, rfl, _, _, rfl, _, _, rfl, _, _, rfl, _, _, rfl, _, _, rfl,
    .returned, _, rfl, rfl, rfl⟩

def unlistedIteration : Trace :=
  upToList ++
    [⟨.containersList, .error (.exception daemonGone)⟩, ⟨.log "agent fault", .returned⟩,
      ⟨.utcNow, sampleNow⟩, ⟨.commit (recordAgentFault (sampleFault daemonGone)).rows, .ok ()⟩,
      ⟨.utcNow, sampleNow⟩,
      ⟨.publishCall (messageOf "oopsys" "a1" .agent (.agentFault (sampleFault daemonGone)) sampleNow).1
        (messageOf "oopsys" "a1" .agent (.agentFault (sampleFault daemonGone)) sampleNow).2, false⟩,
      ⟨.sessionClose, .returned⟩, ⟨.sleep, .returned⟩]

theorem unlistedIteration_runs : sampleScheduler.iteration.Runs unlistedIteration (.ok ()) :=
  ⟨_, _, rfl, _, _, rfl, _, _, rfl, _, _, rfl, .returned, _, rfl, _, _, rfl, _, _, rfl, _, _, rfl,
    _, _, rfl, _, _, rfl, _, _, rfl, _, _, rfl, _, _, rfl, .returned, _, rfl, _, _, rfl, _, _, rfl,
    _, _, rfl, _, _, rfl, .returned, _, rfl, .returned, _, rfl, rfl, rfl⟩

def unlisted : List (Trace × Availability) :=
  List.replicate 2 (unlistedIteration, settled (.ok ()))

/-- The daemon goes away after the start. It is reported as available ever after, and nothing
connects to it again. -/
theorem goneDaemon_available :
    AgentScheduler.start.Runs startTrace (.ok ()) ∧
      replay startTrace {} = some (settled (.ok ())) ∧
      Iterated sampleScheduler (settled (.ok ())) unlisted ∧
      (∀ iteration ∈ unlisted, ¬ Truthful iteration.1 iteration.2) ∧
      ¬ unlisted.IsChain Reconnects := by
  have hosted : lastMetrics unlistedIteration ≠ [] := by
    simp [unlistedIteration, upToList, hostTrace, lastMetrics, lastMetrics?]
  have iterated : Iterated sampleScheduler (settled (.ok ())) unlisted :=
    .cons unlistedIteration_runs hosted rfl (.cons unlistedIteration_runs hosted rfl (.nil _))
  have called : daemonCalls unlistedIteration = [(.list, .error daemonGone)] := rfl
  refine ⟨startTrace_runs, rfl, iterated, ?_, ?_⟩
  · intro iteration member truthful
    have listed := (iterated.truthful_iff iteration member).mp truthful
    obtain rfl := List.eq_of_mem_replicate member
    exact listed daemonGone (mem_daemonCalls_list.mp (by simp [called]))
  · intro chain
    obtain ⟨reconnects, -⟩ := List.isChain_cons_cons.mp chain
    obtain ⟨answer, member⟩ := reconnects .list daemonGone (by simp [called])
    have others : ∀ entry ∈ unlistedIteration, entry.action ≠ .aiodocker := by
      simp [unlistedIteration, upToList, hostTrace]
    exact others _ member rfl

end OopsysAgent
