import OopsysAgent.Library.Contract
import OopsysAgent.Tasks.DockerStatus

/-!
# Docker clients

`close()` is called on every client that `aiodocker.Docker()` makes before the next is made, or the
client is the one that `_docker` names. Only a client whose `close()` is still due is asked for
anything. What an awaited `close()` leaves of the client is up to `aiodocker`.
-/

namespace OopsysAgent
open Concurrency

/-- The monitor and the clients it has made so far; `held` is the one that `_docker` names. -/
structure Clients where
  monitor : DockerMonitor := {}
  made : Nat := 0
  held : Option Nat := none
  -- those on which `close()` has not been called
  closeDue : List Nat := []

namespace Clients

def assign (monitor : DockerMonitor) (st : Clients) : Clients :=
  { st with monitor, held := if monitor.docker then st.held else none }

/-- The call of `aiodocker` stands for the assignment of its result to `_docker`. Whatever `close()`
answers, it has been called. -/
def update? (st : Clients) : Entry Call Answer → Option Clients
  | ⟨.monitor, monitor⟩ => if monitor = st.monitor then some st else none
  | ⟨.setMonitor monitor, _⟩ => some (st.assign monitor)
  | ⟨.aiodocker, .ok _⟩ =>
      some
        { st with
          made := st.made + 1
          held := some st.made
          closeDue := st.made :: st.closeDue }
  | ⟨.dockerClose, _⟩ => some { st with closeDue := st.closeDue.filter fun c => some c ≠ st.held }
  | _ => some st

/-- At most the client that `_docker` names has its `close()` due. -/
def Tidy (st : Clients) : Prop := ∀ c ∈ st.closeDue, st.held = some c

def Due (st : Clients) : Prop := ∃ c, st.held = some c ∧ st.closeDue = [c]

def Allows : Call → Clients → Prop
  | .aiodocker, st => st.closeDue = []
  | .dockerVersion, st | .containersList, st => st.Due
  | .dockerClose, st => st.Tidy ∧ st.held.isSome
  | _, st => st.Tidy

/-- What a cancelled task can leave: a client whose `close()` is due, `close` will find. -/
structure Closable (st : Clients) : Prop where
  tidy : st.Tidy
  found : st.closeDue ≠ [] → st.monitor.docker = true
  held : st.monitor.docker = true → st.held.isSome

structure Closed (st : Clients) : Prop where
  docker : st.monitor.docker = false
  closeDue : st.closeDue = []

structure Connected (st : Clients) : Prop where
  docker : st.monitor.docker = true
  available : st.monitor.available = true
  due : st.Due

structure Disconnected (st : Clients) : Prop extends Closed st where
  available : st.monitor.available = false

/-- Where the monitor is between two calls of its methods. -/
def Settled (st : Clients) : Prop := st.Connected ∨ st.Disconnected

section

variable {st st' : Clients}

theorem update?_monitor {monitor : DockerMonitor} :
    st.update? ⟨.monitor, monitor⟩ = some st' ↔ monitor = st.monitor ∧ st' = st := by
  simp only [update?]
  split <;> simp_all [eq_comm]

theorem Closed.closable (closed : st.Closed) : st.Closable := by
  refine ⟨?_, ?_, ?_⟩
  · simp [Tidy, closed.closeDue]
  · simp [closed.closeDue]
  · simp [closed.docker]

theorem Due.tidy (due : st.Due) : st.Tidy := by
  obtain ⟨c, held, closeDue⟩ := due
  simp [Tidy, held, closeDue]

theorem Connected.closable (connected : st.Connected) : st.Closable := by
  refine ⟨connected.due.tidy, fun _ => connected.docker, ?_⟩
  intro _
  obtain ⟨c, held, -⟩ := connected.due
  simp [held]

theorem Settled.closable (settled : st.Settled) : st.Closable := by
  cases settled with
  | inl connected => exact connected.closable
  | inr disconnected => exact disconnected.toClosed.closable

theorem Closed.tidy (closed : st.Closed) : st.Tidy := closed.closable.tidy

theorem Settled.tidy (settled : st.Settled) : st.Tidy := settled.closable.tidy

theorem initial_disconnected : Disconnected {} := ⟨⟨rfl, rfl⟩, rfl⟩

end

/-! ## The methods of the monitor -/

/-- From `st` on, the coroutine makes no call that is not allowed, and ends as in `Q`. -/
abbrev Safe {α : Type} (p : Coroutine α) (Q : Except Exc α → Clients → Prop) (st : Clients) :
    Prop := p.Meets update? Allows Q st

def Plain : Call → Prop
  | .monitor | .setMonitor _ | .aiodocker | .dockerVersion | .dockerClose | .containersList => False
  | _ => True

section

variable {α : Type} {p : Coroutine α} {Q : Except Exc α → Clients → Prop} {st : Clients}

theorem plain_safe (takes : p.Takes Plain) (tidy : st.Tidy) : Safe p (fun _ t => t = st) st := by
  refine takes.meets (I := (· = st)) ?_ ?_ rfl
  · rintro call _ plain rfl
    cases call <;> first | exact tidy | exact plain.elim
  · rintro call answer _ t plain rfl updated
    cases call <;> first | exact (Option.some.inj updated).symm | exact plain.elim

theorem log_plain (event : String) : (Coroutine.log event).Takes Plain :=
  ⟨trivial, fun pause => by cases pause <;> trivial⟩

theorem monitor_safe {f : DockerMonitor → Coroutine α} (tidy : st.Tidy)
    (later : Safe (f st.monitor) Q st) :
    Safe (do let monitor ← Coroutine.ask .monitor; f monitor) Q st := by
  refine ⟨tidy, ?_⟩
  intro monitor t asked
  obtain ⟨rfl, rfl⟩ := update?_monitor.mp asked
  exact later

theorem modify_safe {f : DockerMonitor → DockerMonitor} {Q : Except Exc Unit → Clients → Prop}
    (tidy : st.Tidy) (after : Q (.ok ()) (st.assign (f st.monitor))) :
    Safe (DockerMonitor.modify f) Q st := by
  apply monitor_safe tidy
  refine ⟨tidy, ?_⟩
  intro _ t assigned
  obtain rfl := Option.some.inj assigned
  exact after

theorem modify_bind_safe {f : DockerMonitor → DockerMonitor} {q : Unit → Coroutine α}
    (tidy : st.Tidy) (later : Safe (q ()) Q (st.assign (f st.monitor))) :
    Safe (DockerMonitor.modify f >>= q) Q st := by
  apply monitor_safe tidy
  refine ⟨tidy, ?_⟩
  intro _ t assigned
  obtain rfl := Option.some.inj assigned
  exact later

/-- What `safe_close` leaves when it returns, and when it is cancelled. -/
def closeEnd (available : Bool) : Except Exc Unit → Clients → Prop
  | .ok _, t => t.Closed ∧ t.monitor.available = available
  | .error _, t => t.Closable

theorem Closable.dockerClose (closable : st.Closable) {answer : Except Exc Unit} {t : Clients}
    (closed : st.update? ⟨.dockerClose, answer⟩ = some t) :
    t.monitor = st.monitor ∧ t.held = st.held ∧ t.closeDue = [] := by
  obtain rfl := Option.some.inj closed
  refine ⟨rfl, rfl, List.filter_eq_nil_iff.mpr ?_⟩
  intro c member
  simp [closable.tidy c member]

theorem suppressClose_safe (closable : st.Closable) (docker : st.monitor.docker = true) :
    Safe (Coroutine.suppress (.act .dockerClose Coroutine.ofExcept))
      (fun _ t => t.monitor = st.monitor ∧ t.closeDue = [] ∧ t.Closable) st := by
  refine ⟨⟨closable.tidy, closable.held docker⟩, ?_⟩
  intro answer t closed
  obtain ⟨monitor, held, closeDue⟩ := closable.dockerClose closed
  have ended : t.monitor = st.monitor ∧ t.closeDue = [] ∧ t.Closable := by
    refine ⟨monitor, closeDue, ?_, ?_, ?_⟩
    · simp [Tidy, closeDue]
    · simp [closeDue]
    · intro _
      exact held ▸ closable.held docker
  rcases answer with (_ | exc) | ⟨⟩ <;> exact ended

theorem safeClose_safe (closable : st.Closable) :
    Safe DockerMonitor.safeClose (closeEnd st.monitor.available) st := by
  apply monitor_safe closable.tidy
  split
  · rename_i docker
    apply (suppressClose_safe closable docker).bind
    · rintro _ t ⟨monitor, closeDue, closable⟩
      have same : t.monitor.available = st.monitor.available := congrArg _ monitor
      exact modify_safe closable.tidy ⟨⟨rfl, closeDue⟩, same⟩
    · rintro _ t ⟨-, -, closable⟩
      exact closable
  · rename_i docker
    refine ⟨⟨Bool.eq_false_iff.mpr docker, ?_⟩, rfl⟩
    by_contra nonempty
    exact docker (closable.found nonempty)

/-- What the `try` statement of `connect` leaves, its `except` clause included. -/
def tryEnd : Except Exc Bool → Clients → Prop
  | .ok true, t => t.monitor.docker = true ∧ t.Due
  | .ok false, t => t.Disconnected
  | .error _, t => t.Closable

def connectEnd : Except Exc Bool → Clients → Prop
  | .ok true, t => t.Connected
  | .ok false, t => t.Disconnected
  | .error _, t => t.Closable

theorem connectFailed_safe (closable : st.Closable) (exc : Raised) :
    Safe (DockerMonitor.connectFailed exc) tryEnd st := by
  apply modify_bind_safe closable.tidy
  set marked := st.assign { st.monitor with available := false, reason := some exc.message }
  have still : marked.Closable := by
    refine ⟨?_, closable.found, ?_⟩
    · intro c member
      have docker := closable.found (List.ne_nil_of_mem member)
      simpa [marked, assign, docker] using closable.tidy c member
    · intro docker
      have same : st.monitor.docker = true := docker
      simpa [marked, assign, same] using closable.held same
  apply (safeClose_safe still).bind
  · rintro _ t ⟨closed, unavailable⟩
    apply (plain_safe (log_plain _) closed.tidy).bind
    · rintro _ _ rfl
      exact ⟨closed, unavailable⟩
    · rintro _ _ rfl
      exact closed.closable
  · exact fun _ _ closable => closable

theorem tryConnect_safe (closed : st.Closed) : Safe (do
    let () ← Program.act .aiodocker Coroutine.ofExcept
    DockerMonitor.modify fun monitor => { monitor with docker := true }
    let () ← Program.act .dockerVersion Coroutine.ofExcept
    return true) tryEnd st := by
  refine ⟨closed.closeDue, ?_⟩
  intro answer t made
  cases answer with
  | error error =>
      obtain rfl := Option.some.inj made
      exact closed.closable
  | ok _ =>
      have due : t.held = some st.made ∧ t.closeDue = [st.made] := by
        obtain rfl := Option.some.inj made
        simp [closed.closeDue]
      apply modify_bind_safe (Due.tidy ⟨st.made, due⟩)
      refine ⟨⟨st.made, due⟩, ?_⟩
      intro answer t' asked
      obtain rfl := Option.some.inj asked
      cases answer with
      | error error =>
          refine ⟨Due.tidy ⟨st.made, due⟩, fun _ => rfl, ?_⟩
          intro _
          exact Option.isSome_of_eq_some due.1
      | ok _ => exact ⟨rfl, st.made, due⟩

theorem connect_safe (closed : st.Closed) : Safe DockerMonitor.connect connectEnd st := by
  refine Program.Meets.bind (Q := tryEnd) ?_ ?_ fun _ _ closable => closable
  · apply (tryConnect_safe closed).tryCatch fun _ _ ended => ended
    intro error t closable
    cases error with
    | cancelled => exact closable
    | exception exc => exact connectFailed_safe closable exc
  · intro connected t ended
    cases connected with
    | true =>
        obtain ⟨docker, c, held, closeDue⟩ := ended
        refine modify_bind_safe (Due.tidy ⟨c, held, closeDue⟩) ⟨docker, rfl, c, ?_, closeDue⟩
        simpa [assign, docker] using held
    | false => exact ended

theorem collectFrom_plain (reading : Docker.Reading)
    (containers : List Docker.Container) (states : List ContainerState) :
    (DockerMonitor.collectFrom reading containers states).Takes Plain := by
  apply (collectFrom_takes containers states).mono
  rintro _ rfl
  trivial

theorem collect_safe (reading : Docker.Reading) (connected : st.Connected) :
    Safe (DockerMonitor.collect reading) (fun _ t => t = st) st := by
  apply monitor_safe connected.closable.tidy
  rw [if_pos connected.docker]
  refine ⟨connected.due, ?_⟩
  intro answer t listed
  obtain rfl := Option.some.inj listed
  cases answer with
  | error error => rfl
  | ok containers => exact plain_safe (collectFrom_plain _ _ _) connected.closable.tidy

/-! ## The scheduler -/

def schedulerEnd : Except Exc Unit → Clients → Prop
  | .error .cancelled, t => t.Closable
  | _, t => t.Settled

theorem Settled.schedulerEnd (settled : st.Settled) (o : Except Exc Unit) :
    schedulerEnd o st := by
  rcases o with (_ | exc) | ⟨⟩
  · exact settled.closable
  · exact settled
  · exact settled

theorem Settled.connected (settled : st.Settled) (available : st.monitor.available = true) :
    st.Connected := by
  cases settled with
  | inl connected => exact connected
  | inr disconnected => cases available.symm.trans disconnected.available

theorem Settled.disconnected (settled : st.Settled) (unavailable : st.monitor.available = false) :
    st.Disconnected := by
  cases settled with
  | inl connected => cases unavailable.symm.trans connected.available
  | inr disconnected => exact disconnected

theorem plain_settled {p : Coroutine Unit} (takes : p.Takes Plain) (settled : st.Settled) :
    Safe p schedulerEnd st := by
  apply (plain_safe takes settled.tidy).mono fun _ _ allowed => allowed
  rintro o _ rfl
  exact settled.schedulerEnd o

theorem copyDockerStatus_safe (settled : st.Settled) :
    Safe AgentScheduler.copyDockerStatus schedulerEnd st := by
  apply monitor_safe settled.tidy
  exact plain_settled ⟨trivial, fun _ => trivial⟩ settled

theorem connectAndCopy_safe (disconnected : st.Disconnected) : Safe (do
    let _ ← DockerMonitor.connect
    AgentScheduler.copyDockerStatus) schedulerEnd st := by
  apply (connect_quiet.raises.meets (connect_safe disconnected.toClosed)).bind
  · rintro (_ | _) t ⟨ended, -⟩
    · exact copyDockerStatus_safe (.inr ended)
    · exact copyDockerStatus_safe (.inl ended)
  · rintro error t ⟨closable, cancelled⟩
    obtain rfl := cancelled error rfl
    exact closable

theorem refreshDocker_safe (settled : st.Settled) :
    Safe AgentScheduler.refreshDocker schedulerEnd st := by
  apply monitor_safe settled.tidy
  split
  · rename_i unavailable
    exact connectAndCopy_safe (settled.disconnected (by simpa using unavailable))
  · exact copyDockerStatus_safe settled

theorem session_plain {pre agentId : String} {recording : Events.Recording} :
    (EventService.record pre agentId recording).withSession.Takes Plain := by
  apply session_takes.mono
  rintro call (rfl | recording)
  · trivial
  · cases call <;> trivial

theorem collectContainers_safe (s : AgentScheduler) (settled : st.Settled) :
    Safe s.collectContainers schedulerEnd st := by
  apply monitor_safe settled.tidy
  split
  · rename_i available
    apply (collect_safe s.reading (settled.connected available)).bind
    · rintro states _ rfl
      refine plain_settled ⟨trivial, fun now => ?_⟩ settled
      exact session_plain.bind fun _ => log_plain _
    · rintro error _ rfl
      exact settled.schedulerEnd _
  · exact settled

theorem collectHost_plain (s : AgentScheduler) : s.collectHost.Takes Plain := by
  refine Program.Takes.bind ⟨trivial, takes_ofExcept⟩ fun metrics => ?_
  exact session_plain.bind fun _ => ⟨trivial, fun now => ⟨trivial, fun _ => trivial⟩⟩

theorem collectOnce_safe (s : AgentScheduler) (settled : st.Settled) :
    Safe s.collectOnce schedulerEnd st := by
  apply (plain_settled (collectHost_plain s) settled).bind
  · intro _ t settled
    apply (refreshDocker_safe settled).bind
    · intro _ t settled
      exact collectContainers_safe s settled
    · exact fun _ _ ended => ended
  · exact fun _ _ ended => ended

theorem handleFault_plain (s : AgentScheduler) (component operation : String) (exc : Raised) :
    (s.handleFault component operation exc).Takes Plain := by
  apply (log_plain _).bind
  intro _
  refine ⟨trivial, fun now => session_plain.tryCatch fun error => ?_⟩
  cases error with
  | cancelled => trivial
  | exception exc => exact log_plain _

/-- One iteration: cancelled at any of its awaits, it leaves a client that `close` will find. -/
theorem iteration_safe (s : AgentScheduler) (settled : st.Settled) :
    Safe s.iteration schedulerEnd st := by
  refine Program.Meets.bind (Q := schedulerEnd) ?_ ?_ fun _ _ ended => ended
  · apply (collectOnce_safe s settled).tryCatch fun _ _ ended => ended
    intro error t ended
    cases error with
    | cancelled => exact ended
    | exception exc => exact plain_settled (handleFault_plain s _ _ exc) ended
  · intro _ t settled
    refine plain_settled ⟨trivial, fun pause => ?_⟩ settled
    cases pause <;> trivial

end

end Clients

end OopsysAgent
