import OopsysAgent.Library.Contract
import OopsysAgent.Tasks.DockerStatus

/-!
# Cancellation

`task.cancel()` raises a `CancelledError` at the await of the task. Between there and the task lie
the `except Exception` clauses of `collect`, `connect`, `publish` and `_guard`, which let it through,
and the `async with` of a session, which closes it first.
-/

namespace OopsysAgent
open Concurrency

/-- A call that `collect` makes on the container is cancelled. -/
def cancelledInside (s : AgentScheduler) (container : Docker.Container) : Bool :=
  match Docker.buildState s.reading container with
  | .error (.awaited .cancelled) => true
  | _ => false

def interrupts (s : AgentScheduler) : Entry Call Answer → Bool
  | ⟨.containersList, .ok containers⟩ => containers.any (cancelledInside s)
  | entry => isCancelled entry

/-- What a coroutine was told of its cancellation. -/
inductive Interruption
  | clear
  -- a call on a listed container was cancelled, and the loop of `collect` will come to it
  | pending
  | delivered
  -- the session was closed after the cancellation, or the close itself was cancelled
  | closed
  deriving DecidableEq

def Interruption.after (s : AgentScheduler) (st : Interruption) : Entry Call Answer → Interruption
  | ⟨.sessionClose, pause⟩ => if pause = .cancelled ∨ st = .delivered then .closed else st
  | entry => if isCancelled entry then .delivered else if interrupts s entry then .pending else st

def Interruption.update? (s : AgentScheduler) (st : Interruption) (entry : Entry Call Answer) :
    Option Interruption :=
  some (st.after s entry)

/-- Once cancelled, a coroutine closes the session that it is in and calls nothing else. -/
def Interruption.Allows (call : Call) : Interruption → Prop
  | .clear | .pending => True
  | .delivered => call = .sessionClose
  | .closed => False

def promptEnd {α : Type} (o : Except Exc α) (st : Interruption) : Prop :=
  o = .error .cancelled ↔ st ≠ .clear

/-- Ends in a `CancelledError` if a call was cancelled, and only then. But for the close of a session
the call that was cancelled is the last. -/
def Prompt (s : AgentScheduler) {α : Type} (p : Coroutine α) (st : Interruption := .clear) : Prop :=
  p.Meets (Interruption.update? s) Interruption.Allows promptEnd st

section

variable {s : AgentScheduler} {α β : Type} {p : Coroutine α} {f : α → Coroutine β}

theorem promptEnd_iff {o : Except Exc α} {st : Interruption} (uncancelled : o ≠ .error .cancelled) :
    promptEnd o st ↔ st = .clear := by
  unfold promptEnd
  simp [uncancelled]

theorem prompt_ret (value : α) : Prompt s (.ret value : Coroutine α) := by
  simp [Prompt, Program.Meets, promptEnd]

theorem prompt_cancelled {st : Interruption} (interrupted : st ≠ .clear) :
    Prompt s (.raise .cancelled : Coroutine α) st := by
  simpa [Prompt, Program.Meets, promptEnd] using interrupted

theorem prompt_exception (exc : Raised) : Prompt s (.raise (.exception exc) : Coroutine α) := by
  simp [Prompt, Program.Meets, promptEnd]

theorem interrupts_of_isCancelled {entry : Entry Call Answer}
    (cancelled : isCancelled entry = true) : interrupts s entry = true := by
  unfold interrupts
  split
  · cases cancelled
  · exact cancelled

@[simp] theorem interrupts_close (pause : Pause) :
    interrupts s ⟨.sessionClose, pause⟩ = decide (pause = .cancelled) := by
  cases pause <;> rfl

@[simp] theorem after_close (st : Interruption) (pause : Pause) :
    st.after s ⟨.sessionClose, pause⟩ = if pause = .cancelled ∨ st = .delivered then .closed else st :=
  rfl

theorem after_of_ne {st : Interruption} {entry : Entry Call Answer}
    (other : entry.action ≠ .sessionClose) :
    st.after s entry =
      if isCancelled entry then .delivered else if interrupts s entry then .pending else st := by
  obtain ⟨call, r⟩ := entry
  cases call <;> first | rfl | exact absurd rfl other

theorem after_delivered {st : Interruption} {entry : Entry Call Answer}
    (other : entry.action ≠ .sessionClose) (cancelled : isCancelled entry = true) :
    st.after s entry = .delivered := by
  rw [after_of_ne other, if_pos cancelled]

theorem after_calm {st : Interruption} {entry : Entry Call Answer}
    (other : entry.action ≠ .sessionClose) (calm : interrupts s entry = false) :
    st.after s entry = st := by
  have uncancelled : isCancelled entry = false := by
    by_contra cancelled
    rw [interrupts_of_isCancelled (by simpa using cancelled)] at calm
    cases calm
  rw [after_of_ne other, if_neg (by simp [uncancelled]), if_neg (by simp [calm])]

theorem after_clear {st : Interruption} {entry : Entry Call Answer} :
    st.after s entry = .clear ↔ st = .clear ∧ interrupts s entry = false := by
  obtain ⟨call, r⟩ := entry
  by_cases close : call = .sessionClose
  · subst close
    cases r <;> cases st <;> simp
  · rw [after_of_ne close]
    cases cancelled : isCancelled ⟨call, r⟩ with
    | true => simp [interrupts_of_isCancelled cancelled]
    | false => cases interrupts s ⟨call, r⟩ <;> simp

/-- An answer is a cancellation, which is raised on, or none, and then the rest is prompt. -/
theorem prompt_act {call : Call} {next : Answer call → Coroutine α} {st : Interruption}
    (other : call ≠ .sessionClose) (live : st = .clear ∨ st = .pending)
    (outcomes : ∀ r, (interrupts s ⟨call, r⟩ = false ∧ Prompt s (next r) st) ∨
      isCancelled ⟨call, r⟩ = true ∧ next r = .raise .cancelled) :
    Prompt s (.act call next) st := by
  refine ⟨by rcases live with rfl | rfl <;> trivial, ?_⟩
  intro r st' told
  obtain rfl := Option.some.inj told
  rcases outcomes r with ⟨calm, prompt⟩ | ⟨cancelled, raised⟩
  · rw [after_calm other calm]
    exact prompt
  · rw [raised, after_delivered other cancelled]
    exact prompt_cancelled (by simp)

theorem prompt_call {call : Call} {next : Answer call → Coroutine α} (other : call ≠ .sessionClose)
    (outcomes : ∀ r, (interrupts s ⟨call, r⟩ = false ∧ Prompt s (next r)) ∨
      isCancelled ⟨call, r⟩ = true ∧ next r = .raise .cancelled) : Prompt s (.act call next) :=
  prompt_act other (.inl rfl) outcomes

theorem Prompt.told {call : Call} {next : Answer call → Coroutine α} {st : Interruption}
    (prompt : Prompt s (.act call next) st) (r : Answer call) :
    Prompt s (next r) (st.after s ⟨call, r⟩) :=
  prompt.2 r _ rfl

theorem Prompt.next {call : Call} {next : Answer call → Coroutine α}
    (prompt : Prompt s (.act call next)) {r : Answer call}
    (calm : interrupts s ⟨call, r⟩ = false) : Prompt s (next r) := by
  have later := prompt.told r
  rwa [after_clear.mpr ⟨rfl, calm⟩] at later

theorem Prompt.bind (prompt : Prompt s p) (later : ∀ value, Prompt s (f value)) :
    Prompt s (p >>= f) := by
  refine Program.Meets.bind prompt (fun value st ended => ?_) fun error st ended => ?_
  · obtain rfl := (promptEnd_iff (by simp)).mp ended
    exact later value
  · simpa [promptEnd] using ended

theorem Prompt.exceptException {handler : Raised → Coroutine α} (prompt : Prompt s p)
    (handled : ∀ exc, Prompt s (handler exc)) : Prompt s (p.exceptException handler) := by
  refine Program.Meets.tryCatch prompt (fun value st ended => ended) fun error st ended => ?_
  cases error with
  | cancelled => exact ended
  | exception exc =>
      obtain rfl := (promptEnd_iff (by simp)).mp ended
      exact handled exc

theorem prompt_ask (call : Call) (other : call ≠ .sessionClose)
    (calm : ∀ r, interrupts s ⟨call, r⟩ = false) : Prompt s (Coroutine.ask call) :=
  prompt_call other fun r => .inl ⟨calm r, prompt_ret r⟩

theorem prompt_log (event : String) : Prompt s (Coroutine.log event) := by
  apply prompt_call (by simp)
  intro pause
  cases pause with
  | returned => exact .inl ⟨rfl, prompt_ret ()⟩
  | cancelled => exact .inr ⟨rfl, rfl⟩

theorem prompt_sleep : Prompt s Coroutine.sleep := by
  apply prompt_call (by simp)
  intro pause
  cases pause with
  | returned => exact .inl ⟨rfl, prompt_ret ()⟩
  | cancelled => exact .inr ⟨rfl, rfl⟩

/-- Before the close the interruption is at most delivered, and then it is raised on. -/
theorem closeThen_prompt {error : Exc} {st : Interruption}
    (ended : promptEnd (.error error : Except Exc Unit) st) (unclosed : st ≠ .closed) :
    Prompt s (do Coroutine.closeSession; .raise error : Coroutine Unit) st := by
  constructor
  · cases st with
    | closed => exact unclosed rfl
    | delivered => rfl
    | clear | pending => trivial
  intro pause st' told
  obtain rfl := Option.some.inj told
  cases pause with
  | cancelled => exact prompt_cancelled (by simp)
  | returned =>
      have kept : st.after s ⟨.sessionClose, .returned⟩ = .clear ↔ st = .clear := by
        rw [after_clear]
        exact and_iff_left rfl
      exact ended.trans (not_congr kept).symm

theorem closeSession_prompt : Prompt s Coroutine.closeSession := by
  refine ⟨trivial, ?_⟩
  intro pause st' told
  obtain rfl := Option.some.inj told
  cases pause with
  | returned => exact prompt_ret ()
  | cancelled => exact prompt_cancelled (by simp)

theorem Prompt.withSession {body : Coroutine Unit} (prompt : Prompt s body)
    (other : body.Takes (· ≠ .sessionClose)) : Prompt s body.withSession := by
  have unclosed : body.Meets (Interruption.update? s) (fun _ _ => True)
      (fun _ st => st ≠ Interruption.closed) .clear := by
    refine other.meets (I := fun st => st ≠ Interruption.closed) (fun _ _ _ _ => trivial) ?_ (by simp)
    intro call r st st' other here told
    obtain rfl := Option.some.inj told
    rw [after_of_ne other]
    split
    · simp
    · split
      · simp
      · exact here
  refine Program.Meets.bind (Q := promptEnd) ?_ (fun _ st ended => ?_) fun error st ended => ended
  · refine (Program.Meets.and prompt unclosed).tryCatch (fun _ _ ended => ended.1) ?_
    rintro error st ⟨ended, unclosed⟩
    exact closeThen_prompt ended unclosed
  · obtain rfl := (promptEnd_iff (by simp)).mp ended
    exact closeSession_prompt

/-! ## The coroutines of the scheduler -/

theorem publish_prompt (subject : String) (envelope : Envelope) :
    Prompt s (EventService.publish subject envelope) := by
  apply prompt_call (by simp)
  intro held
  refine .inl ⟨rfl, ?_⟩
  cases held with
  | false => exact prompt_ret false
  | true =>
      apply Prompt.exceptException
      · apply Prompt.bind _ fun _ => prompt_ret true
        apply prompt_call (by simp)
        rintro ((_ | exc) | ⟨⟩)
        · exact .inr ⟨rfl, rfl⟩
        · exact .inl ⟨rfl, prompt_exception exc⟩
        · exact .inl ⟨rfl, prompt_ret ()⟩
      · intro _
        apply (prompt_ask .setQueueDown (by simp) fun _ => rfl).bind
        exact fun _ => (prompt_log _).bind fun _ => prompt_ret false

theorem record_prompt {pre agentId : String} {recording : Events.Recording} :
    Prompt s (EventService.record pre agentId recording) := by
  apply Prompt.bind
  · apply prompt_call (by simp)
    rintro ((_ | exc) | ⟨⟩)
    · exact .inr ⟨rfl, rfl⟩
    · exact .inl ⟨rfl, prompt_exception exc⟩
    · exact .inl ⟨rfl, prompt_ret ()⟩
  · intro _
    apply (prompt_ask .utcNow (by simp) fun _ => rfl).bind
    exact fun now => (publish_prompt _ _).bind fun _ => prompt_ret ()

theorem session_prompt {pre agentId : String} {recording : Events.Recording} :
    Prompt s (EventService.record pre agentId recording).withSession := by
  apply record_prompt.withSession
  apply record_takes.mono
  rintro _ recording rfl
  exact recording

theorem collectHost_prompt : Prompt s s.collectHost := by
  apply Prompt.bind
  · apply prompt_call (by simp)
    rintro ((_ | exc) | metrics)
    · exact .inr ⟨rfl, rfl⟩
    · exact .inl ⟨rfl, prompt_exception exc⟩
    · exact .inl ⟨rfl, prompt_ret metrics⟩
  · intro metrics
    apply session_prompt.bind
    intro _
    apply (prompt_ask .utcNow (by simp) fun _ => rfl).bind
    exact fun now => prompt_ask _ (by simp) fun _ => rfl

theorem modify_prompt (f : DockerMonitor → DockerMonitor) : Prompt s (DockerMonitor.modify f) :=
  (prompt_ask .monitor (by simp) fun _ => rfl).bind fun _ => prompt_ask _ (by simp) fun _ => rfl

theorem safeClose_prompt : Prompt s DockerMonitor.safeClose := by
  apply (prompt_ask .monitor (by simp) fun _ => rfl).bind
  intro monitor
  split
  · apply Prompt.bind _ fun _ => modify_prompt _
    apply Prompt.exceptException _ fun _ => prompt_ret ()
    apply prompt_call (by simp)
    rintro ((_ | exc) | ⟨⟩)
    · exact .inr ⟨rfl, rfl⟩
    · exact .inl ⟨rfl, prompt_exception exc⟩
    · exact .inl ⟨rfl, prompt_ret ()⟩
  · exact prompt_ret ()

theorem tryConnect_prompt : Prompt s (do
    let () ← Program.act .aiodocker Coroutine.ofExcept
    DockerMonitor.modify fun monitor => { monitor with docker := true }
    let () ← Program.act .dockerVersion Coroutine.ofExcept
    return true) := by
  apply Prompt.bind
  · apply prompt_call (by simp)
    rintro ((_ | exc) | ⟨⟩)
    · exact .inr ⟨rfl, rfl⟩
    · exact .inl ⟨rfl, prompt_exception exc⟩
    · exact .inl ⟨rfl, prompt_ret ()⟩
  · intro _
    apply (modify_prompt _).bind
    intro _
    apply Prompt.bind _ fun _ => prompt_ret true
    apply prompt_call (by simp)
    rintro ((_ | exc) | ⟨⟩)
    · exact .inr ⟨rfl, rfl⟩
    · exact .inl ⟨rfl, prompt_exception exc⟩
    · exact .inl ⟨rfl, prompt_ret ()⟩

theorem connect_prompt : Prompt s DockerMonitor.connect := by
  apply Prompt.bind
  · apply tryConnect_prompt.exceptException
    intro exc
    apply (modify_prompt _).bind
    intro _
    exact safeClose_prompt.bind fun _ => (prompt_log _).bind fun _ => prompt_ret false
  · intro connected
    split
    · exact (modify_prompt _).bind fun _ => prompt_ret _
    · exact prompt_ret _

def cancelledIn (s : AgentScheduler) (containers : List Docker.Container) : Interruption :=
  if interrupts s ⟨.containersList, .ok containers⟩ then .pending else .clear

theorem cancelledIn_cons {container : Docker.Container} {containers : List Docker.Container}
    (other : Docker.buildState s.reading container ≠ .error (.awaited .cancelled)) :
    cancelledIn s (container :: containers) = cancelledIn s containers := by
  have live : cancelledInside s container = false := by
    unfold cancelledInside
    split
    · contradiction
    · rfl
  simp only [cancelledIn, interrupts, List.any_cons, live, Bool.false_or]
  rfl

theorem collectFrom_prompt (containers : List Docker.Container) (states : List ContainerState) :
    Prompt s (DockerMonitor.collectFrom s.reading containers states)
      (cancelledIn s containers) := by
  induction containers generalizing states with
  | nil => exact prompt_ret states
  | cons container containers ih =>
      rw [DockerMonitor.collectFrom]
      split
      · rename_i state built
        rw [cancelledIn_cons (by simp [built])]
        exact ih _
      · rename_i built
        apply prompt_cancelled
        simp [cancelledIn, interrupts, cancelledInside, built]
      · rename_i error other built
        rw [cancelledIn_cons (by simpa [built] using other)]
        apply prompt_act (by simp)
        · unfold cancelledIn
          split <;> simp
        intro pause
        cases pause with
        | returned => exact .inl ⟨rfl, ih states⟩
        | cancelled => exact .inr ⟨rfl, rfl⟩

theorem collect_prompt : Prompt s (DockerMonitor.collect s.reading) := by
  apply (prompt_ask .monitor (by simp) fun _ => rfl).bind
  intro monitor
  split
  · refine ⟨trivial, ?_⟩
    intro answer st told
    obtain rfl := Option.some.inj told
    rcases answer with (_ | exc) | containers
    · exact prompt_cancelled (by rw [after_delivered (by simp) rfl]; nofun)
    · exact prompt_exception exc
    · exact collectFrom_prompt containers []
  · exact prompt_ret []

theorem copyDockerStatus_prompt : Prompt s AgentScheduler.copyDockerStatus :=
  (prompt_ask .monitor (by simp) fun _ => rfl).bind fun _ => prompt_ask _ (by simp) fun _ => rfl

theorem collectOnce_prompt : Prompt s s.collectOnce := by
  apply collectHost_prompt.bind
  intro _
  apply Prompt.bind
  · apply (prompt_ask .monitor (by simp) fun _ => rfl).bind
    intro monitor
    split
    · exact connect_prompt.bind fun _ => copyDockerStatus_prompt
    · exact copyDockerStatus_prompt
  intro _
  apply (prompt_ask .monitor (by simp) fun _ => rfl).bind
  intro monitor
  split
  · apply collect_prompt.bind
    intro states
    apply (prompt_ask .utcNow (by simp) fun _ => rfl).bind
    exact fun now => session_prompt.bind fun _ => prompt_log _
  · exact prompt_ret ()

theorem guard_prompt : Prompt s (s.guard "monitor" "collect" s.collectOnce) := by
  apply collectOnce_prompt.exceptException
  intro exc
  apply (prompt_log _).bind
  intro _
  apply (prompt_ask .utcNow (by simp) fun _ => rfl).bind
  exact fun now => session_prompt.exceptException fun _ => prompt_log _

theorem iteration_prompt : Prompt s s.iteration :=
  guard_prompt.bind fun _ => prompt_sleep

theorem handleFault_raises (component operation : String) (exc : Raised) :
    (s.handleFault component operation exc).Raises (· = .cancelled) := by
  apply (quiet_log _).raises.bind
  intro _ now
  apply Program.raises_tryCatch
  intro error
  cases error with
  | cancelled => rfl
  | exception exc => exact (quiet_log _).raises

theorem iteration_raises : s.iteration.Raises (· = .cancelled) := by
  apply Program.Raises.bind
  · apply Program.raises_tryCatch
    intro error
    cases error with
    | cancelled => rfl
    | exception exc => exact handleFault_raises _ _ exc
  · intro _ pause
    cases pause <;> trivial

end

/-! ## The end of a cancelled coroutine -/

section

variable {s : AgentScheduler} {α : Type} {p q : Coroutine α} {st st' : Interruption} {es : Trace}

theorem told_clear (told : es.foldlM (Interruption.update? s) st = some st') :
    st' = .clear ↔ st = .clear ∧ ∀ entry ∈ es, interrupts s entry = false := by
  induction es generalizing st with
  | nil => simp [← Option.some.inj told]
  | cons entry es ih =>
      rw [List.foldlM_cons] at told
      rw [ih told, after_clear, List.forall_mem_cons, and_assoc]

theorem told_any (es : Trace) (st : Interruption) :
    ∃ st', es.foldlM (Interruption.update? s) st = some st' := by
  induction es generalizing st with
  | nil => exact ⟨st, rfl⟩
  | cons entry es ih => exact ih _

theorem Prompt.ended {o : Except Exc α} (prompt : Prompt s p) (follows : p.Follows es q)
    (finished : q.outcome? = some o) :
    o = .error .cancelled ↔ ∃ entry ∈ es, interrupts s entry = true := by
  obtain ⟨st, told⟩ := told_any (s := s) es .clear
  have later : Prompt s q st := Program.Meets.follows prompt follows told
  have final : promptEnd o st := Program.Meets.outcome later finished
  have clear := told_clear told
  simp only [promptEnd] at final
  rw [final, Ne, clear]
  simp

theorem Prompt.closed (prompt : Prompt s p .closed) (follows : p.Follows es q) :
    es = [] ∧ q = .raise .cancelled := by
  cases p with
  | ret value => simp [Prompt, Program.Meets, promptEnd] at prompt
  | raise error =>
      obtain rfl : error = .cancelled := by simpa [Prompt, Program.Meets, promptEnd] using prompt
      cases follows
      exact ⟨rfl, rfl⟩
  | act call next => exact prompt.1.elim

/-- What is left of a cancelled coroutine: the close of its session, if it is in one. -/
inductive Leaves : Trace → Coroutine α → Prop
  | raised : Leaves [] (.raise .cancelled)
  | closing (next : Pause → Coroutine α) : Leaves [] (.act .sessionClose next)
  | closed (pause : Pause) : Leaves [⟨.sessionClose, pause⟩] (.raise .cancelled)

theorem Prompt.delivered (prompt : Prompt s p .delivered) (follows : p.Follows es q) :
    Leaves es q := by
  cases p with
  | ret value => simp [Prompt, Program.Meets, promptEnd] at prompt
  | raise error =>
      obtain rfl : error = .cancelled := by simpa [Prompt, Program.Meets, promptEnd] using prompt
      cases follows
      exact .raised
  | act call next =>
      obtain rfl : call = .sessionClose := prompt.1
      cases follows with
      | nil => exact .closing next
      | @cons _ _ pause _ _ rest =>
          have later := prompt.told pause
          rw [after_close, if_pos (.inr rfl)] at later
          obtain ⟨rfl, rfl⟩ := later.closed rest
          exact .closed pause

theorem Prompt.last {before after : Trace} {entry : Entry Call Answer} (prompt : Prompt s p)
    (follows : p.Follows (before ++ entry :: after) q) (cancelled : isCancelled entry = true) :
    Leaves after q := by
  obtain ⟨m, first, second⟩ := Program.follows_append follows
  obtain ⟨st, told⟩ := told_any (s := s) before .clear
  have between : Prompt s m st := Program.Meets.follows prompt first told
  cases second with
  | @cons call next r _ _ rest =>
      by_cases close : call = .sessionClose
      · subst close
        obtain rfl : r = .cancelled := by
          cases r with
          | returned => cases cancelled
          | cancelled => rfl
        have later : Prompt s (next .cancelled) .closed := between.told .cancelled
        obtain ⟨rfl, rfl⟩ := later.closed rest
        exact .raised
      · have later := between.told r
        rw [after_delivered close cancelled] at later
        exact later.delivered rest

end

end OopsysAgent
