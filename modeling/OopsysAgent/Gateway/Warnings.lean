import OopsysAgent.Gateway.Invariant

/-!
# What the connection logs

`_connect_failed_logged` keeps the retry task quiet: however many attempts fail, the failure is
logged once, by `start`. The first connect is logged once, and nothing after it.
-/

namespace OopsysAgent.Gateway
open Concurrency

inductive ConnectionLine
  -- `nats connect failed`
  | connectFailed
  -- `nats queue ready`
  | queueReady
  deriving DecidableEq

/-- The log call in which `_connect_once` is suspended. -/
def ConnectPc.logs : ConnectPc → Option ConnectionLine
  | .logFailed => some .connectFailed
  | .logReady => some .queueReady
  | _ => none

def Progress.logs : Progress → Option ConnectionLine
  | .suspended pc => pc.logs
  | .returned _ => none

def logged {ι : Type} (label : Label ι) (g : NatsGateway ι) : Option ConnectionLine :=
  match label with
  | .startStep outcome =>
      match g.start with
      | .connecting pc => (connectStep outcome pc g.toConnection).bind fun next => next.1.logs
      | _ => none
  | .retryStep outcome =>
      match g.retry with
      | .connecting pc => (connectStep outcome pc g.toConnection).bind fun next => next.1.logs
      | _ => none
  | _ => none

section

variable {c c' : Connection} {pc : ConnectPc} {outcome : Outcome} {p : Progress}

theorem connectOnce_logs (c : Connection) :
    ∃ pc, (connectOnce c).1 = .suspended pc ∧ pc.logs = none ∧
      (connectOnce c).2.connectFailedLogged = c.connectFailedLogged ∧
      (c.broker = none → (connectOnce c).2.broker = none) := by
  unfold connectOnce
  cases held : c.broker with
  | none => exact ⟨.connecting c.built, rfl, rfl, rfl, fun _ => rfl⟩
  | some old => exact ⟨.closing old, rfl, rfl, rfl, nofun⟩

theorem ne_of_logs (l : ConnectPc) (quiet : pc.logs = none) (logs : l.logs.isSome = true) :
    pc ≠ l := by
  rintro rfl
  rw [quiet] at logs
  cases logs

/-- The attempt of `start`: what it has logged, and what it leaves of the flag. -/
def Progress.first : Progress → List ConnectionLine
  | .suspended pc => pc.logs.toList
  | .returned true => [.queueReady]
  | .returned false => [.connectFailed]

def Progress.firstFlag (p : Progress) : Bool := p = .returned false

/-- What is logged by and by once the attempt of `start` has failed, by the flag. -/
def afterFailure (connectFailedLogged : Bool) : List ConnectionLine :=
  if connectFailedLogged then [.connectFailed] else [.connectFailed, .queueReady]

def Progress.againFlag (p : Progress) : Bool := p ≠ .suspended .logReady && p ≠ .returned true

theorem connectStep_first (fresh : c.connectFailedLogged = Progress.firstFlag (.suspended pc))
    (moved : connectStep outcome pc c = some (p, c')) :
    c'.connectFailedLogged = p.firstFlag ∧
      p.first = Progress.first (.suspended pc) ++ p.logs.toList := by
  have fresh : c.connectFailedLogged = false := fresh
  cases pc with
  | stopping b =>
      simp only [connectStep, fresh] at moved
      cases moved
      exact ⟨fresh, rfl⟩
  | starting b =>
      cases outcome with
      | ok => cases moved; exact ⟨rfl, rfl⟩
      | raised => cases moved; exact ⟨fresh, rfl⟩
  | logFailed =>
      cases outcome <;> cases moved
      exact ⟨rfl, rfl⟩
  | _ => cases outcome <;> cases moved <;> exact ⟨fresh, rfl⟩

theorem connectStep_again (quiet : pc ≠ .logFailed)
    (warned : c.connectFailedLogged = Progress.againFlag (.suspended pc))
    (moved : connectStep outcome pc c = some (p, c')) :
    p ≠ .suspended .logFailed ∧ c'.connectFailedLogged = p.againFlag ∧
      afterFailure c'.connectFailedLogged =
        afterFailure c.connectFailedLogged ++ p.logs.toList := by
  cases pc with
  | stopping b =>
      have warned : c.connectFailedLogged = true := warned
      simp only [connectStep, warned] at moved
      cases moved
      exact ⟨by simp, warned, by simp [Connection.endStop, Connection.modify, Progress.logs]⟩
  | starting b =>
      have warned : c.connectFailedLogged = true := warned
      cases outcome with
      | ok =>
          cases moved
          exact ⟨by simp, rfl, by rw [warned]; rfl⟩
      | raised =>
          cases moved
          exact ⟨by simp, warned, (List.append_nil _).symm⟩
  | logFailed => exact absurd rfl quiet
  | closing old =>
      cases moved
      exact ⟨by simp, warned, (List.append_nil _).symm⟩
  | connecting b =>
      cases outcome <;> cases moved <;> exact ⟨by simp, warned, (List.append_nil _).symm⟩
  | logReady =>
      cases outcome <;> cases moved
      exact ⟨by simp, warned, (List.append_nil _).symm⟩

theorem connectStep_closed (fits : pc.Fits c)
    (closed : c.connectFailedLogged = true → c.broker = none)
    (moved : connectStep outcome pc c = some (p, c')) :
    c'.connectFailedLogged = true → c'.broker = none := by
  cases pc with
  | closing old => cases fits
  | starting b =>
      cases outcome with
      | ok => cases moved; nofun
      | raised => cases moved; exact closed
  | logFailed =>
      cases outcome <;> cases moved
      exact fun _ => fits
  | _ => cases outcome <;> cases moved <;> exact closed

end

/-! ## The gateway -/

namespace NatsGateway

variable {ι : Type}

/-- The log calls made so far. -/
def written (g : NatsGateway ι) : List ConnectionLine :=
  match g.start with
  | .notCalled => []
  | .connecting pc => Progress.first (.suspended pc)
  | .returned true => Progress.first (.returned true)
  | .returned false => afterFailure g.connectFailedLogged

structure Reported (g : NatsGateway ι) : Prop where
  fresh : (∀ connected, g.start ≠ .returned connected) → g.connectFailedLogged = false
  inside : ∀ pc, g.retry = .connecting pc →
    pc ≠ .logFailed ∧ g.connectFailedLogged = Progress.againFlag (.suspended pc)
  idle : g.retry = .created ∨ g.retry = .sleeping → g.connectFailedLogged = true
  closed : g.connectFailedLogged = true → g.broker = none

theorem reported_init : Reported (init : NatsGateway ι) where
  fresh _ := rfl
  inside _ inside := nomatch inside
  idle idle := by rcases idle with idle | idle <;> cases idle
  closed _ := rfl

section

variable {g g' : NatsGateway ι} {next : Progress × Connection}

theorem Reported.startAt (inv : g.Inv) (running : ∀ connected, g.start ≠ .returned connected)
    (flag : next.2.connectFailedLogged = next.1.firstFlag)
    (closed : next.2.connectFailedLogged = true → next.2.broker = none) :
    (g.startAt next).Reported ∧ (g.startAt next).written = next.1.first := by
  have absent := inv.retried.mpr (running false)
  obtain ⟨⟨pc⟩ | ⟨⟨⟩ | ⟨⟩⟩, c⟩ := next
  · refine ⟨⟨fun _ => flag, ?_, ?_, closed⟩, rfl⟩ <;> simp [NatsGateway.startAt, absent]
  · refine ⟨⟨?_, ?_, fun _ => flag, closed⟩, ?_⟩
    · simp [NatsGateway.startAt]
    · simp [NatsGateway.startAt]
    · have flag : c.connectFailedLogged = true := flag
      simp [NatsGateway.startAt, written, afterFailure, flag, Progress.first]
  · refine ⟨⟨?_, ?_, ?_, closed⟩, rfl⟩ <;> simp [NatsGateway.startAt, absent]

theorem Reported.retryAt (started : g.start = .returned false)
    (quiet : next.1 ≠ .suspended .logFailed)
    (flag : next.2.connectFailedLogged = next.1.againFlag)
    (closed : next.2.connectFailedLogged = true → next.2.broker = none) :
    (g.retryAt next).Reported ∧
      (g.retryAt next).written = afterFailure next.2.connectFailedLogged := by
  have written : (g.retryAt next).written = afterFailure next.2.connectFailedLogged := by
    rw [NatsGateway.written, retryAt_start, started, retryAt_toConnection]
  refine ⟨?_, written⟩
  have ended (running : ∀ connected, (g.retryAt next).start ≠ .returned connected) : False := by
    rw [retryAt_start] at running
    exact running false started
  obtain ⟨⟨pc⟩ | ⟨⟨⟩ | ⟨⟩⟩, c⟩ := next
  · refine ⟨fun running => (ended running).elim, ?_, by simp [NatsGateway.retryAt], closed⟩
    rintro _ ⟨⟩
    exact ⟨fun same => quiet (congrArg _ same), flag⟩
  · exact ⟨fun running => (ended running).elim, by simp [NatsGateway.retryAt], fun _ => flag,
      closed⟩
  · refine ⟨fun running => (ended running).elim, ?_, ?_, closed⟩ <;> simp [NatsGateway.retryAt]

theorem Reported.frame (reported : g.Reported) (start : g'.start = g.start)
    (retry : g'.retry = g.retry ∨ g'.retry = .finished)
    (flag : g'.connectFailedLogged = g.connectFailedLogged)
    (closed : g'.broker = g.broker ∨ g'.broker = none) :
    g'.Reported ∧ g'.written = g.written := by
  refine ⟨⟨?_, ?_, ?_, ?_⟩, by rw [written, written, start, flag]⟩
  · rw [start, flag]
    exact reported.fresh
  · rcases retry with same | finished
    · rw [same, flag]
      exact reported.inside
    · simp [finished]
  · rcases retry with same | finished
    · rw [same, flag]
      exact reported.idle
    · simp [finished]
  · intro warned
    rcases closed with same | closed
    · rw [same]
      exact reported.closed (flag ▸ warned)
    · exact closed

theorem safeClose_reported (reported : g.Reported) :
    g.safeClose.Reported ∧ g.safeClose.written = g.written := by
  unfold NatsGateway.safeClose
  split
  · exact reported.frame rfl (.inl rfl) rfl (.inl rfl)
  · exact reported.frame rfl (.inl rfl) rfl (.inl rfl)

theorem Reported.reconnect (reported : g.Reported) (started : g.start = .returned false)
    (warned : g.connectFailedLogged = true) :
    (g.retryAt (connectOnce g.toConnection)).Reported ∧
      (g.retryAt (connectOnce g.toConnection)).written = g.written := by
  obtain ⟨pc, at_pc, quiet, flag, closed⟩ := connectOnce_logs g.toConnection
  have flagged := flag.trans warned
  have again : (connectOnce g.toConnection).1.againFlag = true := by
    rw [at_pc]
    simp [Progress.againFlag, ne_of_logs .logReady quiet rfl]
  obtain ⟨reported, written⟩ := Reported.retryAt started
    (fun same => ne_of_logs .logFailed quiet rfl
      (Progress.suspended.inj (at_pc.symm.trans same))) (flagged.trans again.symm)
    fun _ => closed (reported.closed warned)
  refine ⟨reported, ?_⟩
  rw [written, flag, NatsGateway.written, started]

theorem silent {label : Label ι} (quiet : logged label g = none)
    (kept : g'.Reported ∧ g'.written = g.written) :
    g'.Reported ∧ g'.written = g.written ++ (logged label g).toList := by
  rw [quiet, Option.toList_none, List.append_nil]
  exact kept

variable [DecidableEq ι]

theorem step_reported {label : Label ι} (inv : g.Inv) (reported : g.Reported)
    (moved : Step label g g') :
    g'.Reported ∧ g'.written = g.written ++ (logged label g).toList := by
  cases moved with
  | startCall idle =>
      have running (connected : Bool) : g.start ≠ .returned connected := by simp [idle]
      obtain ⟨pc, at_pc, quiet, flag, closed⟩ := connectOnce_logs g.toConnection
      have fresh := flag.trans (reported.fresh running)
      obtain ⟨reported, written⟩ := Reported.startAt inv running (by rw [fresh, at_pc]; rfl)
        fun _ => closed (inv.idle (.inl idle))
      refine ⟨reported, ?_⟩
      rw [written, at_pc, Progress.first, quiet, NatsGateway.written, idle]
      rfl
  | @startStep _ outcome pc next inside moved =>
      have line : logged (.startStep outcome) g = next.1.logs := by simp [logged, inside, moved]
      have running (connected : Bool) : g.start ≠ .returned connected := by simp [inside]
      obtain ⟨flag, lines⟩ := connectStep_first (reported.fresh running) moved
      have closed := connectStep_closed (inv.inside _ (.inl inside)) reported.closed moved
      obtain ⟨reported, written⟩ := Reported.startAt inv running flag closed
      refine ⟨reported, ?_⟩
      rw [written, lines, NatsGateway.written, line, inside]
  | retryBegin created live =>
      have started := inv.started_of_retry (by simp [created])
      exact silent rfl (reported.reconnect started (reported.idle (.inl created)))
  | slept sleeping live =>
      have started := inv.started_of_retry (by simp [sleeping])
      exact silent rfl (reported.reconnect started (reported.idle (.inr sleeping)))
  | @retryStep _ outcome pc next inside live moved =>
      have line : logged (.retryStep outcome) g = next.1.logs := by simp [logged, inside, moved]
      have started := inv.started_of_retry (by simp [inside])
      obtain ⟨quiet, warned⟩ := reported.inside _ inside
      obtain ⟨later, flag, lines⟩ := connectStep_again quiet warned moved
      have closed := connectStep_closed (inv.inside _ (.inr inside)) reported.closed moved
      obtain ⟨reported, written⟩ := Reported.retryAt started later flag closed
      refine ⟨reported, ?_⟩
      rw [written, lines, NatsGateway.written, started, line]
  | cancelDelivered cancelled alive =>
      exact silent rfl (reported.frame rfl (.inr rfl) rfl (.inl rfl))
  | closeCalled started uncalled dead | closeResumed waiting finished =>
      exact silent rfl (safeClose_reported reported)
  | closeStopped inside => exact silent rfl (reported.frame rfl (.inl rfl) rfl (.inr rfl))
  | _ => exact silent rfl (reported.frame rfl (.inl rfl) rfl (.inl rfl))

theorem run_reported {labels : List (Label ι)} (ran : (machine ι).run labels init = some g) :
    g.Inv ∧ g.Reported ∧ (machine ι).observe logged labels init = g.written := by
  have all : (machine ι).run labels init = some g ∧ g.Inv ∧ g.Reported ∧
      (machine ι).observe logged labels init = g.written := by
    refine Machine.history_invariant
      (I := fun past m => (machine ι).run past init = some m ∧ m.Inv ∧ m.Reported ∧
        (machine ι).observe logged past init = m.written)
      ?_ ran ⟨rfl, inv_init, reported_init, rfl⟩
    rintro past label m m' ⟨reached, inv, reported, lines⟩ stepped
    obtain ⟨later, written⟩ := step_reported inv reported (step_sound stepped)
    refine ⟨Machine.run_snoc reached stepped, step_inv inv (step_sound stepped), later, ?_⟩
    rw [Machine.observe_snoc reached stepped, lines, written]
  exact all.2

end

end NatsGateway

open NatsGateway

/-- Over the life of an agent, with any number of failed attempts, the connection is logged at most
once as failed and then at most once as ready. The first is there just when the attempt of `start`
failed, and the second when a broker is held. -/
theorem connection_logged_once {ι : Type} [DecidableEq ι] (labels : List (Label ι))
    (g : NatsGateway ι) (ran : (machine ι).run labels init = some g) :
    let lines := (machine ι).observe logged labels init
    (lines <+: [.connectFailed, .queueReady] ∨ lines = [.queueReady]) ∧
    (.connectFailed ∈ lines ↔ g.start = .connecting .logFailed ∨ g.start = .returned false) ∧
    (g.broker.isSome = true → .queueReady ∈ lines) := by
  obtain ⟨inv, reported, same⟩ := run_reported ran
  intro lines
  have same : lines = g.written := same
  rw [same]
  cases started : g.start with
  | notCalled =>
      have closed := inv.idle (.inl started)
      simp [written, started, closed]
  | connecting pc =>
      have fits := inv.inside pc (.inl started)
      cases pc with
      | closing old => cases fits
      | logFailed =>
          have closed : g.broker = none := fits
          simp [written, started, closed, Progress.first, ConnectPc.logs]
      | logReady => simp [written, started, Progress.first, ConnectPc.logs]
      | _ => simp [written, started, Progress.first, ConnectPc.logs, fits.1]
  | returned connected =>
      cases connected with
      | true => simp [written, started, Progress.first]
      | false =>
          cases warned : g.connectFailedLogged with
          | true => simp [written, started, afterFailure, warned, reported.closed warned]
          | false => simp [written, started, afterFailure, warned]

/-- `start` and two attempts of the retry task fail, and the next one connects. -/
def thirdRetry : List (Label Nat) :=
  [.startCall, .startStep .raised, .startStep .ok, .startStep .ok, .retryBegin,
    .retryStep .raised, .retryStep .ok, .slept, .retryStep .raised, .retryStep .raised, .slept,
    .retryStep .ok, .retryStep .ok]

theorem connection_logged_once_thirdRetry : ∃ g, (machine Nat).run thirdRetry init = some g ∧
    .queueReady ∈ (machine Nat).observe logged thirdRetry init :=
  ⟨_, rfl, (connection_logged_once thirdRetry _ rfl).2.2 rfl⟩

end OopsysAgent.Gateway
