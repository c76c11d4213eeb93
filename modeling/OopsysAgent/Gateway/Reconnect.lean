import OopsysAgent.Gateway.Invariant

/-!
# Reconnecting

The retry task exists from a failed `start` until the first connect. As long as no publish raises, a
gateway that is down has a live one. After a publish has raised nothing ever connects again.
-/

namespace OopsysAgent.Gateway
open Concurrency NatsGateway

section

variable {c c' : Connection} {pc : ConnectPc} {outcome : Outcome} {p : Progress}

theorem connectStep_held (fits : pc.Fits c) (moved : connectStep outcome pc c = some (p, c')) :
    (c.broker.isSome = true → c'.broker.isSome = true) ∧
    ((c.broker.isSome = true → c.queueConnected = true) →
      c'.broker.isSome = true → c'.queueConnected = true) := by
  cases pc with
  | closing old => cases fits
  | connecting b =>
      cases outcome <;> cases moved <;> simp [Connection.callStop, Connection.modify, fits.1]
  | starting b =>
      cases outcome <;> cases moved <;> simp [Connection.callStop, Connection.modify, fits.1]
  | stopping b => cases moved; simp [Connection.endStop, Connection.modify, fits.1]
  | logFailed => cases outcome <;> cases moved; exact ⟨id, id⟩
  | logReady => cases outcome <;> cases moved; exact ⟨id, id⟩

end

namespace NatsGateway

variable {ι : Type}

def PublishFails (label : Label ι) : Prop := ∃ c, label = .published c .raised

structure Open (g : NatsGateway ι) : Prop where
  inv : g.Inv
  uncalled : g.close = .notCalled
  publishing : ∀ c b, g.publishes c = .publishing b → g.broker.isSome = true

theorem open_init : Open (init : NatsGateway ι) where
  inv := inv_init
  uncalled := rfl
  publishing c b inside := by cases inside

section

variable {g g' : NatsGateway ι} {next : Progress × Connection}

variable [DecidableEq ι]

private theorem publishing_publishAt {c d : ι} {pc : PublishPc} {b : Nat}
    (inside : (g.publishAt c pc).publishes d = .publishing b) :
    pc = .publishing b ∨ g.publishes d = .publishing b := by
  by_cases same : d = c
  · subst same
    simp only [publishAt, Function.update_self] at inside
    exact .inl inside
  · simp only [publishAt, Function.update_of_ne same] at inside
    exact .inr inside

theorem step_open {label : Label ι} (opened : Open g) (other : label ≠ .closeCall)
    (stepped : Step label g g') : Open g' := by
  have inv := step_inv opened.inv stepped
  obtain ⟨before, uncalled, publishing⟩ := opened
  have nobody (closed : g.broker = none) (c : ι) (b : Nat) : g.publishes c ≠ .publishing b := by
    intro inside
    have held := publishing c b inside
    rw [closed] at held
    cases held
  have elsewhere {d : ι} {pc : PublishPc} (quiet : ∀ b, pc ≠ .publishing b) (c : ι) (b : Nat)
      (inside : (g.publishAt d pc).publishes c = .publishing b) : g.broker.isSome = true :=
    publishing c b ((publishing_publishAt inside).resolve_left (quiet b))
  cases stepped with
  | startCall idle =>
      refine ⟨inv, by simpa using uncalled, ?_⟩
      intro c b inside
      exact absurd (by simpa using inside) (nobody (before.idle (.inl idle)) c b)
  | startStep inside moved =>
      refine ⟨inv, by simpa using uncalled, ?_⟩
      intro c b begun
      rw [startAt_publishes] at begun
      rw [startAt_toConnection]
      exact (connectStep_held (before.inside _ (.inl inside)) moved).1 (publishing c b begun)
  | retryBegin created live =>
      refine ⟨inv, by simpa using uncalled, ?_⟩
      intro c b inside
      exact absurd (by simpa using inside) (nobody (before.idle (.inr (.inl created))) c b)
  | retryStep inside live moved =>
      refine ⟨inv, by simpa using uncalled, ?_⟩
      intro c b begun
      rw [retryAt_publishes] at begun
      rw [retryAt_toConnection]
      exact (connectStep_held (before.inside _ (.inr inside)) moved).1 (publishing c b begun)
  | slept sleeping live =>
      refine ⟨inv, by simpa using uncalled, ?_⟩
      intro c b inside
      exact absurd (by simpa using inside) (nobody (before.idle (.inr (.inr sleeping))) c b)
  | cancelDelivered cancelled alive => exact ⟨inv, uncalled, publishing⟩
  | publishBegun idle held =>
      refine ⟨inv, uncalled, fun c b inside => ?_⟩
      exact Option.isSome_iff_exists.mpr ⟨_, held⟩
  | publishRefused idle closed => exact ⟨inv, uncalled, elsewhere (by simp)⟩
  | publishedOk begun => exact ⟨inv, uncalled, elsewhere (by simp)⟩
  | publishedRaised begun => exact ⟨inv, uncalled, elsewhere (by simp)⟩
  | publishLogged begun => exact ⟨inv, uncalled, elsewhere (by simp)⟩
  | publishCancelled begun => exact ⟨inv, uncalled, elsewhere (by simp)⟩
  | closeWaits started uncalled alive => exact absurd rfl other
  | closeCalled started uncalled dead => exact absurd rfl other
  | closeResumed waiting finished => simp [uncalled] at waiting
  | closeStopped inside => simp [uncalled] at inside

theorem step_up {label : Label ι} (opened : Open g) (other : label ≠ .closeCall)
    (good : ¬PublishFails label) (up : g.broker.isSome = true → g.queueConnected = true)
    (stepped : Step label g g') : g'.broker.isSome = true → g'.queueConnected = true := by
  have opens (closed : g.broker = none) :
      (connectOnce g.toConnection).2.broker.isSome = true →
        (connectOnce g.toConnection).2.queueConnected = true := by
    intro held
    rw [connectOnce, closed] at held
    cases held
  cases stepped with
  | startCall idle => simpa using opens (opened.inv.idle (.inl idle))
  | startStep inside moved =>
      rw [startAt_toConnection]
      exact (connectStep_held (opened.inv.inside _ (.inl inside)) moved).2 up
  | retryBegin created live => simpa using opens (opened.inv.idle (.inr (.inl created)))
  | retryStep inside live moved =>
      rw [retryAt_toConnection]
      exact (connectStep_held (opened.inv.inside _ (.inr inside)) moved).2 up
  | slept sleeping live => simpa using opens (opened.inv.idle (.inr (.inr sleeping)))
  | publishedRaised inside => exact absurd ⟨_, rfl⟩ good
  | closeWaits started uncalled alive => exact absurd rfl other
  | closeCalled started uncalled dead => exact absurd rfl other
  | closeResumed waiting finished => simp [opened.uncalled] at waiting
  | closeStopped inside => simp [opened.uncalled] at inside
  | _ => exact up

def Down (g : NatsGateway ι) : Prop := g.broker.isSome = true ∧ g.queueConnected = false

theorem step_down {label : Label ι} (opened : Open g) (other : label ≠ .closeCall)
    (down : Down g) (stepped : Step label g g') : Down g' := by
  obtain ⟨held, disconnected⟩ := down
  -- a held broker leaves `_connect_once` only its last log call
  have idle (closed : g.broker = none) : False := by
    rw [closed] at held
    cases held
  have last {pc : ConnectPc} {outcome : Outcome} {next : Progress × Connection}
      (fits : pc.Fits g.toConnection) (moved : connectStep outcome pc g.toConnection = some next) :
      next.2 = g.toConnection := by
    cases pc with
    | closing old => cases fits
    | connecting b => exact absurd fits.1 idle
    | starting b => exact absurd fits.1 idle
    | stopping b => exact absurd fits.1 idle
    | logFailed => exact absurd fits idle
    | logReady => cases outcome <;> cases moved; rfl
  cases stepped with
  | startCall begun => exact absurd (opened.inv.idle (.inl begun)) idle
  | startStep inside moved =>
      rw [Down, startAt_toConnection, last (opened.inv.inside _ (.inl inside)) moved]
      exact ⟨held, disconnected⟩
  | retryBegin created live => exact absurd (opened.inv.idle (.inr (.inl created))) idle
  | retryStep inside live moved =>
      rw [Down, retryAt_toConnection, last (opened.inv.inside _ (.inr inside)) moved]
      exact ⟨held, disconnected⟩
  | slept sleeping live => exact absurd (opened.inv.idle (.inr (.inr sleeping))) idle
  | publishedRaised inside => exact ⟨held, rfl⟩
  | closeWaits started uncalled alive => exact absurd rfl other
  | closeCalled started uncalled dead => exact absurd rfl other
  | closeResumed waiting finished => simp [opened.uncalled] at waiting
  | closeStopped inside => simp [opened.uncalled] at inside
  | _ => exact ⟨held, disconnected⟩

end

/-! ## Getting up again -/

section

variable [DecidableEq ι] {g : NatsGateway ι}

def CanConnect (g : NatsGateway ι) : Prop :=
  ∃ labels g', (machine ι).run labels g = some g' ∧ g'.queueConnected = true

/-- The steps of `start` and of the retry task. -/
def connects {ι : Type} : Label ι → Bool
  | .startCall | .startStep _ | .retryBegin | .retryStep _ | .slept => true
  | _ => false

/-- `start` or the retry task can come to hold a broker. -/
def CanHold (g : NatsGateway ι) : Prop :=
  ∃ labels g', (machine ι).run labels g = some g' ∧ (∀ label ∈ labels, connects label = true) ∧
    g'.broker.isSome = true ∧ g'.queueConnected = true

theorem CanHold.canConnect (holds : CanHold g) : CanConnect g := by
  obtain ⟨labels, g', ran, -, -, up⟩ := holds
  exact ⟨labels, g', ran, up⟩

theorem CanHold.of_step {label : Label ι} {g' : NatsGateway ι}
    (stepped : (machine ι).step label g = some g') (own : connects label = true)
    (later : CanHold g') : CanHold g := by
  obtain ⟨labels, g'', ran, owns, held⟩ := later
  refine ⟨label :: labels, g'', ?_, List.forall_mem_cons.mpr ⟨own, owns⟩, held⟩
  exact (Machine.run_cons_eq_some _).mpr ⟨g', stepped, ran⟩

theorem CanHold.of_held (held : g.broker.isSome = true) (up : g.queueConnected = true) :
    CanHold g :=
  ⟨[], g, rfl, nofun, held, up⟩

theorem CanHold.of_retryStep {pc : ConnectPc} {next : Progress × Connection}
    (live : g.cancelled = false) (inside : g.retry = .connecting pc)
    (moved : connectStep .ok pc g.toConnection = some next) (later : CanHold (g.retryAt next)) :
    CanHold g := by
  have stepped : (machine ι).step (.retryStep .ok) g = some (g.retryAt next) := by
    simp [machine, step, inside, live, moved]
  exact .of_step stepped rfl later

theorem canHold_starting {b : Nat} (live : g.cancelled = false)
    (inside : g.retry = .connecting (.starting b)) : CanHold g :=
  .of_retryStep live inside rfl (.of_held rfl rfl)

theorem canHold_connecting {b : Nat} (live : g.cancelled = false)
    (inside : g.retry = .connecting (.connecting b)) : CanHold g :=
  .of_retryStep live inside rfl (canHold_starting live rfl)

theorem canHold_retryAt (live : g.cancelled = false) (closed : g.broker = none) :
    CanHold (g.retryAt (connectOnce g.toConnection)) := by
  rw [connectOnce, closed]
  exact canHold_connecting live rfl

theorem canHold_created (live : g.cancelled = false) (created : g.retry = .created)
    (closed : g.broker = none) : CanHold g := by
  have stepped : (machine ι).step .retryBegin g =
      some (g.retryAt (connectOnce g.toConnection)) := by
    simp [machine, step, created, live]
  exact .of_step stepped rfl (canHold_retryAt live closed)

theorem canHold_sleeping (live : g.cancelled = false) (sleeping : g.retry = .sleeping)
    (closed : g.broker = none) : CanHold g := by
  have stepped : (machine ι).step .slept g =
      some (g.retryAt (connectOnce g.toConnection)) := by
    simp [machine, step, sleeping, live]
  exact .of_step stepped rfl (canHold_retryAt live closed)

theorem canHold_logFailed (live : g.cancelled = false)
    (inside : g.retry = .connecting .logFailed) (closed : g.broker = none) : CanHold g :=
  .of_retryStep live inside rfl (canHold_sleeping live rfl closed)

theorem canHold_stopping {b : Nat} (live : g.cancelled = false)
    (inside : g.retry = .connecting (.stopping b)) (closed : g.broker = none) : CanHold g := by
  refine .of_retryStep live inside rfl ?_
  cases logged : g.connectFailedLogged with
  | true => exact canHold_sleeping live rfl closed
  | false => exact canHold_logFailed live rfl closed

theorem Inv.canHold_retry (inv : g.Inv) (uncalled : g.close = .notCalled)
    (closed : g.broker = none) (alive : g.retry.alive = true) : CanHold g := by
  have fits := inv.close
  rw [uncalled] at fits
  have live := fits.1
  cases retry : g.retry with
  | absent => simp [retry, RetryPc.alive] at alive
  | finished => simp [retry, RetryPc.alive] at alive
  | created => exact canHold_created live retry closed
  | sleeping => exact canHold_sleeping live retry closed
  | connecting pc =>
      have suspended := inv.inside pc (.inr retry)
      cases pc with
      | closing old => cases suspended
      | connecting b => exact canHold_connecting live retry
      | starting b => exact canHold_starting live retry
      | stopping b => exact canHold_stopping live retry closed
      | logFailed => exact canHold_logFailed live retry closed
      | logReady =>
          rw [ConnectPc.Fits, closed] at suspended
          cases suspended

omit [DecidableEq ι] in
theorem Inv.retrying (inv : g.Inv) (uncalled : g.close = .notCalled) (closed : g.broker = none)
    {connected : Bool} (started : g.start = .returned connected) : g.retry.alive = true := by
  have fits := inv.close
  rw [uncalled] at fits
  have settled : ¬(g.start = .returned true ∨ g.retry = .finished) := by
    intro settled
    have held := fits.2 settled
    rw [closed] at held
    cases held
  have failed : g.start = .returned false := by
    cases connected with
    | true => exact absurd (.inl started) settled
    | false => exact started
  cases retry : g.retry with
  | absent => exact absurd failed (inv.retried.mp retry)
  | finished => exact absurd (.inr retry) settled
  | _ => rfl

end

/-- A gateway that is down has a retry task, which may still bring it up. -/
def Reconnecting {ι : Type} [DecidableEq ι] (g : NatsGateway ι) : Prop :=
  g.queueConnected = false → g.retry.alive = true ∧ CanConnect g

section

variable {ι : Type} [DecidableEq ι] {g g' : NatsGateway ι} {labels : List (Label ι)}

theorem run_open (ran : (machine ι).run labels g = some g') (uncalled : .closeCall ∉ labels)
    (opened : Open g) : Open g' :=
  Machine.invariant_of_labels (I := Open) (P := (· ≠ .closeCall))
    (fun _ _ _ other before stepped => step_open before other (step_sound stepped))
    ran (fun _ member => ne_of_mem_of_not_mem member uncalled) opened

theorem run_down (ran : (machine ι).run labels g = some g') (uncalled : .closeCall ∉ labels)
    (opened : Open g) (down : Down g) : Down g' := by
  have general : Open g' ∧ Down g' :=
    Machine.invariant_of_labels (I := fun m => Open m ∧ Down m) (P := (· ≠ .closeCall))
      (fun _ _ _ other before stepped =>
        ⟨step_open before.1 other (step_sound stepped),
          step_down before.1 other before.2 (step_sound stepped)⟩)
      ran (fun _ member => ne_of_mem_of_not_mem member uncalled) ⟨opened, down⟩
  exact general.2

theorem run_up (ran : (machine ι).run labels g = some g') (uncalled : .closeCall ∉ labels)
    (good : ∀ label ∈ labels, ¬PublishFails label) (opened : Open g)
    (up : g.broker.isSome = true → g.queueConnected = true) :
    g'.broker.isSome = true → g'.queueConnected = true := by
  have general : Open g' ∧ (g'.broker.isSome = true → g'.queueConnected = true) :=
    Machine.invariant_of_labels
      (I := fun m => Open m ∧ (m.broker.isSome = true → m.queueConnected = true))
      (P := fun label => label ≠ .closeCall ∧ ¬PublishFails label)
      (fun _ _ _ calm before stepped =>
        ⟨step_open before.1 calm.1 (step_sound stepped),
          step_up before.1 calm.1 calm.2 before.2 (step_sound stepped)⟩)
      ran (fun label member => ⟨ne_of_mem_of_not_mem member uncalled, good label member⟩)
      ⟨opened, up⟩
  exact general.2

theorem step_started {label : Label ι} (opened : Open g) (other : label ≠ .closeCall)
    (started : ∃ connected, g.start = .returned connected) (stepped : Step label g g') :
    ∃ connected, g'.start = .returned connected := by
  obtain ⟨connected, returned⟩ := started
  cases stepped with
  | startCall idle => simp [returned] at idle
  | startStep inside moved => simp [returned] at inside
  | retryBegin created live => exact ⟨connected, by rwa [retryAt_start]⟩
  | retryStep inside live moved => exact ⟨connected, by rwa [retryAt_start]⟩
  | slept sleeping live => exact ⟨connected, by rwa [retryAt_start]⟩
  | closeWaits started uncalled alive => exact absurd rfl other
  | closeCalled started uncalled dead => exact absurd rfl other
  | closeResumed waiting finished => simp [opened.uncalled] at waiting
  | closeStopped inside => simp [opened.uncalled] at inside
  | _ => exact ⟨connected, returned⟩

theorem run_started (ran : (machine ι).run labels g = some g') (uncalled : .closeCall ∉ labels)
    (opened : Open g) (started : ∃ connected, g.start = .returned connected) :
    ∃ connected, g'.start = .returned connected := by
  have general : Open g' ∧ ∃ connected, g'.start = .returned connected :=
    Machine.invariant_of_labels (I := fun m => Open m ∧ ∃ connected, m.start = .returned connected)
      (P := (· ≠ .closeCall))
      (fun _ _ _ other before stepped =>
        ⟨step_open before.1 other (step_sound stepped),
          step_started before.1 other before.2 (step_sound stepped)⟩)
      ran (fun _ member => ne_of_mem_of_not_mem member uncalled) ⟨opened, started⟩
  exact general.2

theorem Open.reconnecting (opened : Open g) (started : ∃ connected, g.start = .returned connected)
    (up : g.broker.isSome = true → g.queueConnected = true) : Reconnecting g := by
  intro disconnected
  have closed : g.broker = none := by
    cases held : g.broker with
    | none => rfl
    | some b =>
        have connected := up (by rw [held]; rfl)
        rw [disconnected] at connected
        cases connected
  obtain ⟨connected, returned⟩ := started
  have alive := opened.inv.retrying opened.uncalled closed returned
  exact ⟨alive, (opened.inv.canHold_retry opened.uncalled closed alive).canConnect⟩

/-- A gateway that is down with a broker in hand is, at the latest after one more step, without a
retry task. -/
theorem Open.stranded (opened : Open g) (down : Down g) :
    ∃ more g', (machine ι).run more g = some g' ∧ .closeCall ∉ more ∧
      (∀ label ∈ more, ¬PublishFails label) ∧ ¬Reconnecting g' := by
  obtain ⟨held, disconnected⟩ := down
  have idle (closed : g.broker = none) : False := by
    rw [closed] at held
    cases held
  have here (dead : g.retry.alive = false) : ∃ more g', (machine ι).run more g = some g' ∧
      .closeCall ∉ more ∧ (∀ label ∈ more, ¬PublishFails label) ∧ ¬Reconnecting g' := by
    refine ⟨[], g, rfl, List.not_mem_nil, by simp, ?_⟩
    intro reconnecting
    have alive := (reconnecting disconnected).1
    rw [dead] at alive
    cases alive
  have fits := opened.inv.close
  rw [opened.uncalled] at fits
  cases retry : g.retry with
  | absent => exact here (by rw [retry]; rfl)
  | finished => exact here (by rw [retry]; rfl)
  | created => exact absurd (opened.inv.idle (.inr (.inl retry))) idle
  | sleeping => exact absurd (opened.inv.idle (.inr (.inr retry))) idle
  | connecting pc =>
      have suspended := opened.inv.inside pc (.inr retry)
      cases pc with
      | closing old => cases suspended
      | connecting b => exact absurd suspended.1 idle
      | starting b => exact absurd suspended.1 idle
      | stopping b => exact absurd suspended.1 idle
      | logFailed => exact absurd suspended idle
      | logReady =>
          have stepped : (machine ι).step (.retryStep .ok) g =
              some (g.retryAt (.returned true, g.toConnection)) := by
            simp [machine, step, retry, fits.1, connectStep]
          refine ⟨[.retryStep .ok], _, Machine.run_singleton stepped, by simp, ?_, ?_⟩
          · simp [PublishFails]
          · intro reconnecting
            cases (reconnecting disconnected).1

end

end NatsGateway

/-- A gateway whose `start` has returned keeps reconnecting while it is down, exactly if no publish
has raised. -/
theorem disconnected_reconnects {ι : Type} [DecidableEq ι] (labels : List (Label ι))
    (g : NatsGateway ι) (ran : (machine ι).run labels init = some g)
    (started : ∃ connected, g.start = .returned connected) (uncalled : .closeCall ∉ labels) :
    (∀ more g', (machine ι).run more g = some g' → .closeCall ∉ more →
      (∀ label ∈ more, ¬PublishFails label) → Reconnecting g') ↔
    ∀ label ∈ labels, ¬PublishFails label := by
  have opened : Open g := run_open ran uncalled open_init
  constructor
  · rintro reconnecting _ member ⟨c, rfl⟩
    obtain ⟨before, after, rfl⟩ := List.append_of_mem member
    obtain ⟨m, reached, rest⟩ := (Machine.run_append_eq_some _).mp ran
    obtain ⟨m', stepped, rest⟩ := (Machine.run_cons_eq_some _).mp rest
    have calm : Label.closeCall ∉ before ∧ Label.closeCall ∉ after := by
      simpa using uncalled
    have openedHere : Open m := run_open reached calm.1 open_init
    have raised : Step (.published c .raised) m m' := step_sound stepped
    have openedAfter : Open m' := step_open openedHere (by simp) raised
    have down : Down m' := by
      cases raised with
      | publishedRaised inside => exact ⟨openedHere.publishing _ _ inside, rfl⟩
    obtain ⟨more, g', later, calmer, good, stranded⟩ :=
      opened.stranded (run_down rest calm.2 openedAfter down)
    exact stranded (reconnecting more g' later calmer good)
  · intro good more g' later calm goodLater
    have up : g.broker.isSome = true → g.queueConnected = true :=
      run_up ran uncalled good open_init fun held => by cases held
    exact (run_open later calm opened).reconnecting (run_started later calm opened started)
      (run_up later calm goodLater opened up)

def startFails : List (Label Nat) :=
  [.startCall, .startStep .raised, .startStep .ok, .startStep .ok]

theorem disconnected_reconnects_startFails :
    ∃ g, (machine Nat).run startFails init = some g ∧ Reconnecting g := by
  refine ⟨_, rfl, ?_⟩
  exact (disconnected_reconnects startFails _ rfl ⟨false, rfl⟩ (by simp [startFails])).mpr
    (by simp [startFails, PublishFails]) [] _ rfl List.not_mem_nil (by simp)

def publishRaises : List (Label Nat) :=
  [.startCall, .startStep .ok, .startStep .ok, .startStep .ok, .publishCall 0,
    .published 0 .raised, .publishLogged 0]

theorem publishRaises_disconnected :
    ∃ g, (machine Nat).run publishRaises init = some g ∧ g.start = .returned true ∧
      g.close = .notCalled ∧ g.queueConnected = false ∧ g.retry = .absent :=
  ⟨_, rfl, rfl, rfl, rfl, rfl⟩

end OopsysAgent.Gateway
