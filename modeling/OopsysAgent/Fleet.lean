import OopsysAgent.Domain.Runtime
import OopsysAgent.Events.Service
import OopsysAgent.Tokens.Agreement

/-!
# Agents on one database

Any number of processes run token calls against the same table, one database action at a time. An
agent start copies the agent id it got into its runtime, and the started agent puts that id into
every envelope.
-/

namespace OopsysAgent
open Concurrency Tokens Events

structure Fleet (ι : Type) where
  pool : TokenPool ι
  runtimes : ι → AppRuntime
  started : ι → Bool
  envelopes : List (ι × Envelope)

namespace Fleet

inductive Label (ι : Type)
  -- the next database action of a process
  | act (i : ι)
  -- `_bootstrap_identity` of an agent has returned
  | start (i : ι)
  -- a started agent enqueues an event
  | enqueue (i : ι) (recording : Recording) (now : DateTime)

variable {ι : Type}

def initial (hashToken : String → String) (calls : ι → TokenCall) (runtimes : ι → AppRuntime)
    (t : IdentityTable) : Fleet ι :=
  { pool := sessions hashToken calls t
    runtimes
    started := fun _ => false
    envelopes := [] }

/-- Every copy of the agent id is the stored one, and every call in progress will keep it so. -/
structure Agreed (F : Fleet ι) : Prop where
  ids : ∀ row ∈ F.pool.store.rows, row.id = identityId
  keeps : ∀ i, (F.pool.progs i).Keeps database Evolves Agrees F.pool.store
  runtimes : ∀ i, F.started i → F.pool.store.agentId? = some (F.runtimes i).agentId
  envelopes : ∀ i envelope, (i, envelope) ∈ F.envelopes →
    F.pool.store.agentId? = some envelope.agentId

theorem agreed_initial {hashToken : String → String} (calls : ι → TokenCall)
    (runtimes : ι → AppRuntime) {t : IdentityTable} (ids : ∀ row ∈ t.rows, row.id = identityId) :
    Agreed (initial hashToken calls runtimes t) where
  ids := ids
  keeps i := call_keeps (calls i) t
  runtimes _ running := absurd running Bool.false_ne_true
  envelopes _ _ member := absurd member List.not_mem_nil

theorem Agreed.outcome {F : Fleet ι} (agreed : Agreed F) {i : ι} {outcome : TokenOutcome}
    {a : String} (ended : (F.pool.progs i).outcome? = some (.ok outcome))
    (tells : outcome.agentId? = some a) : F.pool.store.agentId? = some a :=
  (agreed.keeps i).outcome Evolves.refl ended outcome a rfl tells

variable [DecidableEq ι]

def step (calls : ι → TokenCall) (label : Label ι) (F : Fleet ι) : Option (Fleet ι) :=
  match label with
  | .act i => ((interleave database).step i F.pool).map fun pool => { F with pool }
  | .start i =>
      match calls i, (F.pool.progs i).outcome? with
      | .bootstrapIdentity .., some (.ok (.agentId agentId)) =>
          some
            { F with
              runtimes := Function.update F.runtimes i { F.runtimes i with agentId }
              started := Function.update F.started i true }
      | _, _ => none
  | .enqueue i recording now =>
      if F.started i then
        some
          { F with
            envelopes := F.envelopes ++ [(i, recording.envelope (F.runtimes i).agentId now)] }
      else none

def machine (calls : ι → TokenCall) : Machine (Fleet ι) (Label ι) where
  step := step calls

theorem step_cases {calls : ι → TokenCall} {label : Label ι} {F F' : Fleet ι}
    (stepped : step calls label F = some F') :
    (∃ i pool, label = .act i ∧ (interleave database).step i F.pool = some pool ∧
      F' = { F with pool }) ∨
    (∃ i agentId, label = .start i ∧ (F.pool.progs i).outcome? = some (.ok (.agentId agentId)) ∧
      F' =
        { F with
          runtimes := Function.update F.runtimes i { F.runtimes i with agentId }
          started := Function.update F.started i true }) ∨
    (∃ i recording now, label = .enqueue i recording now ∧ F.started i ∧
      F' =
        { F with
          envelopes := F.envelopes ++ [(i, recording.envelope (F.runtimes i).agentId now)] }) := by
  cases label with
  | act i =>
      obtain ⟨pool, acted, rfl⟩ := Option.map_eq_some_iff.mp stepped
      exact .inl ⟨i, pool, rfl, acted, rfl⟩
  | start i =>
      simp only [step] at stepped
      split at stepped
      · rename_i agentId called returned
        cases stepped
        exact .inr (.inl ⟨i, agentId, rfl, returned, rfl⟩)
      · cases stepped
  | enqueue i recording now =>
      simp only [step] at stepped
      split at stepped
      · rename_i running
        cases stepped
        exact .inr (.inr ⟨i, recording, now, rfl, running, rfl⟩)
      · cases stepped

theorem step_agreed {calls : ι → TokenCall} {label : Label ι} {F F' : Fleet ι}
    (agreed : Agreed F) (stepped : step calls label F = some F') :
    Evolves F.pool.store F'.pool.store ∧ Agreed F' := by
  obtain ⟨i, pool, rfl, acted, rfl⟩ | ⟨i, agentId, rfl, returned, rfl⟩ |
    ⟨i, recording, now, rfl, running, rfl⟩ := step_cases stepped
  · obtain ⟨evolves, keeps⟩ := interleave_keeps (Q := fun _ => Agrees) Evolves.refl Evolves.trans
      (Machine.run_singleton acted) agreed.keeps
    refine ⟨evolves, evolves.ids agreed.ids, keeps, ?_, ?_⟩
    · intro j running
      exact evolves.agentId _ (agreed.runtimes j running)
    · intro j envelope member
      exact evolves.agentId _ (agreed.envelopes j envelope member)
  · refine ⟨.refl _, agreed.ids, agreed.keeps, ?_, agreed.envelopes⟩
    intro j running
    by_cases same : j = i
    · subst same
      simpa using agreed.outcome returned rfl
    · simp only [Function.update_of_ne same] at running ⊢
      exact agreed.runtimes j running
  · refine ⟨.refl _, agreed.ids, agreed.keeps, agreed.runtimes, ?_⟩
    intro j envelope member
    rcases List.mem_append.mp member with before | added
    · exact agreed.envelopes j envelope before
    · obtain ⟨rfl, rfl⟩ := Prod.mk.inj (List.mem_singleton.mp added)
      exact agreed.runtimes j running

theorem run_agreed {calls : ι → TokenCall} {labels : List (Label ι)} {F F' : Fleet ι}
    (agreed : Agreed F) (ran : (machine calls).run labels F = some F') :
    Evolves F.pool.store F'.pool.store ∧ Agreed F' := by
  refine Machine.invariant (I := fun G => Evolves F.pool.store G.pool.store ∧ Agreed G)
    ?_ ran ⟨.refl _, agreed⟩
  rintro label G G' ⟨evolves, here⟩ stepped
  obtain ⟨moved, next⟩ := step_agreed here stepped
  exact ⟨evolves.trans _ _ _ moved, next⟩

end Fleet

/-- All processes on one database agree on one agent identity, in every interleaving. -/
theorem agents_agree {ι : Type} [DecidableEq ι] (hashToken : String → String)
    (calls : ι → TokenCall) (runtimes : ι → AppRuntime) (t : IdentityTable)
    (ids : ∀ row ∈ t.rows, row.id = identityId) (labels : List (Fleet.Label ι)) (F : Fleet ι)
    (ran : (Fleet.machine calls).run labels (.initial hashToken calls runtimes t) = some F) :
    F.pool.store.rows.length ≤ 1 ∧
    (∀ a, F.pool.store.agentId? = some a → ∀ more F',
      (Fleet.machine calls).run more F = some F' → F'.pool.store.agentId? = some a) ∧
    (∀ i row, (F.pool.progs i).outcome? = some (.ok (.identity row)) →
      F.pool.store.agentId? = some row.agentId) ∧
    (∀ i a, (F.pool.progs i).outcome? = some (.ok (.agentId a)) →
      F.pool.store.agentId? = some a) ∧
    (∀ i, F.started i → F.pool.store.agentId? = some (F.runtimes i).agentId) ∧
    (∀ i envelope, (i, envelope) ∈ F.envelopes →
      F.pool.store.agentId? = some envelope.agentId) := by
  obtain ⟨-, agreed⟩ := Fleet.run_agreed (Fleet.agreed_initial calls runtimes ids) ran
  refine ⟨length_le_one agreed.ids, ?_, ?_, ?_, agreed.runtimes, agreed.envelopes⟩
  · intro a stored more F' later
    exact (Fleet.run_agreed agreed later).1.agentId a stored
  · intro i row ended
    exact agreed.outcome ended rfl
  · intro i a ended
    exact agreed.outcome ended rfl

def racingStarts (i : Bool) : TokenCall :=
  .bootstrapIdentity none { sampleDraws "" with uuid := if i then "first" else "second" }
    (sampleDraws "")

def racingRuntimes (_ : Bool) : AppRuntime := { startedAt := sampleNow }

/-- Both find no row, the second insert fails, and the first agent starts. -/
def racingLabels : List (Fleet.Label Bool) :=
  [.act true, .act false, .act true, .act false, .act true, .start true]

theorem agents_agree_racing :
    ∃ F, (Fleet.machine racingStarts).run racingLabels
          (.initial sampleHash racingStarts racingRuntimes IdentityTable.empty) = some F ∧
      (F.pool.progs false).outcome? = some (.error .integrity) ∧
      F.pool.store.agentId? = some (F.runtimes true).agentId := by
  refine ⟨_, rfl, rfl, ?_⟩
  obtain ⟨-, -, -, -, started, -⟩ := agents_agree sampleHash racingStarts racingRuntimes
    IdentityTable.empty (by decide) racingLabels _ rfl
  exact started true rfl

end OopsysAgent
