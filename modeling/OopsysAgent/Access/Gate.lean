import OopsysAgent.Access.Host

/-!
# The gate

What a host is for, without hashes, rows or columns: an agent id that is drawn once, and at most one
credential, which opens every agent.
-/

namespace OopsysAgent.Access
open Concurrency Tokens IdentityTable Cli

structure Credential where
  token : String
  label : Option String
  createdAt : DateTime

structure Gate where
  agentId : Option String := none
  credential : Option Credential := none
  agents : Nat → Option String := fun _ => none

namespace Gate

def ensure (draws : Draws) (g : Gate) : Gate :=
  { g with agentId := some (g.agentId.getD draws.uuid) }

def accepts (g : Gate) : Option String → Bool
  | none => false
  | some token => token ≠ "" && g.credential.any (·.token = token)

def guarded (p : Nat) (credentials : Option String) (serve : String → Reply) (g : Gate) : Reply :=
  match g.agents p with
  | none => .noAgent
  | some agentId => if g.accepts credentials then serve agentId else .refused unauthorized

/-- A start finds no credential and puts its own there, or it finds its own, or it fails. -/
def bootstrap (envToken : Option String) (draws again : Draws) (g : Gate) :
    Except TokenError String × Gate :=
  let agentId := g.agentId.getD draws.uuid
  match envToken.filter (· ≠ ""), g.credential with
  | none, _ => (.ok agentId, g.ensure draws)
  | some token, none =>
      (.ok agentId, { g.ensure draws with credential := some ⟨token, none, again.now⟩ })
  | some token, some credential =>
      (if credential.token = token then .ok agentId else .error .tokenMismatch, g.ensure draws)

def apply (op : Operation) (g : Gate) : Reply × Gate :=
  match op with
  | .tokenCreate label force draws _ =>
      if g.credential.isSome && !force then (.console .refused, g)
      else
        (.console (.created (g.agentId.getD draws.uuid) draws.token),
          { g.ensure draws with credential := some ⟨draws.token, label, draws.now⟩ })
  | .tokenList draws =>
      (.console (.listed (g.agentId.getD draws.uuid) g.credential.isSome
        (g.credential.bind Credential.label) (g.credential.map (·.createdAt.naive))),
        g.ensure draws)
  | .tokenRevoke => (.console (.revoked g.credential.isSome), { g with credential := none })
  | .run p envToken draws again =>
      match g.bootstrap envToken draws again with
      | (.ok agentId, g) =>
          (.started agentId, { g with agents := Function.update g.agents p (some agentId) })
      | (.error error, g) =>
          (.failed error, { g with agents := Function.update g.agents p none })
  | .stop p => (.stopped, { g with agents := Function.update g.agents p none })
  | .ping p => (if (g.agents p).isSome then .alive else .noAgent, g)
  | .health p credentials runtime version now select1 =>
      (g.guarded p credentials fun agentId =>
        .health (health { runtime with agentId } version now select1), g)
  | .usage p credentials => (g.guarded p credentials fun _ => .usage, g)

def register (g : Gate) : Register where
  agentId := g.agentId
  token := g.credential.map Credential.token
  label := g.credential.bind Credential.label

end Gate

def gate : Object Operation Reply Gate where
  apply := Gate.apply

structure Stores (hashToken : String → String) (h : Host) (g : Gate) : Prop where
  represents : Represents hashToken h.table g.register
  createdAt : h.table.identity.bind AgentIdentity.tokenCreatedAt =
    g.credential.map (·.createdAt.naive)
  agents : h.agents = g.agents

section

variable {hashToken : String → String} {h : Host} {g : Gate} {row : AgentIdentity}

theorem stores_empty : Stores hashToken {} {} := ⟨represents_empty, rfl, rfl⟩

theorem Stores.absent (stores : Stores hashToken h g) (absent : h.table.identity = none) :
    g.credential = none :=
  Option.map_eq_none_iff.mp (stores.represents.token_none absent)

theorem Stores.active (stores : Stores hashToken h g) (nonempty : ∀ token, hashToken token ≠ "")
    (found : h.table.identity = some row) : truthy row.tokenHash = g.credential.isSome := by
  rw [stores.represents.active nonempty found, Gate.register, Option.isSome_map]

theorem Stores.ensure (stores : Stores hashToken h g) (draws : Draws) :
    ∃ row table, (ensureIdentity draws).run database h.table = (.ok row, table) ∧
      Stores hashToken { h with table } (g.ensure draws) := by
  obtain ⟨row, table, ensured, represents⟩ := stores.represents.ensure draws
  refine ⟨row, table, ensured, represents, ?_, stores.agents⟩
  have found := (ensureIdentity_ok ensured).1
  rcases ensureIdentity_run draws h.table with
    ⟨-, failed⟩ | ⟨row', table', ran, same | ⟨absent, fresh⟩⟩
  · cases failed.symm.trans ensured
  · cases ran.symm.trans ensured
    rw [same]
    exact stores.createdAt
  · cases ran.symm.trans ensured
    have vacant : (g.ensure draws).credential = none := stores.absent absent
    simp [found, fresh, vacant, newIdentity, AgentIdentity.stored]

/-- The unit of work leaves the column naive: what it does not write was read as such. -/
theorem changes_apply_createdAt {loaded assigned : AgentIdentity}
    (read : loaded.tokenCreatedAt.map DateTime.naive = loaded.tokenCreatedAt) :
    ((changes loaded assigned).apply loaded).tokenCreatedAt =
      assigned.tokenCreatedAt.map DateTime.naive := by
  simp only [Changes.apply, changes, changed]
  split
  · rename_i same
    rw [same]
    exact read.symm
  · rfl

theorem Stores.update (stores : Stores hashToken h g) (found : h.table.identity = some row)
    {assigned : AgentIdentity} (credential : Option Credential)
    (tokenHash : assigned.tokenHash = credential.map fun c => hashToken c.token)
    (tokenLabel : assigned.tokenLabel = credential.bind Credential.label)
    (tokenCreatedAt : assigned.tokenCreatedAt = credential.map Credential.createdAt) :
    Stores hashToken { h with table := h.table.update (changes row assigned) }
      { g with credential } where
  represents := by
    apply stores.represents.update found (credential.map Credential.token)
      (credential.bind Credential.label)
    · rw [tokenHash, Option.map_map]
      rfl
    · exact tokenLabel
    · rw [tokenCreatedAt, Option.isSome_map, Option.isSome_map]
    · cases credential <;> simp
  createdAt := by
    have read : row.tokenCreatedAt.map DateTime.naive = row.tokenCreatedAt := by
      have stored := stores.createdAt
      rw [found, Option.bind_some] at stored
      rw [stored, Option.map_map]
      rfl
    rw [identity_update, found, Option.map_some, Option.bind_some, changes_apply_createdAt read,
      tokenCreatedAt, Option.map_map]
    rfl
  agents := stores.agents

/-! ## Operation by operation -/

theorem Stores.requireToken (stores : Stores hashToken h g)
    (injective : Function.Injective hashToken) (nonempty : ∀ token, hashToken token ≠ "")
    (credentials : Option String) :
    (requireToken hashToken credentials).run database h.table =
      (.ok (if g.accepts credentials then .ok () else .error unauthorized), h.table) := by
  cases credentials with
  | none => rfl
  | some token =>
      rw [Access.requireToken]
      by_cases blank : token = ""
      · simp [blank, Gate.accepts]
      · have verified := stores.represents.verifyToken injective nonempty token
        rw [if_neg blank, Program.run_bind_ok verified]
        have same : (g.register.token == some token) = g.accepts (some token) := by
          cases held : g.credential with
          | none => simp [Gate.register, Gate.accepts, held]
          | some credential =>
              simp [Gate.register, Gate.accepts, held, blank, Bool.beq_eq_decide_eq]
        rw [same]
        cases g.accepts (some token) <;> rfl

theorem Stores.guarded (stores : Stores hashToken h g) (injective : Function.Injective hashToken)
    (nonempty : ∀ token, hashToken token ≠ "") (p : Nat) (credentials : Option String)
    (serve : String → Reply) :
    h.guarded hashToken p credentials serve = (g.guarded p credentials serve, h) := by
  have same : h.agents p = g.agents p := congrFun stores.agents p
  rw [Host.guarded, Gate.guarded, same]
  cases g.agents p with
  | none => rfl
  | some agentId =>
      dsimp only
      rw [stores.requireToken injective nonempty]
      cases g.accepts credentials <;> rfl

theorem Stores.ensure_of_credential (stores : Stores hashToken h g) (draws : Draws)
    (active : g.credential.isSome) : g.ensure draws = g := by
  have held : g.register.token.isSome := by rw [Gate.register, Option.isSome_map, active]
  have same : some (g.agentId.getD draws.uuid) = g.agentId :=
    congrArg Register.agentId (stores.represents.ensure_of_token draws held)
  rw [Gate.ensure, same]

theorem Stores.agentId (stores : Stores hashToken h g) (found : h.table.identity = some row) :
    g.agentId = some row.agentId := stores.represents.agentId_eq found

def Agrees (hashToken : String → String) (answer : Reply × Host) (expected : Reply × Gate) : Prop :=
  answer.1 = expected.1 ∧ Stores hashToken answer.2 expected.2

theorem Stores.tokenCreate (stores : Stores hashToken h g)
    (nonempty : ∀ token, hashToken token ≠ "") (label : Option String) (force : Bool)
    (draws again : Draws) :
    Agrees hashToken (h.apply hashToken (.tokenCreate label force draws again))
      (g.apply (.tokenCreate label force draws again)) := by
  obtain ⟨row, table, ensured, stored⟩ := stores.ensure draws
  have found := (ensureIdentity_ok ensured).1
  have active : truthy row.tokenHash = g.credential.isSome := stored.active nonempty found
  have named : g.agentId.getD draws.uuid = row.agentId := Option.some.inj (stored.agentId found)
  simp only [Host.apply, Host.command, Gate.apply, tokenCreate_run ensured, active]
  by_cases refused : (g.credential.isSome && !force) = true
  · rw [if_pos refused, if_pos refused]
    have held : g.credential.isSome := by simp_all
    exact ⟨rfl, stores.ensure_of_credential draws held ▸ stored⟩
  · rw [if_neg refused, if_neg refused, named]
    exact ⟨rfl, stored.update found (some ⟨draws.token, label, draws.now⟩) rfl rfl rfl⟩

theorem Stores.tokenList (stores : Stores hashToken h g)
    (nonempty : ∀ token, hashToken token ≠ "") (draws : Draws) :
    Agrees hashToken (h.apply hashToken (.tokenList draws)) (g.apply (.tokenList draws)) := by
  obtain ⟨row, table, ensured, stored⟩ := stores.ensure draws
  have found := (ensureIdentity_ok ensured).1
  have active : truthy row.tokenHash = g.credential.isSome := stored.active nonempty found
  have named : g.agentId.getD draws.uuid = row.agentId := Option.some.inj (stored.agentId found)
  have label : row.tokenLabel = g.credential.bind Credential.label := by
    have stored := stored.represents.tokenLabel
    rw [found] at stored
    exact stored
  have createdAt : row.tokenCreatedAt = g.credential.map (·.createdAt.naive) := by
    have stored := stored.createdAt
    rw [found] at stored
    exact stored
  simp only [Host.apply, Host.command, Gate.apply, tokenList_run ensured, active, named, label,
    createdAt]
  exact ⟨rfl, stored⟩

theorem Stores.tokenRevoke (stores : Stores hashToken h g)
    (nonempty : ∀ token, hashToken token ≠ "") :
    Agrees hashToken (h.apply hashToken .tokenRevoke) (g.apply .tokenRevoke) := by
  simp only [Host.apply, Host.command, Gate.apply, tokenRevoke_run, revokeToken_run]
  cases found : h.table.identity with
  | none =>
      have vacant := stores.absent found
      rw [vacant]
      refine ⟨rfl, ?_⟩
      have same : { g with credential := none } = g := by rw [← vacant]
      exact same.symm ▸ stores
  | some row =>
      have active := stores.active nonempty found
      dsimp only
      rw [active]
      cases held : g.credential with
      | none =>
          refine ⟨rfl, ?_⟩
          have same : { g with credential := none } = g := by rw [← held]
          exact same.symm ▸ stores
      | some credential => exact ⟨rfl, stores.update found none rfl rfl rfl⟩

theorem Stores.started (stores : Stores hashToken h g) (p : Nat) (agentId : Option String) :
    Stores hashToken { h with agents := Function.update h.agents p agentId }
      { g with agents := Function.update g.agents p agentId } :=
  ⟨stores.represents, stores.createdAt, by rw [stores.agents]⟩

theorem Stores.bootstrap (stores : Stores hashToken h g)
    (injective : Function.Injective hashToken) (nonempty : ∀ token, hashToken token ≠ "")
    (envToken : Option String) (draws again : Draws) :
    ∃ table, (bootstrapIdentity hashToken envToken draws again).run database h.table =
        ((g.bootstrap envToken draws again).1, table) ∧
      Stores hashToken { h with table } (g.bootstrap envToken draws again).2 := by
  obtain ⟨row, table, ensured, stored⟩ := stores.ensure draws
  have found := (ensureIdentity_ok ensured).1
  have active : truthy row.tokenHash = g.credential.isSome := stored.active nonempty found
  have named : g.agentId.getD draws.uuid = row.agentId := Option.some.inj (stored.agentId found)
  rw [bootstrapIdentity_run envToken again ensured, Gate.bootstrap, named]
  cases envToken with
  | none => exact ⟨table, rfl, stored⟩
  | some token =>
      by_cases blank : token = ""
      · subst blank
        exact ⟨table, rfl, stored⟩
      · have given : (some token).filter (· ≠ "") = some token := by simp [blank]
        have reconciled : (reconcileEnvToken hashToken token again).run database table = _ :=
          reconcileEnvToken_run token (ensureIdentity_some again found)
        rw [active] at reconciled
        simp only [blank, ↓reduceIte, given, reconciled]
        cases held : g.credential with
        | none =>
            refine ⟨_, rfl, stored.update found (some ⟨token, none, again.now⟩) rfl ?_ rfl⟩
            have label := stored.represents.tokenLabel
            rw [found] at label
            change row.tokenLabel = g.credential.bind Credential.label at label
            rw [held] at label
            exact label
        | some credential =>
            have matched : row.tokenHash = some (hashToken token) ↔ credential.token = token := by
              have same := stored.represents.hash_eq_iff injective found token
              simpa [Gate.register, Gate.ensure, held] using same
            refine ⟨table, ?_, stored⟩
            by_cases same : credential.token = token
            · simp [same, matched.mpr same, Except.map]
            · simp [same, mt matched.mp same, Except.map]

theorem host_simulates (injective : Function.Injective hashToken)
    (nonempty : ∀ token, hashToken token ≠ "") :
    (host hashToken).Simulates gate (Stores hashToken) id := by
  intro op h g stores
  change Agrees hashToken (h.apply hashToken op) (g.apply op)
  cases op with
  | tokenCreate label force draws again => exact stores.tokenCreate nonempty label force draws again
  | tokenList draws => exact stores.tokenList nonempty draws
  | tokenRevoke => exact stores.tokenRevoke nonempty
  | run p envToken draws again =>
      obtain ⟨table, ran, stored⟩ := stores.bootstrap injective nonempty envToken draws again
      simp only [Host.apply, Gate.apply, ran]
      generalize g.bootstrap envToken draws again = answer at stored
      rcases answer with ⟨error | agentId, g'⟩
      · exact ⟨rfl, stored.started p none⟩
      · exact ⟨rfl, stored.started p (some agentId)⟩
  | stop p => exact ⟨rfl, stores.started p none⟩
  | ping p =>
      refine ⟨?_, stores⟩
      simp only [Host.apply, Gate.apply, stores.agents]
  | health p credentials runtime version now select1 =>
      have guarded := stores.guarded injective nonempty p credentials
        fun agentId => .health (health { runtime with agentId } version now select1)
      exact ⟨congrArg Prod.fst guarded, (congrArg Prod.snd guarded).symm ▸ stores⟩
  | usage p credentials =>
      have guarded := stores.guarded injective nonempty p credentials fun _ => .usage
      exact ⟨congrArg Prod.fst guarded, (congrArg Prod.snd guarded).symm ▸ stores⟩

theorem host_answers (injective : Function.Injective hashToken)
    (nonempty : ∀ token, hashToken token ≠ "") (ops : List Operation) :
    ((host hashToken).run ops {}).1 = (gate.run ops {}).1 ∧
      Stores hashToken ((host hashToken).run ops {}).2 (gate.run ops {}).2 := by
  have simulated := (host_simulates injective nonempty).run stores_empty ops
  rwa [List.map_id] at simulated

end

/-! ## Histories of a host -/

namespace Gate

def written (op : Operation) (g : Gate) : Option (Option String) :=
  match op with
  | .tokenCreate _ force draws _ =>
      if g.credential.isSome && !force then none else some (some draws.token)
  | .tokenRevoke => some none
  | .run _ envToken _ _ =>
      match envToken.filter (· ≠ ""), g.credential with
      | some token, none => some (some token)
      | _, _ => none
  | _ => none

def token (g : Gate) : Option String := g.credential.map Credential.token

theorem apply_token (op : Operation) (g : Gate) :
    (g.apply op).2.token = (written op g).getD g.token := by
  cases op with
  | tokenCreate label force draws again =>
      simp only [apply, written]
      split <;> rfl
  | run p envToken draws again =>
      simp only [apply, written, bootstrap]
      cases envToken.filter (· ≠ "") with
      | none => rfl
      | some token =>
          cases held : g.credential with
          | none => rfl
          | some credential =>
              by_cases same : credential.token = token <;> simp [same, ensure, Gate.token, held]
  | _ => rfl

theorem accepts_iff {g : Gate} {credentials : Option String} :
    g.accepts credentials = true ↔ ∃ token, token ≠ "" ∧ credentials = some token ∧
      g.token = some token := by
  cases credentials with
  | none => simp [accepts]
  | some token =>
      cases held : g.credential with
      | none => simp [accepts, Gate.token, held]
      | some credential =>
          simp only [accepts, Gate.token, held, Option.any_some, Option.map_some, Bool.and_eq_true,
            decide_eq_true_eq, Option.some.injEq]
          constructor
          · rintro ⟨given, rfl⟩
            exact ⟨_, given, rfl, rfl⟩
          · rintro ⟨_, given, rfl, same⟩
            exact ⟨given, same⟩

/-- The running agents show the agent id that is stored. -/
def Named (g : Gate) : Prop := ∀ p a, g.agents p = some a → g.agentId = some a

end Gate

def Reply.agentId? : Reply → Option String
  | .console (.created agentId _) | .console (.listed agentId _ _ _) | .started agentId =>
      some agentId
  | .health report => some report.agentId
  | _ => none

section

variable {g : Gate} {a : String}

theorem Gate.ensure_agentId (draws : Draws) (stored : g.agentId = some a) :
    (g.ensure draws).agentId = some a := by
  simp [ensure, stored]

theorem Gate.bootstrap_agentId (envToken : Option String) (draws again : Draws) :
    (g.bootstrap envToken draws again).2.agentId = some (g.agentId.getD draws.uuid) ∧
      (g.bootstrap envToken draws again).2.agents = g.agents ∧
      ∀ a, (g.bootstrap envToken draws again).1 = .ok a → a = g.agentId.getD draws.uuid := by
  unfold bootstrap
  dsimp only
  split
  · exact ⟨rfl, rfl, fun _ same => (Except.ok.inj same).symm⟩
  · exact ⟨rfl, rfl, fun _ same => (Except.ok.inj same).symm⟩
  · refine ⟨rfl, rfl, ?_⟩
    intro a answered
    split at answered
    · exact (Except.ok.inj answered).symm
    · cases answered

theorem Gate.apply_agentId (op : Operation) (stored : g.agentId = some a) :
    (g.apply op).2.agentId = some a := by
  cases op with
  | tokenCreate label force draws again =>
      simp only [apply]
      split
      · exact stored
      · exact ensure_agentId draws stored
  | tokenList draws => exact ensure_agentId draws stored
  | run p envToken draws again =>
      have same := (g.bootstrap_agentId envToken draws again).1
      rw [stored, Option.getD_some] at same
      simp only [apply]
      split <;> simp_all
  | _ => exact stored

theorem Gate.Named.update {agentId : Option String} (named : g.Named) (p : Nat)
    (stored : ∀ a, agentId = some a → g.agentId = some a) :
    Named { g with agents := Function.update g.agents p agentId } := by
  intro q a shown
  by_cases same : q = p
  · subst same
    exact stored a (by simpa using shown)
  · exact named q a (by simpa [Function.update_of_ne same] using shown)

theorem Gate.Named.guarded (named : g.Named) {p : Nat} {credentials : Option String}
    {serve : String → Reply} (shows : ∀ agentId a, (serve agentId).agentId? = some a → a = agentId)
    (shown : (g.guarded p credentials serve).agentId? = some a) : g.agentId = some a := by
  unfold Gate.guarded at shown
  split at shown
  · cases shown
  · rename_i agentId running
    split at shown
    · rw [shows agentId a shown]
      exact named p agentId running
    · cases shown

theorem Gate.Named.ensure (named : g.Named) (draws : Draws) : (g.ensure draws).Named :=
  fun p a shown => ensure_agentId draws (named p a shown)

theorem Gate.Named.bootstrap (named : g.Named) (envToken : Option String) (draws again : Draws) :
    (g.bootstrap envToken draws again).2.Named := by
  obtain ⟨stored, agents, -⟩ := g.bootstrap_agentId envToken draws again
  intro p a shown
  rw [agents] at shown
  rw [stored, named p a shown, Option.getD_some]

theorem Gate.apply_named (op : Operation) (named : g.Named) : (g.apply op).2.Named ∧
    ∀ a, (g.apply op).1.agentId? = some a → (g.apply op).2.agentId = some a := by
  cases op with
  | tokenCreate label force draws again =>
      simp only [apply]
      split
      · exact ⟨named, nofun⟩
      · exact ⟨named.ensure draws, fun _ shown => shown⟩
  | tokenList draws => exact ⟨named.ensure draws, fun _ shown => shown⟩
  | tokenRevoke => exact ⟨named, nofun⟩
  | run p envToken draws again =>
      have later := named.bootstrap envToken draws again
      have bootstrapped := g.bootstrap_agentId envToken draws again
      simp only [apply]
      generalize g.bootstrap envToken draws again = answer at later bootstrapped
      obtain ⟨stored, -, given⟩ := bootstrapped
      rcases answer with ⟨error | agentId, g'⟩
      · exact ⟨later.update p nofun, nofun⟩
      · have same := given agentId rfl
        refine ⟨later.update p ?_, ?_⟩
        · rintro _ ⟨⟩
          rw [stored, same]
        · rintro _ ⟨⟩
          exact same ▸ stored
  | stop p => exact ⟨named.update p nofun, nofun⟩
  | ping p =>
      refine ⟨named, ?_⟩
      intro a shown
      simp only [apply] at shown
      split at shown <;> cases shown
  | health p credentials runtime version now select1 =>
      refine ⟨named, ?_⟩
      intro a shown
      refine named.guarded ?_ shown
      rintro agentId _ ⟨⟩
      rfl
  | usage p credentials =>
      refine ⟨named, ?_⟩
      intro a shown
      refine named.guarded ?_ shown
      rintro agentId _ ⟨⟩

theorem Gate.run_named (ops : List Operation) (named : g.Named) :
    (∀ a, g.agentId = some a → (gate.run ops g).2.agentId = some a) ∧
    ∀ reply ∈ (gate.run ops g).1, ∀ a, reply.agentId? = some a →
      (gate.run ops g).2.agentId = some a := by
  induction ops generalizing g with
  | nil => exact ⟨fun _ => id, nofun⟩
  | cons op ops ih =>
      obtain ⟨later, shown⟩ := apply_named op named
      obtain ⟨kept, rest⟩ := ih later
      rw [Object.run_cons]
      refine ⟨fun a stored => kept a (apply_agentId op stored), ?_⟩
      intro reply member a named
      rcases List.mem_cons.mp member with rfl | member
      · exact kept a (shown a named)
      · exact rest reply member a named

end

/-- A host answers as the gate does. After any history it serves a request at a running agent just
when the request presents the token that was written last. -/
theorem host_refines_gate (hashToken : String → String) (injective : Function.Injective hashToken)
    (nonempty : ∀ token, hashToken token ≠ "") (ops : List Operation) :
    let h := ((host hashToken).run ops {}).2
    ((host hashToken).run ops {}).1 = (gate.run ops {}).1 ∧
    Stores hashToken h (gate.run ops {}).2 ∧
    ∀ p credentials, (h.apply hashToken (.usage p credentials)).1 = .usage ↔
      (h.agents p).isSome ∧ ∃ token, token ≠ "" ∧ credentials = some token ∧
        gate.lastWrite Gate.written ops {} = some (some token) := by
  intro h
  obtain ⟨answers, stores⟩ := host_answers injective nonempty ops
  refine ⟨answers, stores, ?_⟩
  intro p credentials
  have guarded := stores.guarded injective nonempty p credentials fun _ => .usage
  have held := Object.slot_eq_lastWrite (O := gate) Gate.apply_token ops {}
  have written (token : String) : (gate.run ops {}).2.token = some token ↔
      gate.lastWrite Gate.written ops {} = some (some token) := by
    rw [held]
    cases gate.lastWrite Gate.written ops {} <;> simp [Gate.token]
  simp only [← written, ← Gate.accepts_iff]
  have same : (h.apply hashToken (.usage p credentials)).1 = _ := congrArg Prod.fst guarded
  rw [same, Gate.guarded, stores.agents]
  cases (gate.run ops {}).2.agents p with
  | none => simp
  | some agentId => cases (gate.run ops {}).2.accepts credentials <;> simp

/-- A token is created, an agent is started with it, and the token is replaced. -/
def replaced : List Operation :=
  [.tokenCreate (some "ci") false (sampleDraws "alpha") (sampleDraws ""),
    .run 0 (some "alpha") { sampleDraws "" with uuid := "5d0c2b7e" } (sampleDraws ""),
    .usage 0 (some "alpha"),
    .tokenCreate none true (sampleDraws "beta") (sampleDraws ""), .usage 0 (some "alpha"),
    .tokenList (sampleDraws "")]

theorem host_refines_gate_replaced :
    ((host sampleHash).run replaced {}).1 = (gate.run replaced {}).1 :=
  (host_refines_gate sampleHash sampleHash_injective sampleHash_ne_empty replaced).1

/-- The agent id is the same wherever a host shows one. -/
theorem agentIds_shown_agree (hashToken : String → String)
    (injective : Function.Injective hashToken) (nonempty : ∀ token, hashToken token ≠ "")
    (ops : List Operation) (reply reply' : Reply) (a a' : String)
    (member : reply ∈ ((host hashToken).run ops {}).1)
    (member' : reply' ∈ ((host hashToken).run ops {}).1) (shown : reply.agentId? = some a)
    (shown' : reply'.agentId? = some a') : a = a' := by
  rw [(host_answers injective nonempty ops).1] at member member'
  have named : Gate.Named {} := nofun
  have all := (Gate.run_named ops named).2
  exact Option.some.inj ((all reply member a shown).symm.trans (all reply' member' a' shown'))

theorem agentIds_shown_agree_replaced :
    ∃ a, Reply.started a ∈ ((host sampleHash).run replaced {}).1 ∧
      a = (sampleDraws "alpha").uuid := by
  have started : Reply.started (sampleDraws "alpha").uuid ∈ ((host sampleHash).run replaced {}).1 :=
    List.mem_of_getElem? (i := 1) rfl
  have created : Reply.console (.created (sampleDraws "alpha").uuid "alpha") ∈
      ((host sampleHash).run replaced {}).1 := List.mem_of_getElem? (i := 0) rfl
  exact ⟨_, started, agentIds_shown_agree sampleHash sampleHash_injective sampleHash_ne_empty
    replaced _ _ _ _ started created rfl rfl⟩

end OopsysAgent.Access
