import OopsysAgent.Domain.Events
import OopsysAgent.Tokens.Table
import OopsysAgent.Library.Object

namespace OopsysAgent.Tokens
open Concurrency IdentityTable

/-- What a call draws from outside: a `uuid4`, a `token_urlsafe` and the clock. -/
structure Draws where
  uuid : String
  token : String
  now : DateTime

structure CreatedToken where
  token : String
  label : Option String
  deriving DecidableEq

/-! ## A sample hash

`hash_token` is a parameter of the service, since no function to digests of a fixed length is free
of collisions. `sampleHash` is the SHA-256 digest on the tokens the examples use. -/

def sampleHash (token : String) : String :=
  if token = "alpha" then "8ed3f6ad685b959ead7022518e1af76cd816f8e8ec7ccdda1ed4018e8f2223f8"
  else if token = "beta" then "f44e64e75f3948e9f73f8dfa94721c4ce8cbb4f265c4790c702b2d41cfbf2753"
  else "~" ++ token

private theorem tilde_append_ne {digest : String} (token : String)
    (head : digest.toList.head? ≠ some '~') : "~" ++ token ≠ digest := by
  rintro rfl
  simp at head

theorem sampleHash_injective : Function.Injective sampleHash := by
  intro a b same
  unfold sampleHash at same
  split_ifs at same with a₁ b₁ b₂ a₂ b₁ b₂ b₁ b₂
  · rw [a₁, b₁]
  · exact absurd same (by decide)
  · exact absurd same.symm (tilde_append_ne b (by decide))
  · exact absurd same (by decide)
  · rw [a₂, b₂]
  · exact absurd same.symm (tilde_append_ne b (by decide))
  · exact absurd same (tilde_append_ne a (by decide))
  · exact absurd same (tilde_append_ne a (by decide))
  · exact (String.append_right_inj _).mp same

theorem sampleHash_ne_empty (token : String) : sampleHash token ≠ "" := by
  unfold sampleHash
  split_ifs
  · decide
  · decide
  · simp

def sampleDraws (token : String) : Draws :=
  { uuid := "3f8a1c52-6f0e-4b7d-9d53-0c2a5a0f7b11"
    token
    now := sampleNow }

/-! ## TokenService -/

section

variable (hashToken : String → String)

def getIdentity : TokenProgram (Option AgentIdentity) := selectIdentity

def newIdentity (draws : Draws) : AgentIdentity :=
  { id := identityId, agentId := draws.uuid, createdAt := draws.now }

def ensureIdentity (draws : Draws) : TokenProgram AgentIdentity := do
  match ← getIdentity with
  | some identity => pure identity
  | none =>
      insertIdentity (newIdentity draws)
      refresh

def getAgentId (draws : Draws) : TokenProgram String := do
  let identity ← ensureIdentity draws
  pure identity.agentId

def hasActiveToken : TokenProgram Bool := do
  match ← getIdentity with
  | some identity => pure (truthy identity.tokenHash)
  | none => pure false

def createToken (label : Option String) (force : Bool) (draws : Draws) :
    TokenProgram CreatedToken := do
  let identity ← ensureIdentity draws
  if truthy identity.tokenHash && !force then
    Program.raise .tokenExists
  else
    let assigned :=
      { identity with
        tokenHash := some (hashToken draws.token)
        tokenLabel := label
        tokenCreatedAt := some draws.now }
    commit identity assigned
    pure { token := draws.token, label }

def revokeToken : TokenProgram Bool := do
  match ← getIdentity with
  | none => pure false
  | some identity =>
      if !truthy identity.tokenHash then
        pure false
      else
        let assigned :=
          { identity with tokenHash := none, tokenLabel := none, tokenCreatedAt := none }
        commit identity assigned
        pure true

def verifyToken (token : String) : TokenProgram Bool := do
  match ← getIdentity with
  | none => pure false
  | some identity =>
      if !truthy identity.tokenHash then pure false
      else pure (identity.tokenHash == some (hashToken token))

def reconcileEnvToken (token : String) (draws : Draws) : TokenProgram Unit := do
  let identity ← ensureIdentity draws
  if !truthy identity.tokenHash then
    let assigned :=
      { identity with tokenHash := some (hashToken token), tokenCreatedAt := some draws.now }
    commit identity assigned
  else if identity.tokenHash != some (hashToken token) then
    Program.raise .tokenMismatch
  else
    pure ()

/-- `_bootstrap_identity`: the agent id it stores in the runtime is the value of the program. -/
def bootstrapIdentity (envToken : Option String) (draws again : Draws) : TokenProgram String := do
  let agentId ← getAgentId draws
  match envToken with
  | none => pure agentId
  | some token =>
      if token == "" then pure agentId
      else
        reconcileEnvToken hashToken token again
        pure agentId

/-! ## Calls -/

inductive TokenCall
  | ensureIdentity (draws : Draws)
  | getAgentId (draws : Draws)
  | hasActiveToken
  | createToken (label : Option String) (force : Bool) (draws : Draws)
  | revokeToken
  | verifyToken (token : String)
  | reconcileEnvToken (token : String) (draws : Draws)
  | bootstrapIdentity (envToken : Option String) (draws again : Draws)

inductive TokenOutcome
  | identity (row : AgentIdentity)
  | agentId (agentId : String)
  | bool (b : Bool)
  | created (token : CreatedToken)
  | none
  deriving DecidableEq

def TokenCall.program : TokenCall → TokenProgram TokenOutcome
  | .ensureIdentity draws => do return .identity (← Tokens.ensureIdentity draws)
  | .getAgentId draws => do return .agentId (← Tokens.getAgentId draws)
  | .hasActiveToken => do return .bool (← Tokens.hasActiveToken)
  | .createToken label force draws => do
      return .created (← Tokens.createToken hashToken label force draws)
  | .revokeToken => do return .bool (← Tokens.revokeToken)
  | .verifyToken token => do return .bool (← Tokens.verifyToken hashToken token)
  | .reconcileEnvToken token draws => do
      Tokens.reconcileEnvToken hashToken token draws
      return .none
  | .bootstrapIdentity envToken draws again => do
      return .agentId (← Tokens.bootstrapIdentity hashToken envToken draws again)

def TokenCall.run (call : TokenCall) (t : IdentityTable) :
    Except TokenError TokenOutcome × IdentityTable :=
  (call.program hashToken).run database t

def tokenService : Object TokenCall (Except TokenError TokenOutcome) IdentityTable where
  apply := TokenCall.run hashToken

end

/-! ## One lemma per function -/

section

variable {hashToken : String → String} {t : IdentityTable} {row : AgentIdentity}

theorem ensureIdentity_some (draws : Draws) (found : t.identity = some row) :
    (ensureIdentity draws).run database t = (.ok row, t) := by
  simp [ensureIdentity, getIdentity, found]

theorem ensureIdentity_none (draws : Draws) (absent : t.identity = none) :
    (ensureIdentity draws).run database t =
      match t.insert (newIdentity draws) with
      | some t' => (.ok (newIdentity draws).stored, t')
      | none => (.error .integrity, t) := by
  simp only [ensureIdentity, getIdentity, run_selectIdentity, absent, run_insertIdentity]
  cases inserted : t.insert (newIdentity draws) with
  | none => rfl
  | some t' =>
      obtain ⟨-, found⟩ := identity_insert rfl inserted
      exact run_refresh found

theorem ensureIdentity_ok {draws : Draws} {t' : IdentityTable}
    (ran : (ensureIdentity draws).run database t = (.ok row, t')) :
    t'.identity = some row ∧ (t' = t ∨ t.identity = none) := by
  cases found : t.identity with
  | some held =>
      rw [ensureIdentity_some draws found] at ran
      cases ran
      exact ⟨found, .inl rfl⟩
  | none =>
      rw [ensureIdentity_none draws found] at ran
      split at ran
      · rename_i t₁ inserted
        cases ran
        exact ⟨(identity_insert rfl inserted).2, .inr rfl⟩
      · cases ran

theorem ensureIdentity_run (draws : Draws) (t : IdentityTable) :
    (t.identity = none ∧ (ensureIdentity draws).run database t = (.error .integrity, t)) ∨
    ∃ row t', (ensureIdentity draws).run database t = (.ok row, t') ∧
      (t' = t ∨ t.identity = none ∧ row = (newIdentity draws).stored) := by
  cases found : t.identity with
  | some row => exact .inr ⟨row, t, ensureIdentity_some draws found, .inl rfl⟩
  | none =>
      rw [ensureIdentity_none draws found]
      cases t.insert (newIdentity draws) with
      | none => exact .inl ⟨rfl, rfl⟩
      | some t' => exact .inr ⟨_, t', rfl, .inr ⟨rfl, rfl⟩⟩

theorem eq_of_ensured {draws : Draws} {t' : IdentityTable}
    (ensured : (ensureIdentity draws).run database t = (.ok row, t'))
    (active : truthy row.tokenHash) : t' = t := by
  rcases ensureIdentity_run draws t with ⟨-, failed⟩ | ⟨row, t', ran, same | ⟨-, rfl⟩⟩
  · rw [failed] at ensured
    cases ensured
  · rw [ran] at ensured
    cases ensured
    exact same
  · rw [ran] at ensured
    cases ensured
    cases active

def created (hashToken : String → String) (label : Option String) (draws : Draws)
    (identity : AgentIdentity) : AgentIdentity :=
  { identity with
    tokenHash := some (hashToken draws.token)
    tokenLabel := label
    tokenCreatedAt := some draws.now }

def revoked (identity : AgentIdentity) : AgentIdentity :=
  { identity with tokenHash := none, tokenLabel := none, tokenCreatedAt := none }

def adopted (hashToken : String → String) (token : String) (draws : Draws)
    (identity : AgentIdentity) : AgentIdentity :=
  { identity with tokenHash := some (hashToken token), tokenCreatedAt := some draws.now }

theorem createToken_run {t' : IdentityTable} (label : Option String) (force : Bool) {draws : Draws}
    (ensured : (ensureIdentity draws).run database t = (.ok row, t')) :
    (createToken hashToken label force draws).run database t =
      if truthy row.tokenHash && !force then (.error .tokenExists, t')
      else (.ok ⟨draws.token, label⟩,
        t'.update (changes row (created hashToken label draws row))) := by
  rw [createToken, Program.run_bind_ok ensured]
  dsimp only
  by_cases refused : (truthy row.tokenHash && !force) = true
  · rw [if_pos refused, if_pos refused, Program.run_raise]
  · rw [if_neg refused, if_neg refused]
    exact run_commit _ _ _ (ensureIdentity_ok ensured).1

theorem revokeToken_run :
    revokeToken.run database t =
      match t.identity with
      | none => (.ok false, t)
      | some row =>
          if truthy row.tokenHash then (.ok true, t.update (changes row (revoked row)))
          else (.ok false, t) := by
  rw [revokeToken, getIdentity, run_selectIdentity]
  cases found : t.identity with
  | none => simp
  | some row =>
      cases active : truthy row.tokenHash with
      | false => simp [active]
      | true =>
          simp only [active, Bool.not_true, Bool.false_eq_true, ↓reduceIte]
          exact run_commit _ _ _ found

theorem verifyToken_run (token : String) :
    (verifyToken hashToken token).run database t =
      (.ok (t.identity.any fun row =>
        truthy row.tokenHash && row.tokenHash == some (hashToken token)), t) := by
  rw [verifyToken, getIdentity, run_selectIdentity]
  cases t.identity with
  | none => simp
  | some row => cases active : truthy row.tokenHash <;> simp [active]

theorem hasActiveToken_run :
    hasActiveToken.run database t =
      (.ok (t.identity.any fun row => truthy row.tokenHash), t) := by
  rw [hasActiveToken, getIdentity, run_selectIdentity]
  cases t.identity <;> simp

theorem reconcileEnvToken_run {t' : IdentityTable} (token : String) {draws : Draws}
    (ensured : (ensureIdentity draws).run database t = (.ok row, t')) :
    (reconcileEnvToken hashToken token draws).run database t =
      if truthy row.tokenHash then
        if row.tokenHash = some (hashToken token) then (.ok (), t') else (.error .tokenMismatch, t')
      else (.ok (), t'.update (changes row (adopted hashToken token draws row))) := by
  rw [reconcileEnvToken, Program.run_bind_ok ensured]
  dsimp only
  cases active : truthy row.tokenHash with
  | false =>
      simp only [Bool.not_false, Bool.false_eq_true, ↓reduceIte]
      exact run_commit row (adopted hashToken token draws row) .ret (ensureIdentity_ok ensured).1
  | true =>
      by_cases same : row.tokenHash = some (hashToken token) <;> simp [same]

theorem getAgentId_run {t' : IdentityTable} {draws : Draws}
    (ensured : (ensureIdentity draws).run database t = (.ok row, t')) :
    (getAgentId draws).run database t = (.ok row.agentId, t') := by
  rw [getAgentId, Program.run_bind_ok ensured]
  rfl

theorem bootstrapIdentity_run {t' : IdentityTable} (envToken : Option String) {draws : Draws}
    (again : Draws) (ensured : (ensureIdentity draws).run database t = (.ok row, t')) :
    (bootstrapIdentity hashToken envToken draws again).run database t =
      match envToken with
      | none => (.ok row.agentId, t')
      | some token =>
          if token = "" then (.ok row.agentId, t')
          else
            (((reconcileEnvToken hashToken token again).run database t').1.map fun _ => row.agentId,
              ((reconcileEnvToken hashToken token again).run database t').2) := by
  rw [bootstrapIdentity, Program.run_bind_ok (getAgentId_run ensured)]
  cases envToken with
  | none => rfl
  | some token =>
      by_cases blank : token = ""
      · simp [blank]
      · simp only [beq_iff_eq, blank, ↓reduceIte]
        exact Program.run_map ..

end

/-! ## One lemma per call -/

namespace TokenCall

section

variable (hashToken : String → String) (t : IdentityTable) (draws again : Draws)

theorem run_ensureIdentity :
    (ensureIdentity draws).run hashToken t =
      (((Tokens.ensureIdentity draws).run database t).1.map .identity,
        ((Tokens.ensureIdentity draws).run database t).2) := Program.run_map ..

theorem run_getAgentId :
    (getAgentId draws).run hashToken t =
      (((Tokens.getAgentId draws).run database t).1.map .agentId,
        ((Tokens.getAgentId draws).run database t).2) := Program.run_map ..

theorem run_hasActiveToken :
    hasActiveToken.run hashToken t =
      ((Tokens.hasActiveToken.run database t).1.map .bool,
        (Tokens.hasActiveToken.run database t).2) := Program.run_map ..

theorem run_createToken (label : Option String) (force : Bool) :
    (createToken label force draws).run hashToken t =
      (((Tokens.createToken hashToken label force draws).run database t).1.map .created,
        ((Tokens.createToken hashToken label force draws).run database t).2) := Program.run_map ..

theorem run_revokeToken :
    revokeToken.run hashToken t =
      ((Tokens.revokeToken.run database t).1.map .bool,
        (Tokens.revokeToken.run database t).2) := Program.run_map ..

theorem run_verifyToken (token : String) :
    (verifyToken token).run hashToken t =
      (((Tokens.verifyToken hashToken token).run database t).1.map .bool,
        ((Tokens.verifyToken hashToken token).run database t).2) := Program.run_map ..

theorem run_reconcileEnvToken (token : String) :
    (reconcileEnvToken token draws).run hashToken t =
      (((Tokens.reconcileEnvToken hashToken token draws).run database t).1.map fun _ => .none,
        ((Tokens.reconcileEnvToken hashToken token draws).run database t).2) := Program.run_map ..

theorem run_bootstrapIdentity (envToken : Option String) :
    (bootstrapIdentity envToken draws again).run hashToken t =
      (((Tokens.bootstrapIdentity hashToken envToken draws again).run database t).1.map .agentId,
        ((Tokens.bootstrapIdentity hashToken envToken draws again).run database t).2) :=
  Program.run_map ..

end

theorem run_created {hashToken : String → String} {t : IdentityTable} {call : TokenCall}
    {token : CreatedToken} (ran : (call.run hashToken t).1 = .ok (.created token)) :
    ∃ label force draws, call = .createToken label force draws ∧
      ((Tokens.createToken hashToken label force draws).run database t).1 = .ok token := by
  have mapped {α : Type} {f : α → TokenOutcome} {answer : Except TokenError α}
      (image : answer.map f = .ok (.created token)) : ∃ value, answer = .ok value ∧
        f value = .created token := by
    cases answer with
    | error error => cases image
    | ok value => exact ⟨value, rfl, Except.ok.inj image⟩
  cases call with
  | createToken label force draws =>
      rw [run_createToken] at ran
      obtain ⟨value, answered, same⟩ := mapped ran
      cases same
      exact ⟨label, force, draws, rfl, answered⟩
  | ensureIdentity draws => obtain ⟨_, -, same⟩ := mapped (run_ensureIdentity .. ▸ ran); cases same
  | getAgentId draws => obtain ⟨_, -, same⟩ := mapped (run_getAgentId .. ▸ ran); cases same
  | hasActiveToken => obtain ⟨_, -, same⟩ := mapped (run_hasActiveToken .. ▸ ran); cases same
  | revokeToken => obtain ⟨_, -, same⟩ := mapped (run_revokeToken .. ▸ ran); cases same
  | verifyToken token => obtain ⟨_, -, same⟩ := mapped (run_verifyToken .. ▸ ran); cases same
  | reconcileEnvToken token draws =>
      obtain ⟨_, -, same⟩ := mapped (run_reconcileEnvToken .. ▸ ran); cases same
  | bootstrapIdentity envToken draws again =>
      obtain ⟨_, -, same⟩ := mapped (run_bootstrapIdentity .. ▸ ran); cases same

end TokenCall

end OopsysAgent.Tokens
