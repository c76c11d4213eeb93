import OopsysAgent.Tokens.Register

/-!
# Revoked and replaced tokens

After `revoke_token` or a forced `create_token` a token verifies again only if a later call puts it
back. `create_token` does so when it draws it again, and an agent start does so when it finds no
active token and the environment still names the old one.
-/

namespace OopsysAgent.Tokens
open Concurrency IdentityTable

/-- The calls that end an active token: its revocation, and its replacement by another. -/
def TokenCall.Kills (token : String) : TokenCall → Prop
  | .revokeToken => True
  | .createToken _ force draws => force = true ∧ draws.token ≠ token
  | _ => False

def TokenCall.Reinstates (hashToken : String → String) (token : String) (t : IdentityTable) :
    TokenCall → Prop
  | .createToken label force draws =>
      ((Tokens.createToken hashToken label force draws).run database t).1 = .ok ⟨token, label⟩
  | .bootstrapIdentity envToken _ _ =>
      envToken = some token ∧ (Tokens.hasActiveToken.run database t).1 = .ok false
  | .reconcileEnvToken envToken _ =>
      envToken = token ∧ (Tokens.hasActiveToken.run database t).1 = .ok false
  | _ => False

section

variable {hashToken : String → String} {t : IdentityTable} {row : AgentIdentity} {token : String}

theorem Verifies.stored (verifies : Verifies hashToken token t) (found : t.identity = some row) :
    truthy row.tokenHash ∧ row.tokenHash = some (hashToken token) := by
  obtain ⟨held, here, active, stored⟩ := (verifies_iff token).mp verifies
  rw [found, Option.some.injEq] at here
  exact here ▸ ⟨active, stored⟩

private theorem verifies_of_ensured {draws : Draws} {t' : IdentityTable}
    (ensured : (ensureIdentity draws).run database t = (.ok row, t'))
    (verifies : Verifies hashToken token t') : Verifies hashToken token t :=
  eq_of_ensured ensured (verifies.stored (ensureIdentity_ok ensured).1).1 ▸ verifies

private theorem not_verifies_revoked (found : t.identity = some row) :
    ¬Verifies hashToken token (t.update (changes row (revoked row))) := by
  intro verifies
  have now : (t.update (changes row (revoked row))).identity = _ :=
    (identity_update ..).trans (congrArg _ found)
  have stored := (verifies.stored now).2
  rw [changes_apply_tokenHash] at stored
  cases stored

private theorem eq_of_verifies_update (injective : Function.Injective hashToken)
    (found : t.identity = some row) {assigned : AgentIdentity} {other : String}
    (stores : assigned.tokenHash = some (hashToken other))
    (verifies : Verifies hashToken token (t.update (changes row assigned))) : other = token := by
  have now : (t.update (changes row assigned)).identity = _ :=
    (identity_update ..).trans (congrArg _ found)
  have stored := (verifies.stored now).2
  rw [changes_apply_tokenHash, stores, Option.some.injEq] at stored
  exact injective stored

private theorem hasActiveToken_of_ensured {draws : Draws} {t' : IdentityTable}
    (ensured : (ensureIdentity draws).run database t = (.ok row, t'))
    (inactive : ¬truthy row.tokenHash) : (hasActiveToken.run database t).1 = .ok false := by
  rw [hasActiveToken_run]
  obtain ⟨found, same | absent⟩ := ensureIdentity_ok ensured
  · rw [← same, found]
    simpa using inactive
  · rw [absent]
    rfl

private theorem reconcileEnvToken_reinstates (injective : Function.Injective hashToken)
    {envToken : String} {draws : Draws} (dead : ¬Verifies hashToken token t)
    (verifies : Verifies hashToken token
      ((reconcileEnvToken hashToken envToken draws).run database t).2) :
    envToken = token ∧ (hasActiveToken.run database t).1 = .ok false := by
  rcases ensureIdentity_run draws t with ⟨-, failed⟩ | ⟨row, t', ensured, -⟩
  · rw [reconcileEnvToken, Program.run_bind_error failed] at verifies
    exact absurd verifies dead
  · rw [reconcileEnvToken_run envToken ensured] at verifies
    by_cases active : truthy row.tokenHash
    · rw [if_pos active] at verifies
      refine absurd (verifies_of_ensured ensured ?_) dead
      split at verifies <;> exact verifies
    · rw [if_neg active] at verifies
      exact ⟨eq_of_verifies_update injective (ensureIdentity_ok ensured).1 rfl verifies,
        hasActiveToken_of_ensured ensured active⟩

private theorem bootstrapIdentity_reinstates (injective : Function.Injective hashToken)
    {envToken : Option String} {draws again : Draws} (dead : ¬Verifies hashToken token t)
    (verifies : Verifies hashToken token
      ((bootstrapIdentity hashToken envToken draws again).run database t).2) :
    envToken = some token ∧ (hasActiveToken.run database t).1 = .ok false := by
  rcases ensureIdentity_run draws t with ⟨-, failed⟩ | ⟨row, t', ensured, -⟩
  · rw [bootstrapIdentity, getAgentId,
      Program.run_bind_error (Program.run_bind_error failed _)] at verifies
    exact absurd verifies dead
  · rw [bootstrapIdentity_run envToken again ensured] at verifies
    have still : ¬Verifies hashToken token t' := fun now => dead (verifies_of_ensured ensured now)
    cases envToken with
    | none => exact absurd verifies still
    | some envToken =>
        dsimp only at verifies
        split at verifies
        · exact absurd verifies still
        · obtain ⟨rfl, inactive⟩ := reconcileEnvToken_reinstates injective still verifies
          have found := (ensureIdentity_ok ensured).1
          refine ⟨rfl, hasActiveToken_of_ensured ensured ?_⟩
          rw [hasActiveToken_run, found] at inactive
          simpa using inactive

/-- One call: a token that verifies after it but not before was put there by it. -/
theorem TokenCall.reinstates (injective : Function.Injective hashToken) {call : TokenCall}
    (dead : ¬Verifies hashToken token t)
    (verifies : Verifies hashToken token (call.run hashToken t).2) :
    call.Reinstates hashToken token t := by
  cases call with
  | createToken label force draws =>
      rw [run_createToken] at verifies
      rcases ensureIdentity_run draws t with ⟨-, failed⟩ | ⟨row, t', ensured, -⟩
      · rw [Tokens.createToken, Program.run_bind_error failed] at verifies
        exact absurd verifies dead
      · rw [createToken_run label force ensured] at verifies
        rw [TokenCall.Reinstates, createToken_run label force ensured]
        split at verifies
        · exact absurd (verifies_of_ensured ensured verifies) dead
        · rename_i accepted
          rw [if_neg accepted]
          rw [eq_of_verifies_update injective (ensureIdentity_ok ensured).1 rfl verifies]
  | revokeToken =>
      rw [run_revokeToken, revokeToken_run] at verifies
      split at verifies
      · exact absurd verifies dead
      · rename_i row found
        split at verifies
        · exact absurd verifies (not_verifies_revoked found)
        · exact absurd verifies dead
  | reconcileEnvToken envToken draws =>
      rw [run_reconcileEnvToken] at verifies
      exact reconcileEnvToken_reinstates injective dead verifies
  | bootstrapIdentity envToken draws again =>
      rw [run_bootstrapIdentity] at verifies
      exact bootstrapIdentity_reinstates injective dead verifies
  | ensureIdentity draws =>
      rw [run_ensureIdentity] at verifies
      rcases ensureIdentity_run draws t with ⟨-, failed⟩ | ⟨row, t', ensured, -⟩
      · rw [failed] at verifies
        exact absurd verifies dead
      · rw [ensured] at verifies
        exact absurd (verifies_of_ensured ensured verifies) dead
  | getAgentId draws =>
      rw [run_getAgentId] at verifies
      rcases ensureIdentity_run draws t with ⟨-, failed⟩ | ⟨row, t', ensured, -⟩
      · rw [Tokens.getAgentId, Program.run_bind_error failed] at verifies
        exact absurd verifies dead
      · rw [getAgentId_run ensured] at verifies
        exact absurd (verifies_of_ensured ensured verifies) dead
  | hasActiveToken =>
      rw [run_hasActiveToken, hasActiveToken_run] at verifies
      exact absurd verifies dead
  | verifyToken other =>
      rw [run_verifyToken, verifyToken_run] at verifies
      exact absurd verifies dead

theorem TokenCall.kills (injective : Function.Injective hashToken) {call : TokenCall}
    (kills : call.Kills token) (active : Verifies hashToken token t) :
    ¬Verifies hashToken token (call.run hashToken t).2 := by
  intro verifies
  obtain ⟨row, found, held, -⟩ := (verifies_iff token).mp active
  cases call with
  | revokeToken =>
      rw [run_revokeToken, revokeToken_run, found] at verifies
      simp only [held, ↓reduceIte] at verifies
      exact not_verifies_revoked found verifies
  | createToken label force draws =>
      obtain ⟨forced, other⟩ := kills
      rw [run_createToken, createToken_run label force (ensureIdentity_some draws found), forced,
        Bool.not_true, Bool.and_false] at verifies
      exact other (eq_of_verifies_update injective found rfl verifies)
  | _ => exact kills

end

/-- A token that was active and then revoked or replaced verifies again only after a call that
returned it, or an agent start that adopted it from the environment. -/
theorem killed_token_stays_dead (hashToken : String → String)
    (injective : Function.Injective hashToken) (t : IdentityTable) (token : String)
    (kill : TokenCall) (later : List TokenCall) (active : Verifies hashToken token t)
    (kills : kill.Kills token)
    (verifies : Verifies hashToken token ((tokenService hashToken).run (kill :: later) t).2) :
    ∃ before call after, later = before ++ call :: after ∧
      call.Reinstates hashToken token ((tokenService hashToken).run (kill :: before) t).2 := by
  obtain ⟨before, call, after, split, dead, now⟩ :=
    Object.exists_cause (TokenCall.kills injective kills active) verifies
  exact ⟨before, call, after, split, TokenCall.reinstates injective dead now⟩

/-- "alpha" is revoked, and a start with `AGENT__TOKEN=alpha` adopts it. -/
def revokeAndRestart : List TokenCall :=
  [.bootstrapIdentity (some "alpha") (sampleDraws "") (sampleDraws "")]

theorem killed_token_stays_dead_alpha :
    ∃ before call after, revokeAndRestart = before ++ call :: after ∧
      call.Reinstates sampleHash "alpha"
        ((tokenService sampleHash).run (.revokeToken :: before) alphaTable).2 :=
  killed_token_stays_dead sampleHash sampleHash_injective alphaTable "alpha" .revokeToken
    revokeAndRestart rfl trivial rfl

/-- The token verifies before it is revoked and after the next start, and no later call of the run
is a `create_token`. -/
theorem revoked_token_returns :
    Verifies sampleHash "alpha" alphaTable ∧
      ¬Verifies sampleHash "alpha" ((tokenService sampleHash).run [.revokeToken] alphaTable).2 ∧
      Verifies sampleHash "alpha"
        ((tokenService sampleHash).run (.revokeToken :: revokeAndRestart) alphaTable).2 ∧
      ∀ call ∈ revokeAndRestart, ∀ label force draws, call ≠ .createToken label force draws := by
  refine ⟨rfl, ?_, rfl, ?_⟩
  · exact fun verifies => Bool.false_ne_true (TokenOutcome.bool.inj
      (congrArg TokenOutcome.bool (Except.ok.inj verifies)))
  · simp [revokeAndRestart]

end OopsysAgent.Tokens
