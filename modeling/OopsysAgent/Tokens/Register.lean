import OopsysAgent.Tokens.Agreement

/-!
# The one-slot token register

What `TokenService` is for, without hashes, rows or columns: an agent id that is drawn once, and a
slot that holds at most one token with an optional label.
-/

namespace OopsysAgent.Tokens
open Concurrency IdentityTable

structure Register where
  agentId : Option String := none
  token : Option String := none
  label : Option String := none

namespace Register

def ensure (draws : Draws) (r : Register) : Register :=
  { r with agentId := some (r.agentId.getD draws.uuid) }

def reconcile (token : String) (draws : Draws) (r : Register) : Except TokenError Unit × Register :=
  match r.token with
  | none => (.ok (), { r.ensure draws with token := some token })
  | some active => if active = token then (.ok (), r) else (.error .tokenMismatch, r)

def apply (call : TokenCall) (r : Register) : Except TokenError TokenOutcome × Register :=
  match call with
  | .ensureIdentity draws | .getAgentId draws =>
      (.ok (.agentId (r.agentId.getD draws.uuid)), r.ensure draws)
  | .hasActiveToken => (.ok (.bool r.token.isSome), r)
  | .createToken label force draws =>
      if r.token.isSome && !force then (.error .tokenExists, r)
      else (.ok (.created ⟨draws.token, label⟩),
        { r.ensure draws with token := some draws.token, label })
  | .revokeToken => (.ok (.bool r.token.isSome), { r with token := none, label := none })
  | .verifyToken token => (.ok (.bool (r.token == some token)), r)
  | .reconcileEnvToken token draws =>
      ((r.reconcile token draws).1.map fun _ => .none, (r.reconcile token draws).2)
  | .bootstrapIdentity envToken draws again =>
      let r := r.ensure draws
      match envToken with
      | none => (.ok (.agentId (r.agentId.getD "")), r)
      | some token =>
          if token = "" then (.ok (.agentId (r.agentId.getD "")), r)
          else ((r.reconcile token again).1.map fun _ => .agentId (r.agentId.getD ""),
            (r.reconcile token again).2)

end Register

def register : Object TokenCall (Except TokenError TokenOutcome) Register where
  apply := Register.apply

/-- Of the row that `ensure_identity` returns, the register knows the agent id. -/
def TokenOutcome.view : TokenOutcome → TokenOutcome
  | .identity row => .agentId row.agentId
  | outcome => outcome

/-- The table stores a register: at most one row, the hash of the token, and the columns of the
token set or empty together. -/
structure Represents (hashToken : String → String) (t : IdentityTable) (r : Register) : Prop where
  rows : t.rows = t.identity.toList
  agentId : t.identity.map AgentIdentity.agentId = r.agentId
  tokenHash : t.identity.bind AgentIdentity.tokenHash = r.token.map hashToken
  tokenLabel : t.identity.bind AgentIdentity.tokenLabel = r.label
  tokenCreatedAt : (t.identity.bind AgentIdentity.tokenCreatedAt).isSome = r.token.isSome
  label : r.token = none → r.label = none

section

variable {hashToken : String → String} {t : IdentityTable} {r : Register} {row : AgentIdentity}

theorem represents_empty : Represents hashToken IdentityTable.empty {} :=
  ⟨rfl, rfl, rfl, rfl, rfl, fun _ => rfl⟩

theorem Represents.active (represents : Represents hashToken t r)
    (nonempty : ∀ token, hashToken token ≠ "") (found : t.identity = some row) :
    truthy row.tokenHash = r.token.isSome := by
  have stored := represents.tokenHash
  rw [found, Option.bind_some] at stored
  rw [stored]
  cases r.token with
  | none => rfl
  | some token => simp [truthy, nonempty]

theorem Represents.hash_eq_iff (represents : Represents hashToken t r)
    (injective : Function.Injective hashToken) (found : t.identity = some row) (token : String) :
    row.tokenHash = some (hashToken token) ↔ r.token = some token := by
  have stored := represents.tokenHash
  rw [found, Option.bind_some] at stored
  rw [stored]
  cases r.token with
  | none => simp
  | some active => simp [injective.eq_iff]

theorem Represents.token_none (represents : Represents hashToken t r)
    (absent : t.identity = none) : r.token = none := by
  have stored := represents.tokenHash
  rw [absent, Option.bind_none] at stored
  exact Option.map_eq_none_iff.mp stored.symm

theorem Represents.update (represents : Represents hashToken t r) (found : t.identity = some row)
    {assigned : AgentIdentity} (token label : Option String)
    (tokenHash : assigned.tokenHash = token.map hashToken) (tokenLabel : assigned.tokenLabel = label)
    (tokenCreatedAt : assigned.tokenCreatedAt.isSome = token.isSome)
    (unlabelled : token = none → label = none) :
    Represents hashToken (t.update (changes row assigned)) { r with token, label } where
  rows := by
    have only := represents.rows
    rw [identity_update, found]
    rw [found] at only
    simp [IdentityTable.update, only, updateRow, identity_id found]
  agentId := by
    have same := represents.agentId
    rw [found] at same
    rw [identity_update, found]
    exact same
  tokenHash := by
    rw [identity_update, found]
    simpa using tokenHash
  tokenLabel := by
    rw [identity_update, found]
    simpa using tokenLabel
  tokenCreatedAt := by
    rw [identity_update, found]
    simpa using tokenCreatedAt
  label := unlabelled

theorem Represents.ensure (represents : Represents hashToken t r) (draws : Draws) :
    ∃ row t', (ensureIdentity draws).run database t = (.ok row, t') ∧
      Represents hashToken t' (r.ensure draws) := by
  cases found : t.identity with
  | some row =>
      have stored := represents.agentId
      rw [found, Option.map_some] at stored
      have same : r.ensure draws = r := by
        rw [Register.ensure, ← stored, Option.getD_some, stored]
      exact ⟨row, t, ensureIdentity_some draws found, same.symm ▸ represents⟩
  | none =>
      have only := represents.rows
      rw [found] at only
      obtain rfl : t = IdentityTable.empty := IdentityTable.ext only
      obtain ⟨t', inserted⟩ := insert_empty (newIdentity draws)
      have now := (identity_insert rfl inserted).2
      have unnamed : r.agentId = none := represents.agentId.symm
      have free : r.token = none := represents.token_none found
      have unlabelled : r.label = none := represents.tokenLabel.symm
      refine ⟨_, t', by rw [ensureIdentity_none draws found, inserted], ?_⟩
      constructor
      · rw [now, (insert_eq_some inserted).2]
        rfl
      · simp [now, Register.ensure, unnamed, AgentIdentity.stored, newIdentity]
      · simp [now, Register.ensure, free, AgentIdentity.stored, newIdentity]
      · simp [now, Register.ensure, unlabelled, AgentIdentity.stored, newIdentity]
      · simp [now, Register.ensure, free, AgentIdentity.stored, newIdentity]
      · exact fun _ => unlabelled

theorem Represents.agentId_eq (represents : Represents hashToken t r)
    (found : t.identity = some row) : r.agentId = some row.agentId := by
  rw [← represents.agentId, found]
  rfl

theorem Represents.ensure_of_token (represents : Represents hashToken t r) (draws : Draws)
    (active : r.token.isSome) : r.ensure draws = r := by
  cases found : t.identity with
  | none => simp [represents.token_none found] at active
  | some row =>
      have named := represents.agentId_eq found
      rw [Register.ensure, named, Option.getD_some, ← named]

/-! ## Simulation, call by call -/

theorem Represents.createToken (represents : Represents hashToken t r)
    (nonempty : ∀ token, hashToken token ≠ "") (label : Option String) (force : Bool)
    (draws : Draws) :
    (((Tokens.createToken hashToken label force draws).run database t).1.map .created =
      (r.apply (.createToken label force draws)).1) ∧
    Represents hashToken ((Tokens.createToken hashToken label force draws).run database t).2
      (r.apply (.createToken label force draws)).2 := by
  obtain ⟨row, t', ensured, stored⟩ := represents.ensure draws
  have found := (ensureIdentity_ok ensured).1
  have active : truthy row.tokenHash = r.token.isSome := stored.active nonempty found
  rw [createToken_run label force ensured, active, Register.apply]
  by_cases refused : (r.token.isSome && !force) = true
  · rw [if_pos refused, if_pos refused]
    have isSome : r.token.isSome := by simp_all
    exact ⟨rfl, represents.ensure_of_token draws isSome ▸ stored⟩
  · rw [if_neg refused, if_neg refused]
    exact ⟨rfl, stored.update found (some draws.token) label rfl rfl rfl (by simp)⟩

theorem Represents.revokeToken (represents : Represents hashToken t r)
    (nonempty : ∀ token, hashToken token ≠ "") :
    (Tokens.revokeToken.run database t).1 = .ok r.token.isSome ∧
    Represents hashToken (Tokens.revokeToken.run database t).2
      { r with token := none, label := none } := by
  rw [revokeToken_run]
  have idle (free : r.token = none) :
      Represents hashToken t { r with token := none, label := none } := by
    have unlabelled := represents.label free
    cases r
    dsimp only at free unlabelled
    subst free unlabelled
    exact represents
  cases found : t.identity with
  | none =>
      have free := represents.token_none found
      exact ⟨by simp [free], idle free⟩
  | some row =>
      have active : truthy row.tokenHash = r.token.isSome := represents.active nonempty found
      dsimp only
      rw [active]
      cases held : r.token with
      | none => exact ⟨rfl, idle held⟩
      | some token =>
          exact ⟨rfl, represents.update found none none rfl rfl rfl (by simp)⟩

theorem Represents.reconcileEnvToken (represents : Represents hashToken t r)
    (injective : Function.Injective hashToken) (nonempty : ∀ token, hashToken token ≠ "")
    (token : String) (draws : Draws) :
    ((Tokens.reconcileEnvToken hashToken token draws).run database t).1 =
      (r.reconcile token draws).1 ∧
    Represents hashToken ((Tokens.reconcileEnvToken hashToken token draws).run database t).2
      (r.reconcile token draws).2 := by
  obtain ⟨row, t', ensured, stored⟩ := represents.ensure draws
  have found := (ensureIdentity_ok ensured).1
  have active : truthy row.tokenHash = r.token.isSome := stored.active nonempty found
  have matched : row.tokenHash = some (hashToken token) ↔ r.token = some token :=
    stored.hash_eq_iff injective found token
  rw [reconcileEnvToken_run token ensured, active, Register.reconcile]
  cases held : r.token with
  | none =>
      have free : (r.ensure draws).token = none := held
      refine ⟨rfl, stored.update found (some token) r.label rfl ?_ rfl (by simp)⟩
      have unlabelled := stored.tokenLabel
      rw [found] at unlabelled
      exact unlabelled
  | some other =>
      have same : r.ensure draws = r := represents.ensure_of_token draws (by simp [held])
      rw [held, Option.some.injEq] at matched
      simp only [Option.isSome_some, ↓reduceIte, matched]
      split
      · exact ⟨rfl, same ▸ stored⟩
      · exact ⟨rfl, same ▸ stored⟩

theorem Represents.verifyToken (represents : Represents hashToken t r)
    (injective : Function.Injective hashToken) (nonempty : ∀ token, hashToken token ≠ "")
    (token : String) :
    (Tokens.verifyToken hashToken token).run database t = (.ok (r.token == some token), t) := by
  rw [verifyToken_run]
  cases found : t.identity with
  | none => simp [represents.token_none found]
  | some row =>
      have matched := represents.hash_eq_iff injective found token
      have active := represents.active nonempty found
      simp only [Option.any_some, active, Prod.mk.injEq, Except.ok.injEq, and_true]
      rw [Bool.eq_iff_iff]
      simp only [Bool.and_eq_true, beq_iff_eq, matched]
      exact ⟨fun both => both.2, fun same => ⟨by simp [same], same⟩⟩

theorem Represents.hasActiveToken (represents : Represents hashToken t r)
    (nonempty : ∀ token, hashToken token ≠ "") :
    Tokens.hasActiveToken.run database t = (.ok r.token.isSome, t) := by
  rw [hasActiveToken_run]
  cases found : t.identity with
  | none => simp [represents.token_none found]
  | some row => simp [represents.active nonempty found]

theorem tokenService_simulates (injective : Function.Injective hashToken)
    (nonempty : ∀ token, hashToken token ≠ "") :
    (tokenService hashToken).Simulates register (Represents hashToken)
      (Except.map TokenOutcome.view) := by
  intro call t r represents
  change (call.run hashToken t).1.map _ = (r.apply call).1 ∧
    Represents hashToken (call.run hashToken t).2 (r.apply call).2
  cases call with
  | ensureIdentity draws =>
      obtain ⟨row, t', ensured, stored⟩ := represents.ensure draws
      have named := stored.agentId_eq (ensureIdentity_ok ensured).1
      rw [TokenCall.run_ensureIdentity, ensured]
      refine ⟨?_, stored⟩
      simpa [Register.ensure, Except.map, TokenOutcome.view, Register.apply] using named.symm
  | getAgentId draws =>
      obtain ⟨row, t', ensured, stored⟩ := represents.ensure draws
      have named := stored.agentId_eq (ensureIdentity_ok ensured).1
      rw [TokenCall.run_getAgentId, getAgentId_run ensured]
      refine ⟨?_, stored⟩
      simpa [Register.ensure, Except.map, TokenOutcome.view, Register.apply] using named.symm
  | hasActiveToken =>
      rw [TokenCall.run_hasActiveToken, represents.hasActiveToken nonempty]
      exact ⟨rfl, represents⟩
  | createToken label force draws =>
      obtain ⟨answer, stored⟩ := represents.createToken nonempty label force draws
      rw [TokenCall.run_createToken, answer]
      refine ⟨?_, stored⟩
      rw [Register.apply]
      split <;> rfl
  | revokeToken =>
      obtain ⟨answer, stored⟩ := represents.revokeToken nonempty
      rw [TokenCall.run_revokeToken, answer]
      exact ⟨rfl, stored⟩
  | verifyToken token =>
      rw [TokenCall.run_verifyToken, represents.verifyToken injective nonempty]
      exact ⟨rfl, represents⟩
  | reconcileEnvToken token draws =>
      obtain ⟨answer, stored⟩ := represents.reconcileEnvToken injective nonempty token draws
      rw [TokenCall.run_reconcileEnvToken, answer]
      refine ⟨?_, stored⟩
      rw [Register.apply]
      cases (r.reconcile token draws).1 <;> rfl
  | bootstrapIdentity envToken draws again =>
      obtain ⟨row, t', ensured, stored⟩ := represents.ensure draws
      have named := stored.agentId_eq (ensureIdentity_ok ensured).1
      rw [TokenCall.run_bootstrapIdentity, bootstrapIdentity_run envToken again ensured]
      cases envToken with
      | none => exact ⟨by simp [named, Except.map, TokenOutcome.view, Register.apply], stored⟩
      | some token =>
          simp only [Register.apply]
          by_cases blank : token = ""
          · simp only [blank, ↓reduceIte]
            exact ⟨by simp [named, Except.map, TokenOutcome.view], stored⟩
          · obtain ⟨answer, final⟩ := stored.reconcileEnvToken injective nonempty token again
            simp only [blank, ↓reduceIte, answer]
            refine ⟨?_, final⟩
            cases ((r.ensure draws).reconcile token again).1 <;>
              simp [named, Except.map, TokenOutcome.view]

/-! ## Calls that raise and calls that only ask -/

private theorem ensureIdentity_error {draws : Draws} {error : TokenError}
    (raised : ((ensureIdentity draws).run database t).1 = .error error) :
    ((ensureIdentity draws).run database t).2 = t := by
  rcases ensureIdentity_run draws t with ⟨-, failed⟩ | ⟨row, t', ran, -⟩
  · rw [failed]
  · rw [ran] at raised
    cases raised

private theorem getAgentId_error {draws : Draws} {error : TokenError}
    (raised : ((getAgentId draws).run database t).1 = .error error) :
    ((getAgentId draws).run database t).2 = t := by
  rcases ensureIdentity_run draws t with ⟨-, failed⟩ | ⟨row, t', ran, -⟩
  · rw [getAgentId, Program.run_bind_error failed]
  · rw [getAgentId_run ran] at raised
    cases raised

private theorem createToken_error {label : Option String} {force : Bool} {draws : Draws}
    {error : TokenError}
    (raised : ((createToken hashToken label force draws).run database t).1 = .error error) :
    ((createToken hashToken label force draws).run database t).2 = t := by
  rcases ensureIdentity_run draws t with ⟨-, failed⟩ | ⟨row, t', ran, -⟩
  · rw [Tokens.createToken, Program.run_bind_error failed]
  · rw [createToken_run label force ran] at raised ⊢
    split at raised
    · rename_i refused
      rw [if_pos refused]
      exact eq_of_ensured ran (by simp_all)
    · cases raised

private theorem reconcileEnvToken_error {token : String} {draws : Draws} {error : TokenError}
    (raised : ((reconcileEnvToken hashToken token draws).run database t).1 = .error error) :
    ((reconcileEnvToken hashToken token draws).run database t).2 = t ∧
      ∀ row, t.identity = some row → truthy row.tokenHash := by
  rcases ensureIdentity_run draws t with ⟨absent, failed⟩ | ⟨row, t', ran, -⟩
  · rw [Tokens.reconcileEnvToken, Program.run_bind_error failed]
    exact ⟨rfl, fun row found => by rw [absent] at found; cases found⟩
  · rw [reconcileEnvToken_run token ran] at raised ⊢
    by_cases active : truthy row.tokenHash
    · obtain rfl := eq_of_ensured ran active
      constructor
      · rw [if_pos active]
        split <;> rfl
      · intro held found
        have same : some held = some row := found.symm.trans (ensureIdentity_ok ran).1
        cases same
        exact active
    · rw [if_neg active] at raised
      cases raised

private theorem bootstrapIdentity_error {envToken : Option String} {draws again : Draws}
    {error : TokenError}
    (raised : ((bootstrapIdentity hashToken envToken draws again).run database t).1 =
      .error error) :
    ((bootstrapIdentity hashToken envToken draws again).run database t).2 = t := by
  rcases ensureIdentity_run draws t with ⟨-, failed⟩ | ⟨row, t', ran, -⟩
  · rw [bootstrapIdentity, getAgentId, Program.run_bind_error (Program.run_bind_error failed _)]
  · rw [bootstrapIdentity_run envToken again ran] at raised ⊢
    cases envToken with
    | none => cases raised
    | some token =>
        dsimp only at raised ⊢
        split at raised
        · cases raised
        · rename_i given
          rw [if_neg given]
          cases answer : ((reconcileEnvToken hashToken token again).run database t').1 with
          | ok value =>
              rw [answer] at raised
              cases raised
          | error refusal =>
              obtain ⟨same, active⟩ := reconcileEnvToken_error answer
              exact same.trans (eq_of_ensured ran (active row (ensureIdentity_ok ran).1))

theorem TokenCall.run_error {call : TokenCall} {error : TokenError}
    (raised : (call.run hashToken t).1 = .error error) : (call.run hashToken t).2 = t := by
  have failed {α : Type} {f : α → TokenOutcome} {answer : Except TokenError α}
      (image : answer.map f = .error error) : answer = .error error := by
    cases answer with
    | error e => cases image; rfl
    | ok value => cases image
  cases call with
  | ensureIdentity draws =>
      rw [run_ensureIdentity] at raised ⊢
      exact ensureIdentity_error (failed raised)
  | getAgentId draws =>
      rw [run_getAgentId] at raised ⊢
      exact getAgentId_error (failed raised)
  | hasActiveToken => rw [run_hasActiveToken, hasActiveToken_run]
  | createToken label force draws =>
      rw [run_createToken] at raised ⊢
      exact createToken_error (failed raised)
  | revokeToken =>
      rw [run_revokeToken, revokeToken_run] at raised
      have answered := failed raised
      split at answered
      · cases answered
      · split at answered <;> cases answered
  | verifyToken token => rw [run_verifyToken, verifyToken_run]
  | reconcileEnvToken token draws =>
      rw [run_reconcileEnvToken] at raised ⊢
      exact (reconcileEnvToken_error (failed raised)).1
  | bootstrapIdentity envToken draws again =>
      rw [run_bootstrapIdentity] at raised ⊢
      exact bootstrapIdentity_error (failed raised)

/-! ## The register's history -/

def Register.written (call : TokenCall) (r : Register) : Option (Option String) :=
  match call with
  | .createToken _ force draws =>
      if r.token.isSome && !force then none else some (some draws.token)
  | .revokeToken => some none
  | .reconcileEnvToken token _ => if r.token.isSome then none else some (some token)
  | .bootstrapIdentity envToken _ _ =>
      match envToken with
      | some token => if token = "" ∨ r.token.isSome then none else some (some token)
      | none => none
  | _ => none

theorem Register.reconcile_token (token : String) (draws : Draws) (r : Register) :
    (r.reconcile token draws).2.token = some (r.token.getD token) := by
  rw [Register.reconcile]
  cases held : r.token with
  | none => rfl
  | some active =>
      dsimp only
      split <;> exact held

theorem Register.apply_token (call : TokenCall) (r : Register) :
    (r.apply call).2.token = (Register.written call r).getD r.token := by
  cases call with
  | createToken label force draws =>
      simp only [Register.apply, Register.written]
      split <;> rfl
  | reconcileEnvToken token draws =>
      simp only [Register.apply, Register.written, Register.reconcile_token]
      cases r.token <;> rfl
  | bootstrapIdentity envToken draws again =>
      cases envToken with
      | none => rfl
      | some token =>
          simp only [Register.apply, Register.written]
          by_cases blank : token = ""
          · simp [blank, Register.ensure]
          · simp only [blank, ↓reduceIte, Register.reconcile_token, false_or, Register.ensure]
            cases r.token <;> rfl
  | _ => rfl

theorem Represents.raises_iff (represents : Represents hashToken t r)
    (injective : Function.Injective hashToken) (nonempty : ∀ token, hashToken token ≠ "")
    {call : TokenCall} {error : TokenError} :
    (call.run hashToken t).1 = .error error ↔ (r.apply call).1 = .error error := by
  have answers : (call.run hashToken t).1.map TokenOutcome.view = (r.apply call).1 :=
    (tokenService_simulates injective nonempty call t r represents).1
  rw [← answers]
  cases (call.run hashToken t).1 with
  | error raised => simp [Except.map]
  | ok outcome => simp [Except.map]

theorem Represents.columns (represents : Represents hashToken t r)
    (found : t.identity = some row) :
    (row.tokenCreatedAt.isSome ↔ row.tokenHash.isSome) ∧
      (row.tokenHash = none → row.tokenLabel = none) := by
  have createdAt := represents.tokenCreatedAt
  have stored := represents.tokenHash
  have labelled := represents.tokenLabel
  rw [found, Option.bind_some] at createdAt stored labelled
  rw [createdAt, stored, labelled, Option.isSome_map, Option.map_eq_none_iff]
  exact ⟨Iff.rfl, represents.label⟩

theorem Register.createToken_raises_iff (label : Option String) (force : Bool) (draws : Draws) :
    (r.apply (.createToken label force draws)).1 = .error .tokenExists ↔
      r.token.isSome ∧ force = false := by
  simp only [Register.apply]
  split
  · simp_all
  · simp_all

theorem Register.reconcileEnvToken_raises_iff (token : String) (draws : Draws) :
    (r.apply (.reconcileEnvToken token draws)).1 = .error .tokenMismatch ↔
      ∃ active, r.token = some active ∧ active ≠ token := by
  simp only [Register.apply, Register.reconcile]
  cases r.token with
  | none => simp [Except.map]
  | some active => by_cases same : active = token <;> simp [Except.map, same]

theorem agentId?_run {a : String} (stored : t.agentId? = some a) (more : List TokenCall) :
    ((tokenService hashToken).run more t).2.agentId? = some a := by
  refine Object.invariant (I := fun s : IdentityTable => s.agentId? = some a)
    (fun call s same => ?_) stored more
  have evolves : Evolves s (call.run hashToken s).2 :=
    ((call_keeps call s).run Evolves.refl Evolves.trans).1
  exact evolves.agentId a same

end

/-- After any calls on an empty database the table stores the register, the calls answered as the
register does, and each next call does what the register says. -/
theorem tokenService_refines_register (hashToken : String → String)
    (injective : Function.Injective hashToken) (nonempty : ∀ token, hashToken token ≠ "")
    (calls : List TokenCall) :
    let t := ((tokenService hashToken).run calls IdentityTable.empty).2
    let r := (register.run calls {}).2
    ((tokenService hashToken).run calls IdentityTable.empty).1.map (Except.map TokenOutcome.view) =
      (register.run calls {}).1 ∧
    Represents hashToken t r ∧
    (∀ token, (TokenCall.run hashToken (.verifyToken token) t).1 = .ok (.bool true) ↔
      register.lastWrite Register.written calls {} = some (some token)) ∧
    (∀ label force draws,
      (TokenCall.run hashToken (.createToken label force draws) t).1 = .error .tokenExists ↔
        r.token.isSome ∧ force = false) ∧
    (∀ token draws,
      (TokenCall.run hashToken (.reconcileEnvToken token draws) t).1 = .error .tokenMismatch ↔
        ∃ active, r.token = some active ∧ active ≠ token) ∧
    (∀ call : TokenCall,
      (∃ error, (call.run hashToken t).1 = .error error) ∨ call = .hasActiveToken ∨
        (∃ token, call = .verifyToken token) → (call.run hashToken t).2 = t) ∧
    (∀ row, t.identity = some row →
      (row.tokenCreatedAt.isSome ↔ row.tokenHash.isSome) ∧
      (row.tokenHash = none → row.tokenLabel = none)) ∧
    (∀ a, t.agentId? = some a →
      ∀ more, ((tokenService hashToken).run more t).2.agentId? = some a) ∧
    (TokenCall.run hashToken .revokeToken t).1 = .ok (.bool r.token.isSome) := by
  intro t r
  obtain ⟨answers, represents⟩ :=
    (tokenService_simulates injective nonempty).run represents_empty calls
  refine ⟨answers, represents, fun token => ?_, fun label force draws => ?_, fun token draws => ?_,
    ?_, fun row found => represents.columns found, fun a stored more => agentId?_run stored more,
    ?_⟩
  · have held : r.token = (register.lastWrite Register.written calls {}).getD none :=
      Object.slot_eq_lastWrite Register.apply_token calls _
    rw [TokenCall.run_verifyToken, represents.verifyToken injective nonempty]
    simp only [Except.map, Except.ok.injEq, TokenOutcome.bool.injEq, beq_iff_eq]
    rw [show (register.run calls {}).2.token = _ from held]
    cases register.lastWrite Register.written calls {} <;> simp
  · rw [represents.raises_iff injective nonempty, Register.createToken_raises_iff]
  · rw [represents.raises_iff injective nonempty, Register.reconcileEnvToken_raises_iff]
  · rintro call (⟨error, raised⟩ | rfl | ⟨token, rfl⟩)
    · exact TokenCall.run_error raised
    · rw [TokenCall.run_hasActiveToken, hasActiveToken_run]
    · rw [TokenCall.run_verifyToken, verifyToken_run]
  · rw [TokenCall.run_revokeToken, (represents.revokeToken nonempty).1]
    rfl

theorem tokenService_refines_register_beta :
    Represents sampleHash
      ((tokenService sampleHash).run
        [.createToken (some "ci") false (sampleDraws "alpha"),
          .createToken none false (sampleDraws "beta"), .revokeToken,
          .reconcileEnvToken "beta" (sampleDraws "")] IdentityTable.empty).2
      { agentId := some (sampleDraws "alpha").uuid, token := some "beta" } :=
  (tokenService_refines_register sampleHash sampleHash_injective sampleHash_ne_empty _).2.1

end OopsysAgent.Tokens
