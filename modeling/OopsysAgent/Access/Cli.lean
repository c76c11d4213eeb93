import OopsysAgent.Library.Task
import OopsysAgent.Tokens.Register

/-!
# The command line

`oopsys-agent token create`, `list` and `revoke`, each on a session of its own. A command ends with
a result, from which its lines and its exit code follow.
-/

namespace OopsysAgent.Cli
open Concurrency Tokens IdentityTable

inductive CliResult
  | refused
  | created (agentId token : String)
  | listed (agentId : String) (active : Bool) (label : Option String) (createdAt : Option DateTime)
  | revoked (found : Bool)
  deriving DecidableEq

/-- `value or '-'` -/
def orDash : Option String → String
  | none => "-"
  | some value => if value = "" then "-" else value

def CliResult.lines : CliResult → List String
  | .refused => ["An active token already exists. Use --force to revoke it and create a new one."]
  | .created agentId token =>
      ["Token created (shown only once, store it now):", "  agent_id: " ++ agentId,
        "  token:    " ++ token]
  | .listed agentId active label createdAt =>
      ["agent_id:        " ++ agentId, "active token:    " ++ (if active then "yes" else "no"),
        "token label:     " ++ orDash label,
        "token created:   " ++ (createdAt.map DateTime.isoformat).getD "-"]
  | .revoked found => [if found then "Token revoked." else "No active token to revoke."]

def CliResult.code : CliResult → Nat
  | .refused => 1
  | _ => 0

/-- `try: body  except TokenExistsError: handler` -/
def exceptTokenExists {α : Type} (body handler : TokenProgram α) : TokenProgram α :=
  body.tryCatch fun
    | .tokenExists => handler
    | error => .raise error

section

variable (hashToken : String → String)

def tokenCreate (label : Option String) (force : Bool) (draws again : Draws) :
    TokenProgram CliResult := do
  let created? ← exceptTokenExists
    (do return some (← createToken hashToken label force draws)) (.ret none)
  match created? with
  | none => return .refused
  | some created =>
      let agentId ← getAgentId again
      return .created agentId created.token

def tokenList (draws : Draws) : TokenProgram CliResult := do
  let identity ← ensureIdentity draws
  return .listed identity.agentId (truthy identity.tokenHash) identity.tokenLabel
    identity.tokenCreatedAt

def tokenRevoke : TokenProgram CliResult := do
  let found ← revokeToken
  return .revoked found

end

/-! ## One lemma per command -/

section

variable {hashToken : String → String} {t t' : IdentityTable} {row : AgentIdentity}

theorem exec_not_tokenExists (a : IdentityAction) (t : IdentityTable) :
    (database.exec a t).1 ≠ .error .tokenExists := by
  cases a with
  | select => simp [exec_select]
  | insert row =>
      rw [exec_insert]
      split <;> simp
  | refresh =>
      rw [exec_refresh]
      split <;> simp
  | commit loaded assigned =>
      rw [exec_commit]
      split <;> simp

theorem run_exceptTokenExists {α : Type} (body handler : TokenProgram α) (t : IdentityTable) :
    (exceptTokenExists body handler).run database t =
      match body.run database t with
      | (.error .tokenExists, t') => handler.run database t'
      | answered => answered := by
  unfold exceptTokenExists
  induction body generalizing t with
  | ret value => rfl
  | raise error => cases error <;> rfl
  | act a next ih =>
      rw [Program.tryCatch]
      rcases answered : database.exec a t with ⟨answer, t'⟩
      cases answer with
      | ok r =>
          rw [Program.run_act_ok answered, Program.run_act_ok answered]
          exact ih r t'
      | error error =>
          rw [Program.run_act_error answered, Program.run_act_error answered]
          have other : error ≠ .tokenExists := by
            rintro rfl
            exact exec_not_tokenExists a t (congrArg Prod.fst answered)
          cases error with
          | tokenExists => exact absurd rfl other
          | _ => rfl

theorem tokenCreate_run {label : Option String} {force : Bool} {draws again : Draws}
    (ensured : (ensureIdentity draws).run database t = (.ok row, t')) :
    (tokenCreate hashToken label force draws again).run database t =
      if truthy row.tokenHash && !force then (.ok .refused, t')
      else (.ok (.created row.agentId draws.token),
        t'.update (changes row (created hashToken label draws row))) := by
  have found := (ensureIdentity_ok ensured).1
  have ran : (do return some (← createToken hashToken label force draws)).run database t = _ :=
    (Program.run_map database _ some t).trans
      (by rw [createToken_run label force ensured])
  rw [tokenCreate, Program.run_bind, run_exceptTokenExists, ran]
  by_cases refused : (truthy row.tokenHash && !force) = true
  · rw [if_pos refused, if_pos refused]
    rfl
  · rw [if_neg refused, if_neg refused]
    have now : (t'.update (changes row (created hashToken label draws row))).identity =
        some ((changes row (created hashToken label draws row)).apply row) := by
      rw [identity_update, found]
      rfl
    exact Program.run_bind_ok (getAgentId_run (ensureIdentity_some again now)) _

theorem tokenList_run {draws : Draws}
    (ensured : (ensureIdentity draws).run database t = (.ok row, t')) :
    (tokenList draws).run database t =
      (.ok (.listed row.agentId (truthy row.tokenHash) row.tokenLabel row.tokenCreatedAt), t') := by
  rw [tokenList, Program.run_bind_ok ensured]
  rfl

theorem tokenRevoke_run :
    tokenRevoke.run database t =
      ((revokeToken.run database t).1.map .revoked, (revokeToken.run database t).2) :=
  Program.run_map ..

end

end OopsysAgent.Cli
