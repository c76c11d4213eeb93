import OopsysAgent.Access.Cli
import OopsysAgent.Domain.Runtime

/-!
# One host

The command line and any number of agent processes on one database, one operation after another.
Agents answer `/health` and `/usage` to those who present the token.
-/

namespace OopsysAgent.Access
open Concurrency Tokens IdentityTable Cli

structure HttpException where
  statusCode : Nat
  detail : String
  headers : List (String × String)
  deriving DecidableEq

def unauthorized : HttpException :=
  { statusCode := 401
    detail := "Invalid or missing agent token"
    headers := [("WWW-Authenticate", "Bearer")] }

/-- `credentials` are those of the `Authorization` header, if it is there and its scheme is
`Bearer`. -/
def requireToken (hashToken : String → String) (credentials : Option String) :
    TokenProgram (Except HttpException Unit) := do
  match credentials with
  | none => return .error unauthorized
  | some token =>
      if token = "" then return .error unauthorized
      else if !(← verifyToken hashToken token) then return .error unauthorized
      else return .ok ()

inductive Operation
  | tokenCreate (label : Option String) (force : Bool) (draws again : Draws)
  | tokenList (draws : Draws)
  | tokenRevoke
  -- `oopsys-agent run`; a process that runs already is started anew
  | run (p : Nat) (envToken : Option String) (draws again : Draws)
  | stop (p : Nat)
  | ping (p : Nat)
  -- the agent's tasks have set `runtime` by now, but for its agent id
  | health (p : Nat) (credentials : Option String) (runtime : AppRuntime) (version : String)
      (now : DateTime) (select1 : Except String Unit)
  | usage (p : Nat) (credentials : Option String)

inductive Reply
  | console (result : CliResult)
  -- the process ends with the exception
  | failed (error : TokenError)
  | started (agentId : String)
  | stopped
  | noAgent
  | alive
  | refused (error : HttpException)
  | health (report : HealthReport)
  | usage

/-- The database, and the agent id in the runtime of each process that runs. -/
structure Host where
  table : IdentityTable := IdentityTable.empty
  agents : Nat → Option String := fun _ => none

namespace Host

section

variable (hashToken : String → String)

def command (program : TokenProgram CliResult) (h : Host) : Reply × Host :=
  match program.run database h.table with
  | (.ok result, table) => (.console result, { h with table })
  | (.error error, table) => (.failed error, { h with table })

def guarded (p : Nat) (credentials : Option String) (serve : String → Reply) (h : Host) :
    Reply × Host :=
  match h.agents p with
  | none => (.noAgent, h)
  | some agentId =>
      match (requireToken hashToken credentials).run database h.table with
      | (.ok (.ok _), table) => (serve agentId, { h with table })
      | (.ok (.error error), table) => (.refused error, { h with table })
      | (.error error, table) => (.failed error, { h with table })

def apply (op : Operation) (h : Host) : Reply × Host :=
  match op with
  | .tokenCreate label force draws again =>
      h.command (tokenCreate hashToken label force draws again)
  | .tokenList draws => h.command (tokenList draws)
  | .tokenRevoke => h.command tokenRevoke
  | .run p envToken draws again =>
      match (bootstrapIdentity hashToken envToken draws again).run database h.table with
      | (.ok agentId, table) =>
          (.started agentId, { table, agents := Function.update h.agents p (some agentId) })
      | (.error error, table) =>
          (.failed error, { table, agents := Function.update h.agents p none })
  | .stop p => (.stopped, { h with agents := Function.update h.agents p none })
  | .ping p => (if (h.agents p).isSome then .alive else .noAgent, h)
  | .health p credentials runtime version now select1 =>
      h.guarded hashToken p credentials fun agentId =>
        .health (health { runtime with agentId } version now select1)
  | .usage p credentials => h.guarded hashToken p credentials fun _ => .usage

end

end Host

def host (hashToken : String → String) : Object Operation Reply Host where
  apply := Host.apply hashToken

end OopsysAgent.Access
