import OopsysAgent.Access.Gate

/-!
# What a host tells of its tokens

A renaming of the tokens, with another hash function, changes nothing that a host prints or answers
but the line in which `token create` shows the new token.
-/

namespace OopsysAgent.Access
open Concurrency Tokens Cli

section

variable (f : String → String)

def renameDraws (draws : Draws) : Draws := { draws with token := f draws.token }

def Operation.rename : Operation → Operation
  | .tokenCreate label force draws again =>
      .tokenCreate label force (renameDraws f draws) (renameDraws f again)
  | .tokenList draws => .tokenList (renameDraws f draws)
  | .tokenRevoke => .tokenRevoke
  | .run p envToken draws again =>
      .run p (envToken.map f) (renameDraws f draws) (renameDraws f again)
  | .stop p => .stop p
  | .ping p => .ping p
  | .health p credentials runtime version now select1 =>
      .health p (credentials.map f) runtime version now select1
  | .usage p credentials => .usage p (credentials.map f)

def Reply.rename : Reply → Reply
  | .console (.created agentId token) => .console (.created agentId (f token))
  | reply => reply

def Gate.rename (g : Gate) : Gate :=
  { g with credential := g.credential.map fun c => { c with token := f c.token } }

end

section

variable {f : String → String} {g : Gate}

theorem Gate.rename_isSome : (g.rename f).credential.isSome = g.credential.isSome :=
  Option.isSome_map

theorem Gate.rename_accepts (injective : Function.Injective f) (blank : ∀ t, f t = "" ↔ t = "")
    (credentials : Option String) :
    (g.rename f).accepts (credentials.map f) = g.accepts credentials := by
  cases credentials with
  | none => rfl
  | some token =>
      cases held : g.credential with
      | none => simp [Gate.accepts, Gate.rename, held]
      | some credential => simp [Gate.accepts, Gate.rename, held, blank, injective.eq_iff]

theorem Gate.rename_guarded (injective : Function.Injective f) (blank : ∀ t, f t = "" ↔ t = "")
    {p : Nat} {credentials : Option String} {serve : String → Reply}
    (hides : ∀ agentId, (serve agentId).rename f = serve agentId) :
    (g.rename f).guarded p (credentials.map f) serve =
      (g.guarded p credentials serve).rename f := by
  unfold Gate.guarded
  rw [Gate.rename_accepts injective blank]
  have same : (g.rename f).agents p = g.agents p := rfl
  rw [same]
  cases g.agents p with
  | none => rfl
  | some agentId =>
      cases g.accepts credentials with
      | false => rfl
      | true => exact (hides agentId).symm

theorem Gate.rename_bootstrap (injective : Function.Injective f) (blank : ∀ t, f t = "" ↔ t = "")
    (envToken : Option String) (draws again : Draws) :
    (g.rename f).bootstrap (envToken.map f) (renameDraws f draws) (renameDraws f again) =
      ((g.bootstrap envToken draws again).1, (g.bootstrap envToken draws again).2.rename f) := by
  have given : (envToken.map f).filter (· ≠ "") = (envToken.filter (· ≠ "")).map f := by
    cases envToken with
    | none => rfl
    | some token =>
        by_cases empty : token = ""
        · simp [Option.filter, empty, (blank "").mpr rfl]
        · simp [Option.filter, empty, (blank token).not.mpr empty]
  unfold Gate.bootstrap
  rw [given]
  cases envToken.filter (· ≠ "") with
  | none => rfl
  | some token =>
      cases held : g.credential with
      | none => simp [Gate.rename, held, Gate.ensure, renameDraws]
      | some credential => simp [Gate.rename, held, Gate.ensure, renameDraws, injective.eq_iff]

theorem Gate.apply_rename (injective : Function.Injective f) (blank : ∀ t, f t = "" ↔ t = "")
    (op : Operation) (g : Gate) :
    gate.apply (op.rename f) (g.rename f) =
      ((gate.apply op g).1.rename f, (gate.apply op g).2.rename f) := by
  change (g.rename f).apply (op.rename f) = ((g.apply op).1.rename f, (g.apply op).2.rename f)
  cases op with
  | tokenCreate label force draws again =>
      simp only [Operation.rename, Gate.apply, Gate.rename_isSome]
      by_cases refused : (g.credential.isSome && !force) = true
      · rw [if_pos refused, if_pos refused]
        rfl
      · rw [if_neg refused, if_neg refused]
        rfl
  | tokenList draws =>
      cases held : g.credential <;>
        simp [Operation.rename, Gate.apply, Gate.rename, held, Gate.ensure, renameDraws,
          Reply.rename]
  | tokenRevoke => simp [Operation.rename, Gate.apply, Gate.rename, Reply.rename]
  | run p envToken draws again =>
      simp only [Operation.rename, Gate.apply, Gate.rename_bootstrap injective blank]
      generalize g.bootstrap envToken draws again = answer
      rcases answer with ⟨error | agentId, g'⟩ <;> rfl
  | stop p => rfl
  | ping p =>
      simp only [Operation.rename, Gate.apply]
      change (if (g.agents p).isSome then _ else _, _) = _
      split <;> rfl
  | health p credentials runtime version now select1 =>
      exact congrArg (·, g.rename f) (Gate.rename_guarded injective blank fun _ => rfl)
  | usage p credentials =>
      exact congrArg (·, g.rename f) (Gate.rename_guarded injective blank fun _ => rfl)

end

/-- Histories that differ in the tokens alone, on hosts that hash them as they like, print and
answer the same but for the lines that show a token when it is created. -/
theorem replies_hide_tokens (hashToken hashToken' f : String → String)
    (injective : Function.Injective hashToken) (nonempty : ∀ token, hashToken token ≠ "")
    (injective' : Function.Injective hashToken') (nonempty' : ∀ token, hashToken' token ≠ "")
    (renames : Function.Injective f) (blank : ∀ token, f token = "" ↔ token = "")
    (ops : List Operation) :
    ((host hashToken').run (ops.map (Operation.rename f)) {}).1 =
      ((host hashToken).run ops {}).1.map (Reply.rename f) := by
  rw [(host_answers injective nonempty ops).1, (host_answers injective' nonempty' _).1]
  exact congrArg Prod.fst (Object.run_map (Gate.apply_rename renames blank) ops {})

def prefixed (token : String) : String := if token = "" then "" else "x" ++ token

theorem prefixed_injective : Function.Injective prefixed := by
  intro a b same
  unfold prefixed at same
  split_ifs at same with empty empty' empty'
  · rw [empty, empty']
  · simp at same
  · simp at same
  · exact (String.append_right_inj _).mp same

theorem prefixed_blank (token : String) : prefixed token = "" ↔ token = "" := by
  unfold prefixed
  split_ifs with empty
  · simp [empty]
  · simp [empty]

theorem replies_hide_tokens_prefixed :
    ((host sampleHash).run (replaced.map (Operation.rename prefixed)) {}).1 =
      ((host sampleHash).run replaced {}).1.map (Reply.rename prefixed) :=
  replies_hide_tokens sampleHash sampleHash prefixed sampleHash_injective sampleHash_ne_empty
    sampleHash_injective sampleHash_ne_empty prefixed_injective prefixed_blank replaced

end OopsysAgent.Access
