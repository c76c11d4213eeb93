import OopsysAgent.Tokens.Serializable

namespace OopsysAgent.Tokens
open Concurrency IdentityTable

def IdentityTable.agentId? (t : IdentityTable) : Option String :=
  t.identity.map AgentIdentity.agentId

/-- What every statement of the service does to the table: no row but the one with the fixed id
appears, and a stored agent id stays. -/
structure Evolves (t t' : IdentityTable) : Prop where
  ids : (∀ row ∈ t.rows, row.id = identityId) → ∀ row ∈ t'.rows, row.id = identityId
  agentId : ∀ a, t.agentId? = some a → t'.agentId? = some a

theorem Evolves.refl (t : IdentityTable) : Evolves t t := ⟨fun ids => ids, fun _ stored => stored⟩

theorem Evolves.trans (a b c : IdentityTable) (first : Evolves a b) (second : Evolves b c) :
    Evolves a c :=
  ⟨fun ids => second.ids (first.ids ids), fun a stored => second.agentId a (first.agentId a stored)⟩

theorem evolves_update (c : Changes) (t : IdentityTable) : Evolves t (t.update c) where
  ids ids row member := by
    obtain ⟨old, before, rfl⟩ := List.mem_map.mp member
    rw [updateRow_id]
    exact ids old before
  agentId a stored := by
    rw [IdentityTable.agentId?, identity_update, Option.map_map]
    exact stored

theorem evolves_insert {row : AgentIdentity} {t t' : IdentityTable} (key : row.id = identityId)
    (inserted : t.insert row = some t') : Evolves t t' where
  ids ids other member := by
    rw [(insert_eq_some inserted).2, List.mem_append, List.mem_singleton] at member
    rcases member with before | rfl
    · exact ids other before
    · exact key
  agentId a stored := by
    rw [IdentityTable.agentId?, (identity_insert key inserted).1] at stored
    cases stored

theorem length_le_one {t : IdentityTable} (ids : ∀ row ∈ t.rows, row.id = identityId) :
    t.rows.length ≤ 1 := by
  have same : t.rows.map AgentIdentity.id = List.replicate t.rows.length identityId := by
    rw [List.eq_replicate_iff]
    refine ⟨List.length_map _, ?_⟩
    intro id member
    obtain ⟨row, present, rfl⟩ := List.mem_map.mp member
    exact ids row present
  have unique := t.primaryKey
  rw [same, List.nodup_replicate] at unique
  exact unique

/-! ## Every call keeps the agent id, whatever else runs -/

section

variable {hashToken : String → String} {α : Type} {Q : Except TokenError α → IdentityTable → Prop}
  {t : IdentityTable}

private theorem keeps_select {f : Option AgentIdentity → TokenProgram α}
    (rest : ∀ t', Evolves t t' → (f t'.identity).Keeps database Evolves Q t') :
    (selectIdentity >>= f).Keeps database Evolves Q t :=
  fun t' moved => ⟨.refl t', rest t' moved⟩

private theorem keeps_commit {loaded assigned : AgentIdentity} {f : Unit → TokenProgram α}
    (rest : ∀ t', Evolves t t' → (f ()).Keeps database Evolves Q t')
    (raised : ∀ error t', Q (.error error) t') :
    (commit loaded assigned >>= f).Keeps database Evolves Q t := by
  intro t' moved
  rw [exec_commit]
  cases t'.identity with
  | none => exact ⟨.refl t', fun u _ => raised _ u⟩
  | some row =>
      have updated := evolves_update (changes loaded assigned) t'
      exact ⟨updated, rest _ (moved.trans _ _ _ updated)⟩

theorem ensureIdentity_keeps (draws : Draws) (t : IdentityTable) :
    (ensureIdentity draws).Keeps database Evolves
      (fun o t => ∀ row, o = .ok row → t.agentId? = some row.agentId) t := by
  apply keeps_select
  intro t₁ _
  cases found : t₁.identity with
  | some row =>
      rintro t₂ moved _ ⟨⟩
      exact moved.agentId _ (by rw [IdentityTable.agentId?, found]; rfl)
  | none =>
      intro t₂ _
      rw [exec_insert]
      cases inserted : t₂.insert (newIdentity draws) with
      | none => exact ⟨.refl t₂, fun _ _ _ impossible => by cases impossible⟩
      | some t₃ =>
          refine ⟨evolves_insert rfl inserted, ?_⟩
          intro t₄ _
          rw [exec_refresh]
          cases reread : t₄.identity with
          | none => exact ⟨.refl t₄, fun _ _ _ impossible => by cases impossible⟩
          | some row =>
              refine ⟨.refl t₄, ?_⟩
              rintro t₅ moved _ ⟨⟩
              exact moved.agentId _ (by rw [IdentityTable.agentId?, reread]; rfl)

theorem getAgentId_keeps (draws : Draws) (t : IdentityTable) :
    (getAgentId draws).Keeps database Evolves
      (fun o t => ∀ a, o = .ok a → t.agentId? = some a) t := by
  refine (ensureIdentity_keeps draws t).bind Evolves.refl (fun row t' stored => ?_) ?_
  · rintro t'' moved _ ⟨⟩
    exact moved.agentId _ (stored row rfl)
  · exact fun _ _ _ _ impossible => by cases impossible

private theorem createToken_keeps (label : Option String) (force : Bool) (draws : Draws)
    (t : IdentityTable) :
    (createToken hashToken label force draws).Keeps database Evolves (fun _ _ => True) t := by
  refine (ensureIdentity_keeps draws t).bind Evolves.refl (fun row t' _ => ?_) fun _ _ _ => trivial
  dsimp only
  split
  · exact fun _ _ => trivial
  · exact keeps_commit (fun _ _ _ _ => trivial) fun _ _ => trivial

private theorem revokeToken_keeps (t : IdentityTable) :
    revokeToken.Keeps database Evolves (fun _ _ => True) t := by
  apply keeps_select
  intro t' _
  cases t'.identity with
  | none => exact fun _ _ => trivial
  | some row =>
      dsimp only
      split
      · exact fun _ _ => trivial
      · exact keeps_commit (fun _ _ _ _ => trivial) fun _ _ => trivial

private theorem verifyToken_keeps (token : String) (t : IdentityTable) :
    (verifyToken hashToken token).Keeps database Evolves (fun _ _ => True) t := by
  apply keeps_select
  intro t' _
  cases t'.identity with
  | none => exact fun _ _ => trivial
  | some row =>
      dsimp only
      split <;> exact fun _ _ => trivial

private theorem hasActiveToken_keeps (t : IdentityTable) :
    hasActiveToken.Keeps database Evolves (fun _ _ => True) t := by
  apply keeps_select
  intro t' _
  cases t'.identity <;> exact fun _ _ => trivial

private theorem reconcileEnvToken_keeps (token : String) (draws : Draws) (t : IdentityTable) :
    (reconcileEnvToken hashToken token draws).Keeps database Evolves (fun _ _ => True) t := by
  refine (ensureIdentity_keeps draws t).bind Evolves.refl (fun row t' _ => ?_) fun _ _ _ => trivial
  dsimp only
  split
  · exact keeps_commit (f := .ret) (fun _ _ _ _ => trivial) fun _ _ => trivial
  · split <;> exact fun _ _ => trivial

private theorem bootstrapIdentity_keeps (envToken : Option String) (draws again : Draws)
    (t : IdentityTable) :
    (bootstrapIdentity hashToken envToken draws again).Keeps database Evolves
      (fun o t => ∀ a, o = .ok a → t.agentId? = some a) t := by
  have settled {agentId : String} {t : IdentityTable} (stored : t.agentId? = some agentId) :
      (Program.ret agentId : TokenProgram String).Keeps database Evolves
        (fun o t => ∀ a, o = .ok a → t.agentId? = some a) t := by
    rintro t' moved _ ⟨⟩
    exact moved.agentId _ stored
  refine (getAgentId_keeps draws t).bind Evolves.refl (fun agentId t₁ returned => ?_) ?_
  · have stored := returned agentId rfl
    cases envToken with
    | none => exact settled stored
    | some token =>
        dsimp only
        split
        · exact settled stored
        · -- the agent id read first is carried through the reconciliation
          have reconciled : (reconcileEnvToken hashToken token again).Keeps database Evolves
              (fun _ _ => True) t₁ := reconcileEnvToken_keeps token again t₁
          have framed := reconciled.frame (fun _ _ same moved => moved.agentId _ same) stored
          refine framed.bind Evolves.refl (fun _ t₂ same => settled same.2) ?_
          exact fun _ _ _ _ impossible => by cases impossible
  · exact fun _ _ _ _ impossible => by cases impossible

def TokenOutcome.agentId? : TokenOutcome → Option String
  | .identity row => some row.agentId
  | .agentId a => some a
  | _ => .none

def Agrees (o : Except TokenError TokenOutcome) (t : IdentityTable) : Prop :=
  ∀ outcome a, o = .ok outcome → outcome.agentId? = some a → t.agentId? = some a

private theorem agrees_of_silent {α : Type} {f : α → TokenOutcome}
    (silent : ∀ value, (f value).agentId? = none) (o : Except TokenError α) (t : IdentityTable) :
    Agrees (o.map f) t := by
  intro outcome a answered told
  cases o with
  | error error => cases answered
  | ok value =>
      cases answered
      rw [silent] at told
      cases told

private theorem agrees_of_stored {α : Type} {f : α → TokenOutcome} {agentId : α → String}
    (tells : ∀ value, (f value).agentId? = some (agentId value)) {o : Except TokenError α}
    {t : IdentityTable} (stored : ∀ value, o = .ok value → t.agentId? = some (agentId value)) :
    Agrees (o.map f) t := by
  intro outcome a answered told
  cases o with
  | error error => cases answered
  | ok value =>
      cases answered
      rw [tells, Option.some.injEq] at told
      exact told ▸ stored value rfl

theorem call_keeps (call : TokenCall) (t : IdentityTable) :
    (call.program hashToken).Keeps database Evolves Agrees t := by
  cases call with
  | ensureIdentity draws =>
      exact (ensureIdentity_keeps draws t).map fun o t stored =>
        agrees_of_stored (fun _ => rfl) stored
  | getAgentId draws =>
      exact (getAgentId_keeps draws t).map fun o t stored => agrees_of_stored (fun _ => rfl) stored
  | hasActiveToken =>
      exact (hasActiveToken_keeps t).map fun o t _ => agrees_of_silent (fun _ => rfl) o t
  | createToken label force draws =>
      exact (createToken_keeps label force draws t).map fun o t _ =>
        agrees_of_silent (fun _ => rfl) o t
  | revokeToken => exact (revokeToken_keeps t).map fun o t _ => agrees_of_silent (fun _ => rfl) o t
  | verifyToken token =>
      exact (verifyToken_keeps token t).map fun o t _ => agrees_of_silent (fun _ => rfl) o t
  | reconcileEnvToken token draws =>
      exact (reconcileEnvToken_keeps token draws t).map fun o t _ =>
        agrees_of_silent (fun _ => rfl) o t
  | bootstrapIdentity envToken draws again =>
      exact (bootstrapIdentity_keeps envToken draws again t).map fun o t stored =>
        agrees_of_stored (fun _ => rfl) stored

end

end OopsysAgent.Tokens
