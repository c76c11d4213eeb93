import OopsysAgent.Tokens.Service
import OopsysAgent.Library.Serial

namespace OopsysAgent.Tokens
open Concurrency IdentityTable

abbrev TokenPool (ι : Type) :=
  Pool ι IdentityTable IdentityAction IdentityAction.Answer TokenError TokenOutcome

def sessions {ι : Type} (hashToken : String → String) (calls : ι → TokenCall)
    (t : IdentityTable) : TokenPool ι :=
  Pool.start (fun i => (calls i).program hashToken) t

/-- The outcomes and the table are those of the finished calls run whole in the order `order`. -/
abbrev SerialCalls {ι : Type} (hashToken : String → String) (calls : ι → TokenCall)
    (t : IdentityTable) (P : TokenPool ι) (order : List ι) : Prop :=
  SerialOrder database (fun i => (calls i).program hashToken) t P order

def Present (t : IdentityTable) : Prop := t.identity.isSome

/-- The calls that can take an active token away. -/
def TokenCall.Replaces : TokenCall → Prop
  | .createToken _ force _ => force = true
  | .revokeToken => True
  | _ => False

def Verifies (hashToken : String → String) (token : String) (t : IdentityTable) : Prop :=
  ((verifyToken hashToken token).run database t).1 = .ok true

/-! ## Every call reads until its last action -/

section

variable {hashToken : String → String}

private theorem present_update (c : Changes) {t : IdentityTable} (present : Present t) :
    Present (t.update c) := by
  simpa [Present, identity_update] using present

private theorem select_reads {α : Type} {f : Option AgentIdentity → TokenProgram α}
    (rest : ∀ row, (f (some row)).Reads database Present) :
    (selectIdentity >>= f).Reads database Present := by
  intro t present
  refine ⟨rfl, ?_⟩
  intro r answered
  obtain ⟨row, found⟩ := Option.isSome_iff_exists.mp present
  rw [exec_select, found] at answered
  cases answered
  exact rest row

private theorem select_deferred {α : Type} {f : Option AgentIdentity → TokenProgram α}
    (rest : ∀ row, (f (some row)).Deferred database Present) :
    (selectIdentity >>= f).Deferred database Present := by
  refine .inl fun t present => ⟨rfl, fun r answered => ?_⟩
  obtain ⟨row, found⟩ := Option.isSome_iff_exists.mp present
  rw [exec_select, found] at answered
  cases answered
  exact rest row

private theorem commit_deferred {α : Type} (loaded assigned : AgentIdentity) (value : α) :
    (commit loaded assigned >>= fun _ => Program.ret value).Deferred database Present := by
  refine .inr fun t present => ⟨?_, fun r _ => rfl⟩
  obtain ⟨row, found⟩ := Option.isSome_iff_exists.mp present
  rw [exec_commit, found]
  exact present_update _ present

private theorem ensureIdentity_reads (draws : Draws) :
    (ensureIdentity draws).Reads database Present :=
  select_reads fun _ => trivial

private theorem getAgentId_reads (draws : Draws) : (getAgentId draws).Reads database Present :=
  (ensureIdentity_reads draws).bind fun _ => trivial

private theorem hasActiveToken_reads : hasActiveToken.Reads database Present :=
  select_reads fun _ => trivial

private theorem verifyToken_reads (token : String) :
    (verifyToken hashToken token).Reads database Present := by
  apply select_reads
  intro row
  dsimp only
  split <;> trivial

private theorem createToken_deferred (label : Option String) (force : Bool) (draws : Draws) :
    (createToken hashToken label force draws).Deferred database Present := by
  refine .bind (ensureIdentity_reads draws) fun row => ?_
  dsimp only
  split
  · trivial
  · exact commit_deferred ..

private theorem revokeToken_deferred : revokeToken.Deferred database Present := by
  apply select_deferred
  intro row
  dsimp only
  split
  · trivial
  · exact commit_deferred ..

private theorem reconcileEnvToken_deferred (token : String) (draws : Draws) :
    (reconcileEnvToken hashToken token draws).Deferred database Present := by
  refine .bind (ensureIdentity_reads draws) fun row => ?_
  dsimp only
  split
  · exact commit_deferred row (adopted hashToken token draws row) ()
  · split <;> trivial

private theorem bootstrapIdentity_deferred (envToken : Option String) (draws again : Draws) :
    (bootstrapIdentity hashToken envToken draws again).Deferred database Present := by
  refine .bind (getAgentId_reads draws) fun agentId => ?_
  cases envToken with
  | none => trivial
  | some token =>
      dsimp only
      split
      · trivial
      · exact (reconcileEnvToken_deferred token again).map

theorem call_deferred (call : TokenCall) :
    (call.program hashToken).Deferred database Present := by
  cases call with
  | ensureIdentity draws => exact (ensureIdentity_reads draws).deferred.map
  | getAgentId draws => exact (getAgentId_reads draws).deferred.map
  | hasActiveToken => exact hasActiveToken_reads.deferred.map
  | createToken label force draws => exact (createToken_deferred label force draws).map
  | revokeToken => exact revokeToken_deferred.map
  | verifyToken token => exact (verifyToken_reads token).deferred.map
  | reconcileEnvToken token draws => exact (reconcileEnvToken_deferred token draws).map
  | bootstrapIdentity envToken draws again =>
      exact (bootstrapIdentity_deferred envToken draws again).map

theorem call_active (call : TokenCall) : ¬(call.program hashToken).Finished := by
  cases call <;> exact Bool.false_ne_true

end

/-! ## What an active token forbids -/

section

variable {hashToken : String → String} {t : IdentityTable} {row : AgentIdentity}

theorem verifies_iff (token : String) :
    Verifies hashToken token t ↔
      ∃ row, t.identity = some row ∧ truthy row.tokenHash ∧
        row.tokenHash = some (hashToken token) := by
  rw [Verifies, verifyToken_run]
  cases t.identity <;> simp

theorem run_of_active {call : TokenCall} (found : t.identity = some row)
    (active : truthy row.tokenHash) (keeps : ¬call.Replaces) : (call.run hashToken t).2 = t := by
  have reconciled (token : String) (draws : Draws) :
      ((reconcileEnvToken hashToken token draws).run database t).2 = t := by
    rw [reconcileEnvToken_run token (ensureIdentity_some draws found), if_pos active]
    split <;> rfl
  cases call with
  | revokeToken => exact absurd trivial keeps
  | createToken label force draws =>
      have unforced : force = false := by simpa [TokenCall.Replaces] using keeps
      rw [TokenCall.run_createToken,
        createToken_run label force (ensureIdentity_some draws found), unforced, active]
      rfl
  | ensureIdentity draws => rw [TokenCall.run_ensureIdentity, ensureIdentity_some draws found]
  | getAgentId draws =>
      rw [TokenCall.run_getAgentId, getAgentId_run (ensureIdentity_some draws found)]
  | hasActiveToken => rw [TokenCall.run_hasActiveToken, hasActiveToken_run]
  | verifyToken token => rw [TokenCall.run_verifyToken, verifyToken_run]
  | reconcileEnvToken token draws => rw [TokenCall.run_reconcileEnvToken]; exact reconciled ..
  | bootstrapIdentity envToken draws again =>
      rw [TokenCall.run_bootstrapIdentity,
        bootstrapIdentity_run envToken again (ensureIdentity_some draws found)]
      cases envToken with
      | none => rfl
      | some token =>
          dsimp only
          split
          · rfl
          · exact reconciled token again

theorem serial_of_active {ι : Type} {calls : ι → TokenCall} (found : t.identity = some row)
    (active : truthy row.tokenHash) {order : List ι} (keep : ∀ i ∈ order, ¬(calls i).Replaces) :
    (serial database (fun i => (calls i).program hashToken) order t).2 = t := by
  induction order with
  | nil => rfl
  | cons i order ih =>
      have first : ((calls i).run hashToken t).2 = t :=
        run_of_active found active (keep i List.mem_cons_self)
      unfold TokenCall.run at first
      simp only [serial, first]
      exact ih fun j member => keep j (List.mem_cons_of_mem i member)

theorem run_created {call : TokenCall} {token : CreatedToken} (present : Present t)
    (ran : (call.run hashToken t).1 = .ok (.created token)) :
    ∃ row, (call.run hashToken t).2.identity = some row ∧
      row.tokenHash = some (hashToken token.token) := by
  obtain ⟨row, found⟩ := Option.isSome_iff_exists.mp present
  obtain ⟨label, force, draws, rfl, answered⟩ := TokenCall.run_created ran
  rw [TokenCall.run_createToken]
  rw [createToken_run label force (ensureIdentity_some draws found)] at answered ⊢
  split at answered
  · cases answered
  · rename_i accepted
    cases answered
    rw [if_neg accepted, identity_update, found]
    exact ⟨_, rfl, changes_apply_tokenHash ..⟩

theorem not_created_of_active {call : TokenCall} {token : CreatedToken}
    (found : t.identity = some row) (active : truthy row.tokenHash) (keeps : ¬call.Replaces) :
    (call.run hashToken t).1 ≠ .ok (.created token) := by
  intro ran
  obtain ⟨label, force, draws, rfl, answered⟩ := TokenCall.run_created ran
  have unforced : force = false := by simpa [TokenCall.Replaces] using keeps
  rw [createToken_run label force (ensureIdentity_some draws found), active, unforced] at answered
  cases answered

end

/-! ## Serial orders of token calls -/

section

variable {ι : Type} {hashToken : String → String} {calls : ι → TokenCall} {t : IdentityTable}
  {P : TokenPool ι}

private theorem serial_present (present : Present t) (order : List ι) :
    Present (serial database (fun i => (calls i).program hashToken) order t).2 := by
  induction order generalizing t with
  | nil => exact present
  | cons i order ih => exact ih ((call_deferred (calls i)).run present)

private theorem serial_created (nonempty : ∀ token, hashToken token ≠ "") (present : Present t)
    {before after : List ι} {i : ι} {token : CreatedToken}
    (order : SerialCalls hashToken calls t P (before ++ i :: after))
    (created : (P.progs i).outcome? = some (.ok (.created token)))
    {kept : List ι} (keep : ∀ j ∈ kept, ¬(calls j).Replaces) :
    ∃ row, (serial database (fun i => (calls i).program hashToken) (before ++ i :: kept) t).2.identity
        = some row ∧ truthy row.tokenHash ∧ row.tokenHash = some (hashToken token.token) := by
  rw [order.outcome_at, Option.some.injEq] at created
  obtain ⟨row, found, stored⟩ := run_created (serial_present present before) created
  have active : truthy row.tokenHash := by simp [stored, truthy, nonempty]
  refine ⟨row, ?_, active, stored⟩
  simp only [serial_append, serial]
  exact (congrArg identity (serial_of_active found active keep)).trans found

theorem SerialCalls.verifies (nonempty : ∀ token, hashToken token ≠ "") (present : Present t)
    {before after : List ι} {i : ι} {token : CreatedToken}
    (order : SerialCalls hashToken calls t P (before ++ i :: after))
    (created : (P.progs i).outcome? = some (.ok (.created token)))
    (keep : ∀ j ∈ after, ¬(calls j).Replaces) : Verifies hashToken token.token P.store := by
  rw [verifies_iff, ← order.store]
  exact serial_created nonempty present order created keep

private theorem SerialCalls.not_created_after (nonempty : ∀ token, hashToken token ≠ "")
    (present : Present t) {before between after : List ι} {i j : ι} {first second : CreatedToken}
    (order : SerialCalls hashToken calls t P (before ++ i :: (between ++ j :: after)))
    (keep : ∀ i, ¬(calls i).Replaces) (created : (P.progs i).outcome? = some (.ok (.created first))) :
    (P.progs j).outcome? ≠ some (.ok (.created second)) := by
  intro again
  obtain ⟨row, found, active, -⟩ :=
    serial_created nonempty present order created fun k (_ : k ∈ between) => keep k
  have split : before ++ i :: (between ++ j :: after) = (before ++ i :: between) ++ j :: after := by
    simp
  rw [SerialOrder.outcome_at (split ▸ order), Option.some.injEq] at again
  exact not_created_of_active found active (keep j) again

theorem SerialCalls.created_unique (nonempty : ∀ token, hashToken token ≠ "") (present : Present t)
    {order : List ι} (serialOrder : SerialCalls hashToken calls t P order)
    (keep : ∀ i, ¬(calls i).Replaces) {i j : ι} {first second : CreatedToken}
    (created : (P.progs i).outcome? = some (.ok (.created first)))
    (again : (P.progs j).outcome? = some (.ok (.created second))) : i = j := by
  have member (k : ι) {o} (ended : (P.progs k).outcome? = some o) : k ∈ order :=
    (serialOrder.finished k).mpr (Option.isSome_iff_exists.mpr ⟨o, ended⟩)
  obtain ⟨before, after, rfl⟩ := List.append_of_mem (member i created)
  rcases List.mem_append.mp (member j again) with earlier | later
  · obtain ⟨start, between, rfl⟩ := List.append_of_mem earlier
    rw [List.append_assoc, List.cons_append] at serialOrder
    exact absurd created (serialOrder.not_created_after nonempty present keep again)
  · rcases List.mem_cons.mp later with same | later
    · exact same.symm
    · obtain ⟨between, rest, rfl⟩ := List.append_of_mem later
      exact absurd again (serialOrder.not_created_after nonempty present keep created)

end

/-! ## Serializability -/

/-- As long as every commit finds the row that its call read, the outcomes and the final row are
those of the calls run one after another. -/
theorem tokenCalls_serializable {ι : Type} [DecidableEq ι] (hashToken : String → String)
    (nonempty : ∀ token, hashToken token ≠ "") (calls : ι → TokenCall) (t : IdentityTable)
    (present : Present t) (schedule : List ι) (P : TokenPool ι)
    (ran : (interleave database).run schedule (sessions hashToken calls t) = some P)
    (undisturbed : (interleave database).Along Undisturbed schedule (sessions hashToken calls t)) :
    ∃ order, SerialCalls hashToken calls t P order ∧
      ((∀ i, ¬(calls i).Replaces) → ∀ i j first second,
        (P.progs i).outcome? = some (.ok (.created first)) →
        (P.progs j).outcome? = some (.ok (.created second)) → i = j) ∧
      ∀ before i after token, order = before ++ i :: after →
        (P.progs i).outcome? = some (.ok (.created token)) →
        (∀ j ∈ after, ¬(calls j).Replaces) → Verifies hashToken token.token P.store := by
  obtain ⟨order, serialOrder⟩ := exists_serialOrder present (fun i => call_deferred (calls i))
    (fun i => call_active (calls i)) ran undisturbed
  refine ⟨order, serialOrder, ?_, ?_⟩
  · intro keep i j first second created again
    exact SerialCalls.created_unique nonempty present serialOrder keep created again
  · rintro before i after token rfl created keep
    exact SerialCalls.verifies nonempty present serialOrder created keep

def tokenlessTable : IdentityTable := ⟨[(newIdentity (sampleDraws "")).stored], by decide⟩

def twoCreates (i : Bool) : TokenCall :=
  .createToken none false (sampleDraws (if i then "beta" else "alpha"))

def alphaTable : IdentityTable :=
  ((tokenService sampleHash).run [.createToken none false (sampleDraws "alpha")]
    IdentityTable.empty).2

/-- While a revocation is between its read and its commit, a creation is refused; then another finds
the row without a token. -/
def revokeBesideCreates : Fin 3 → TokenCall
  | 0 => .revokeToken
  | 1 => .createToken none false (sampleDraws "beta")
  | 2 => .createToken none false (sampleDraws "gamma")

theorem tokenCalls_serializable_revokeBesideCreates :
    ∃ P, (interleave database).run [0, 1, 0, 2, 2]
        (sessions sampleHash revokeBesideCreates alphaTable) = some P ∧
      (P.progs 0).outcome? = some (.ok (.bool true)) ∧
      (P.progs 1).outcome? = some (.error .tokenExists) ∧
      (P.progs 2).outcome? = some (.ok (.created ⟨"gamma", none⟩)) ∧
      ∃ order, SerialCalls sampleHash revokeBesideCreates alphaTable P order := by
  refine ⟨_, rfl, rfl, rfl, rfl, ?_⟩
  obtain ⟨order, serialOrder, -⟩ := tokenCalls_serializable sampleHash sampleHash_ne_empty
    revokeBesideCreates alphaTable rfl [0, 1, 0, 2, 2] _ rfl (by decide)
  exact ⟨order, serialOrder⟩

/-- Both calls read before either commits: both hand out a token, as no serial order does. -/
theorem twoCreates_not_serializable :
    ∃ P, (interleave database).run [false, true, false, true]
        (sessions sampleHash twoCreates tokenlessTable) = some P ∧
      (P.progs false).outcome? = some (.ok (.created ⟨"alpha", none⟩)) ∧
      (P.progs true).outcome? = some (.ok (.created ⟨"beta", none⟩)) ∧
      ¬∃ order, SerialCalls sampleHash twoCreates tokenlessTable P order := by
  refine ⟨_, rfl, rfl, rfl, ?_⟩
  rintro ⟨order, serialOrder⟩
  have present : Present tokenlessTable := rfl
  exact absurd (SerialCalls.created_unique sampleHash_ne_empty present serialOrder
    (fun i => Bool.false_ne_true) (i := false) (j := true) rfl rfl) Bool.false_ne_true

end OopsysAgent.Tokens
