import OopsysAgent.Domain.DateTime
import OopsysAgent.Library.Program
import Mathlib.Data.List.Nodup

namespace OopsysAgent.Tokens
open Concurrency

structure AgentIdentity where
  id : Nat
  agentId : String
  tokenHash : Option String := none
  tokenLabel : Option String := none
  tokenCreatedAt : Option DateTime := none
  createdAt : DateTime
  deriving DecidableEq

def identityId : Nat := 1

/-- A row as the `DateTime` columns give it back. -/
def AgentIdentity.stored (row : AgentIdentity) : AgentIdentity :=
  { row with
    tokenCreatedAt := row.tokenCreatedAt.map DateTime.naive
    createdAt := row.createdAt.naive }

/-- The committed `agent_identity` table. The primary key is part of the type. -/
structure IdentityTable where
  rows : List AgentIdentity
  primaryKey : (rows.map AgentIdentity.id).Nodup

namespace IdentityTable

@[ext] theorem ext {s t : IdentityTable} (same : s.rows = t.rows) : s = t := by
  cases s
  cases t
  simp_all

instance : DecidableEq IdentityTable := fun _ _ => decidable_of_iff _ ⟨ext, congrArg rows⟩

def empty : IdentityTable := ⟨[], List.nodup_nil⟩

/-- `select(AgentIdentity).where(AgentIdentity.id == _IDENTITY_ID)` -/
def identity (t : IdentityTable) : Option AgentIdentity := t.rows.find? (·.id = identityId)

/-- The columns of an `UPDATE`; `none` stands for a column that it does not mention. -/
structure Changes where
  tokenHash : Option (Option String)
  tokenLabel : Option (Option String)
  tokenCreatedAt : Option (Option DateTime)

def changed {α : Type} [DecidableEq α] (loaded assigned : α) : Option α :=
  if assigned = loaded then none else some assigned

/-- The unit of work writes the attributes whose value differs from the loaded one. -/
def changes (loaded assigned : AgentIdentity) : Changes where
  tokenHash := changed loaded.tokenHash assigned.tokenHash
  tokenLabel := changed loaded.tokenLabel assigned.tokenLabel
  tokenCreatedAt := changed loaded.tokenCreatedAt assigned.tokenCreatedAt

def Changes.apply (c : Changes) (row : AgentIdentity) : AgentIdentity :=
  { row with
    tokenHash := c.tokenHash.getD row.tokenHash
    tokenLabel := c.tokenLabel.getD row.tokenLabel
    tokenCreatedAt := (c.tokenCreatedAt.map (·.map DateTime.naive)).getD row.tokenCreatedAt }

def updateRow (c : Changes) (row : AgentIdentity) : AgentIdentity :=
  if row.id = identityId then c.apply row else row

theorem updateRow_id (c : Changes) (row : AgentIdentity) : (updateRow c row).id = row.id := by
  unfold updateRow
  split <;> rfl

def update (c : Changes) (t : IdentityTable) : IdentityTable where
  rows := t.rows.map (updateRow c)
  primaryKey := by
    rw [List.map_map, show AgentIdentity.id ∘ updateRow c = AgentIdentity.id from
      funext (updateRow_id c)]
    exact t.primaryKey

/-- `INSERT` fails on the primary key, or on the unique `agent_id`, and then changes nothing. -/
def insert (row : AgentIdentity) (t : IdentityTable) : Option IdentityTable :=
  if key : row.id ∉ t.rows.map AgentIdentity.id ∧ row.agentId ∉ t.rows.map AgentIdentity.agentId then
    some
      { rows := t.rows ++ [row.stored]
        primaryKey := by
          rw [List.map_append]
          refine List.nodup_append.mpr ⟨t.primaryKey, List.nodup_singleton _, ?_⟩
          rintro _ member _ single rfl
          rw [List.map_singleton, List.mem_singleton] at single
          exact key.1 (single ▸ member) }
  else none

/-! ## The row the service reads -/

theorem identity_update (c : Changes) (t : IdentityTable) :
    (t.update c).identity = t.identity.map c.apply := by
  unfold identity update
  rw [List.find?_map, show (fun row : AgentIdentity => decide (row.id = identityId)) ∘ updateRow c =
    (fun row => decide (row.id = identityId)) from funext fun row => by
      simp [updateRow_id]]
  cases found : t.rows.find? (fun row => decide (row.id = identityId)) with
  | none => rfl
  | some row =>
      have key : row.id = identityId := by simpa using List.find?_some found
      simp [updateRow, key]

theorem identity_id {t : IdentityTable} {row : AgentIdentity} (found : t.identity = some row) :
    row.id = identityId := by
  simpa using List.find?_some found

theorem insert_eq_some {row : AgentIdentity} {t t' : IdentityTable}
    (inserted : t.insert row = some t') :
    row.id ∉ t.rows.map AgentIdentity.id ∧ t'.rows = t.rows ++ [row.stored] := by
  unfold insert at inserted
  split at inserted
  · rename_i key
    cases inserted
    exact ⟨key.1, rfl⟩
  · cases inserted

theorem identity_insert {row : AgentIdentity} {t t' : IdentityTable} (key : row.id = identityId)
    (inserted : t.insert row = some t') : t.identity = none ∧ t'.identity = some row.stored := by
  obtain ⟨fresh, rows⟩ := insert_eq_some inserted
  have absent : t.identity = none := by
    refine List.find?_eq_none.mpr fun other member => ?_
    intro same
    have : other.id = row.id := by
      rw [key]
      simpa using same
    exact fresh (List.mem_map.mpr ⟨other, member, this⟩)
  refine ⟨absent, ?_⟩
  unfold identity at absent ⊢
  rw [rows, List.find?_append, absent]
  simp [AgentIdentity.stored, key]

theorem insert_empty (row : AgentIdentity) : ∃ t', empty.insert row = some t' := by
  simp [insert, empty]

end IdentityTable

/-! ## Database actions of a session -/

inductive TokenError
  | tokenExists
  | tokenMismatch
  -- the insert broke a uniqueness constraint
  | integrity
  -- the row of an instance was not there to update or to refresh
  | missingRow
  deriving DecidableEq

def TokenError.message : TokenError → Option String
  | .tokenExists => some "An active token already exists. Use force to recreate it."
  | .tokenMismatch => some "OOPSYS_AGENT__TOKEN does not match the stored token hash."
  | .integrity | .missingRow => none

/-- One statement of a session with the commit that ends it. -/
inductive IdentityAction
  | select
  | insert (row : AgentIdentity)
  | refresh
  | commit (loaded assigned : AgentIdentity)

def IdentityAction.Answer : IdentityAction → Type
  | .select => Option AgentIdentity
  | .insert _ => Unit
  | .refresh => AgentIdentity
  | .commit _ _ => Unit

def database : Store IdentityTable IdentityAction IdentityAction.Answer TokenError where
  exec
    | .select, t => (.ok t.identity, t)
    | .insert row, t =>
        match t.insert row with
        | some t' => (.ok (), t')
        | none => (.error .integrity, t)
    | .refresh, t =>
        match t.identity with
        | some row => (.ok row, t)
        | none => (.error .missingRow, t)
    | .commit loaded assigned, t =>
        match t.identity with
        | some _ => (.ok (), t.update (IdentityTable.changes loaded assigned))
        | none => (.error .missingRow, t)

abbrev TokenProgram := Program IdentityAction IdentityAction.Answer TokenError

def selectIdentity : TokenProgram (Option AgentIdentity) := .act .select .ret

def insertIdentity (row : AgentIdentity) : TokenProgram Unit := .act (.insert row) .ret

def refresh : TokenProgram AgentIdentity := .act .refresh .ret

/-- `commit()` after attributes of the instance loaded as `loaded` were assigned. -/
def commit (loaded assigned : AgentIdentity) : TokenProgram Unit :=
  .act (.commit loaded assigned) .ret

section

variable {α : Type} {t : IdentityTable} {row : AgentIdentity}

theorem exec_select : database.exec .select t = (.ok t.identity, t) := rfl

theorem exec_insert (row : AgentIdentity) :
    database.exec (.insert row) t =
      match t.insert row with
      | some t' => (.ok (), t')
      | none => (.error .integrity, t) := rfl

theorem exec_refresh :
    database.exec .refresh t =
      match t.identity with
      | some row => (.ok row, t)
      | none => (.error .missingRow, t) := rfl

theorem exec_commit (loaded assigned : AgentIdentity) :
    database.exec (.commit loaded assigned) t =
      match t.identity with
      | some _ => (.ok (), t.update (IdentityTable.changes loaded assigned))
      | none => (.error .missingRow, t) := rfl

@[simp] theorem run_selectIdentity (f : Option AgentIdentity → TokenProgram α) :
    (selectIdentity >>= f).run database t = (f t.identity).run database t := rfl

theorem run_insertIdentity (row : AgentIdentity) (f : Unit → TokenProgram α) :
    (insertIdentity row >>= f).run database t =
      match t.insert row with
      | some t' => (f ()).run database t'
      | none => (.error .integrity, t) := by
  have answer := exec_insert (t := t) row
  cases inserted : t.insert row with
  | none => exact Program.run_act_error (by rw [answer, inserted])
  | some t' => exact Program.run_act_ok (by rw [answer, inserted])

theorem run_refresh (found : t.identity = some row) :
    refresh.run database t = (.ok row, t) :=
  Program.run_act_ok (by rw [exec_refresh, found])

theorem run_commit (loaded assigned : AgentIdentity) (f : Unit → TokenProgram α)
    (found : t.identity = some row) :
    (commit loaded assigned >>= f).run database t =
      (f ()).run database (t.update (IdentityTable.changes loaded assigned)) :=
  Program.run_act_ok (by rw [exec_commit, found])

end

section

variable (loaded assigned : AgentIdentity)

open IdentityTable

theorem changed_getD {α : Type} [DecidableEq α] (loaded assigned : α) :
    (changed loaded assigned).getD loaded = assigned := by
  unfold changed
  split
  · rename_i same
    exact same.symm
  · rfl

@[simp] theorem changes_apply_tokenHash :
    ((changes loaded assigned).apply loaded).tokenHash = assigned.tokenHash :=
  changed_getD ..

@[simp] theorem changes_apply_tokenLabel :
    ((changes loaded assigned).apply loaded).tokenLabel = assigned.tokenLabel :=
  changed_getD ..

@[simp] theorem changes_apply_tokenCreatedAt :
    ((changes loaded assigned).apply loaded).tokenCreatedAt.isSome =
      assigned.tokenCreatedAt.isSome := by
  simp only [Changes.apply, changes, changed]
  split
  · rename_i same
    simp [same]
  · simp

@[simp] theorem apply_id (c : Changes) (row : AgentIdentity) : (c.apply row).id = row.id := rfl

@[simp] theorem apply_agentId (c : Changes) (row : AgentIdentity) :
    (c.apply row).agentId = row.agentId := rfl

end

end OopsysAgent.Tokens
