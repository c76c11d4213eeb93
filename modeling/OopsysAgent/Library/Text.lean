import Mathlib.Data.List.Basic

/-!
# Separated text

Names made of tokens, filters over them with a wildcard for one token and one for the rest, the
split at the last separator, and what is written the same once joined.
-/

namespace Text

section

variable {α : Type*} [DecidableEq α] (one rest : α)

/-- A filter against a name: `one` stands for any token, a final `rest` for one or more. -/
def covers : List α → List α → Bool
  | [], [] => true
  | f :: fs, t :: ts => (f = rest && fs.isEmpty) || ((f = one || f = t) && covers fs ts)
  | _, _ => false

variable {one rest} {common fs ts : List α}

@[simp] theorem covers_rest (t : α) : covers one rest [rest] (t :: ts) = true := by
  simp [covers]

@[simp] theorem covers_one (t : α) (more : fs ≠ []) :
    covers one rest (one :: fs) (t :: ts) = covers one rest fs ts := by
  simp [covers, more]

theorem covers_cons (t : α) (more : fs ≠ []) :
    covers one rest (t :: fs) (t :: ts) = covers one rest fs ts := by
  simp [covers, more]

/-- What filter and name share in front, wildcards or not, does not matter. -/
theorem covers_append (more : fs ≠ []) :
    covers one rest (common ++ fs) (common ++ ts) = covers one rest fs ts := by
  induction common with
  | nil => rfl
  | cons t common ih =>
      rw [List.cons_append, List.cons_append,
        covers_cons t (List.append_ne_nil_of_right_ne_nil common more), ih]

theorem covers_length (covered : covers one rest fs ts = true) : fs.length ≤ ts.length := by
  induction fs generalizing ts with
  | nil => exact Nat.zero_le _
  | cons f fs ih =>
      cases ts with
      | nil => cases covered
      | cons t ts =>
          simp only [covers, Bool.or_eq_true, Bool.and_eq_true] at covered
          rcases covered with last | inner
          · simp [List.isEmpty_iff.mp last.2]
          · simpa using ih inner.2

end

section

variable {α : Type*} [DecidableEq α]

/-- What stands before and after the last `sep`. -/
def splitLast (sep : α) : List α → Option (List α × List α)
  | [] => none
  | x :: xs =>
      match splitLast sep xs with
      | some (front, back) => some (x :: front, back)
      | none => if x = sep then some ([], xs) else none

variable {sep : α} {front back : List α}

theorem splitLast_eq_none (clear : sep ∉ back) : splitLast sep back = none := by
  induction back with
  | nil => rfl
  | cons x xs ih =>
      rw [List.mem_cons, not_or] at clear
      rw [splitLast, ih clear.2, if_neg (Ne.symm clear.1)]

theorem splitLast_append (clear : sep ∉ back) :
    splitLast sep (front ++ sep :: back) = some (front, back) := by
  induction front with
  | nil => simp [splitLast, splitLast_eq_none clear]
  | cons x front ih => rw [List.cons_append, splitLast, ih]

end

section

variable {α : Type*} {a : α} {xs ys xs' ys' : List α}

theorem append_cons_eq_of_append {m : List α} (left : xs' = xs ++ m)
    (right : a :: ys = m ++ a :: ys') :
    xs = xs' ∧ ys = ys' ∨ ∃ m, xs' = xs ++ a :: m ∧ ys = m ++ a :: ys' := by
  cases m with
  | nil => exact .inl ⟨by simp [left], (List.cons.inj right).2⟩
  | cons b m =>
      obtain ⟨rfl, after⟩ := List.cons.inj right
      exact .inr ⟨m, left, after⟩

theorem append_cons_eq_iff :
    xs ++ a :: ys = xs' ++ a :: ys' ↔ xs = xs' ∧ ys = ys' ∨
      (∃ m, xs' = xs ++ a :: m ∧ ys = m ++ a :: ys') ∨
        ∃ m, xs = xs' ++ a :: m ∧ ys' = m ++ a :: ys := by
  constructor
  · intro same
    rcases List.append_eq_append_iff.mp same with ⟨m, left, right⟩ | ⟨m, left, right⟩
    · exact (append_cons_eq_of_append left right).imp_right .inl
    · exact (append_cons_eq_of_append left right).imp (fun both => ⟨both.1.symm, both.2.symm⟩) .inr
  · rintro (⟨rfl, rfl⟩ | ⟨m, rfl, rfl⟩ | ⟨m, rfl, rfl⟩) <;> simp

end

/-- Two texts joined alike are the same, or one of them holds the separator in a part. -/
theorem join_eq_join_iff {sep : String} {c : Char} (single : sep.toList = [c])
    {x y x' y' : String} :
    x ++ sep ++ y = x' ++ sep ++ y' ↔ x = x' ∧ y = y' ∨
      (∃ m, x' = x ++ sep ++ m ∧ y = m ++ sep ++ y') ∨
        ∃ m, x = x' ++ sep ++ m ∧ y' = m ++ sep ++ y := by
  have toList (x y : String) : (x ++ sep ++ y).toList = x.toList ++ c :: y.toList := by
    simp [single]
  have exists_string {P : List Char → Prop} : (∃ m, P m) ↔ ∃ m : String, P m.toList :=
    ⟨fun ⟨m, here⟩ => ⟨String.ofList m, by rwa [String.toList_ofList]⟩, fun ⟨m, here⟩ => ⟨_, here⟩⟩
  simp only [← String.toList_inj, toList]
  rw [append_cons_eq_iff, exists_string, exists_string]

end Text
