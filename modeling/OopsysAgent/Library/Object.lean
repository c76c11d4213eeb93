import Mathlib.Logic.Function.Basic

namespace Concurrency

/-- A sequential object: what it answers to an operation and what becomes of it. -/
structure Object (κ ο σ : Type*) where
  apply : κ → σ → ο × σ

namespace Object

variable {κ ο ο' σ τ : Type*}

def run (O : Object κ ο σ) : List κ → σ → List ο × σ
  | [], s => ([], s)
  | op :: ops, s =>
      let (o, s') := O.apply op s
      let (os, s'') := run O ops s'
      (o :: os, s'')

@[simp] theorem run_nil (O : Object κ ο σ) (s : σ) : O.run [] s = ([], s) := rfl

theorem run_cons (O : Object κ ο σ) (op : κ) (ops : List κ) (s : σ) :
    O.run (op :: ops) s =
      ((O.apply op s).1 :: (O.run ops (O.apply op s).2).1, (O.run ops (O.apply op s).2).2) := rfl

theorem run_append (O : Object κ ο σ) (xs ys : List κ) (s : σ) :
    O.run (xs ++ ys) s =
      ((O.run xs s).1 ++ (O.run ys (O.run xs s).2).1, (O.run ys (O.run xs s).2).2) := by
  induction xs generalizing s with
  | nil => rfl
  | cons x xs ih => simp only [List.cons_append, run_cons, ih]

/-- What commutes with each operation commutes with every run. -/
theorem run_map {O : Object κ ο σ} {f : κ → κ} {g : σ → σ} {h : ο → ο}
    (commutes : ∀ op s, O.apply (f op) (g s) = (h (O.apply op s).1, g (O.apply op s).2))
    (ops : List κ) (s : σ) :
    O.run (ops.map f) (g s) = ((O.run ops s).1.map h, g (O.run ops s).2) := by
  induction ops generalizing s with
  | nil => rfl
  | cons op ops ih => simp only [List.map_cons, run_cons, commutes, ih]

theorem invariant {O : Object κ ο σ} {I : σ → Prop} (kept : ∀ op s, I s → I (O.apply op s).2)
    {s : σ} (start : I s) (ops : List κ) : I (O.run ops s).2 := by
  induction ops generalizing s with
  | nil => exact start
  | cons op ops ih => exact ih (kept op s start)

theorem history_invariant {O : Object κ ο σ} {I : List κ → σ → Prop}
    (kept : ∀ past op s, I past s → I (past ++ [op]) (O.apply op s).2) {s : σ} (start : I [] s)
    (ops : List κ) : I ops (O.run ops s).2 := by
  suffices general : ∀ past s, I past s → I (past ++ ops) (O.run ops s).2 by
    simpa using general [] s start
  clear start s
  induction ops with
  | nil =>
      intro past s here
      simpa using here
  | cons op ops ih =>
      intro past s here
      have next := ih (past ++ [op]) (O.apply op s).2 (kept past op s here)
      rwa [List.append_assoc, List.singleton_append] at next

theorem exists_cause {O : Object κ ο σ} {I : σ → Prop} {s : σ} (start : ¬I s) {ops : List κ}
    (reached : I (O.run ops s).2) :
    ∃ before op after, ops = before ++ op :: after ∧ ¬I (O.run before s).2 ∧
      I (O.apply op (O.run before s).2).2 := by
  induction ops generalizing s with
  | nil => exact absurd reached start
  | cons op ops ih =>
      by_cases here : I (O.apply op s).2
      · exact ⟨[], op, ops, rfl, start, here⟩
      · obtain ⟨before, cause, after, rfl, still, now⟩ := ih here reached
        exact ⟨op :: before, cause, after, rfl, still, now⟩

/-- The most recent value a run wrote, where `written` tells what an operation writes. -/
def lastWrite {α : Type*} (O : Object κ ο σ) (written : κ → σ → Option α) : List κ → σ → Option α
  | [], _ => none
  | op :: ops, s => (lastWrite O written ops (O.apply op s).2).or (written op s)

theorem slot_eq_lastWrite {α : Type*} {O : Object κ ο σ} {slot : σ → α}
    {written : κ → σ → Option α}
    (writes : ∀ op s, slot (O.apply op s).2 = (written op s).getD (slot s)) (ops : List κ) (s : σ) :
    slot (O.run ops s).2 = (O.lastWrite written ops s).getD (slot s) := by
  induction ops generalizing s with
  | nil => rfl
  | cons op ops ih =>
      rw [run_cons, ih, writes, lastWrite]
      cases O.lastWrite written ops (O.apply op s).2 <;> rfl

/-- `C` simulates `A`: related states answer alike, as far as `view` tells, and stay related. -/
def Simulates (C : Object κ ο σ) (A : Object κ ο' τ) (rel : σ → τ → Prop) (view : ο → ο') : Prop :=
  ∀ op s a, rel s a → view (C.apply op s).1 = (A.apply op a).1 ∧
    rel (C.apply op s).2 (A.apply op a).2

theorem Simulates.run {C : Object κ ο σ} {A : Object κ ο' τ} {rel : σ → τ → Prop}
    {view : ο → ο'} (simulates : C.Simulates A rel view) {s : σ} {a : τ} (related : rel s a)
    (ops : List κ) :
    (C.run ops s).1.map view = (A.run ops a).1 ∧ rel (C.run ops s).2 (A.run ops a).2 := by
  induction ops generalizing s a with
  | nil => exact ⟨rfl, related⟩
  | cons op ops ih =>
      obtain ⟨answers, next⟩ := simulates op s a related
      obtain ⟨rest, final⟩ := ih next
      rw [run_cons, run_cons]
      exact ⟨by rw [List.map_cons, answers, rest], final⟩

end Object

end Concurrency
