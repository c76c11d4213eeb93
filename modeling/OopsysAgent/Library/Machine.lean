import Mathlib.Logic.Function.Basic
import Mathlib.Data.List.Basic

namespace Concurrency

/-- A labelled machine. A label resolves every choice, so a run is a list of labels. -/
structure Machine (σ ℓ : Type*) where
  step : ℓ → σ → Option σ

namespace Machine

variable {σ ℓ ω : Type*} (M : Machine σ ℓ)

def run : List ℓ → σ → Option σ
  | [], s => some s
  | l :: ls, s => (M.step l s).bind (run ls)

@[simp] theorem run_nil (s : σ) : M.run [] s = some s := rfl

theorem run_cons (l : ℓ) (ls : List ℓ) (s : σ) :
    M.run (l :: ls) s = (M.step l s).bind (M.run ls) := rfl

theorem run_cons_eq_some {l : ℓ} {ls : List ℓ} {s s'' : σ} :
    M.run (l :: ls) s = some s'' ↔ ∃ s', M.step l s = some s' ∧ M.run ls s' = some s'' := by
  rw [run_cons, Option.bind_eq_some_iff]

theorem run_append (xs ys : List ℓ) (s : σ) :
    M.run (xs ++ ys) s = (M.run xs s).bind (M.run ys) := by
  induction xs generalizing s with
  | nil => rfl
  | cons x xs ih =>
      rw [List.cons_append, run_cons, run_cons]
      cases M.step x s with
      | none => rfl
      | some s' => exact ih s'

theorem run_append_eq_some {xs ys : List ℓ} {s s'' : σ} :
    M.run (xs ++ ys) s = some s'' ↔ ∃ s', M.run xs s = some s' ∧ M.run ys s' = some s'' := by
  rw [run_append, Option.bind_eq_some_iff]

variable {M}

theorem run_singleton {l : ℓ} {s s' : σ} (stepped : M.step l s = some s') :
    M.run [l] s = some s' := by
  simp [run_cons, stepped]

theorem run_snoc {ls : List ℓ} {l : ℓ} {s s' s'' : σ} (ran : M.run ls s = some s')
    (stepped : M.step l s' = some s'') : M.run (ls ++ [l]) s = some s'' :=
  (M.run_append_eq_some).mpr ⟨s', ran, run_singleton stepped⟩

theorem run_split {before after : List ℓ} {l : ℓ} {s m s'' : σ}
    (ran : M.run (before ++ l :: after) s = some s'') (reached : M.run before s = some m) :
    ∃ m', M.step l m = some m' ∧ M.run after m' = some s'' := by
  obtain ⟨m₁, reached₁, rest⟩ := M.run_append_eq_some.mp ran
  obtain rfl : m = m₁ := Option.some.inj (reached.symm.trans reached₁)
  exact M.run_cons_eq_some.mp rest

/-- `Along P ls s`: every step the run `ls` takes from `s` satisfies `P` where it is taken. -/
def Along (M : Machine σ ℓ) (P : ℓ → σ → Prop) : List ℓ → σ → Prop
  | [], _ => True
  | l :: ls, s => P l s ∧ ∀ s', M.step l s = some s' → Along M P ls s'

theorem along_cons {P : ℓ → σ → Prop} {l : ℓ} {ls : List ℓ} {s s' : σ}
    (stepped : M.step l s = some s') :
    M.Along P (l :: ls) s ↔ P l s ∧ M.Along P ls s' := by
  simp [Along, stepped]

theorem along_append {P : ℓ → σ → Prop} {xs ys : List ℓ} {s s' : σ}
    (ran : M.run xs s = some s') :
    M.Along P (xs ++ ys) s ↔ M.Along P xs s ∧ M.Along P ys s' := by
  induction xs generalizing s with
  | nil =>
      rw [run_nil, Option.some.injEq] at ran
      simp [Along, ran]
  | cons x xs ih =>
      obtain ⟨m, stepped, rest⟩ := M.run_cons_eq_some.mp ran
      rw [List.cons_append, along_cons stepped, along_cons stepped, ih rest, and_assoc]

theorem along_iff {P : ℓ → σ → Prop} {ls : List ℓ} {s : σ} :
    M.Along P ls s ↔
      ∀ before l after s', ls = before ++ l :: after → M.run before s = some s' → P l s' := by
  constructor
  · rintro along before l after s' rfl ran
    exact ((along_append ran).mp along).2.1
  · intro all
    induction ls generalizing s with
    | nil => trivial
    | cons l ls ih =>
        refine ⟨all [] l ls s rfl rfl, fun s' stepped => ih fun before k after m split ran => ?_⟩
        refine all (l :: before) k after m (by rw [split, List.cons_append]) ?_
        rw [run_cons, stepped]
        exact ran

instance decidableAlong {P : ℓ → σ → Prop} [∀ l s, Decidable (P l s)] :
    (ls : List ℓ) → (s : σ) → Decidable (M.Along P ls s)
  | [], _ => .isTrue trivial
  | l :: ls, s =>
      match stepped : M.step l s with
      | none => decidable_of_iff (P l s) (by simp [Along, stepped])
      | some s' =>
          have : Decidable (M.Along P ls s') := decidableAlong ls s'
          decidable_of_iff (P l s ∧ M.Along P ls s') (along_cons stepped).symm

theorem invariant_along {P : ℓ → σ → Prop} {I : σ → Prop}
    (kept : ∀ l s s', P l s → I s → M.step l s = some s' → I s')
    {ls : List ℓ} {s s' : σ} (ran : M.run ls s = some s') (good : M.Along P ls s)
    (start : I s) : I s' := by
  induction ls generalizing s with
  | nil =>
      rw [run_nil, Option.some.injEq] at ran
      exact ran ▸ start
  | cons l ls ih =>
      obtain ⟨m, stepped, rest⟩ := M.run_cons_eq_some.mp ran
      obtain ⟨here, later⟩ := (along_cons stepped).mp good
      exact ih rest later (kept l s m here start stepped)

/-- The same where `P` is about the labels alone. -/
theorem invariant_of_labels {P : ℓ → Prop} {I : σ → Prop}
    (kept : ∀ l s s', P l → I s → M.step l s = some s' → I s')
    {ls : List ℓ} {s s' : σ} (ran : M.run ls s = some s') (all : ∀ l ∈ ls, P l)
    (start : I s) : I s' := by
  refine invariant_along (P := fun l _ => P l) kept ran (along_iff.mpr ?_) start
  rintro before l after _ rfl -
  exact all l (by simp)

theorem invariant {I : σ → Prop} (kept : ∀ l s s', I s → M.step l s = some s' → I s')
    {ls : List ℓ} {s s' : σ} (ran : M.run ls s = some s') (start : I s) : I s' :=
  invariant_of_labels (P := fun _ => True) (fun l s s' _ => kept l s s') ran
    (fun _ _ => trivial) start

theorem history_invariant {I : List ℓ → σ → Prop}
    (kept : ∀ ls l s s', I ls s → M.step l s = some s' → I (ls ++ [l]) s')
    {ls : List ℓ} {s s' : σ} (ran : M.run ls s = some s') (start : I [] s) : I ls s' := by
  suffices general : ∀ past s, I past s → M.run ls s = some s' → I (past ++ ls) s' by
    simpa using general [] s start ran
  clear ran start s
  induction ls with
  | nil =>
      intro past s before ran
      rw [run_nil, Option.some.injEq] at ran
      rw [List.append_nil]
      exact ran ▸ before
  | cons l ls ih =>
      intro past s before ran
      obtain ⟨m, stepped, rest⟩ := M.run_cons_eq_some.mp ran
      have next := ih (past ++ [l]) m (kept past l s m before stepped) rest
      rwa [List.append_assoc, List.singleton_append] at next

/-- What an observer that looks at every step sees in a run. -/
def observe (M : Machine σ ℓ) (watch : ℓ → σ → Option ω) : List ℓ → σ → List ω
  | [], _ => []
  | l :: ls, s => (watch l s).toList ++ ((M.step l s).map (observe M watch ls)).getD []

theorem observe_cons {watch : ℓ → σ → Option ω} {l : ℓ} {ls : List ℓ} {s s' : σ}
    (stepped : M.step l s = some s') :
    M.observe watch (l :: ls) s = (watch l s).toList ++ M.observe watch ls s' := by
  simp [observe, stepped]

theorem observe_snoc {watch : ℓ → σ → Option ω} {ls : List ℓ} {l : ℓ} {s s' s'' : σ}
    (ran : M.run ls s = some s') (stepped : M.step l s' = some s'') :
    M.observe watch (ls ++ [l]) s = M.observe watch ls s ++ (watch l s').toList := by
  induction ls generalizing s with
  | nil =>
      rw [run_nil, Option.some.injEq] at ran
      subst ran
      simp [observe, stepped]
  | cons k ks ih =>
      obtain ⟨m, first, rest⟩ := M.run_cons_eq_some.mp ran
      rw [List.cons_append, observe_cons first, observe_cons first, ih rest, List.append_assoc]

end Machine

end Concurrency
