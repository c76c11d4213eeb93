import OopsysAgent.Library.Machine

/-!
# Programs of atomic actions

A program is a tree of atomic actions on a shared store. `Program.run` is its meaning when nothing
else runs; `interleave` runs a family of programs against one store, one action at a time, in any
order. `Program.Keeps` is the rely-guarantee judgement that carries a property through every
interleaving.
-/

namespace Concurrency

universe u v

/-- What each atomic action does to the store: its answer, or the exception it raises. -/
structure Store (σ : Type*) (A : Type u) (R : A → Type v) (ε : Type*) where
  exec : (a : A) → σ → Except ε (R a) × σ

inductive Program (A : Type u) (R : A → Type v) (ε : Type*) (α : Type v)
  | ret (value : α)
  | raise (error : ε)
  | act (a : A) (next : R a → Program A R ε α)

namespace Program

variable {σ ε : Type*} {A : Type u} {R : A → Type v} {α β : Type v}

def bind : Program A R ε α → (α → Program A R ε β) → Program A R ε β
  | ret value, f => f value
  | raise error, _ => raise error
  | act a next, f => act a fun r => (next r).bind f

instance : Monad (Program A R ε) where
  pure := ret
  bind := bind

@[simp] theorem pure_eq (value : α) : (pure value : Program A R ε α) = ret value := rfl

@[simp] theorem bind_ret (value : α) (f : α → Program A R ε β) :
    (ret value : Program A R ε α) >>= f = f value := rfl

@[simp] theorem bind_raise (error : ε) (f : α → Program A R ε β) :
    (raise error : Program A R ε α) >>= f = raise error := rfl

@[simp] theorem bind_act (a : A) (next : R a → Program A R ε α) (f : α → Program A R ε β) :
    act a next >>= f = act a fun r => next r >>= f := rfl

def run (S : Store σ A R ε) : Program A R ε α → σ → Except ε α × σ
  | ret value, s => (.ok value, s)
  | raise error, s => (.error error, s)
  | act a next, s =>
      match S.exec a s with
      | (.ok r, s') => (next r).run S s'
      | (.error error, s') => (.error error, s')

@[simp] theorem run_ret (S : Store σ A R ε) (value : α) (s : σ) :
    (ret value : Program A R ε α).run S s = (.ok value, s) := rfl

@[simp] theorem run_raise (S : Store σ A R ε) (error : ε) (s : σ) :
    (raise error : Program A R ε α).run S s = (.error error, s) := rfl

theorem run_act_ok {S : Store σ A R ε} {a : A} {next : R a → Program A R ε α} {s s' : σ} {r : R a}
    (answered : S.exec a s = (.ok r, s')) : (act a next).run S s = (next r).run S s' := by
  simp [run, answered]

theorem run_act_error {S : Store σ A R ε} {a : A} {next : R a → Program A R ε α} {s s' : σ}
    {error : ε} (answered : S.exec a s = (.error error, s')) :
    (act a next).run S s = (.error error, s') := by
  simp [run, answered]

theorem run_bind (S : Store σ A R ε) (p : Program A R ε α) (f : α → Program A R ε β) (s : σ) :
    (p >>= f).run S s =
      match p.run S s with
      | (.ok value, s') => (f value).run S s'
      | (.error error, s') => (.error error, s') := by
  induction p generalizing s with
  | ret value => rfl
  | raise error => rfl
  | act a next ih =>
      rw [bind_act, run, run]
      rcases S.exec a s with ⟨answer, s'⟩
      cases answer with
      | ok r => exact ih r s'
      | error error => rfl

theorem run_bind_ok {S : Store σ A R ε} {p : Program A R ε α} {s s' : σ} {value : α}
    (ran : p.run S s = (.ok value, s')) (f : α → Program A R ε β) :
    (p >>= f).run S s = (f value).run S s' := by
  rw [run_bind, ran]

theorem run_bind_error {S : Store σ A R ε} {p : Program A R ε α} {s s' : σ} {error : ε}
    (ran : p.run S s = (.error error, s')) (f : α → Program A R ε β) :
    (p >>= f).run S s = (.error error, s') := by
  rw [run_bind, ran]

theorem run_map (S : Store σ A R ε) (p : Program A R ε α) (f : α → β) (s : σ) :
    (p >>= fun value => ret (f value)).run S s = ((p.run S s).1.map f, (p.run S s).2) := by
  rw [run_bind]
  rcases p.run S s with ⟨answer, s'⟩
  cases answer <;> rfl

def outcome? : Program A R ε α → Option (Except ε α)
  | ret value => some (.ok value)
  | raise error => some (.error error)
  | act _ _ => none

def Finished (p : Program A R ε α) : Prop := p.outcome?.isSome

def next? (S : Store σ A R ε) : Program A R ε α → σ → Option (Program A R ε α × σ)
  | act a next, s =>
      match S.exec a s with
      | (.ok r, s') => some (next r, s')
      | (.error error, s') => some (raise error, s')
  | _, _ => none

theorem next?_cases {S : Store σ A R ε} {p p' : Program A R ε α} {s s' : σ}
    (stepped : p.next? S s = some (p', s')) :
    ∃ a next, p = act a next ∧
      ((∃ r, S.exec a s = (.ok r, s') ∧ p' = next r) ∨
        (∃ error, S.exec a s = (.error error, s') ∧ p' = raise error)) := by
  cases p with
  | ret value => cases stepped
  | raise error => cases stepped
  | act a next =>
      refine ⟨a, next, rfl, ?_⟩
      unfold next? at stepped
      rcases answered : S.exec a s with ⟨answer, s''⟩
      cases answer with
      | ok r =>
          simp only [answered, Option.some.injEq, Prod.mk.injEq] at stepped
          exact .inl ⟨r, by rw [stepped.2], stepped.1.symm⟩
      | error error =>
          simp only [answered, Option.some.injEq, Prod.mk.injEq] at stepped
          exact .inr ⟨error, by rw [stepped.2], stepped.1.symm⟩

theorem run_next {S : Store σ A R ε} {p p' : Program A R ε α} {s s' : σ}
    (stepped : p.next? S s = some (p', s')) : p.run S s = p'.run S s' := by
  obtain ⟨a, next, rfl, ⟨r, answered, rfl⟩ | ⟨error, answered, rfl⟩⟩ := next?_cases stepped
  · exact run_act_ok answered
  · exact run_act_error answered

theorem run_finished {S : Store σ A R ε} {p : Program A R ε α} {o : Except ε α}
    (finished : p.outcome? = some o) (s : σ) : p.run S s = (o, s) := by
  cases p with
  | ret value => cases finished; rfl
  | raise error => cases finished; rfl
  | act a next => cases finished

/-! ## Rely-guarantee -/

/-- Started in `s`, with steps of `G` by others at any point, the program's own actions are steps
of `G` and its outcome satisfies `Q` in every later state. -/
def Keeps (S : Store σ A R ε) (G : σ → σ → Prop) (Q : Except ε α → σ → Prop) :
    Program A R ε α → σ → Prop
  | ret value, s => ∀ s', G s s' → Q (.ok value) s'
  | raise error, s => ∀ s', G s s' → Q (.error error) s'
  | act a next, s => ∀ s', G s s' → G s' (S.exec a s').2 ∧
      match S.exec a s' with
      | (.ok r, s'') => (next r).Keeps S G Q s''
      | (.error error, s'') => ∀ t, G s'' t → Q (.error error) t

variable {S : Store σ A R ε} {G : σ → σ → Prop} {Q : Except ε α → σ → Prop}

theorem Keeps.stable (trans : ∀ a b c, G a b → G b c → G a c) {p : Program A R ε α} {s s' : σ}
    (keeps : p.Keeps S G Q s) (moved : G s s') : p.Keeps S G Q s' := by
  cases p with
  | ret value => exact fun t later => keeps t (trans _ _ _ moved later)
  | raise error => exact fun t later => keeps t (trans _ _ _ moved later)
  | act a next => exact fun t later => keeps t (trans _ _ _ moved later)

theorem Keeps.next (refl : ∀ s, G s s) {p p' : Program A R ε α} {s s' : σ}
    (keeps : p.Keeps S G Q s) (stepped : p.next? S s = some (p', s')) :
    G s s' ∧ p'.Keeps S G Q s' := by
  obtain ⟨a, next, rfl, ⟨r, answered, rfl⟩ | ⟨error, answered, rfl⟩⟩ := next?_cases stepped
  · have here := keeps s (refl s)
    rw [answered] at here
    exact here
  · have here := keeps s (refl s)
    rw [answered] at here
    exact here

theorem Keeps.outcome (refl : ∀ s, G s s) {p : Program A R ε α} {s : σ} {o : Except ε α}
    (keeps : p.Keeps S G Q s) (finished : p.outcome? = some o) : Q o s := by
  cases p with
  | ret value => cases finished; exact keeps s (refl s)
  | raise error => cases finished; exact keeps s (refl s)
  | act a next => cases finished

theorem Keeps.frame {I : σ → Prop} (preserved : ∀ s s', I s → G s s' → I s')
    {p : Program A R ε α} {s : σ} (keeps : p.Keeps S G Q s) (holds : I s) :
    p.Keeps S G (fun o t => Q o t ∧ I t) s := by
  induction p generalizing s with
  | ret value => exact fun t later => ⟨keeps t later, preserved s t holds later⟩
  | raise error => exact fun t later => ⟨keeps t later, preserved s t holds later⟩
  | act a next ih =>
      intro t later
      obtain ⟨moved, rest⟩ := keeps t later
      have after := preserved t _ (preserved s t holds later) moved
      refine ⟨moved, ?_⟩
      rcases answered : S.exec a t with ⟨answer, t'⟩
      rw [answered] at rest after
      cases answer with
      | ok r => exact ih r rest after
      | error error => exact fun u last => ⟨rest u last, preserved t' u after last⟩

theorem Keeps.map {Q' : Except ε β → σ → Prop} {f : α → β} {p : Program A R ε α} {s : σ}
    (keeps : p.Keeps S G Q s) (weaker : ∀ o t, Q o t → Q' (o.map f) t) :
    (p >>= fun value => ret (f value)).Keeps S G Q' s := by
  induction p generalizing s with
  | ret value => exact fun t later => weaker _ t (keeps t later)
  | raise error => exact fun t later => weaker _ t (keeps t later)
  | act a next ih =>
      intro t later
      obtain ⟨moved, rest⟩ := keeps t later
      refine ⟨moved, ?_⟩
      rcases answered : S.exec a t with ⟨answer, t'⟩
      rw [answered] at rest
      cases answer with
      | ok r => exact ih r rest
      | error error => exact fun u after => weaker _ u (rest u after)

theorem Keeps.run (refl : ∀ s, G s s) (trans : ∀ a b c, G a b → G b c → G a c)
    {p : Program A R ε α} {s : σ} (keeps : p.Keeps S G Q s) :
    G s (p.run S s).2 ∧ Q (p.run S s).1 (p.run S s).2 := by
  induction p generalizing s with
  | ret value => exact ⟨refl s, keeps s (refl s)⟩
  | raise error => exact ⟨refl s, keeps s (refl s)⟩
  | act a next ih =>
      obtain ⟨moved, rest⟩ := keeps s (refl s)
      rcases answered : S.exec a s with ⟨answer, s'⟩
      rw [answered] at moved rest
      cases answer with
      | ok r =>
          obtain ⟨later, ended⟩ := ih r rest
          rw [run_act_ok answered]
          exact ⟨trans _ _ _ moved later, ended⟩
      | error error =>
          rw [run_act_error answered]
          exact ⟨moved, rest s' (refl s')⟩

theorem Keeps.bind {Q' : Except ε β → σ → Prop} {p : Program A R ε α}
    {f : α → Program A R ε β} {s : σ} (refl : ∀ s, G s s) (keeps : p.Keeps S G Q s)
    (onOk : ∀ value t, Q (.ok value) t → (f value).Keeps S G Q' t)
    (onError : ∀ error t, Q (.error error) t → Q' (.error error) t) :
    (p >>= f).Keeps S G Q' s := by
  induction p generalizing s with
  | ret value => exact onOk value s (keeps s (refl s))
  | raise error => exact fun t later => onError error t (keeps t later)
  | act a next ih =>
      intro t later
      obtain ⟨moved, rest⟩ := keeps t later
      refine ⟨moved, ?_⟩
      rcases answered : S.exec a t with ⟨answer, t'⟩
      rw [answered] at rest
      cases answer with
      | ok r => exact ih r rest
      | error error => exact fun u after => onError error u (rest u after)

end Program

/-! ## Interleavings -/

section

variable {ι σ ε : Type*} {A : Type u} {R : A → Type v} {α : Type v}

/-- A family of programs in the middle of a run. `seen i` is the store as the last action of
program `i` left it. -/
structure Pool (ι σ : Type*) (A : Type u) (R : A → Type v) (ε : Type*) (α : Type v) where
  store : σ
  progs : ι → Program A R ε α
  seen : ι → Option σ

def Pool.start (progs : ι → Program A R ε α) (store : σ) : Pool ι σ A R ε α :=
  { store, progs, seen := fun _ => none }

variable [DecidableEq ι]

def Pool.advance (P : Pool ι σ A R ε α) (i : ι) (p : Program A R ε α) (s : σ) :
    Pool ι σ A R ε α :=
  { store := s
    progs := Function.update P.progs i p
    seen := Function.update P.seen i (some s) }

section

variable (P : Pool ι σ A R ε α) {i j : ι} (p : Program A R ε α) (s : σ)

@[simp] theorem Pool.advance_store : (P.advance i p s).store = s := rfl

@[simp] theorem Pool.advance_progs_self : (P.advance i p s).progs i = p := Function.update_self ..

@[simp] theorem Pool.advance_seen_self : (P.advance i p s).seen i = some s :=
  Function.update_self ..

theorem Pool.advance_progs_of_ne (other : j ≠ i) : (P.advance i p s).progs j = P.progs j :=
  Function.update_of_ne other ..

theorem Pool.advance_seen_of_ne (other : j ≠ i) : (P.advance i p s).seen j = P.seen j :=
  Function.update_of_ne other ..

end

/-- Each label is the program whose next action is executed. -/
def interleave (S : Store σ A R ε) : Machine (Pool ι σ A R ε α) ι where
  step i P := ((P.progs i).next? S P.store).map fun (p, s) => P.advance i p s

theorem interleave_step {S : Store σ A R ε} {i : ι} {P P' : Pool ι σ A R ε α}
    (stepped : (interleave S).step i P = some P') :
    ∃ p s, (P.progs i).next? S P.store = some (p, s) ∧ P' = P.advance i p s := by
  obtain ⟨⟨p, s⟩, acted, rfl⟩ := Option.map_eq_some_iff.mp stepped
  exact ⟨p, s, acted, rfl⟩

/-- Programs that each keep `G`, whatever others do within `G`, keep it together. -/
theorem interleave_keeps {S : Store σ A R ε} {G : σ → σ → Prop} {Q : ι → Except ε α → σ → Prop}
    (refl : ∀ s, G s s) (trans : ∀ a b c, G a b → G b c → G a c)
    {schedule : List ι} {P P' : Pool ι σ A R ε α}
    (ran : (interleave S).run schedule P = some P')
    (keeps : ∀ i, (P.progs i).Keeps S G (Q i) P.store) :
    G P.store P'.store ∧ ∀ i, (P'.progs i).Keeps S G (Q i) P'.store := by
  refine Machine.invariant
    (I := fun M => G P.store M.store ∧ ∀ i, (M.progs i).Keeps S G (Q i) M.store)
    ?_ ran ⟨refl _, keeps⟩
  rintro i M M' ⟨moved, all⟩ stepped
  obtain ⟨p, s, acted, rfl⟩ := interleave_step stepped
  obtain ⟨here, kept⟩ := (all i).next refl acted
  refine ⟨trans _ _ _ moved here, ?_⟩
  intro j
  by_cases same : j = i
  · subst same
    simpa using kept
  · simpa [M.advance_progs_of_ne p s same] using (all j).stable trans here

end

end Concurrency
