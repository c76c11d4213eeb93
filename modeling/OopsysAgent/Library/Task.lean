import OopsysAgent.Library.Program

/-!
# Tasks

Programs seen from outside, by what they ask for and what they are answered. The answers are
arbitrary, so a statement about every trace is one about every behaviour of the surroundings.
-/

namespace Concurrency

universe u v

structure Entry (A : Type u) (R : A → Type v) where
  action : A
  answer : R action

namespace Program

variable {ε : Type*} {A : Type u} {R : A → Type v} {α β : Type v}

def tryCatch : Program A R ε α → (ε → Program A R ε α) → Program A R ε α
  | ret value, _ => ret value
  | raise error, handler => handler error
  | act a next, handler => act a fun r => (next r).tryCatch handler

/-- Answered as in `es`, the program asks for nothing else and ends in `o`. -/
def Runs : Program A R ε α → List (Entry A R) → Except ε α → Prop
  | ret value, es, o => es = [] ∧ o = .ok value
  | raise error, es, o => es = [] ∧ o = .error error
  | act a next, es, o => ∃ r rest, es = ⟨a, r⟩ :: rest ∧ (next r).Runs rest o

variable {p : Program A R ε α} {f : α → Program A R ε β} {handler : ε → Program A R ε α}
  {es : List (Entry A R)}

@[simp] theorem runs_ret {value : α} {o : Except ε α} :
    (ret value : Program A R ε α).Runs es o ↔ es = [] ∧ o = .ok value := Iff.rfl

@[simp] theorem runs_raise {error : ε} {o : Except ε α} :
    (raise error : Program A R ε α).Runs es o ↔ es = [] ∧ o = .error error := Iff.rfl

@[simp] theorem runs_act {a : A} {next : R a → Program A R ε α} {o : Except ε α} :
    (act a next).Runs es o ↔ ∃ r rest, es = ⟨a, r⟩ :: rest ∧ (next r).Runs rest o := Iff.rfl

/-- A sequence ends in its first part, or goes on to its second. -/
theorem runs_bind {o : Except ε β} : (p >>= f).Runs es o ↔
    (∃ error, p.Runs es (.error error) ∧ o = .error error) ∨
      ∃ es₁ es₂ value, es = es₁ ++ es₂ ∧ p.Runs es₁ (.ok value) ∧ (f value).Runs es₂ o := by
  induction p generalizing es with
  | ret value => simp
  | raise error => simp [and_comm]
  | act a next ih =>
      rw [bind_act, runs_act]
      constructor
      · rintro ⟨r, rest, rfl, ran⟩
        rcases (ih r).mp ran with ⟨error, inner, rfl⟩ | ⟨es₁, es₂, value, rfl, first, second⟩
        · exact .inl ⟨error, ⟨r, rest, rfl, inner⟩, rfl⟩
        · exact .inr ⟨⟨a, r⟩ :: es₁, es₂, value, rfl, ⟨r, es₁, rfl, first⟩, second⟩
      · rintro (⟨error, ⟨r, rest, rfl, ran⟩, rfl⟩ | ⟨-, es₂, value, rfl, ⟨r, es₁, rfl, first⟩, second⟩)
        · exact ⟨r, rest, rfl, (ih r).mpr (.inl ⟨error, ran, rfl⟩)⟩
        · exact ⟨r, es₁ ++ es₂, rfl, (ih r).mpr (.inr ⟨es₁, es₂, value, rfl, first, second⟩)⟩

/-- What is tried ends as it does on its own, unless it raises; then the handler takes it up. -/
theorem runs_tryCatch {o : Except ε α} : (p.tryCatch handler).Runs es o ↔
    (∃ value, p.Runs es (.ok value) ∧ o = .ok value) ∨
      ∃ es₁ es₂ error, es = es₁ ++ es₂ ∧ p.Runs es₁ (.error error) ∧
        (handler error).Runs es₂ o := by
  induction p generalizing es with
  | ret value => simp [tryCatch]
  | raise error => simp [tryCatch]
  | act a next ih =>
      rw [tryCatch, runs_act]
      constructor
      · rintro ⟨r, rest, rfl, ran⟩
        rcases (ih r).mp ran with ⟨value, inner, rfl⟩ | ⟨es₁, es₂, error, rfl, first, second⟩
        · exact .inl ⟨value, ⟨r, rest, rfl, inner⟩, rfl⟩
        · exact .inr ⟨⟨a, r⟩ :: es₁, es₂, error, rfl, ⟨r, es₁, rfl, first⟩, second⟩
      · rintro (⟨value, ⟨r, rest, rfl, ran⟩, rfl⟩ | ⟨-, es₂, error, rfl, ⟨r, es₁, rfl, first⟩, second⟩)
        · exact ⟨r, rest, rfl, (ih r).mpr (.inl ⟨value, ran, rfl⟩)⟩
        · exact ⟨r, es₁ ++ es₂, rfl, (ih r).mpr (.inr ⟨es₁, es₂, error, rfl, first, second⟩)⟩

/-- Every action that the program can come to take satisfies `P`. -/
def Takes (P : A → Prop) : Program A R ε α → Prop
  | ret _ | raise _ => True
  | act a next => P a ∧ ∀ r, (next r).Takes P

theorem Takes.bind {P : A → Prop} (takes : p.Takes P) (later : ∀ value, (f value).Takes P) :
    (p >>= f).Takes P := by
  induction p with
  | ret value => exact later value
  | raise error => trivial
  | act a next ih => exact ⟨takes.1, fun r => ih r (takes.2 r)⟩

theorem Takes.tryCatch {P : A → Prop} (takes : p.Takes P)
    (handled : ∀ error, (handler error).Takes P) : (p.tryCatch handler).Takes P := by
  induction p with
  | ret value => trivial
  | raise error => exact handled error
  | act a next ih => exact ⟨takes.1, fun r => ih r (takes.2 r)⟩

theorem Takes.mono {P Q : A → Prop} (takes : p.Takes P) (weaker : ∀ a, P a → Q a) : p.Takes Q := by
  induction p with
  | ret value => trivial
  | raise error => trivial
  | act a next ih => exact ⟨weaker a takes.1, fun r => ih r (takes.2 r)⟩

theorem Takes.of_runs {P : A → Prop} {o : Except ε α} (takes : p.Takes P) (ran : p.Runs es o) :
    ∀ entry ∈ es, P entry.action := by
  induction p generalizing es with
  | ret value => simp [ran.1]
  | raise error => simp [ran.1]
  | act a next ih =>
      obtain ⟨r, rest, rfl, ran⟩ := ran
      intro entry member
      rcases List.mem_cons.mp member with rfl | member
      · exact takes.1
      · exact ih r (takes.2 r) ran entry member

def Raises (P : ε → Prop) : Program A R ε α → Prop
  | ret _ => True
  | raise error => P error
  | act _ next => ∀ r, (next r).Raises P

theorem Raises.bind {P : ε → Prop} (raises : p.Raises P) (later : ∀ value, (f value).Raises P) :
    (p >>= f).Raises P := by
  induction p with
  | ret value => exact later value
  | raise error => exact raises
  | act a next ih => exact fun r => ih r (raises r)

theorem raises_tryCatch {P : ε → Prop} (p : Program A R ε α)
    (handled : ∀ error, (handler error).Raises P) : (p.tryCatch handler).Raises P := by
  induction p with
  | ret value => trivial
  | raise error => exact handled error
  | act a next ih => exact fun r => ih r

theorem Raises.of_runs {P : ε → Prop} {error : ε} (raises : p.Raises P)
    (ran : p.Runs es (.error error)) : P error := by
  induction p generalizing es with
  | ret value => cases ran.2
  | raise error' =>
      cases ran.2
      exact raises
  | act a next ih =>
      obtain ⟨r, rest, rfl, ran⟩ := ran
      exact ih r (raises r) ran

/-! ## Runs that are under way -/

/-- Answered as in `es`, the program has become `p'`. -/
inductive Follows : Program A R ε α → List (Entry A R) → Program A R ε α → Prop
  | nil (p : Program A R ε α) : Follows p [] p
  | cons {a : A} {next : R a → Program A R ε α} {r : R a} {es : List (Entry A R)}
      {p' : Program A R ε α} (rest : Follows (next r) es p') : Follows (act a next) (⟨a, r⟩ :: es) p'

theorem Follows.snoc {a : A} {next : R a → Program A R ε α} (follows : Follows p es (act a next))
    (r : R a) : Follows p (es ++ [⟨a, r⟩]) (next r) := by
  generalize same : act a next = p' at follows
  induction follows with
  | nil p =>
      subst same
      exact .cons (.nil _)
  | cons rest ih => exact .cons (ih same)

theorem follows_bind {q : Program A R ε β} (follows : (p >>= f).Follows es q) :
    (∃ p', p.Follows es p' ∧ q = p' >>= f) ∨
      ∃ es₁ es₂ value, es = es₁ ++ es₂ ∧ p.Follows es₁ (ret value) ∧ (f value).Follows es₂ q := by
  induction p generalizing es with
  | ret value => exact .inr ⟨[], es, value, rfl, .nil _, follows⟩
  | raise error =>
      cases follows
      exact .inl ⟨raise error, .nil _, rfl⟩
  | act a next ih =>
      cases follows with
      | nil => exact .inl ⟨act a next, .nil _, rfl⟩
      | @cons _ _ r es _ rest =>
          obtain ⟨p', first, rfl⟩ | ⟨es₁, es₂, value, rfl, first, second⟩ := ih r rest
          · exact .inl ⟨p', .cons first, rfl⟩
          · exact .inr ⟨⟨a, r⟩ :: es₁, es₂, value, rfl, .cons first, second⟩

theorem Runs.follows {o : Except ε α} (ran : p.Runs es o) :
    ∃ p', p.Follows es p' ∧ p'.outcome? = some o := by
  induction p generalizing es with
  | ret value =>
      obtain ⟨rfl, rfl⟩ := ran
      exact ⟨ret value, .nil _, rfl⟩
  | raise error =>
      obtain ⟨rfl, rfl⟩ := ran
      exact ⟨raise error, .nil _, rfl⟩
  | act a next ih =>
      obtain ⟨r, rest, rfl, ran⟩ := ran
      obtain ⟨p', follows, finished⟩ := ih r ran
      exact ⟨p', .cons follows, finished⟩

end Program

section

variable {ι ε : Type*} {A : Type u} {R : A → Type v} {α : Type v}

/-- A family of programs under way, and all that they were answered. -/
structure Tasks (ι : Type*) (A : Type u) (R : A → Type v) (ε : Type*) (α : Type v) where
  progs : ι → Program A R ε α
  trace : List (ι × Entry A R) := []

variable [DecidableEq ι]

def tasks : Machine (Tasks ι A R ε α) (ι × ((a : A) → R a)) where
  step label T :=
    match T.progs label.1 with
    | .act a next =>
        some
          { progs := Function.update T.progs label.1 (next (label.2 a))
            trace := T.trace ++ [(label.1, ⟨a, label.2 a⟩)] }
    | _ => none

def Tasks.traceOf (T : Tasks ι A R ε α) (i : ι) : List (Entry A R) :=
  (T.trace.filter fun entry => entry.1 = i).map Prod.snd

theorem tasks_step {label : ι × ((a : A) → R a)} {T T' : Tasks ι A R ε α}
    (stepped : tasks.step label T = some T') :
    ∃ a next, T.progs label.1 = .act a next ∧
      T' = { progs := Function.update T.progs label.1 (next (label.2 a))
             trace := T.trace ++ [(label.1, ⟨a, label.2 a⟩)] } := by
  cases current : T.progs label.1 with
  | act a next =>
      simp only [tasks, current, Option.some.injEq] at stepped
      exact ⟨a, next, rfl, stepped.symm⟩
  | _ => simp [tasks, current] at stepped

/-- Whatever the others do, each program goes its own way. -/
theorem tasks_follows {labels : List (ι × ((a : A) → R a))} {progs : ι → Program A R ε α}
    {T : Tasks ι A R ε α} (ran : tasks.run labels { progs } = some T) (i : ι) :
    (progs i).Follows (T.traceOf i) (T.progs i) := by
  refine Machine.invariant (I := fun T => (progs i).Follows (T.traceOf i) (T.progs i))
    ?_ ran (.nil _)
  intro label T T' follows stepped
  obtain ⟨a, next, current, rfl⟩ := tasks_step stepped
  by_cases same : label.1 = i
  · subst same
    rw [current] at follows
    have snoc := follows.snoc (label.2 a)
    simpa [Tasks.traceOf] using snoc
  · have other : i ≠ label.1 := fun eq => same eq.symm
    simpa [Tasks.traceOf, same, Function.update_of_ne other] using follows

end

end Concurrency
