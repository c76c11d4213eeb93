import OopsysAgent.Library.Task

/-!
# Contracts

What a program may call in which state of its surroundings, and in which states it ends. The
surroundings say what an answered call makes of their state, or that they do not answer so there.
-/

namespace Concurrency

universe u v

namespace Program

variable {σ ε : Type*} {A : Type u} {R : A → Type v} {α β : Type v}

/-- From `s` on, every call is made where `P` allows it, and the program ends as in `Q`. -/
def Meets (update? : σ → Entry A R → Option σ) (P : A → σ → Prop) (Q : Except ε α → σ → Prop) :
    Program A R ε α → σ → Prop
  | ret value, s => Q (.ok value) s
  | raise error, s => Q (.error error) s
  | act a next, s => P a s ∧ ∀ r s', update? s ⟨a, r⟩ = some s' → (next r).Meets update? P Q s'

section

variable {update? : σ → Entry A R → Option σ} {P : A → σ → Prop} {Q : Except ε α → σ → Prop}
  {p : Program A R ε α} {s s' : σ} {es : List (Entry A R)}

theorem Meets.mono {P' : A → σ → Prop} {Q' : Except ε α → σ → Prop} (meets : p.Meets update? P Q s)
    (allowed : ∀ a t, P a t → P' a t) (weaker : ∀ o t, Q o t → Q' o t) :
    p.Meets update? P' Q' s := by
  induction p generalizing s with
  | ret value => exact weaker _ s meets
  | raise error => exact weaker _ s meets
  | act a next ih => exact ⟨allowed a s meets.1, fun r s' updated => ih r (meets.2 r s' updated)⟩

theorem Meets.bind {Q' : Except ε β → σ → Prop} {f : α → Program A R ε β}
    (meets : p.Meets update? P Q s)
    (later : ∀ value t, Q (.ok value) t → (f value).Meets update? P Q' t)
    (raised : ∀ error t, Q (.error error) t → Q' (.error error) t) :
    (p >>= f).Meets update? P Q' s := by
  induction p generalizing s with
  | ret value => exact later value s meets
  | raise error => exact raised error s meets
  | act a next ih => exact ⟨meets.1, fun r s' updated => ih r (meets.2 r s' updated)⟩

theorem Meets.tryCatch {Q' : Except ε α → σ → Prop} {handler : ε → Program A R ε α}
    (meets : p.Meets update? P Q s) (returned : ∀ value t, Q (.ok value) t → Q' (.ok value) t)
    (handled : ∀ error t, Q (.error error) t → (handler error).Meets update? P Q' t) :
    (p.tryCatch handler).Meets update? P Q' s := by
  induction p generalizing s with
  | ret value => exact returned value s meets
  | raise error => exact handled error s meets
  | act a next ih => exact ⟨meets.1, fun r s' updated => ih r (meets.2 r s' updated)⟩

theorem Meets.and {P' : A → σ → Prop} {Q' : Except ε α → σ → Prop} (meets : p.Meets update? P Q s)
    (meets' : p.Meets update? P' Q' s) : p.Meets update? P (fun o t => Q o t ∧ Q' o t) s := by
  induction p generalizing s with
  | ret value => exact ⟨meets, meets'⟩
  | raise error => exact ⟨meets, meets'⟩
  | act a next ih =>
      exact ⟨meets.1, fun r s' updated => ih r (meets.2 r s' updated) (meets'.2 r s' updated)⟩

/-- Calls that are allowed wherever `I` holds, and keep it. -/
theorem Takes.meets {C : A → Prop} {I : σ → Prop} (takes : p.Takes C)
    (allowed : ∀ a t, C a → I t → P a t)
    (kept : ∀ a r t t', C a → I t → update? t ⟨a, r⟩ = some t' → I t') (start : I s) :
    p.Meets update? P (fun _ => I) s := by
  induction p generalizing s with
  | ret value => exact start
  | raise error => exact start
  | act a next ih =>
      refine ⟨allowed a s takes.1 start, ?_⟩
      intro r s' updated
      exact ih r (takes.2 r) (kept a r s s' takes.1 start updated)

theorem Raises.meets {E : ε → Prop} (raises : p.Raises E) (meets : p.Meets update? P Q s) :
    p.Meets update? P (fun o t => Q o t ∧ ∀ error, o = .error error → E error) s := by
  induction p generalizing s with
  | ret value => exact ⟨meets, nofun⟩
  | raise error =>
      refine ⟨meets, ?_⟩
      rintro _ ⟨⟩
      exact raises
  | act a next ih => exact ⟨meets.1, fun r s' updated => ih r (raises r) (meets.2 r s' updated)⟩

/-! ## Runs in the surroundings -/

theorem Meets.follows {p' : Program A R ε α} (meets : p.Meets update? P Q s)
    (follows : p.Follows es p') (replayed : es.foldlM update? s = some s') :
    p'.Meets update? P Q s' := by
  induction follows generalizing s with
  | nil p =>
      obtain rfl := Option.some.inj replayed
      exact meets
  | cons rest ih =>
      rw [List.foldlM_cons] at replayed
      obtain ⟨between, updated, replayed⟩ := Option.bind_eq_some_iff.mp replayed
      exact ih (meets.2 _ between updated) replayed

theorem follows_append {es' : List (Entry A R)} {q : Program A R ε α}
    (follows : p.Follows (es ++ es') q) : ∃ m, p.Follows es m ∧ m.Follows es' q := by
  induction es generalizing p with
  | nil => exact ⟨p, .nil p, follows⟩
  | cons entry es ih =>
      cases follows with
      | cons rest =>
          obtain ⟨m, first, second⟩ := ih rest
          exact ⟨m, .cons first, second⟩

theorem Meets.outcome {o : Except ε α} (meets : p.Meets update? P Q s)
    (finished : p.outcome? = some o) : Q o s := by
  cases p with
  | ret value => cases finished; exact meets
  | raise error => cases finished; exact meets
  | act a next => cases finished

end

end Program

end Concurrency
