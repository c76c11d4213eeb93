import OopsysAgent.Library.Program
import Mathlib.Data.List.Nodup

/-!
# Serial orders of interleaved programs

A program that only reads until its last action is serializable as long as nobody else changes the
store between its actions: it takes effect, whole, at its last action.
-/

namespace Concurrency

universe u v

variable {ι σ ε : Type*} {A : Type u} {R : A → Type v} {α : Type v}

namespace Program

/-- Under the store invariant `I`, every action but the last leaves the store alone. -/
def Deferred (S : Store σ A R ε) (I : σ → Prop) : Program A R ε α → Prop
  | ret _ | raise _ => True
  | act a next =>
      (∀ s, I s → (S.exec a s).2 = s ∧ ∀ r, (S.exec a s).1 = .ok r → (next r).Deferred S I) ∨
      (∀ s, I s → I (S.exec a s).2 ∧ ∀ r, (S.exec a s).1 = .ok r → (next r).Finished)

theorem Deferred.next {S : Store σ A R ε} {I : σ → Prop} {p p' : Program A R ε α} {s s' : σ}
    (deferred : p.Deferred S I) (holds : I s) (stepped : p.next? S s = some (p', s')) :
    I s' ∧ (p'.Finished ∨ (s' = s ∧ p'.Deferred S I)) := by
  obtain ⟨a, next, rfl, answered⟩ := next?_cases stepped
  rcases deferred with reads | writes
  · obtain ⟨same, later⟩ := reads s holds
    rcases answered with ⟨r, answered, rfl⟩ | ⟨error, answered, rfl⟩
    · simp only [answered] at same later
      exact ⟨same ▸ holds, .inr ⟨same, later r rfl⟩⟩
    · simp only [answered] at same
      exact ⟨same ▸ holds, .inl rfl⟩
  · obtain ⟨kept, last⟩ := writes s holds
    rcases answered with ⟨r, answered, rfl⟩ | ⟨error, answered, rfl⟩
    · simp only [answered] at kept last
      exact ⟨kept, .inl (last r rfl)⟩
    · simp only [answered] at kept
      exact ⟨kept, .inl rfl⟩

theorem Deferred.run {S : Store σ A R ε} {I : σ → Prop} {p : Program A R ε α} {s : σ}
    (deferred : p.Deferred S I) (holds : I s) : I (p.run S s).2 := by
  induction p generalizing s with
  | ret value => exact holds
  | raise error => exact holds
  | act a next ih =>
      rcases answered : S.exec a s with ⟨answer, s'⟩
      rcases deferred with reads | writes
      · obtain ⟨same, later⟩ := reads s holds
        simp only [answered] at same later
        subst same
        cases answer with
        | ok r => exact run_act_ok answered ▸ ih r (later r rfl) holds
        | error error => exact run_act_error answered ▸ holds
      · obtain ⟨kept, last⟩ := writes s holds
        simp only [answered] at kept last
        cases answer with
        | ok r =>
            obtain ⟨o, ended⟩ := Option.isSome_iff_exists.mp (last r rfl)
            rw [run_act_ok answered, run_finished ended]
            exact kept
        | error error => exact run_act_error answered ▸ kept

def Reads (S : Store σ A R ε) (I : σ → Prop) : Program A R ε α → Prop
  | ret _ | raise _ => True
  | act a next =>
      ∀ s, I s → (S.exec a s).2 = s ∧ ∀ r, (S.exec a s).1 = .ok r → (next r).Reads S I

theorem Reads.deferred {S : Store σ A R ε} {I : σ → Prop} {p : Program A R ε α}
    (reads : p.Reads S I) : p.Deferred S I := by
  induction p with
  | ret value => trivial
  | raise error => trivial
  | act a next ih =>
      refine .inl fun s holds => ⟨(reads s holds).1, fun r answered => ?_⟩
      exact ih r ((reads s holds).2 r answered)

theorem Reads.bind {β : Type v} {S : Store σ A R ε} {I : σ → Prop} {p : Program A R ε α}
    {f : α → Program A R ε β} (reads : p.Reads S I) (rest : ∀ value, (f value).Reads S I) :
    (p >>= f).Reads S I := by
  induction p with
  | ret value => exact rest value
  | raise error => trivial
  | act a next ih =>
      intro s holds
      exact ⟨(reads s holds).1, fun r answered => ih r ((reads s holds).2 r answered)⟩

theorem Deferred.bind {β : Type v} {S : Store σ A R ε} {I : σ → Prop} {p : Program A R ε α}
    {f : α → Program A R ε β} (reads : p.Reads S I) (rest : ∀ value, (f value).Deferred S I) :
    (p >>= f).Deferred S I := by
  induction p with
  | ret value => exact rest value
  | raise error => trivial
  | act a next ih =>
      refine .inl fun s holds => ⟨(reads s holds).1, fun r answered => ?_⟩
      exact ih r ((reads s holds).2 r answered)

theorem Finished.map {β : Type v} {p : Program A R ε α} {f : α → β} (finished : p.Finished) :
    (p >>= fun value => ret (f value)).Finished := by
  cases p with
  | ret value => rfl
  | raise error => rfl
  | act a next => cases finished

theorem Deferred.map {β : Type v} {S : Store σ A R ε} {I : σ → Prop} {p : Program A R ε α}
    {f : α → β} (deferred : p.Deferred S I) :
    (p >>= fun value => ret (f value)).Deferred S I := by
  induction p with
  | ret value => trivial
  | raise error => trivial
  | act a next ih =>
      rcases deferred with reads | writes
      · refine .inl fun s holds => ⟨(reads s holds).1, fun r answered => ?_⟩
        exact ih r ((reads s holds).2 r answered)
      · refine .inr fun s holds => ⟨(writes s holds).1, fun r answered => ?_⟩
        exact ((writes s holds).2 r answered).map

end Program

/-- The outcomes and the final store when the programs run whole, one after another. -/
def serial (S : Store σ A R ε) (progs : ι → Program A R ε α) :
    List ι → σ → List (Except ε α) × σ
  | [], s => ([], s)
  | i :: order, s =>
      let (o, s') := (progs i).run S s
      let (os, s'') := serial S progs order s'
      (o :: os, s'')

theorem serial_append (S : Store σ A R ε) (progs : ι → Program A R ε α) (xs ys : List ι) (s : σ) :
    serial S progs (xs ++ ys) s =
      ((serial S progs xs s).1 ++ (serial S progs ys (serial S progs xs s).2).1,
        (serial S progs ys (serial S progs xs s).2).2) := by
  induction xs generalizing s with
  | nil => rfl
  | cons x xs ih => simp only [List.cons_append, serial, ih]

theorem serial_snoc {S : Store σ A R ε} {progs : ι → Program A R ε α} {order : List ι} {i : ι}
    {s s' s'' : σ} {os : List (Except ε α)} {o : Except ε α}
    (before : serial S progs order s = (os, s')) (last : (progs i).run S s' = (o, s'')) :
    serial S progs (order ++ [i]) s = (os ++ [o], s'') := by
  simp [serial_append, before, serial, last]

/-- `order` lists the finished programs, and running them whole in that order from `s` gives each
its outcome and the store of the pool. -/
structure SerialOrder (S : Store σ A R ε) (progs : ι → Program A R ε α) (s : σ)
    (P : Pool ι σ A R ε α) (order : List ι) : Prop where
  nodup : order.Nodup
  finished : ∀ i, i ∈ order ↔ (P.progs i).Finished
  outcomes : (serial S progs order s).1.map some = order.map fun i => (P.progs i).outcome?
  store : (serial S progs order s).2 = P.store

theorem SerialOrder.outcome_at {S : Store σ A R ε} {progs : ι → Program A R ε α} {s : σ}
    {P : Pool ι σ A R ε α} {before after : List ι} {i : ι}
    (order : SerialOrder S progs s P (before ++ i :: after)) :
    (P.progs i).outcome? = some ((progs i).run S (serial S progs before s).2).1 := by
  have outcomes := order.outcomes
  have lengths (xs : List ι) (t : σ) : (serial S progs xs t).1.length = xs.length := by
    induction xs generalizing t with
    | nil => rfl
    | cons x xs ih => simp [serial, ih]
  rw [serial_append, List.map_append, List.map_append] at outcomes
  have tails := List.append_inj_right outcomes (by simp [lengths])
  rw [List.map_cons, serial, List.map_cons, List.cons.injEq] at tails
  exact tails.1.symm

variable [DecidableEq ι]

/-- At every action of a program that has acted before, the store is as its last action left it. -/
def Undisturbed (i : ι) (P : Pool ι σ A R ε α) : Prop := ∀ s, P.seen i = some s → P.store = s

instance [DecidableEq σ] (i : ι) (P : Pool ι σ A R ε α) : Decidable (Undisturbed i P) :=
  match seen : P.seen i with
  | none => .isTrue fun s same => by simp [seen] at same
  | some s => decidable_of_iff (P.store = s) (by simp [Undisturbed, seen])

private structure Serializing (S : Store σ A R ε) (I : σ → Prop) (progs : ι → Program A R ε α)
    (s : σ) (P : Pool ι σ A R ε α) : Prop where
  holds : I P.store
  order : ∃ order, SerialOrder S progs s P order
  deferred : ∀ i, ¬(P.progs i).Finished → (P.progs i).Deferred S I
  pending : ∀ i, ¬(P.progs i).Finished → ∀ t, (P.seen i = none ∨ P.seen i = some t) →
    (P.progs i).run S t = (progs i).run S t

private theorem SerialOrder.extend {S : Store σ A R ε} {progs : ι → Program A R ε α} {s t : σ}
    {P : Pool ι σ A R ε α} {i : ι} {p : Program A R ε α} {order : List ι}
    (before : SerialOrder S progs s P order) (active : ¬(P.progs i).Finished)
    (finished : p.Finished) (whole : (progs i).run S P.store = p.run S t) :
    SerialOrder S progs s (P.advance i p t) (order ++ [i]) := by
  obtain ⟨o, ended⟩ := Option.isSome_iff_exists.mp finished
  have fresh : i ∉ order := fun member => active ((before.finished i).mp member)
  have last : (progs i).run S P.store = (o, t) := whole.trans (Program.run_finished ended t)
  have split : serial S progs (order ++ [i]) s = ((serial S progs order s).1 ++ [o], t) :=
    serial_snoc (by rw [← before.store]) last
  constructor
  · exact List.nodup_append.mpr ⟨before.nodup, List.nodup_singleton i,
      fun a member b single => by
        rw [List.mem_singleton] at single
        rintro rfl
        exact fresh (single ▸ member)⟩
  · intro j
    by_cases same : j = i
    · subst same
      simpa using finished
    · simp [P.advance_progs_of_ne p t same, same, before.finished j]
  · rw [split, List.map_append, List.map_append, before.outcomes]
    congr 1
    · apply List.map_congr_left
      intro j member
      have other : j ≠ i := fun same => fresh (same ▸ member)
      rw [P.advance_progs_of_ne p t other]
    · simp [ended]
  · rw [split, Pool.advance_store]

/-- The serial order is the order in which the programs finish. -/
theorem exists_serialOrder {S : Store σ A R ε} {I : σ → Prop} {progs : ι → Program A R ε α}
    {s : σ} (holds : I s) (deferred : ∀ i, (progs i).Deferred S I)
    (active : ∀ i, ¬(progs i).Finished) {schedule : List ι} {P : Pool ι σ A R ε α}
    (ran : (interleave S).run schedule (Pool.start progs s) = some P)
    (undisturbed : (interleave S).Along Undisturbed schedule (Pool.start progs s)) :
    ∃ order, SerialOrder S progs s P order := by
  refine (Machine.invariant_along (I := Serializing S I progs s) ?_ ran undisturbed ?_).order
  · intro i P P' quiet inv stepped
    obtain ⟨p, t, acted, rfl⟩ := interleave_step stepped
    have running : ¬(P.progs i).Finished := by
      obtain ⟨a, next, same, -⟩ := Program.next?_cases acted
      simp [same, Program.Finished, Program.outcome?]
    -- the program has seen nothing, or the store is still what it saw
    have base : P.seen i = none ∨ P.seen i = some P.store := by
      cases seen : P.seen i with
      | none => exact .inl rfl
      | some u => exact .inr (by rw [quiet u seen])
    have whole : (progs i).run S P.store = p.run S t :=
      (inv.pending i running P.store base).symm.trans (Program.run_next acted)
    obtain ⟨kept, ended⟩ := (inv.deferred i running).next inv.holds acted
    have others (j : ι) (other : j ≠ i) : (P.advance i p t).progs j = P.progs j :=
      P.advance_progs_of_ne p t other
    obtain ⟨order, before⟩ := inv.order
    by_cases finished : p.Finished
    · refine ⟨kept, ⟨_, before.extend running finished whole⟩, fun j live => ?_,
        fun j live u seen => ?_⟩
      all_goals
        have other : j ≠ i := by rintro rfl; exact live (by simpa using finished)
      · rw [others j other] at live ⊢
        exact inv.deferred j live
      · rw [others j other] at live ⊢
        rw [P.advance_seen_of_ne p t other] at seen
        exact inv.pending j live u seen
    · obtain ⟨rfl, later⟩ := ended.resolve_left finished
      refine ⟨kept, ⟨order, before.nodup, fun j => ?_, ?_, before.store⟩, fun j live => ?_,
        fun j live u seen => ?_⟩
      · by_cases same : j = i
        · subst same
          simpa [finished, before.finished] using running
        · simpa [others j same] using before.finished j
      · rw [before.outcomes]
        apply List.map_congr_left
        intro j member
        have other : j ≠ i := by rintro rfl; exact running ((before.finished j).mp member)
        rw [others j other]
      · by_cases same : j = i
        · subst same
          simpa using later
        · rw [others j same] at live ⊢
          exact inv.deferred j live
      · by_cases same : j = i
        · subst same
          simp only [Pool.advance_seen_self, Pool.advance_progs_self, Option.some.injEq, reduceCtorEq,
            false_or] at seen ⊢
          rw [← seen, whole]
        · rw [others j same] at live ⊢
          rw [P.advance_seen_of_ne p _ same] at seen
          exact inv.pending j live u seen
  · refine ⟨holds, ⟨[], List.nodup_nil, fun i => ?_, rfl, rfl⟩, fun i _ => deferred i,
      fun i _ t _ => rfl⟩
    simpa [Pool.start] using active i

end Concurrency
