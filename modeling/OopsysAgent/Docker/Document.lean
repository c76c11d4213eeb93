import Mathlib.Data.List.ReduceOption
import Mathlib.Data.Rat.Cast.Order
import OopsysAgent.Domain.Events

/-!
# Decoded documents

The operations of the language on a decoded JSON value, with the exceptions they raise on a value of
another type.
-/

namespace OopsysAgent
open Numeric

inductive OpError
  | keyError (key : String)
  | typeError
  | attributeError
  | arithmetic (error : ArithmeticError)
  deriving DecidableEq

def calculated {α : Type} (result : Except ArithmeticError α) : Except OpError α :=
  result.mapError .arithmetic

@[simp] theorem ok_bind {ε α β : Type} (a : α) (f : α → Except ε β) :
    ((.ok a : Except ε α) >>= f) = f a := rfl

@[simp] theorem error_bind {ε α β : Type} (e : ε) (f : α → Except ε β) :
    ((.error e : Except ε α) >>= f) = .error e := rfl

@[simp] theorem except_pure {ε α : Type} (a : α) : (pure a : Except ε α) = .ok a := rfl

theorem bind_eq_ok {ε α β : Type} {x : Except ε α} {f : α → Except ε β} {b : β} :
    (x >>= f) = .ok b ↔ ∃ a, x = .ok a ∧ f a = .ok b := by
  cases x <;> simp

@[simp] theorem calculated_ok {α : Type} (a : α) : calculated (.ok a) = .ok a := rfl

@[simp] theorem calculated_eq_ok {α : Type} {result : Except ArithmeticError α} {a : α} :
    calculated result = .ok a ↔ result = .ok a := by
  cases result <;> simp [calculated, Except.mapError]

namespace Json

def truthy : Json → Bool
  | .null => false
  | .bool b => b
  | .number n => n.truthy
  | .string s => s ≠ ""
  | .array items => items.length ≠ 0
  | .object entries => entries.length ≠ 0

def field? : Json → String → Option Json
  | .object entries, key => entries.lookup key
  | _, _ => none

/-- `doc.get(key)`, where a missing key gives `None`. -/
def get (doc : Json) (key : String) : Except OpError (Option Json) :=
  match doc with
  | .object _ => .ok (doc.field? key)
  | _ => .error .attributeError

def getD (doc : Json) (key : String) (default : Json) : Except OpError Json := do
  return (← doc.get key).getD default

def item (doc : Json) (key : String) : Except OpError Json :=
  match doc with
  | .object _ =>
      match doc.field? key with
      | some value => .ok value
      | none => .error (.keyError key)
  | _ => .error .typeError

def num : Json → Except OpError Number
  | .number n => .ok n
  | .bool b => .ok (.int (if b then 1 else 0))
  | _ => .error .typeError

def len : Json → Except OpError Nat
  | .string s => .ok s.length
  | .array items => .ok items.length
  | .object entries => .ok entries.length
  | _ => .error .typeError

/-- The elements that a `for` loop takes. -/
def iter : Json → Except OpError (List Json)
  | .string s => .ok (s.toList.map fun c => .string c.toString)
  | .array items => .ok items
  | .object entries => .ok (entries.map fun entry => .string entry.1)
  | _ => .error .typeError

def values : Json → Except OpError (List Json)
  | .object entries => .ok (entries.map Prod.snd)
  | _ => .error .attributeError

def lower : Json → Except OpError String
  | .string s => .ok (String.ofList (s.toList.map Char.toLower))
  | _ => .error .attributeError

def sumFrom (F : Format) (read : Json → Except OpError (Option Number)) :
    List Json → Total → Except OpError Total
  | [], total => .ok total
  | x :: xs, total => do
      match ← read x with
      | none => sumFrom F read xs total
      | some n => sumFrom F read xs (← calculated (total.add F n))

/-- `sum(read(x) for x in xs)`, where `read` gives none for an element that the generator skips. -/
def sum (F : Format) (read : Json → Except OpError (Option Number)) (xs : List Json) :
    Except OpError Number := do
  return (← sumFrom F read xs (.ints 0)).value F

/-! ## Typed documents -/

def at? (doc : Json) : List String → Option Json
  | [] => some doc
  | key :: path => (doc.field? key).bind (·.at? path)

/-- A nested object, which is empty where the field is absent. -/
def part (doc : Json) (key : String) : Json := (doc.field? key).getD (.object [])

def IsObject (doc : Json) : Prop := ∃ entries, doc = .object entries

/-- The field is absent or satisfies `P`. -/
def Field (doc : Json) (key : String) (P : Json → Prop) : Prop :=
  ∀ value, doc.field? key = some value → P value

def Counter (value : Json) : Prop := ∃ n : ℕ, value = .number (.int n)

section

variable {doc default : Json} {key : String} {P : Json → Prop}

theorem IsObject.get (object : doc.IsObject) : doc.get key = .ok (doc.field? key) := by
  obtain ⟨entries, rfl⟩ := object
  rfl

theorem IsObject.getD (object : doc.IsObject) :
    doc.getD key default = .ok ((doc.field? key).getD default) := by
  rw [Json.getD, object.get]
  rfl

theorem IsObject.item (object : doc.IsObject) :
    doc.item key = (doc.field? key).elim (.error (.keyError key)) .ok := by
  obtain ⟨entries, rfl⟩ := object
  simp only [Json.item]
  cases field? (.object entries) key <;> rfl

theorem isObject_of_field {value : Json} (given : doc.field? key = some value) :
    doc.IsObject := by
  cases doc with
  | object entries => exact ⟨entries, rfl⟩
  | _ => cases given

theorem Field.getD (typed : doc.Field key P) (missing : P default) :
    P ((doc.field? key).getD default) := by
  cases given : doc.field? key with
  | none => exact missing
  | some value => exact typed value given

theorem counter_zero : Counter (.number (.int 0)) := ⟨0, rfl⟩

theorem item_eq_ok {value : Json} (given : doc.field? key = some value) :
    doc.item key = .ok value := by
  rw [(isObject_of_field given).item, given]
  rfl

theorem at?_cons {path : List String} : doc.at? (key :: path) = (doc.field? key).bind (·.at? path) :=
  rfl

theorem part_field (doc : Json) (key key' : String) :
    (doc.part key).field? key' = doc.at? [key, key'] := by
  rw [part, at?_cons]
  cases doc.field? key with
  | none => rfl
  | some inner => simp [at?]

@[simp] theorem empty_field (key : String) : field? (.object []) key = none := rfl

theorem empty_isObject : IsObject (.object []) := ⟨[], rfl⟩

theorem empty_field_typed (key : String) (P : Json → Prop) : Field (.object []) key P := by
  intro value given
  cases given

end

section

variable {F : Format} {read : Json → Except OpError (Option Number)} {xs : List Json}

/-- The sum is that of the numbers which the elements give. -/
theorem sumFrom_eq_ok {total total' : Total} :
    sumFrom F read xs total = .ok total' ↔
      ∃ ns, List.Forall₂ (fun x n => read x = .ok n) xs ns ∧
        ns.reduceOption.foldlM (Total.add F) total = .ok total' := by
  induction xs generalizing total with
  | nil => simp [sumFrom]
  | cons x xs ih =>
      rw [sumFrom, bind_eq_ok]
      constructor
      · rintro ⟨n, here, later⟩
        cases n with
        | none =>
            obtain ⟨ns, reads, folded⟩ := ih.mp later
            exact ⟨none :: ns, .cons here reads, folded⟩
        | some n =>
            obtain ⟨between, added, later⟩ := bind_eq_ok.mp later
            obtain ⟨ns, reads, folded⟩ := ih.mp later
            refine ⟨some n :: ns, .cons here reads, ?_⟩
            rw [List.reduceOption_cons_of_some, List.foldlM_cons, calculated_eq_ok.mp added]
            exact folded
      · rintro ⟨_, ⟨⟩ | ⟨here, reads⟩, folded⟩
        rename_i n ns
        refine ⟨n, here, ?_⟩
        cases n with
        | none => exact ih.mpr ⟨ns, reads, folded⟩
        | some n =>
            rw [List.reduceOption_cons_of_some, List.foldlM_cons] at folded
            obtain ⟨between, added, later⟩ := bind_eq_ok.mp folded
            exact bind_eq_ok.mpr ⟨between, calculated_eq_ok.mpr added, ih.mpr ⟨ns, reads, later⟩⟩

theorem sum_eq_ok {n : Number} :
    sum F read xs = .ok n ↔
      ∃ ns, List.Forall₂ (fun x n => read x = .ok n) xs ns ∧
        Numeric.sum F ns.reduceOption = .ok n := by
  simp only [sum, Numeric.sum, bind_eq_ok, sumFrom_eq_ok, except_pure, Except.ok.injEq]
  constructor
  · rintro ⟨total, ⟨ns, reads, folded⟩, value⟩
    exact ⟨ns, reads, total, folded, value⟩
  · rintro ⟨ns, reads, total, folded, value⟩
    exact ⟨total, ⟨ns, reads, folded⟩, value⟩

end

end Json

end OopsysAgent
