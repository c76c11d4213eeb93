import Mathlib.Data.Int.Log
import OopsysAgent.Library.Rounding

/-!
# Integers and floats

The arithmetic of a language in which an integer may be of any size, a float is rounded, and the two
mix. A format tells how a rational is rounded; the two zeros are one.
-/

namespace Numeric

inductive ArithmeticError
  | zeroDivision
  | overflow
  deriving DecidableEq

/-- The finite float nearest to a rational, if the rational is not too large. -/
structure Format where
  nearest : ℚ → Option ℚ

namespace Format

/-- Every rational is a float. -/
def exact : Format := ⟨some⟩

/-- The exponent of the last bit. -/
def lastBit (q : ℚ) : ℤ := max (Int.log 2 |q| - 52) (-1074)

def binary64 : Format where
  nearest q :=
    if 2 ^ 1024 - 2 ^ 970 ≤ |q| then none
    else some (Rounding.halfEven (q / 2 ^ lastBit q) * 2 ^ lastBit q)

end Format

inductive Double
  | nan
  | infinite (negative : Bool)
  | finite (q : ℚ)
  deriving DecidableEq

namespace Double

def ofRat (F : Format) (q : ℚ) : Double := (F.nearest q).elim (.infinite (q < 0)) .finite

def neg : Double → Double
  | .nan => .nan
  | .infinite negative => .infinite !negative
  | .finite q => .finite (-q)

def add (F : Format) : Double → Double → Double
  | .nan, _ | _, .nan => .nan
  | .infinite a, .infinite b => if a = b then .infinite a else .nan
  | .infinite a, .finite _ | .finite _, .infinite a => .infinite a
  | .finite p, .finite q => .ofRat F (p + q)

def sub (F : Format) (x y : Double) : Double := x.add F y.neg

def negative : Double → Bool
  | .nan => false
  | .infinite negative => negative
  | .finite q => q < 0

def mul (F : Format) : Double → Double → Double
  | .nan, _ | _, .nan => .nan
  | .finite p, .finite q => .ofRat F (p * q)
  | x, y =>
      if x = .finite 0 ∨ y = .finite 0 then .nan else .infinite (x.negative ^^ y.negative)

def quotient (F : Format) : Double → Double → Double
  | .nan, _ | _, .nan | .infinite _, .infinite _ => .nan
  | .infinite a, y => .infinite (a ^^ y.negative)
  | .finite _, .infinite _ => .finite 0
  | .finite p, .finite q => .ofRat F (p / q)

def div (F : Format) (x y : Double) : Except ArithmeticError Double :=
  if y = .finite 0 then .error .zeroDivision else .ok (x.quotient F y)

def lt : Double → Double → Bool
  | .nan, _ | _, .nan => false
  | .infinite a, .infinite b => a && !b
  | .infinite a, .finite _ => a
  | .finite _, .infinite b => !b
  | .finite p, .finite q => p < q

def le : Double → Double → Bool
  | .nan, _ | _, .nan => false
  | .infinite a, .infinite b => a || !b
  | .infinite a, .finite _ => a
  | .finite _, .infinite b => !b
  | .finite p, .finite q => p ≤ q

def abs (x : Double) : Double := if x.negative then x.neg else x

def isFinite : Double → Bool
  | .finite _ => true
  | _ => false

/-- `round(x, digits)` -/
def roundTo (F : Format) (digits : ℕ) : Double → Double
  | .finite q => .ofRat F (Rounding.toDecimals digits q)
  | x => x

end Double

inductive Number
  | int (n : ℤ)
  | float (x : Double)
  deriving DecidableEq

namespace Number

def toFloat (F : Format) : Number → Except ArithmeticError Double
  | .int n => (F.nearest n).elim (.error .overflow) fun q => .ok (.finite q)
  | .float x => .ok x

def add (F : Format) : Number → Number → Except ArithmeticError Number
  | .int m, .int n => .ok (.int (m + n))
  | a, b => do return .float ((← a.toFloat F).add F (← b.toFloat F))

def sub (F : Format) : Number → Number → Except ArithmeticError Number
  | .int m, .int n => .ok (.int (m - n))
  | a, b => do return .float ((← a.toFloat F).sub F (← b.toFloat F))

/-- True division, which gives a float. -/
def div (F : Format) : Number → Number → Except ArithmeticError Double
  | .int m, .int n =>
      if n = 0 then .error .zeroDivision
      else (F.nearest (m / n)).elim (.error .overflow) fun q => .ok (.finite q)
  | a, b => do (← a.toFloat F).div F (← b.toFloat F)

/-- The value that a comparison takes, which rounds nothing. -/
def value : Number → Double
  | .int n => .finite n
  | .float x => x

def lt (a b : Number) : Bool := a.value.lt b.value

def le (a b : Number) : Bool := a.value.le b.value

/-- `max(a, b)` -/
def max (a b : Number) : Number := if a.lt b then b else a

def truthy (a : Number) : Bool := a.value ≠ .finite 0

end Number

/-! ## Sums -/

/-- A sum under way: of integers that fit a machine word, of floats with what was lost so far, or of
numbers that are added one by one. -/
inductive Total
  | ints (n : ℤ)
  | floats (x lost : Double)
  | other (n : Number)

namespace Total

def fits (n : ℤ) : Bool := -2 ^ 63 ≤ n ∧ n < 2 ^ 63

def value (F : Format) : Total → Number
  | .ints n => .int n
  | .floats x lost => .float (if lost.isFinite then x.add F lost else x)
  | .other n => n

def ofNumber : Number → Total
  | .int n => .other (.int n)
  | .float x => .floats x (.finite 0)

/-- What `x + y` loses if it comes out as `t`. -/
def loss (F : Format) (x y t : Double) : Double :=
  if y.abs.le x.abs then (x.sub F t).add F y else (y.sub F t).add F x

def add (F : Format) : Total → Number → Except ArithmeticError Total
  | .ints n, .int m =>
      .ok (if fits m ∧ fits (n + m) then .ints (n + m) else .other (.int (n + m)))
  | .ints n, x => return ofNumber (← (Number.int n).add F x)
  | .floats x lost, .float y =>
      .ok (.floats (x.add F y) (lost.add F (loss F x y (x.add F y))))
  | .floats x lost, .int m => do
      let y ← (Number.int m).toFloat F
      if fits m then return .floats (x.add F y) lost
      else return .other (← ((Total.floats x lost).value F).add F (.int m))
  | .other n, x => return .other (← n.add F x)

end Total

def sum (F : Format) (numbers : List Number) : Except ArithmeticError Number := do
  return (← numbers.foldlM (Total.add F) (.ints 0)).value F

/-! ## Integers -/

section

variable {F : Format} {m n : ℤ}

@[simp] theorem Number.sub_int : (Number.int m).sub F (.int n) = .ok (.int (m - n)) := rfl

@[simp] theorem Number.lt_int : (Number.int m).lt (.int n) = true ↔ m < n := by
  simp [Number.lt, Number.value, Double.lt]

@[simp] theorem Number.le_int : (Number.int m).le (.int n) = true ↔ m ≤ n := by
  simp [Number.le, Number.value, Double.le]

@[simp] theorem Number.truthy_int : (Number.int n).truthy = true ↔ n ≠ 0 := by
  simp [Number.truthy, Number.value]

@[simp] theorem Number.max_int : (Number.int m).max (.int n) = .int (Max.max m n) := by
  rcases lt_or_ge m n with less | more
  · rw [Number.max, if_pos (Number.lt_int.mpr less), max_eq_right less.le]
  · rw [Number.max, if_neg (by simpa using more), max_eq_left more]

theorem Number.div_exact (nonzero : n ≠ 0) :
    (Number.int m).div .exact (.int n) = .ok (.finite (m / n)) :=
  if_neg nonzero

/-- Whatever fits a word, integers add up to an integer. -/
theorem Total.foldlM_ints (ns : List ℤ) {total : Total} (value : total.value F = .int n)
    (whole : ∀ x lost, total ≠ .floats x lost) :
    ∃ total', (ns.map Number.int).foldlM (Total.add F) total = .ok total' ∧
      total'.value F = .int (n + ns.sum) := by
  induction ns generalizing n total with
  | nil => exact ⟨total, rfl, by simpa using value⟩
  | cons m ns ih =>
      obtain ⟨next, added, value', whole'⟩ : ∃ next, total.add F (.int m) = .ok next ∧
          next.value F = .int (n + m) ∧ ∀ x lost, next ≠ .floats x lost := by
        cases total with
        | ints k =>
            obtain rfl : k = n := by simpa [Total.value] using value
            refine ⟨_, rfl, ?_⟩
            split <;> exact ⟨rfl, by simp⟩
        | floats x lost => exact absurd rfl (whole x lost)
        | other k =>
            obtain rfl : k = .int n := value
            exact ⟨.other (.int (n + m)), rfl, rfl, by simp⟩
      obtain ⟨total', folded, summed⟩ := ih value' whole'
      refine ⟨total', ?_, ?_⟩
      · rw [List.map_cons, List.foldlM_cons, added]
        exact folded
      · rw [summed, List.sum_cons, add_assoc]

theorem sum_ints (ns : List ℤ) : sum F (ns.map .int) = .ok (.int ns.sum) := by
  have zero : (Total.ints 0).value F = .int 0 := rfl
  obtain ⟨total, folded, value⟩ := Total.foldlM_ints ns zero (by simp)
  rw [sum, folded, zero_add] at *
  exact congrArg Except.ok value

end

end Numeric
