import Mathlib.Algebra.Order.Floor.Ring
import Mathlib.Data.Rat.Floor
import Mathlib.Tactic.Linarith
import Mathlib.Tactic.Positivity

/-!
# Rounding to decimals

To the nearest, and a tie to the even neighbour.
-/

namespace Rounding

def halfEven (q : ℚ) : ℤ :=
  let low := ⌊q⌋
  if q - low < 1 / 2 then low
  else if q - low = 1 / 2 ∧ low % 2 = 0 then low
  else low + 1

theorem floor_le_halfEven (q : ℚ) : ⌊q⌋ ≤ halfEven q := by
  unfold halfEven
  dsimp only
  split_ifs <;> omega

theorem halfEven_le_floor_add_one (q : ℚ) : halfEven q ≤ ⌊q⌋ + 1 := by
  unfold halfEven
  dsimp only
  split_ifs <;> omega

theorem halfEven_mono {q r : ℚ} (le : q ≤ r) : halfEven q ≤ halfEven r := by
  rcases (Int.floor_mono le).lt_or_eq with less | same
  · calc halfEven q ≤ ⌊q⌋ + 1 := halfEven_le_floor_add_one q
      _ ≤ ⌊r⌋ := less
      _ ≤ halfEven r := floor_le_halfEven r
  · -- only rounding `q` up and `r` down could go wrong
    have part : q - ⌊r⌋ ≤ r - ⌊r⌋ := by linarith
    unfold halfEven
    rw [same]
    dsimp only
    by_cases below : r - ⌊r⌋ < 1 / 2
    · rw [if_pos below, if_pos (lt_of_le_of_lt part below)]
    · rw [if_neg below]
      by_cases tie : r - ⌊r⌋ = 1 / 2 ∧ ⌊r⌋ % 2 = 0
      · rw [if_pos tie]
        split_ifs with below' tie'
        · exact le_refl _
        · exact le_refl _
        · exact absurd ⟨le_antisymm (part.trans_eq tie.1) (not_lt.mp below'), tie.2⟩ tie'
      · rw [if_neg tie]
        split_ifs <;> omega

theorem halfEven_intCast (n : ℤ) : halfEven n = n := by
  simp [halfEven]

def toDecimals (digits : ℕ) (q : ℚ) : ℚ := halfEven (q * 10 ^ digits) / 10 ^ digits

theorem toDecimals_mono (digits : ℕ) : Monotone (toDecimals digits) := by
  intro q r le
  have scaled : q * 10 ^ digits ≤ r * 10 ^ digits := by gcongr
  have rounded : (halfEven (q * 10 ^ digits) : ℚ) ≤ halfEven (r * 10 ^ digits) := by
    exact_mod_cast halfEven_mono scaled
  unfold toDecimals
  gcongr

theorem toDecimals_natCast (digits n : ℕ) : toDecimals digits n = n := by
  have whole : (n : ℚ) * 10 ^ digits = ((n * 10 ^ digits : ℕ) : ℤ) := by push_cast; ring
  rw [toDecimals, whole, halfEven_intCast]
  push_cast
  field_simp

theorem toDecimals_nonneg (digits : ℕ) {q : ℚ} (nonneg : 0 ≤ q) : 0 ≤ toDecimals digits q := by
  calc (0 : ℚ) = toDecimals digits (0 : ℕ) := by rw [toDecimals_natCast, Nat.cast_zero]
    _ ≤ toDecimals digits q := toDecimals_mono digits (by simpa using nonneg)

theorem toDecimals_le (digits : ℕ) {q : ℚ} {n : ℕ} (le : q ≤ n) : toDecimals digits q ≤ n :=
  toDecimals_natCast digits n ▸ toDecimals_mono digits le

end Rounding
