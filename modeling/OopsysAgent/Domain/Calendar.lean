import Mathlib.Data.List.Lex
import OopsysAgent.Domain.DateTime

/-!
# The order of wall-clock readings

Values sort by their fields, the year first, as their readings lie on the time line.
-/

namespace OopsysAgent

def daysInYear (year : Nat) : Nat := if isLeap year then 366 else 365

theorem isLeap_iff (year : Nat) :
    isLeap year = true ↔ year % 4 = 0 ∧ (year % 100 ≠ 0 ∨ year % 400 = 0) := by
  simp [isLeap]

theorem daysBeforeYear_succ {year : Nat} (positive : 1 ≤ year) :
    daysBeforeYear (year + 1) = daysBeforeYear year + daysInYear year := by
  obtain ⟨y, rfl⟩ := Nat.exists_eq_add_of_le' positive
  have fewer : y / 100 ≤ y / 4 := Nat.div_le_div_left (by decide) (by decide)
  have centuries : 100 ∣ y + 1 → 4 ∣ y + 1 := (by decide : 4 ∣ 100).trans
  have quadruple : 400 ∣ y + 1 → 100 ∣ y + 1 := (by decide : 100 ∣ 400).trans
  have rule : isLeap (y + 1) = true ↔ 4 ∣ y + 1 ∧ (¬100 ∣ y + 1 ∨ 400 ∣ y + 1) := by
    rw [isLeap_iff, Nat.dvd_iff_mod_eq_zero, Nat.dvd_iff_mod_eq_zero, Nat.dvd_iff_mod_eq_zero]
  simp only [daysBeforeYear, daysInYear, rule, Nat.add_sub_cancel, Nat.succ_div]
  generalize y / 4 = a at *
  generalize y / 100 = b at *
  generalize y / 400 = c at *
  split_ifs <;> omega

theorem daysBeforeYear_mono {year year' : Nat} (positive : 1 ≤ year) (le : year ≤ year') :
    daysBeforeYear year ≤ daysBeforeYear year' := by
  induction year', le using Nat.le_induction with
  | base => exact le_refl _
  | succ year' le ih => rw [daysBeforeYear_succ (positive.trans le)]; omega

theorem daysBeforeMonth_succ {year month : Nat} (positive : 1 ≤ month) :
    daysBeforeMonth year (month + 1) = daysBeforeMonth year month + daysInMonth year month := by
  obtain ⟨m, rfl⟩ := Nat.exists_eq_add_of_le' positive
  simp [daysBeforeMonth, List.range'_concat, Nat.add_comm]

theorem daysBeforeMonth_mono {year month month' : Nat} (positive : 1 ≤ month)
    (le : month ≤ month') : daysBeforeMonth year month ≤ daysBeforeMonth year month' := by
  induction month', le using Nat.le_induction with
  | base => exact le_refl _
  | succ month' le ih => rw [daysBeforeMonth_succ (positive.trans le)]; omega

theorem daysBeforeMonth_year (year : Nat) : daysBeforeMonth year 13 = daysInYear year := by
  simp only [daysBeforeMonth, daysInYear, daysInMonth, List.range', List.map, List.sum_cons,
    List.sum_nil]
  split <;> rfl

namespace DateTime

variable {d e : DateTime}

/-- The wall-clock fields, as they are compared when values are sorted. -/
def fields (d : DateTime) : List Nat :=
  [d.year, d.month, d.day, d.hour, d.minute, d.second, d.microsecond]

theorem daysBeforeMonth_lt (d : DateTime) :
    daysBeforeMonth d.year d.month + d.day ≤ daysBeforeMonth d.year (d.month + 1) := by
  obtain ⟨-, -, positive, -, -, last⟩ := d.validDate
  rw [daysBeforeMonth_succ positive]
  omega

theorem toordinal_bounds (d : DateTime) :
    daysBeforeYear d.year < d.toordinal ∧ d.toordinal ≤ daysBeforeYear (d.year + 1) := by
  obtain ⟨positive, -, first, last, day, -⟩ := d.validDate
  have month := d.daysBeforeMonth_lt
  have year : daysBeforeMonth d.year (d.month + 1) ≤ daysInYear d.year := by
    rw [← daysBeforeMonth_year]
    exact daysBeforeMonth_mono (by omega) (by omega)
  rw [toordinal, daysBeforeYear_succ positive]
  omega

theorem toordinal_lt_of_year (less : d.year < e.year) : d.toordinal < e.toordinal :=
  calc d.toordinal ≤ daysBeforeYear (d.year + 1) := d.toordinal_bounds.2
    _ ≤ daysBeforeYear e.year := daysBeforeYear_mono (by omega) less
    _ < e.toordinal := e.toordinal_bounds.1

theorem toordinal_lt_of_month (year : d.year = e.year) (less : d.month < e.month) :
    d.toordinal < e.toordinal := by
  obtain ⟨-, -, -, -, day, -⟩ := e.validDate
  have before := d.daysBeforeMonth_lt
  have month : daysBeforeMonth d.year (d.month + 1) ≤ daysBeforeMonth d.year e.month :=
    daysBeforeMonth_mono (by omega) less
  rw [toordinal, toordinal, ← year]
  omega

theorem wall_lt_of_toordinal (less : d.toordinal < e.toordinal) : d.wall < e.wall := by
  obtain ⟨hour, minute, second, microsecond⟩ := d.validTime
  unfold wall
  omega

theorem wall_lt_of_fields (less : d.fields < e.fields) : d.wall < e.wall := by
  obtain ⟨-, minute, second, microsecond⟩ := d.validTime
  simp only [fields, List.cons_lt_cons_iff] at less
  rcases less with year | ⟨year, month | ⟨month, day | ⟨day, less⟩⟩⟩
  · exact wall_lt_of_toordinal (toordinal_lt_of_year year)
  · exact wall_lt_of_toordinal (toordinal_lt_of_month year month)
  · refine wall_lt_of_toordinal ?_
    rw [toordinal, toordinal, year, month]
    omega
  · have same : d.toordinal = e.toordinal := by rw [toordinal, toordinal, year, month, day]
    unfold wall
    rw [same]
    rcases less with hour | ⟨hour, minute' | ⟨minute', second' | ⟨second', less⟩⟩⟩
    · omega
    · omega
    · omega
    · have less : d.microsecond < e.microsecond := by simpa using less
      omega

theorem wall_eq_of_fields (same : d.fields = e.fields) : d.wall = e.wall := by
  simp only [fields, List.cons.injEq, and_true] at same
  obtain ⟨year, month, day, hour, minute, second, microsecond⟩ := same
  rw [wall, wall, toordinal, toordinal, year, month, day, hour, minute, second, microsecond]

theorem fields_lt_iff : d.fields < e.fields ↔ d.wall < e.wall := by
  refine ⟨wall_lt_of_fields, ?_⟩
  intro less
  rcases lt_trichotomy d.fields e.fields with before | same | after
  · exact before
  · exact absurd (wall_eq_of_fields same) less.ne
  · exact absurd (wall_lt_of_fields after) less.asymm

end DateTime

end OopsysAgent
