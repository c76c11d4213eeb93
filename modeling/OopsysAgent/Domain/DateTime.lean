import Mathlib.Data.Rat.Defs
import Mathlib.Tactic.NormNum

namespace OopsysAgent

def isLeap (year : Nat) : Bool := year % 4 = 0 && (year % 100 ≠ 0 || year % 400 = 0)

def daysInMonth (year month : Nat) : Nat :=
  match month with
  | 2 => if isLeap year then 29 else 28
  | 4 | 6 | 9 | 11 => 30
  | _ => 31

def daysBeforeYear (year : Nat) : Nat :=
  let y := year - 1
  y * 365 + y / 4 - y / 100 + y / 400

def daysBeforeMonth (year month : Nat) : Nat :=
  ((List.range' 1 (month - 1)).map (daysInMonth year)).sum

/-- The fields of a `datetime` of the standard library. The offset is in microseconds east of UTC,
and absent when the value is naive. -/
structure DateTime where
  year : Nat
  month : Nat
  day : Nat
  hour : Nat := 0
  minute : Nat := 0
  second : Nat := 0
  microsecond : Nat := 0
  utcoffset : Option Int := some 0
  validDate : 1 ≤ year ∧ year ≤ 9999 ∧ 1 ≤ month ∧ month ≤ 12 ∧ 1 ≤ day ∧
    day ≤ daysInMonth year month := by decide
  validTime : hour < 24 ∧ minute < 60 ∧ second < 60 ∧ microsecond < 1000000 := by decide
  validOffset : ∀ offset ∈ utcoffset, -86400000000 < offset ∧ offset < 86400000000 := by decide
  deriving DecidableEq

namespace DateTime

def toordinal (d : DateTime) : Nat :=
  daysBeforeYear d.year + daysBeforeMonth d.year d.month + d.day

/-- The wall-clock fields, as microseconds since the first representable midnight. -/
def wall (d : DateTime) : Int :=
  (((d.toordinal * 24 + d.hour) * 60 + d.minute) * 60 + d.second) * 1000000 + d.microsecond

def instant (d : DateTime) : Int := d.wall - d.utcoffset.getD 0

/-- What the SQLite column types keep of a value: the wall-clock fields, without `tzinfo`. -/
def naive (d : DateTime) : DateTime :=
  { d with
    utcoffset := none
    validDate := d.validDate
    validTime := d.validTime
    validOffset := by simp }

/-- `(later - earlier).total_seconds()` -/
def totalSeconds (later earlier : DateTime) : ℚ := (later.instant - earlier.instant : ℤ) / 1000000

def pad (width n : Nat) : String :=
  let digits := toString n
  String.ofList (List.replicate (width - digits.length) '0') ++ digits

def isoOffset (offset : Int) : String :=
  let sign := if offset < 0 then "-" else "+"
  let micros := offset.natAbs
  let seconds := micros / 1000000
  let base := sign ++ pad 2 (seconds / 3600) ++ ":" ++ pad 2 (seconds / 60 % 60)
  if micros % 1000000 ≠ 0 then
    base ++ ":" ++ pad 2 (seconds % 60) ++ "." ++ pad 6 (micros % 1000000)
  else if seconds % 60 ≠ 0 then base ++ ":" ++ pad 2 (seconds % 60)
  else base

def isoformat (d : DateTime) : String :=
  pad 4 d.year ++ "-" ++ pad 2 d.month ++ "-" ++ pad 2 d.day ++ "T" ++
    pad 2 d.hour ++ ":" ++ pad 2 d.minute ++ ":" ++ pad 2 d.second ++
    (if d.microsecond ≠ 0 then "." ++ pad 6 d.microsecond else "") ++
    (d.utcoffset.map isoOffset).getD ""

end DateTime

def sampleNow : DateTime := { year := 2026, month := 7, day := 1, hour := 12 }

end OopsysAgent
