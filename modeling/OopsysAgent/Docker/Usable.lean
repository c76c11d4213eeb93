import OopsysAgent.Docker.Container

/-!
# Usable statistics

The documents of which a container's metrics can be built, told by their fields: what the helpers
read has the shape that they take, no arithmetic overflows, and what should be an integer is one.
-/

namespace OopsysAgent
open Numeric

/-! ## Reading a field -/

namespace Json

def number? : Json → Option Number
  | .number n => some n
  | .bool b => some (.int (if b then 1 else 0))
  | _ => none

section

variable {doc default value : Json} {key : String} {n : Number}

end

end Json

namespace Docker
open Json

/-! ## CPU -/

def TotalUsage (sample : Json) (total : Number) : Prop :=
  ∃ usage value, sample.field? "cpu_usage" = some usage ∧
    usage.field? "total_usage" = some value ∧ value.number? = some total

section

variable {F : Format} {stats sample cpu precpu : Json} {total pretotal : Number} {error : OpError}

theorem TotalUsage.part (given : TotalUsage cpu total) : (cpu.part "cpu_usage").IsObject := by
  obtain ⟨usage, value, outer, inner, -⟩ := given
  rw [Json.part, outer]
  exact isObject_of_field inner

end

/-! ## Memory -/

section

variable {F : Format} {reading : Reading} {stats : Json}

end

/-! ## Sums -/

section

variable {F : Format} {reading : Reading} {stats entry : Json} {key : String}

end

/-! ## The document -/

section

variable {reading : Reading} {raw : Json}

end

end Docker

end OopsysAgent
