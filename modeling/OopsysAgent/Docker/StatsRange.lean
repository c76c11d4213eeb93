import Mathlib.Algebra.BigOperators.Ring.Finset
import OopsysAgent.Docker.Stats

/-!
# The range of container statistics

The helpers return on every document whose fields are absent or of their documented types, and what
they return is in range. A float is the rational that the formula gives.
-/

namespace OopsysAgent.Docker
open Json Numeric

/-- `round(x, 2)` -/
def round2 (q : ℚ) : ℚ := Rounding.toDecimals 2 q

/-! ## CPU -/

structure CpuCounters (cpu precpu : Json) (total pretotal system presystem : ℕ) : Prop where
  total : cpu.at? ["cpu_usage", "total_usage"] = some (.number (.int total))
  pretotal : precpu.at? ["cpu_usage", "total_usage"] = some (.number (.int pretotal))
  system : cpu.at? ["system_cpu_usage"] = some (.number (.int system))
  presystem :
    (precpu.at? ["system_cpu_usage"]).getD (.number (.int 0)) = .number (.int presystem)

section

variable {F : Format} {sample cpu precpu : Json} {total pretotal system presystem : ℕ}

theorem totalUsage_eq
    (given : sample.at? ["cpu_usage", "total_usage"] = some (.number (.int total))) :
    totalUsage sample = .ok (.int total) := by
  simp only [at?_cons, Option.bind_eq_some_iff] at given
  obtain ⟨usage, usageGiven, value, valueGiven, same⟩ := given
  obtain rfl := Option.some.inj same
  rw [totalUsage, item_eq_ok usageGiven, ok_bind, item_eq_ok valueGiven]
  rfl

theorem totalUsage_typed (typed : SampleTyped sample) :
    (∃ total : ℕ, sample.at? ["cpu_usage", "total_usage"] = some (.number (.int total))) ∨
      ∃ key, totalUsage sample = .error (.keyError key) := by
  rw [totalUsage, typed.object.item, at?_cons]
  cases usageGiven : sample.field? "cpu_usage" with
  | none => exact .inr ⟨_, rfl⟩
  | some usage =>
      have usageTyped := typed.usage usage usageGiven
      simp only [Option.elim_some, ok_bind, usageTyped.object.item, Option.bind_some, at?_cons]
      cases given : usage.field? "total_usage" with
      | none => exact .inr ⟨_, rfl⟩
      | some value =>
          obtain ⟨total, rfl⟩ := usageTyped.total value given
          exact .inl ⟨total, rfl⟩

theorem cpuDeltas_eq (object : precpu.IsObject)
    (counters : CpuCounters cpu precpu total pretotal system presystem) :
    cpuDeltas F cpu precpu = .ok (.int (total - pretotal), .int (system - presystem)) := by
  have system : cpu.field? "system_cpu_usage" = some (.number (.int system)) := by
    simpa [at?_cons, at?] using counters.system
  have presystem : (precpu.field? "system_cpu_usage").getD (.number (.int 0)) =
      .number (.int presystem) := by
    simpa [at?_cons, at?] using counters.presystem
  rw [cpuDeltas, totalUsage_eq counters.total, ok_bind, totalUsage_eq counters.pretotal, ok_bind,
    Number.sub_int, calculated_ok, ok_bind, item_eq_ok system, ok_bind, object.getD, presystem]
  rfl

theorem cpuDeltas_typed (typed : SampleTyped cpu) (typed' : SampleTyped precpu) :
    (∃ total pretotal system presystem : ℕ,
      CpuCounters cpu precpu total pretotal system presystem) ∨
      ∃ key, cpuDeltas F cpu precpu = .error (.keyError key) := by
  obtain ⟨total, totalGiven⟩ | ⟨key, missing⟩ := totalUsage_typed typed
  · obtain ⟨pretotal, pretotalGiven⟩ | ⟨key, missing⟩ := totalUsage_typed typed'
    · cases systemGiven : cpu.field? "system_cpu_usage" with
      | none =>
          right
          rw [cpuDeltas, totalUsage_eq totalGiven, ok_bind, totalUsage_eq pretotalGiven, ok_bind,
            Number.sub_int, calculated_ok, ok_bind, typed.object.item, systemGiven]
          exact ⟨_, rfl⟩
      | some value =>
          obtain ⟨system, rfl⟩ := typed.system value systemGiven
          obtain ⟨presystem, presystemGiven⟩ := typed'.system.getD counter_zero
          exact .inl ⟨total, pretotal, system, presystem, totalGiven, pretotalGiven,
            by rw [at?_cons, systemGiven]; rfl, by simpa [at?_cons, at?] using presystemGiven⟩
    · right
      rw [cpuDeltas, totalUsage_eq totalGiven, ok_bind, missing]
      exact ⟨key, rfl⟩
  · right
    rw [cpuDeltas, missing]
    exact ⟨key, rfl⟩

theorem percpuCount_typed (typed : CpuTyped cpu) :
    ∃ count : ℕ, 1 ≤ count ∧ percpuCount cpu = .ok count := by
  have usage : (cpu.part "cpu_usage").IsObject :=
    Field.getD (fun value given => (typed.usage value given).object) empty_isObject
  have read : cpu.getD "cpu_usage" (.object []) = .ok (cpu.part "cpu_usage") := typed.object.getD
  rw [percpuCount, read, ok_bind, usage.get, ok_bind]
  cases given : (cpu.part "cpu_usage").field? "percpu_usage" with
  | none => exact ⟨1, le_refl 1, rfl⟩
  | some percpu =>
      obtain rfl | ⟨items, rfl⟩ := typed.percpu percpu given
      · exact ⟨1, le_refl 1, rfl⟩
      · cases items with
        | nil => exact ⟨1, le_refl 1, rfl⟩
        | cons item items =>
            refine ⟨items.length + 1, by omega, ?_⟩
            simp [Option.filter, Json.truthy, Json.len]

theorem onlineCpus_typed (typed : CpuTyped cpu) :
    ∃ count : ℕ, 1 ≤ count ∧ onlineCpus cpu = .ok (.number (.int count)) := by
  have percpu : ∃ count : ℕ, 1 ≤ count ∧
      (do return .number (.int (← percpuCount cpu)) : Except OpError Json) =
        .ok (.number (.int count)) := by
    obtain ⟨count, positive, counted⟩ := percpuCount_typed typed
    exact ⟨count, positive, by rw [counted]; rfl⟩
  rw [onlineCpus, typed.object.get, ok_bind]
  cases given : cpu.field? "online_cpus" with
  | none => exact percpu
  | some online =>
      obtain ⟨n, rfl⟩ := typed.online online given
      by_cases zero : n = 0
      · subst zero
        exact percpu
      · refine ⟨n, Nat.one_le_iff_ne_zero.mpr zero, ?_⟩
        simp [Option.filter, Json.truthy, zero]

/-- With a divisor that is not zero, the share is that of the formula. -/
theorem cpuShare_exact {cpuDelta systemDelta : ℤ} (nonzero : systemDelta ≠ 0) (count : ℕ) :
    cpuShare .exact (.int cpuDelta) (.int systemDelta) (.number (.int count)) =
      .ok (.finite (round2 ((cpuDelta : ℚ) / systemDelta * count * 100))) := by
  rw [cpuShare, Number.div_exact nonzero]
  rfl

end

section

variable {stats : Json} {total pretotal system presystem : ℕ}

theorem StatsTyped.cpuTyped (typed : StatsTyped stats) : CpuTyped (stats.part "cpu_stats") :=
  typed.cpu.getD .empty

theorem StatsTyped.precpuTyped (typed : StatsTyped stats) :
    SampleTyped (stats.part "precpu_stats") :=
  typed.precpu.getD .empty

theorem cpuPercent_missing (typed : StatsTyped stats) {key : String} (missing :
    cpuDeltas .exact (stats.part "cpu_stats") (stats.part "precpu_stats") =
      .error (.keyError key)) :
    cpuPercent .exact stats = .ok none := by
  rw [cpuPercent_eq typed.object, missing]

theorem cpuPercent_zero (typed : StatsTyped stats)
    (counters : CpuCounters (stats.part "cpu_stats") (stats.part "precpu_stats") total pretotal
      system presystem) (back : total < pretotal ∨ system ≤ presystem) :
    cpuPercent .exact stats = .ok (some (.finite 0)) := by
  have stuck : (Number.int (system - presystem)).le (.int 0) ∨
      (Number.int (total - pretotal)).lt (.int 0) := by
    rw [Number.le_int, Number.lt_int]
    omega
  rw [cpuPercent_eq typed.object, cpuDeltas_eq typed.precpuTyped.object counters]
  exact if_pos stuck

theorem cpuPercent_advanced (typed : StatsTyped stats)
    (counters : CpuCounters (stats.part "cpu_stats") (stats.part "precpu_stats") total pretotal
      system presystem) (grew : pretotal ≤ total) (advanced : presystem < system) :
    ∃ count : ℕ, 1 ≤ count ∧
      onlineCpus (stats.part "cpu_stats") = .ok (.number (.int count)) ∧
      ∃ percent, cpuPercent .exact stats = .ok (some (.finite percent)) ∧ 0 ≤ percent ∧
        (total - pretotal ≤ system - presystem → percent ≤ (100 * count : ℕ)) := by
  obtain ⟨count, positive, online⟩ := onlineCpus_typed typed.cpuTyped
  have moving : ¬((Number.int (system - presystem)).le (.int 0) ∨
      (Number.int (total - pretotal)).lt (.int 0)) := by
    rw [Number.le_int, Number.lt_int]
    omega
  have up : (0 : ℚ) ≤ ((total - pretotal : ℤ) : ℚ) :=
    Int.cast_nonneg (by omega : (0 : ℤ) ≤ total - pretotal)
  have on : (0 : ℚ) < ((system - presystem : ℤ) : ℚ) :=
    Int.cast_pos.mpr (by omega : (0 : ℤ) < system - presystem)
  refine ⟨count, positive, online,
    round2 (((total - pretotal : ℤ) : ℚ) / (system - presystem : ℤ) * count * 100), ?_, ?_,
    fun slower => ?_⟩
  · rw [cpuPercent_eq typed.object, cpuDeltas_eq typed.precpuTyped.object counters]
    simp only
    rw [if_neg moving, online, ok_bind, cpuShare_exact (by omega)]
    rfl
  · exact Rounding.toDecimals_nonneg 2 (by positivity)
  · refine Rounding.toDecimals_le 2 ?_
    have slower : ((total - pretotal : ℤ) : ℚ) ≤ (system - presystem : ℤ) :=
      Int.cast_le.mpr (by omega : (total : ℤ) - pretotal ≤ system - presystem)
    have share : ((total - pretotal : ℤ) : ℚ) / (system - presystem : ℤ) ≤ 1 :=
      (div_le_one on).mpr slower
    calc ((total - pretotal : ℤ) : ℚ) / (system - presystem : ℤ) * count * 100
        ≤ 1 * count * 100 := by gcongr
      _ = (100 * count : ℕ) := by push_cast; ring

end

/-! ## Memory -/

section

variable {stats : Json}

theorem StatsTyped.memoryTyped (typed : StatsTyped stats) :
    MemoryTyped (stats.part "memory_stats") :=
  typed.memory.getD .empty

theorem mem_absent {F : Format} (typed : StatsTyped stats)
    (absent : (stats.part "memory_stats").field? "usage" = none) :
    mem F stats = .ok (none, none) := by
  have memory : stats.getD "memory_stats" (.object []) = .ok (stats.part "memory_stats") :=
    typed.object.getD
  have object := typed.memoryTyped.object
  rw [mem, memory, ok_bind, object.get, ok_bind, absent, object.get, ok_bind]
  rfl

theorem inactiveFile_typed {memory : Json} (typed : MemoryTyped memory) :
    ∃ cache : ℕ, memory.getD "stats" (.object []) = .ok (memory.part "stats") ∧
      (memory.part "stats").getD "inactive_file" (.number (.int 0)) =
        .ok (.number (.int cache)) := by
  have inner : (memory.part "stats").IsObject ∧
      (memory.part "stats").Field "inactive_file" Counter :=
    typed.stats.getD ⟨empty_isObject, empty_field_typed _ _⟩
  obtain ⟨cache, given⟩ := inner.2.getD counter_zero
  exact ⟨cache, typed.object.getD, by rw [inner.1.getD, given]⟩

theorem memShare_exact {limit : ℕ} (nonzero : limit ≠ 0) (used : ℤ) :
    memShare .exact (.int used) (.number (.int limit)) =
      .ok (.finite (round2 ((used : ℚ) / limit * 100))) := by
  rw [memShare, Json.num, ok_bind, Number.div_exact (by exact_mod_cast nonzero)]
  rfl

/-- `real_usage` is what is in use besides the page cache. A limit of zero counts as none. -/
theorem mem_eq (typed : StatsTyped stats) {usage : ℕ}
    (given : (stats.part "memory_stats").field? "usage" = some (.number (.int usage))) :
    ∃ used percent, mem .exact stats = .ok (some (.int used), percent) ∧ 0 ≤ used ∧
      used ≤ usage ∧ (percent = none ∨ ∃ limit : ℕ, limit ≠ 0 ∧
        (stats.part "memory_stats").field? "limit" = some (.number (.int limit)) ∧
        percent = some (.finite (round2 ((used : ℚ) / limit * 100)))) := by
  have memory : stats.getD "memory_stats" (.object []) = .ok (stats.part "memory_stats") :=
    typed.object.getD
  have object := typed.memoryTyped.object
  obtain ⟨cache, inner, read⟩ := inactiveFile_typed typed.memoryTyped
  have bounded : max ((usage : ℤ) - cache) 0 ≤ usage := by omega
  rw [mem, memory, ok_bind, object.get, ok_bind, given, object.get, ok_bind]
  simp only [usedMemory, inner, ok_bind, read, Json.num, Number.sub_int, calculated_ok,
    Number.max_int]
  cases limitGiven : (stats.part "memory_stats").field? "limit" with
  | none => exact ⟨_, none, rfl, le_max_right _ 0, bounded, .inl rfl⟩
  | some limit =>
      obtain ⟨limit, rfl⟩ := typed.memoryTyped.limit limit limitGiven
      by_cases zero : limit = 0
      · subst zero
        exact ⟨_, none, rfl, le_max_right _ 0, bounded, .inl rfl⟩
      · have truthy : (some (Json.number (.int limit))).filter Json.truthy =
            some (.number (.int limit)) := by
          simp [Option.filter, Json.truthy, zero]
        rw [truthy]
        simp only [memShare_exact zero, ok_bind]
        exact ⟨_, _, rfl, le_max_right _ 0, bounded, .inr ⟨limit, zero, rfl, rfl⟩⟩

theorem mem_present (typed : StatsTyped stats) {usage : ℕ}
    (given : (stats.part "memory_stats").field? "usage" = some (.number (.int usage))) :
    ∃ (used : ℕ) (percent : Option Double), mem .exact stats = .ok (some (.int used), percent) ∧
      used ≤ usage ∧ ∀ x ∈ percent, ∃ q, x = .finite q ∧ 0 ≤ q ∧ ∀ limit : ℕ,
        (stats.part "memory_stats").field? "limit" = some (.number (.int limit)) →
          usage ≤ limit → q ≤ 100 := by
  obtain ⟨used, percent, read, nonneg, bounded, rfl | ⟨limit, nonzero, limitGiven, rfl⟩⟩ :=
    mem_eq typed given
  · lift used to ℕ using nonneg
    exact ⟨used, none, read, by exact_mod_cast bounded, by simp⟩
  · lift used to ℕ using nonneg
    have bounded : used ≤ usage := by exact_mod_cast bounded
    refine ⟨used, _, read, bounded, ?_⟩
    rintro _ ⟨⟩
    have positive : (0 : ℚ) < limit := by positivity
    refine ⟨_, rfl, Rounding.toDecimals_nonneg 2 (by positivity), ?_⟩
    intro limit' same fits
    obtain rfl : limit = limit' := by
      rw [limitGiven] at same
      simpa using same
    refine Rounding.toDecimals_le (n := 100) 2 ?_
    have share : ((used : ℤ) : ℚ) / limit ≤ 1 :=
      (div_le_one positive).mpr (by exact_mod_cast bounded.trans fits)
    push_cast at share ⊢
    linarith

end

/-! ## Totals -/

def totals {α : Type} (f g : α → ℕ) (xs : List α) : Option Number × Option Number :=
  if xs.isEmpty then (none, none)
  else (some (.int (xs.map f).sum), some (.int (xs.map g).sum))

section

variable {α : Type} {f g : α → ℕ} {xs xs' ys : List α}

theorem totals_counts :
    (∀ n ∈ (totals f g xs).1, ∃ count : ℕ, n = .int count) ∧
      ∀ n ∈ (totals f g xs).2, ∃ count : ℕ, n = .int count := by
  unfold totals
  split
  · exact ⟨by simp, by simp⟩
  · refine ⟨?_, ?_⟩ <;> rintro _ ⟨⟩ <;> exact ⟨_, rfl⟩

theorem totals_perm (same : xs'.Perm xs) : totals f g xs' = totals f g xs := by
  have empty : xs'.isEmpty = xs.isEmpty := by
    rw [Bool.eq_iff_iff, List.isEmpty_iff, List.isEmpty_iff]
    exact ⟨fun nil => (nil ▸ same).symm.eq_nil, fun nil => (nil ▸ same).eq_nil⟩
  rw [totals, totals, empty, (same.map f).sum_eq, (same.map g).sum_eq]

theorem totals_of_ne_nil (nonempty : xs ≠ []) :
    totals f g xs = (some (.int (xs.map f).sum), some (.int (xs.map g).sum)) :=
  if_neg (by simpa using nonempty)

end

def counterAt (key : String) (entry : Json) : ℕ :=
  match entry.field? key with
  | some (.number (.int n)) => n.toNat
  | _ => 0

theorem counterOf_typed {entry : Json} {key : String} (object : entry.IsObject)
    (typed : entry.Field key Counter) :
    counterOf key entry = .ok (some (.int (counterAt key entry))) := by
  rw [counterOf, object.getD, ok_bind, counterAt]
  cases given : entry.field? key with
  | none => rfl
  | some value =>
      obtain ⟨n, rfl⟩ := typed value given
      rfl

/-- The sum takes the numbers of the elements that are not skipped. -/
theorem sum_eq {F : Format} {read : Json → Except OpError (Option Number)} {f : Json → Option ℕ}
    {xs : List Json}
    (reads : ∀ x ∈ xs, read x = .ok (Option.map (fun n : ℕ => Number.int n) (f x))) :
    Json.sum F read xs = .ok (.int (xs.map fun x => (f x).getD 0).sum) := by
  refine sum_eq_ok.mpr ⟨xs.map fun x => Option.map (fun n : ℕ => Number.int n) (f x), ?_, ?_⟩
  · rw [List.forall₂_map_right_iff, List.forall₂_same]
    exact reads
  · have numbers : (xs.map fun x => Option.map (fun n : ℕ => Number.int n) (f x)).reduceOption =
        ((xs.filterMap f).map fun n : ℕ => (n : ℤ)).map Number.int := by
      simp [List.reduceOption, List.filterMap_map, List.map_filterMap, Function.comp_def]
    have counts : (xs.filterMap f).sum = (xs.map fun x => (f x).getD 0).sum := by
      clear reads numbers
      induction xs with
      | nil => rfl
      | cons x xs ih => cases given : f x <;> simp [given, ih]
    rw [numbers, sum_ints, ← Nat.cast_list_sum, counts]

theorem lower_typed {entry : Json} (typed : EntryTyped entry) :
    (entry.getD "op" (.string "") >>= Json.lower) = .ok (opOf entry) := by
  rw [typed.object.getD, ok_bind, opOf]
  cases given : entry.field? "op" with
  | none => rfl
  | some op =>
      obtain ⟨name, rfl⟩ := typed.op op given
      rfl

def valueAt (op : String) (entry : Json) : Option ℕ :=
  if opOf entry = op then some (counterAt "value" entry) else none

theorem valueOf_typed {entry : Json} (op : String) (typed : EntryTyped entry) :
    valueOf op entry = .ok (Option.map (fun n : ℕ => Number.int n) (valueAt op entry)) := by
  rw [valueOf, ← bind_assoc, lower_typed typed, ok_bind, valueAt]
  split
  · exact counterOf_typed typed.object typed.value
  · rfl

def interfaceTotals (interfaces : List (String × Json)) : Option Number × Option Number :=
  totals (fun interface => counterAt "rx_bytes" interface.2)
    (fun interface => counterAt "tx_bytes" interface.2) interfaces

theorem network_object {F : Format} {stats : Json} {interfaces : List (String × Json)}
    (given : stats.field? "networks" = some (.object interfaces))
    (typed : ∀ interface ∈ interfaces, InterfaceTyped interface.2) :
    network F stats = .ok (interfaceTotals interfaces) := by
  rw [network, (isObject_of_field given).get, ok_bind, given, interfaceTotals]
  cases interfaces with
  | nil => rfl
  | cons first others =>
      have read (key : String)
          (counter : ∀ entry, InterfaceTyped entry → entry.Field key Counter) :
          Json.sum F (counterOf key) ((first :: others).map Prod.snd) = .ok
            (.int ((first :: others).map fun interface => counterAt key interface.2).sum) := by
        rw [sum_eq (f := fun entry => some (counterAt key entry)), List.map_map]
        · rfl
        · intro entry member
          obtain ⟨interface, given, rfl⟩ := List.mem_map.mp member
          have typed := typed interface given
          exact counterOf_typed typed.object (counter _ typed)
      have rx := read "rx_bytes" fun entry typed => typed.rx
      have tx := read "tx_bytes" fun entry typed => typed.tx
      have present : (some (Json.object (first :: others))).filter Json.truthy =
          some (.object (first :: others)) := rfl
      rw [totals_of_ne_nil (List.cons_ne_nil first others), present]
      simp only [Json.values, ok_bind, rx, tx]
      rfl

def entryTotals (entries : List Json) : Option Number × Option Number :=
  totals (fun entry => (valueAt "read" entry).getD 0)
    (fun entry => (valueAt "write" entry).getD 0) entries

theorem blockIo_array {F : Format} {stats blkio : Json} {entries : List Json}
    (outer : stats.field? "blkio_stats" = some blkio)
    (given : blkio.field? "io_service_bytes_recursive" = some (.array entries))
    (typed : ∀ entry ∈ entries, EntryTyped entry) :
    blockIo F stats = .ok (entryTotals entries) := by
  have read (op : String) : Json.sum F (valueOf op) entries =
      .ok (.int (entries.map fun entry => (valueAt op entry).getD 0).sum) :=
    sum_eq fun entry member => valueOf_typed op (typed entry member)
  have iterated : ((some (Json.array entries)).filter Json.truthy).elim (.ok []) iter =
      (.ok entries : Except OpError (List Json)) := by
    cases entries <;> rfl
  rw [blockIo, (isObject_of_field outer).getD, ok_bind, outer, Option.getD_some,
    (isObject_of_field given).get, ok_bind, given, iterated, ok_bind, read, ok_bind, read, ok_bind]
  rfl

theorem network_typed {F : Format} {stats : Json} (typed : StatsTyped stats) :
    network F stats = .ok (none, none) ∨
      ∃ interfaces, stats.field? "networks" = some (.object interfaces) ∧
        ∀ interface ∈ interfaces, InterfaceTyped interface.2 := by
  cases given : stats.field? "networks" with
  | none =>
      left
      rw [network, typed.object.get, ok_bind, given]
      rfl
  | some networks =>
      obtain rfl | ⟨interfaces, rfl, interfacesTyped⟩ := typed.networks networks given
      · left
        rw [network, typed.object.get, ok_bind, given]
        rfl
      · exact .inr ⟨interfaces, rfl, interfacesTyped⟩

theorem blockIo_typed {F : Format} {stats : Json} (typed : StatsTyped stats) :
    blockIo F stats = .ok (none, none) ∨
      ∃ blkio entries, stats.field? "blkio_stats" = some blkio ∧
        blkio.field? "io_service_bytes_recursive" = some (.array entries) ∧
        ∀ entry ∈ entries, EntryTyped entry := by
  have inner : (stats.part "blkio_stats").IsObject ∧
      (stats.part "blkio_stats").Field "io_service_bytes_recursive" EntriesTyped :=
    typed.blkio.getD ⟨empty_isObject, empty_field_typed _ _⟩
  have read : stats.getD "blkio_stats" (.object []) = .ok (stats.part "blkio_stats") :=
    typed.object.getD
  have none_of {value : Option Json} (falsy : value.filter Json.truthy = none)
      (given : (stats.part "blkio_stats").field? "io_service_bytes_recursive" = value) :
      blockIo F stats = .ok (none, none) := by
    rw [blockIo, read, ok_bind, inner.1.get, ok_bind, given, falsy]
    rfl
  cases given : (stats.part "blkio_stats").field? "io_service_bytes_recursive" with
  | none => exact .inl (none_of rfl given)
  | some value =>
      obtain rfl | ⟨entries, rfl, entriesTyped⟩ := inner.2 value given
      · exact .inl (none_of rfl given)
      · right
        cases outer : stats.field? "blkio_stats" with
        | none =>
            rw [part, outer] at given
            cases given
        | some blkio =>
            rw [part, outer] at given
            exact ⟨blkio, entries, rfl, given, entriesTyped⟩

/-! ## The range -/

/-- Permuting the entries of a document does not change what `f` makes of it. -/
def OrderFree {α : Type} (f : Json → Except OpError (Option Number × Option Number))
    (path : List String) (entries : List α → Json) (stats : Json) : Prop :=
  ∀ xs xs' stats', stats.at? path = some (entries xs) → xs'.Perm xs →
    stats'.at? path = some (entries xs') → f stats' = f stats

/-- Over two parts, neither of them empty, the totals of the whole are the sums of theirs. -/
def Additive {α : Type} (f : Json → Except OpError (Option Number × Option Number))
    (path : List String) (entries : List α → Json) (stats : Json) : Prop :=
  ∀ xs ys stats₁ stats₂, stats.at? path = some (entries (xs ++ ys)) → xs ≠ [] → ys ≠ [] →
    stats₁.at? path = some (entries xs) → stats₂.at? path = some (entries ys) →
    ∃ a b c d : ℕ, f stats₁ = .ok (some (.int a), some (.int b)) ∧
      f stats₂ = .ok (some (.int c), some (.int d)) ∧
      f stats = .ok (some (.int (a + c)), some (.int (b + d)))

section

variable {α : Type} {f : Json → Except OpError (Option Number × Option Number)}
  {path : List String} {entries : List α → Json} {read write : α → ℕ} {P : α → Prop}
  {stats : Json}

theorem orderFree_of_totals
    (computes : ∀ xs doc, doc.at? path = some (entries xs) → (∀ x ∈ xs, P x) →
      f doc = .ok (totals read write xs))
    (typed : ∀ xs, stats.at? path = some (entries xs) → ∀ x ∈ xs, P x) :
    OrderFree f path entries stats := by
  intro xs xs' stats' given same given'
  have typedAll := typed xs given
  rw [computes xs stats given typedAll,
    computes xs' stats' given' fun x member => typedAll x (same.mem_iff.mp member),
    totals_perm same]

theorem additive_of_totals
    (computes : ∀ xs doc, doc.at? path = some (entries xs) → (∀ x ∈ xs, P x) →
      f doc = .ok (totals read write xs))
    (typed : ∀ xs, stats.at? path = some (entries xs) → ∀ x ∈ xs, P x) :
    Additive f path entries stats := by
  intro xs ys stats₁ stats₂ given front back given₁ given₂
  have typedAll := typed (xs ++ ys) given
  refine ⟨(xs.map read).sum, (xs.map write).sum, (ys.map read).sum, (ys.map write).sum, ?_, ?_, ?_⟩
  · rw [computes xs stats₁ given₁ fun x member => typedAll x (List.mem_append_left ys member),
      totals_of_ne_nil front]
  · rw [computes ys stats₂ given₂ fun x member => typedAll x (List.mem_append_right xs member),
      totals_of_ne_nil back]
  · rw [computes (xs ++ ys) stats given typedAll, totals_of_ne_nil (by simp [front])]
    simp only [List.map_append, List.sum_append, Nat.cast_add]

end

def networksPath : List String := ["networks"]

def entriesPath : List String := ["blkio_stats", "io_service_bytes_recursive"]

structure StatsInRange (stats : Json) : Prop where
  cpu : ∃ percent, cpuPercent .exact stats = .ok percent ∧
    ∀ x ∈ percent, ∃ q, x = .finite q ∧ 0 ≤ q
  cpuShare : ∀ total pretotal system presystem : ℕ,
    CpuCounters (stats.part "cpu_stats") (stats.part "precpu_stats") total pretotal system
      presystem →
    ((total : ℤ) - pretotal ≤ system - presystem →
      ∃ count : ℕ, 1 ≤ count ∧
        onlineCpus (stats.part "cpu_stats") = .ok (.number (.int count)) ∧
        ∃ percent, cpuPercent .exact stats = .ok (some (.finite percent)) ∧
          percent ≤ 100 * count) ∧
    (total < pretotal ∨ system ≤ presystem → cpuPercent .exact stats = .ok (some (.finite 0)))
  memory : ∃ used percent, mem .exact stats = .ok (used, percent) ∧
    (∀ x ∈ used, ∃ bytes usage : ℕ, x = .int bytes ∧
      stats.at? ["memory_stats", "usage"] = some (.number (.int usage)) ∧ bytes ≤ usage) ∧
    ∀ x ∈ percent, ∃ q, x = .finite q ∧ 0 ≤ q ∧ ∀ usage limit : ℕ,
      stats.at? ["memory_stats", "usage"] = some (.number (.int usage)) →
      stats.at? ["memory_stats", "limit"] = some (.number (.int limit)) → usage ≤ limit → q ≤ 100
  network : ∃ rx tx, network .exact stats = .ok (rx, tx) ∧
    (∀ x ∈ rx, ∃ bytes : ℕ, x = .int bytes) ∧ ∀ x ∈ tx, ∃ bytes : ℕ, x = .int bytes
  blockIo : ∃ read write, blockIo .exact stats = .ok (read, write) ∧
    (∀ x ∈ read, ∃ bytes : ℕ, x = .int bytes) ∧ ∀ x ∈ write, ∃ bytes : ℕ, x = .int bytes
  networkOrder : OrderFree (Docker.network .exact) networksPath .object stats
  networkSum : Additive (Docker.network .exact) networksPath .object stats
  blockIoOrder : OrderFree (Docker.blockIo .exact) entriesPath .array stats
  blockIoSum : Additive (Docker.blockIo .exact) entriesPath .array stats

section

variable {F : Format} {stats : Json}

theorem field_of_networksPath {interfaces : List (String × Json)}
    (given : stats.at? networksPath = some (.object interfaces)) :
    stats.field? "networks" = some (.object interfaces) := by
  simpa [networksPath, at?_cons, at?] using given

theorem network_at {interfaces : List (String × Json)}
    (given : stats.at? networksPath = some (.object interfaces))
    (typed : ∀ interface ∈ interfaces, InterfaceTyped interface.2) :
    network F stats = .ok (interfaceTotals interfaces) :=
  network_object (field_of_networksPath given) typed

theorem interfaces_typed (typed : StatsTyped stats) {interfaces : List (String × Json)}
    (given : stats.at? networksPath = some (.object interfaces)) :
    ∀ interface ∈ interfaces, InterfaceTyped interface.2 := by
  obtain null | ⟨all, same, allTyped⟩ := typed.networks _ (field_of_networksPath given)
  · cases null
  · cases same
    exact allTyped

theorem blockIo_at {entries : List Json} (given : stats.at? entriesPath = some (.array entries))
    (typed : ∀ entry ∈ entries, EntryTyped entry) :
    blockIo F stats = .ok (entryTotals entries) := by
  obtain ⟨blkio, outer, inner⟩ := Option.bind_eq_some_iff.mp given
  exact blockIo_array outer (by simpa [at?_cons, at?] using inner) typed

theorem entries_typed (typed : StatsTyped stats) {entries : List Json}
    (given : stats.at? entriesPath = some (.array entries)) :
    ∀ entry ∈ entries, EntryTyped entry := by
  obtain ⟨blkio, outer, inner⟩ := Option.bind_eq_some_iff.mp given
  have field : blkio.field? "io_service_bytes_recursive" = some (.array entries) := by
    simpa [at?_cons, at?] using inner
  obtain null | ⟨all, same, allTyped⟩ := (typed.blkio blkio outer).2 _ field
  · cases null
  · cases same
    exact allTyped

theorem cpu_in_range (typed : StatsTyped stats) :
    ∃ percent, cpuPercent .exact stats = .ok percent ∧
      ∀ x ∈ percent, ∃ q, x = .finite q ∧ 0 ≤ q := by
  obtain ⟨total, pretotal, system, presystem, counters⟩ | ⟨key, missing⟩ :=
    cpuDeltas_typed typed.cpuTyped.toSampleTyped typed.precpuTyped
  · by_cases back : total < pretotal ∨ system ≤ presystem
    · refine ⟨some (.finite 0), cpuPercent_zero typed counters back, ?_⟩
      rintro _ ⟨⟩
      exact ⟨0, rfl, le_refl 0⟩
    · rw [not_or, not_lt, not_le] at back
      obtain ⟨-, -, -, percent, computed, nonneg, -⟩ :=
        cpuPercent_advanced typed counters back.1 back.2
      refine ⟨some (.finite percent), computed, ?_⟩
      rintro _ ⟨⟩
      exact ⟨percent, rfl, nonneg⟩
  · exact ⟨none, cpuPercent_missing typed missing, by simp⟩

theorem cpu_share (typed : StatsTyped stats) {total pretotal system presystem : ℕ}
    (counters : CpuCounters (stats.part "cpu_stats") (stats.part "precpu_stats") total pretotal
      system presystem) (slower : (total : ℤ) - pretotal ≤ system - presystem) :
    ∃ count : ℕ, 1 ≤ count ∧
      onlineCpus (stats.part "cpu_stats") = .ok (.number (.int count)) ∧
      ∃ percent, cpuPercent .exact stats = .ok (some (.finite percent)) ∧
        percent ≤ 100 * count := by
  by_cases back : total < pretotal ∨ system ≤ presystem
  · obtain ⟨count, positive, online⟩ := onlineCpus_typed typed.cpuTyped
    exact ⟨count, positive, online, 0, cpuPercent_zero typed counters back, by positivity⟩
  · rw [not_or, not_lt, not_le] at back
    obtain ⟨count, positive, online, percent, computed, -, share⟩ :=
      cpuPercent_advanced typed counters back.1 back.2
    refine ⟨count, positive, online, percent, computed, ?_⟩
    exact_mod_cast share (by omega)

theorem memory_in_range (typed : StatsTyped stats) :
    ∃ used percent, mem .exact stats = .ok (used, percent) ∧
      (∀ x ∈ used, ∃ bytes usage : ℕ, x = .int bytes ∧
        stats.at? ["memory_stats", "usage"] = some (.number (.int usage)) ∧ bytes ≤ usage) ∧
      ∀ x ∈ percent, ∃ q, x = .finite q ∧ 0 ≤ q ∧ ∀ usage limit : ℕ,
        stats.at? ["memory_stats", "usage"] = some (.number (.int usage)) →
        stats.at? ["memory_stats", "limit"] = some (.number (.int limit)) → usage ≤ limit →
          q ≤ 100 := by
  simp only [← part_field]
  cases given : (stats.part "memory_stats").field? "usage" with
  | none => exact ⟨none, none, mem_absent typed given, by simp, by simp⟩
  | some value =>
      obtain ⟨usage, rfl⟩ := typed.memoryTyped.usage value given
      obtain ⟨used, percent, computed, bounded, share⟩ := mem_present typed given
      refine ⟨some (.int used), percent, computed, ?_, ?_⟩
      · rintro _ ⟨⟩
        exact ⟨used, usage, rfl, rfl, bounded⟩
      · intro x member
        obtain ⟨q, rfl, nonneg, capped⟩ := share x member
        refine ⟨q, rfl, nonneg, ?_⟩
        intro usage' limit same limitGiven fits
        obtain rfl : usage = usage' := by simpa using same
        exact capped limit limitGiven fits

end

theorem stats_in_range (stats : Json) (typed : StatsTyped stats) : StatsInRange stats where
  cpu := cpu_in_range typed
  cpuShare _ _ _ _ counters := ⟨cpu_share typed counters, cpuPercent_zero typed counters⟩
  memory := memory_in_range typed
  network := by
    obtain absent | ⟨interfaces, given, interfacesTyped⟩ := network_typed typed
    · exact ⟨none, none, absent, by simp, by simp⟩
    · exact ⟨_, _, network_object given interfacesTyped, totals_counts⟩
  blockIo := by
    obtain absent | ⟨blkio, entries, outer, given, entriesTyped⟩ := blockIo_typed typed
    · exact ⟨none, none, absent, by simp, by simp⟩
    · exact ⟨_, _, blockIo_array outer given entriesTyped, totals_counts⟩
  networkOrder := orderFree_of_totals (fun _ _ => network_at) fun _ => interfaces_typed typed
  networkSum := additive_of_totals (fun _ _ => network_at) fun _ => interfaces_typed typed
  blockIoOrder := orderFree_of_totals (fun _ _ => blockIo_at) fun _ => entries_typed typed
  blockIoSum := additive_of_totals (fun _ _ => blockIo_at) fun _ => entries_typed typed

/-- A container that used half of each of two CPUs, with more page cache than memory in use. -/
def sampleStats : Json :=
  .object
    [("cpu_stats", .object
        [("cpu_usage", .object [("total_usage", .number (.int 300))]),
          ("system_cpu_usage", .number (.int 600)), ("online_cpus", .number (.int 2))]),
      ("precpu_stats", .object
        [("cpu_usage", .object [("total_usage", .number (.int 100))]),
          ("system_cpu_usage", .number (.int 200))]),
      ("memory_stats", .object
        [("usage", .number (.int 10)), ("limit", .number (.int 16)),
          ("stats", .object [("inactive_file", .number (.int 12))])]),
      ("networks", .object
        [("eth0", .object [("rx_bytes", .number (.int 5)), ("tx_bytes", .number (.int 7))]),
          ("eth1", .object [("rx_bytes", .number (.int 1))])])]

theorem sampleStats_typed : StatsTyped sampleStats where
  object := ⟨_, rfl⟩
  cpu := by
    rintro _ ⟨⟩
    refine ⟨⟨⟨_, rfl⟩, ?_, ?_⟩, ?_, ?_⟩
    · rintro _ ⟨⟩
      refine ⟨⟨_, rfl⟩, ?_⟩
      rintro _ ⟨⟩
      exact ⟨300, rfl⟩
    · rintro _ ⟨⟩
      exact ⟨600, rfl⟩
    · rintro _ ⟨⟩
      exact ⟨2, rfl⟩
    · rintro _ ⟨⟩
  precpu := by
    rintro _ ⟨⟩
    refine ⟨⟨_, rfl⟩, ?_, ?_⟩
    · rintro _ ⟨⟩
      refine ⟨⟨_, rfl⟩, ?_⟩
      rintro _ ⟨⟩
      exact ⟨100, rfl⟩
    · rintro _ ⟨⟩
      exact ⟨200, rfl⟩
  memory := by
    rintro _ ⟨⟩
    refine ⟨⟨_, rfl⟩, ?_, ?_, ?_⟩
    · rintro _ ⟨⟩
      exact ⟨10, rfl⟩
    · rintro _ ⟨⟩
      exact ⟨16, rfl⟩
    · rintro _ ⟨⟩
      refine ⟨⟨_, rfl⟩, ?_⟩
      rintro _ ⟨⟩
      exact ⟨12, rfl⟩
  networks := by
    rintro _ ⟨⟩
    refine .inr ⟨_, rfl, ?_⟩
    intro interface member
    rcases List.mem_cons.mp member with rfl | member
    · refine ⟨⟨_, rfl⟩, ?_, ?_⟩
      · rintro _ ⟨⟩
        exact ⟨5, rfl⟩
      · rintro _ ⟨⟩
        exact ⟨7, rfl⟩
    · obtain rfl := List.mem_singleton.mp member
      refine ⟨⟨_, rfl⟩, ?_, ?_⟩
      · rintro _ ⟨⟩
        exact ⟨1, rfl⟩
      · rintro _ ⟨⟩
  blkio := by
    rintro _ ⟨⟩

theorem stats_in_range_sampleStats :
    StatsInRange sampleStats ∧ cpuPercent .exact sampleStats = .ok (some (.finite 100)) ∧
      mem .exact sampleStats = .ok (some (.int 0), some (.finite 0)) ∧
      network .exact sampleStats = .ok (some (.int 6), some (.int 7)) :=
  ⟨stats_in_range sampleStats sampleStats_typed, by decide +kernel, by decide +kernel,
    by decide +kernel⟩

end OopsysAgent.Docker
