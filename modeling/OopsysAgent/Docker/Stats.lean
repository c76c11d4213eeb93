import OopsysAgent.Docker.Document

/-!
# Container statistics
-/

namespace OopsysAgent.Docker
open Json Numeric

/-! ## The helpers -/

section

variable (F : Format)

def totalUsage (sample : Json) : Except OpError Number := do
  (← (← sample.item "cpu_usage").item "total_usage").num

/-- The `try` block of `_cpu_percent`. -/
def cpuDeltas (cpu precpu : Json) : Except OpError (Number × Number) := do
  let total ← totalUsage cpu
  let pretotal ← totalUsage precpu
  let cpuDelta ← calculated (total.sub F pretotal)
  let system ← (← cpu.item "system_cpu_usage").num
  let presystem ← (← precpu.getD "system_cpu_usage" (.number (.int 0))).num
  let systemDelta ← calculated (system.sub F presystem)
  return (cpuDelta, systemDelta)

/-- `len(cpu.get("cpu_usage", {}).get("percpu_usage") or []) or 1` -/
def percpuCount (cpu : Json) : Except OpError ℕ := do
  match (← (← cpu.getD "cpu_usage" (.object [])).get "percpu_usage").filter Json.truthy with
  | some percpu => percpu.len
  | none => return 1

/-- `cpu.get("online_cpus") or percpuCount` -/
def onlineCpus (cpu : Json) : Except OpError Json := do
  match (← cpu.get "online_cpus").filter Json.truthy with
  | some online => return online
  | none => return .number (.int (← percpuCount cpu))

/-- `round((cpu_delta / system_delta) * online * 100.0, 2)` -/
def cpuShare (cpuDelta systemDelta : Number) (online : Json) : Except OpError Double := do
  let ratio ← calculated (cpuDelta.div F systemDelta)
  let online ← calculated ((← online.num).toFloat F)
  return ((ratio.mul F online).mul F (.finite 100)).roundTo F 2

def cpuPercent (stats : Json) : Except OpError (Option Double) := do
  let cpu ← stats.getD "cpu_stats" (.object [])
  let precpu ← stats.getD "precpu_stats" (.object [])
  match cpuDeltas F cpu precpu with
  | .error (.keyError _) | .error .typeError => return none
  | .error error => throw error
  | .ok (cpuDelta, systemDelta) =>
      if systemDelta.le (.int 0) ∨ cpuDelta.lt (.int 0) then return some (.finite 0)
      else return some (← cpuShare F cpuDelta systemDelta (← onlineCpus cpu))

/-- `round(real_usage / limit * 100.0, 2)` -/
def memShare (realUsage : Number) (limit : Json) : Except OpError Double := do
  let ratio ← calculated (realUsage.div F (← limit.num))
  return (ratio.mul F (.finite 100)).roundTo F 2

/-- The rest of `_mem`, where there is a `usage`. -/
def usedMemory (mem usage : Json) (limit : Option Json) :
    Except OpError (Option Number × Option Double) := do
  let cache ← (← mem.getD "stats" (.object [])).getD "inactive_file" (.number (.int 0))
  let realUsage := (← calculated ((← usage.num).sub F (← cache.num))).max (.int 0)
  match limit.filter Json.truthy with
  | none => return (some realUsage, none)
  | some limit => return (some realUsage, some (← memShare F realUsage limit))

def mem (stats : Json) : Except OpError (Option Number × Option Double) := do
  let mem ← stats.getD "memory_stats" (.object [])
  let usage ← mem.get "usage"
  let limit ← mem.get "limit"
  match usage with
  | none | some .null => return (none, none)
  | some usage => usedMemory F mem usage limit

def counterOf (key : String) (entry : Json) : Except OpError (Option Number) := do
  return some (← (← entry.getD key (.number (.int 0))).num)

def network (stats : Json) : Except OpError (Option Number × Option Number) := do
  match (← stats.get "networks").filter Json.truthy with
  | none => return (none, none)
  | some networks =>
      let rx ← Json.sum F (counterOf "rx_bytes") (← networks.values)
      let tx ← Json.sum F (counterOf "tx_bytes") (← networks.values)
      return (some rx, some tx)

def valueOf (op : String) (entry : Json) : Except OpError (Option Number) := do
  if (← (← entry.getD "op" (.string "")).lower) = op then counterOf "value" entry else return none

def blockIo (stats : Json) : Except OpError (Option Number × Option Number) := do
  let blkio ← stats.getD "blkio_stats" (.object [])
  let entries ← ((← blkio.get "io_service_bytes_recursive").filter Json.truthy).elim (.ok []) iter
  let read ← Json.sum F (valueOf "read") entries
  let write ← Json.sum F (valueOf "write") entries
  return if entries.isEmpty then (none, none) else (some read, some write)

end

theorem cpuPercent_eq {F : Format} {stats : Json} (object : stats.IsObject) :
    cpuPercent F stats =
      match cpuDeltas F (stats.part "cpu_stats") (stats.part "precpu_stats") with
      | .error (.keyError _) | .error .typeError => .ok none
      | .error error => .error error
      | .ok (cpuDelta, systemDelta) =>
          if systemDelta.le (.int 0) ∨ cpuDelta.lt (.int 0) then .ok (some (.finite 0))
          else do
            let online ← onlineCpus (stats.part "cpu_stats")
            return some (← cpuShare F cpuDelta systemDelta online) := by
  have cpu : stats.getD "cpu_stats" (.object []) = .ok (stats.part "cpu_stats") := object.getD
  have precpu : stats.getD "precpu_stats" (.object []) = .ok (stats.part "precpu_stats") :=
    object.getD
  rw [cpuPercent, cpu, ok_bind, precpu, ok_bind]
  rfl

/-! ## Documents as the daemon sends them -/

def opOf (entry : Json) : String :=
  match entry.field? "op" with
  | some (.string name) => String.ofList (name.toList.map Char.toLower)
  | _ => ""

structure UsageTyped (usage : Json) : Prop where
  object : usage.IsObject
  total : usage.Field "total_usage" Counter

structure SampleTyped (sample : Json) : Prop where
  object : sample.IsObject
  usage : sample.Field "cpu_usage" UsageTyped
  system : sample.Field "system_cpu_usage" Counter

structure CpuTyped (cpu : Json) : Prop extends SampleTyped cpu where
  online : cpu.Field "online_cpus" Counter
  percpu : (cpu.part "cpu_usage").Field "percpu_usage" fun percpu =>
    percpu = .null ∨ ∃ items, percpu = .array items

structure MemoryTyped (memory : Json) : Prop where
  object : memory.IsObject
  usage : memory.Field "usage" Counter
  limit : memory.Field "limit" Counter
  stats : memory.Field "stats" fun stats => stats.IsObject ∧ stats.Field "inactive_file" Counter

structure InterfaceTyped (interface : Json) : Prop where
  object : interface.IsObject
  rx : interface.Field "rx_bytes" Counter
  tx : interface.Field "tx_bytes" Counter

structure EntryTyped (entry : Json) : Prop where
  object : entry.IsObject
  op : entry.Field "op" fun op => ∃ name, op = .string name
  value : entry.Field "value" Counter

def NetworksTyped (networks : Json) : Prop :=
  networks = .null ∨
    ∃ interfaces, networks = .object interfaces ∧ ∀ entry ∈ interfaces, InterfaceTyped entry.2

def EntriesTyped (entries : Json) : Prop :=
  entries = .null ∨ ∃ items, entries = .array items ∧ ∀ entry ∈ items, EntryTyped entry

/-- Each field that the helpers read is absent or of its documented type. -/
structure StatsTyped (stats : Json) : Prop where
  object : stats.IsObject
  cpu : stats.Field "cpu_stats" CpuTyped
  precpu : stats.Field "precpu_stats" SampleTyped
  memory : stats.Field "memory_stats" MemoryTyped
  networks : stats.Field "networks" NetworksTyped
  blkio : stats.Field "blkio_stats" fun blkio =>
    blkio.IsObject ∧ blkio.Field "io_service_bytes_recursive" EntriesTyped

theorem SampleTyped.empty : SampleTyped (.object []) :=
  ⟨empty_isObject, empty_field_typed _ _, empty_field_typed _ _⟩

theorem CpuTyped.empty : CpuTyped (.object []) :=
  ⟨.empty, empty_field_typed _ _, empty_field_typed _ _⟩

theorem MemoryTyped.empty : MemoryTyped (.object []) :=
  ⟨empty_isObject, empty_field_typed _ _, empty_field_typed _ _, empty_field_typed _ _⟩

end OopsysAgent.Docker
