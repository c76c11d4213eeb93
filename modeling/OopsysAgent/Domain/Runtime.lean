import OopsysAgent.Domain.DateTime

namespace OopsysAgent

structure DockerStatus where
  available : Bool := false
  reason : Option String := none

structure AppRuntime where
  agentId : String := ""
  startedAt : DateTime
  docker : DockerStatus := {}
  queueConnected : Bool := false
  serverReachable : Bool := false
  lastMetricsAt : Option DateTime := none
  lastForwardedAt : Option DateTime := none

def AppRuntime.uptimeSeconds (runtime : AppRuntime) (now : DateTime) : ℚ :=
  now.totalSeconds runtime.startedAt

/-- The `sqlite` entry of `/health`: the error text when `SELECT 1` raised. -/
inductive SqliteHealth
  | ok
  | failed (error : String)

inductive DockerHealth
  | available
  | unavailable (status : String) (reason : Option String)

structure HealthReport where
  status : String := "alive"
  agentId : String
  version : String
  uptimeSeconds : ℚ
  sqlite : SqliteHealth
  queueConnected : Bool
  serverReachable : Bool
  serverLastForwardedAt : Option String
  docker : DockerHealth
  lastMetricsAt : Option String

def health (runtime : AppRuntime) (version : String) (now : DateTime)
    (select1 : Except String Unit) : HealthReport :=
  { agentId := runtime.agentId
    version
    uptimeSeconds := runtime.uptimeSeconds now
    sqlite :=
      match select1 with
      | .ok _ => .ok
      | .error error => .failed error
    queueConnected := runtime.queueConnected
    serverReachable := runtime.serverReachable
    serverLastForwardedAt := runtime.lastForwardedAt.map DateTime.isoformat
    docker :=
      if runtime.docker.available then .available
      else .unavailable "docker monitor unavailable" runtime.docker.reason
    lastMetricsAt := runtime.lastMetricsAt.map DateTime.isoformat }

end OopsysAgent
