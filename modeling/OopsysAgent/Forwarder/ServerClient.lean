import OopsysAgent.Domain.Events
import Mathlib.Data.List.DropRight

namespace OopsysAgent.Forwarder

structure ServerModel where
  url : String := "http://oopsys-server:8000"
  ingestPath : String := "/agents/ingest"
  timeout : ℚ := 10

def ServerModel.ingestUrl (server : ServerModel) : String :=
  String.ofList (server.url.toList.rdropWhile (· == '/')) ++ server.ingestPath

structure AgentModel where
  token : Option String := none

structure ServerClient where
  server : ServerModel := {}
  agent : AgentModel := {}

structure Request (β : Type) where
  url : String
  json : β
  headers : List (String × String)
  timeout : ℚ

/-- How a `client.post` ends: with a status code, or in an exception of the HTTP library. -/
inductive Response
  | status (code : Int)
  | raised (reason : String)

inductive SendError
  | serverAuthError (reason : String)
  | serverDeliveryError (reason : String)
  | exception (reason : String)

def SendError.reason : SendError → String
  | .serverAuthError reason | .serverDeliveryError reason | .exception reason => reason

namespace ServerClient

def deliveryEnabled (client : ServerClient) : Bool := truthy client.agent.token

def headers (client : ServerClient) : List (String × String) :=
  [("Content-Type", "application/json")] ++
    if truthy client.agent.token then
      [("Authorization", "Bearer " ++ client.agent.token.getD "")]
    else []

def request {β : Type} (client : ServerClient) (envelope : β) : Request β :=
  { url := client.server.ingestUrl
    json := envelope
    headers := client.headers
    timeout := client.server.timeout }

def send : Response → Except SendError Unit
  | .raised reason => .error (.exception reason)
  | .status code =>
      if code ∈ [401, 403] then
        .error (.serverAuthError ("server responded " ++ toString code))
      else if code ≥ 400 then
        .error (.serverDeliveryError ("server responded " ++ toString code))
      else .ok ()

theorem send_eq_ok {response : Response} :
    send response = .ok () ↔ ∃ code, response = .status code ∧ code < 400 := by
  cases response with
  | raised reason => simp [send]
  | status code =>
      simp only [send, Response.status.injEq, exists_eq_left']
      split
      · rename_i refused
        have known : code = 401 ∨ code = 403 := by simpa using refused
        simp only [reduceCtorEq, false_iff]
        omega
      · split
        · simp only [reduceCtorEq, false_iff]
          omega
        · simp only [true_iff]
          omega

end ServerClient

end OopsysAgent.Forwarder
