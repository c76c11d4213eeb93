import OopsysAgent.Events.Service
import OopsysAgent.Forwarder.Queue
import OopsysAgent.Gateway.Model

/-!
# The agent's way of an event

Any number of `record_*` calls, each on a session of its own, commit their rows and hand one message
to the gateway. The gateway publishes it into the stream, and the subscriber of its broker forwards
it from there. A crash of the process ends the calls inside it; the rows and the stream outlive it.
-/

namespace OopsysAgent
open Concurrency Events Forwarder Gateway

inductive RecordPc
  | idle
  -- in `session.commit()`
  | committing (agentId : String) (recording : Recording)
  -- in `gateway.publish`
  | enqueueing
  | returned
  -- the request of a report has been answered 202
  | accepted
  | raised

/-- A `record_*` call: where it is, what it handed to `gateway.publish`, whether that called
`broker.publish`, and where the stream stored the message. -/
structure Record where
  pc : RecordPc := .idle
  handed : Option (String × Envelope) := none
  sent : Bool := false
  placed : Option Nat := none

def Record.crash (record : Record) : Record :=
  match record.pc with
  | .committing _ _ | .enqueueing => { record with pc := .raised }
  | _ => record

structure Agent (ι : Type) where
  gateway : NatsGateway ι
  queue : Queue Envelope
  history : List HistoryRow := []
  records : ι → Record := fun _ => {}

namespace Agent

inductive Label (ι : Type)
  | record (c : ι) (agentId : String) (event : Event) (now : DateTime)
  | committed (c : ι) (now : DateTime)
  | commitFailed (c : ι)
  -- the stream stores the message that `broker.publish` sent
  | stored (c : ι)
  | published (c : ι) (outcome : Outcome)
  | publishLogged (c : ι)
  | publishCancelled (c : ι)
  -- `POST /reports` answers
  | accepted (c : ι)
  | gateway (label : Gateway.Label ι)
  | queue (label : Queue.Label Envelope)
  -- the process crashed and was started again
  | restarted (client : ServerClient)

/-- The steps of the gateway that no `record_*` call takes. -/
def ownStep {ι : Type} : Gateway.Label ι → Bool
  | .publishCall _ | .published _ _ | .publishLogged _ | .publishCancelled _ => false
  | _ => true

def forwards {β : Type} : Queue.Label β → Bool
  | .store _ | .restart _ => false
  | _ => true

/-- What the subscriber does. The server answers, and the stream gives a delivery up, without it. -/
def subscribes {β : Type} : Queue.Label β → Bool
  | .deliver .. | .handle .. | .ack _ | .nack _ => true
  | _ => false

/-- The subscriber of a broker runs from the call of its `start()` to the end of its `stop()`. -/
def serves {ι : Type} (g : NatsGateway ι) : Bool :=
  (List.range g.built).any fun b => (g.brokers b).isOpen

/-- Where a call is once its `gateway.publish` is at `pc`: `_enqueue` drops the result. -/
def afterPublish : PublishPc → RecordPc
  | .returned _ => .returned
  | .cancelled => .raised
  | _ => .enqueueing

def isSent : PublishPc → Bool
  | .publishing _ => true
  | _ => false

variable {ι : Type}

def initial (client : ServerClient) : Agent ι :=
  { gateway := .init, queue := .initial client }

variable [DecidableEq ι]

def setRecord (a : Agent ι) (c : ι) (record : Record) : Agent ι :=
  { a with records := Function.update a.records c record }

def publishStep (a : Agent ι) (c : ι) (label : Gateway.Label ι) : Option (Agent ι) :=
  match (a.records c).pc with
  | .enqueueing =>
      (NatsGateway.step label a.gateway).map fun g =>
        { a with gateway := g }.setRecord c
          { a.records c with pc := afterPublish (g.publishes c) }
  | _ => none

def step (pre : String) (label : Label ι) (a : Agent ι) : Option (Agent ι) :=
  match label with
  | .record c agentId event now =>
      match (a.records c).pc with
      | .idle => some (a.setRecord c { pc := .committing agentId (recordEvent event now) })
      | _ => none
  | .committed c now =>
      match (a.records c).pc with
      | .committing agentId recording =>
          (NatsGateway.step (.publishCall c) a.gateway).map fun g =>
            { a with
              gateway := g
              history := a.history ++ recording.rows.map HistoryRow.stored }.setRecord c
              { pc := afterPublish (g.publishes c)
                handed := some (recording.subject pre agentId, recording.envelope agentId now)
                sent := isSent (g.publishes c) }
      | _ => none
  | .commitFailed c =>
      match (a.records c).pc with
      | .committing _ _ => some (a.setRecord c { pc := .raised })
      | _ => none
  | .stored c =>
      match a.records c with
      | { sent := true, placed := none, handed := some (_, envelope), .. } =>
          (Queue.step (.store envelope) a.queue).map fun q =>
            { a with queue := q }.setRecord c
              { a.records c with placed := some a.queue.stored.length }
      | _ => none
  | .published c outcome =>
      -- `broker.publish` returns only once the stream has stored the message
      if outcome = .raised ∨ (a.records c).placed.isSome then
        a.publishStep c (.published c outcome)
      else none
  | .publishLogged c => a.publishStep c (.publishLogged c)
  | .publishCancelled c => a.publishStep c (.publishCancelled c)
  | .accepted c =>
      match a.records c with
      | { pc := .returned, handed := some (_, { payload := .errorReport _, .. }), .. } =>
          some (a.setRecord c { a.records c with pc := .accepted })
      | _ => none
  | .gateway label =>
      if ownStep label then
        (NatsGateway.step label a.gateway).map fun g => { a with gateway := g }
      else none
  | .queue label =>
      if forwards label && (!subscribes label || serves a.gateway) then
        (Queue.step label a.queue).map fun q => { a with queue := q }
      else none
  | .restarted client =>
      (Queue.step (.restart client) a.queue).map fun q =>
        { a with gateway := .init, queue := q, records := fun c => (a.records c).crash }

def machine (ι : Type) [DecidableEq ι] (pre : String) : Machine (Agent ι) (Label ι) where
  step := step pre

inductive Step (pre : String) : Label ι → Agent ι → Agent ι → Prop
  | record {a : Agent ι} {c : ι} {agentId : String} {event : Event} {now : DateTime}
      (idle : (a.records c).pc = .idle) :
      Step pre (.record c agentId event now) a
        (a.setRecord c { pc := .committing agentId (recordEvent event now) })
  | committed {a : Agent ι} {c : ι} {agentId : String} {recording : Recording} {now : DateTime}
      {g : NatsGateway ι} (committing : (a.records c).pc = .committing agentId recording)
      (moved : NatsGateway.Step (.publishCall c) a.gateway g) :
      Step pre (.committed c now) a
        ({ a with
          gateway := g
          history := a.history ++ recording.rows.map HistoryRow.stored }.setRecord c
          { pc := afterPublish (g.publishes c)
            handed := some (recording.subject pre agentId, recording.envelope agentId now)
            sent := isSent (g.publishes c) })
  | commitFailed {a : Agent ι} {c : ι} : Step pre (.commitFailed c) a (a.setRecord c { pc := .raised })
  | stored {a : Agent ι} {c : ι} {subject : String} {envelope : Envelope}
      (handed : (a.records c).handed = some (subject, envelope)) :
      Step pre (.stored c) a
        ({ a with queue := { a.queue with stored := a.queue.stored ++ [envelope] } }.setRecord c
          { a.records c with placed := some a.queue.stored.length })
  | published {a : Agent ι} {c : ι} {outcome : Outcome} {g : NatsGateway ι}
      (safe : outcome = .raised ∨ (a.records c).placed.isSome = true)
      (moved : NatsGateway.Step (.published c outcome) a.gateway g) :
      Step pre (.published c outcome) a
        ({ a with gateway := g }.setRecord c
          { a.records c with pc := afterPublish (g.publishes c) })
  | publishLogged {a : Agent ι} {c : ι} {g : NatsGateway ι}
      (moved : NatsGateway.Step (.publishLogged c) a.gateway g) :
      Step pre (.publishLogged c) a
        ({ a with gateway := g }.setRecord c
          { a.records c with pc := afterPublish (g.publishes c) })
  | publishCancelled {a : Agent ι} {c : ι} {g : NatsGateway ι}
      (moved : NatsGateway.Step (.publishCancelled c) a.gateway g) :
      Step pre (.publishCancelled c) a
        ({ a with gateway := g }.setRecord c
          { a.records c with pc := afterPublish (g.publishes c) })
  | accepted {a : Agent ι} {c : ι} (returned : (a.records c).pc = .returned) :
      Step pre (.accepted c) a (a.setRecord c { a.records c with pc := .accepted })
  | gateway {a : Agent ι} {label : Gateway.Label ι} {g : NatsGateway ι}
      (moved : NatsGateway.Step label a.gateway g) :
      Step pre (.gateway label) a { a with gateway := g }
  | queue {a : Agent ι} {label : Queue.Label Envelope} {q : Queue Envelope}
      (own : forwards label = true)
      (served : subscribes label = true → serves a.gateway = true)
      (moved : Queue.Step label a.queue q) : Step pre (.queue label) a { a with queue := q }
  | restarted {a : Agent ι} {client : ServerClient} {q : Queue Envelope}
      (moved : Queue.Step (.restart client) a.queue q) :
      Step pre (.restarted client) a
        { a with gateway := .init, queue := q, records := fun c => (a.records c).crash }

theorem publishStep_sound {a a' : Agent ι} {c : ι} {label : Gateway.Label ι}
    (stepped : a.publishStep c label = some a') :
    ∃ g, NatsGateway.Step label a.gateway g ∧
      a' = { a with gateway := g }.setRecord c
        { a.records c with pc := afterPublish (g.publishes c) } := by
  unfold publishStep at stepped
  split at stepped
  · obtain ⟨g, moved, rfl⟩ := Option.map_eq_some_iff.mp stepped
    exact ⟨g, NatsGateway.step_sound moved, rfl⟩
  · cases stepped

theorem step_sound {pre : String} {label : Label ι} {a a' : Agent ι}
    (stepped : step pre label a = some a') : Step pre label a a' := by
  cases label <;> simp only [step] at stepped
  case record c agentId event now =>
      split at stepped <;> cases stepped
      exact .record ‹_›
  case committed c now =>
      split at stepped
      · obtain ⟨g, moved, rfl⟩ := Option.map_eq_some_iff.mp stepped
        exact .committed ‹_› (NatsGateway.step_sound moved)
      · cases stepped
  case commitFailed c =>
      split at stepped <;> cases stepped
      exact .commitFailed
  case stored c =>
      split at stepped
      · rename_i found
        obtain ⟨q, moved, rfl⟩ := Option.map_eq_some_iff.mp stepped
        cases moved
        exact .stored (by rw [found])
      · cases stepped
  case published c outcome =>
      split at stepped
      · obtain ⟨g, moved, rfl⟩ := publishStep_sound stepped
        exact .published ‹_› moved
      · cases stepped
  case publishLogged c =>
      obtain ⟨g, moved, rfl⟩ := publishStep_sound stepped
      exact .publishLogged moved
  case publishCancelled c =>
      obtain ⟨g, moved, rfl⟩ := publishStep_sound stepped
      exact .publishCancelled moved
  case accepted c =>
      split at stepped
      · rename_i found
        cases stepped
        exact .accepted (by rw [found])
      · cases stepped
  case gateway label =>
      split at stepped
      · obtain ⟨g, moved, rfl⟩ := Option.map_eq_some_iff.mp stepped
        exact .gateway (NatsGateway.step_sound moved)
      · cases stepped
  case queue label =>
      split at stepped
      · rename_i guards
        obtain ⟨own, served⟩ := (Bool.and_eq_true _ _).mp guards
        obtain ⟨q, moved, rfl⟩ := Option.map_eq_some_iff.mp stepped
        exact .queue own (by simpa [imp_iff_not_or] using served) (Queue.step_sound moved)
      · cases stepped
  case restarted client =>
      obtain ⟨q, moved, rfl⟩ := Option.map_eq_some_iff.mp stepped
      exact .restarted (Queue.step_sound moved)

end Agent

end OopsysAgent
