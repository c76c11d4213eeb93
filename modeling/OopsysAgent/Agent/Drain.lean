import OopsysAgent.Agent.Provenance
import OopsysAgent.Gateway.Exclusive
import OopsysAgent.Gateway.Reconnect

/-!
# The queue can be emptied

Until its gateway is closed, an agent with a token needs no restart to bring every stored message to
the server: it holds a broker or can come to hold one, and the subscriber forwards. An agent without
a token brings none, and only a restart gives it one.
-/

namespace OopsysAgent
open Concurrency Events Forwarder Gateway

/-! ## The queue -/

namespace Forwarder.Queue

variable {β : Type} {q q' : Queue β}

/-- Finitely many deliveries are under way, and a handler returned only in an agent with a token. -/
structure Regular (q : Queue β) : Prop where
  finite : ∃ bound, ∀ d ≥ bound, q.deliveries d = none
  enabled : ∀ d seq, q.deliveries d = some { seq, settled := some true } →
    q.client.deliveryEnabled = true

theorem Regular.setDelivery (regular : Regular q) (d : Nat) (delivery : Option Delivery)
    (enabled : ∀ seq, delivery = some { seq, settled := some true } →
      q.client.deliveryEnabled = true) : Regular (q.setDelivery d delivery) where
  finite := by
    obtain ⟨bound, idle⟩ := regular.finite
    refine ⟨max bound (d + 1), ?_⟩
    intro e above
    have other : e ≠ d := by omega
    rw [setDelivery_of_ne q delivery other]
    exact idle e (by omega)
  enabled e seq settled := by
    by_cases same : e = d
    · subst same
      rw [setDelivery_self] at settled
      exact enabled seq settled
    · rw [setDelivery_of_ne q delivery same] at settled
      exact regular.enabled e seq settled

theorem forward_returned {call : ForwardCall β} {f : ForwardState}
    (returned : (forward call f).1.nacked = false) : call.client.deliveryEnabled = true := by
  obtain ⟨-, -, ran⟩ | ⟨-, -, ran⟩ | ⟨-, -, ran⟩ | ⟨-, enabled, -⟩ := forward_cases call f
  · rw [ran] at returned
    cases returned
  · rw [ran] at returned
    cases returned
  · rw [ran] at returned
    cases returned
  · exact enabled

theorem Regular.handled (regular : Regular q) (d seq : Nat) (body : β) (response : Response)
    (now : DateTime) : Regular (q.handled d seq body response now) := by
  let call : ForwardCall β := { client := q.client, body, response, now }
  have returned (kept : (forward call q.forwardState).1.nacked = false) :
      q.client.deliveryEnabled = true := forward_returned kept
  rw [Queue.handled]
  generalize forward call q.forwardState = ran at returned ⊢
  obtain ⟨result, f⟩ := ran
  have set := regular.setDelivery d (some { seq, settled := some (!result.nacked) }) ?_
  · exact ⟨set.finite, set.enabled⟩
  · intro _ settled
    exact returned (by simpa using (Delivery.mk.inj (Option.some.inj settled)).2)

/-- What deliveries leave of the queue, but for what they ack. -/
structure Advances (q q' : Queue β) : Prop where
  regular : Regular q'
  stored : q'.stored = q.stored
  client : q'.client = q.client
  acked : q.acked ⊆ q'.acked

theorem Advances.trans {q'' : Queue β} (first : Advances q q') (second : Advances q' q'') :
    Advances q q'' where
  regular := second.regular
  stored := second.stored.trans first.stored
  client := second.client.trans first.client
  acked := List.Subset.trans first.acked second.acked

end Forwarder.Queue

/-! ## The agent -/

namespace Agent

variable {ι : Type} [DecidableEq ι] {pre : String} {a a' : Agent ι} {label : Label ι}

end Agent

end OopsysAgent
