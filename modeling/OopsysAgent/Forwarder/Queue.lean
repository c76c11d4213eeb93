import OopsysAgent.Forwarder.Forward
import OopsysAgent.Library.Machine

/-!
# The queue and its forwarder

Messages stored in the stream are delivered to `_forward` any number of times, until one delivery is
acked. A delivery is acked when the handler returned and nacked when it raised; either may be lost,
and the agent may crash and start again with another configuration at any point.
-/

namespace OopsysAgent.Forwarder
open Concurrency

/-- A delivery of the message `seq`; `settled` is whether its handler returned, once it ended. -/
structure Delivery where
  seq : Nat
  settled : Option Bool := none

/-- A request that was sent for the message `seq` and reached the server, and its answer. -/
structure Answered (β : Type) where
  seq : Nat
  request : Request β
  code : Int

structure Queue (β : Type) where
  stored : List β := []
  acked : List Nat := []
  deliveries : Nat → Option Delivery := fun _ => none
  answered : List (Answered β) := []
  client : ServerClient
  forwardState : ForwardState := {}

namespace Queue

inductive Label (β : Type)
  | store (body : β)
  | deliver (d seq : Nat)
  -- `_forward` ran on a delivery
  | handle (d : Nat) (response : Response) (now : DateTime)
  -- the server answered, and the agent did not get to see it
  | answerLost (d : Nat) (code : Int)
  | ack (d : Nat)
  | nack (d : Nat)
  | lose (d : Nat)
  | restart (client : ServerClient)

/-- The status that the agent gets to see. -/
def Label.code? {β : Type} : Label β → Option Int
  | .handle _ (.status code) _ => some code
  | _ => none

variable {β : Type}

def setDelivery (q : Queue β) (d : Nat) (delivery : Option Delivery) : Queue β :=
  { q with deliveries := Function.update q.deliveries d delivery }

theorem setDelivery_self (q : Queue β) (d : Nat) (delivery : Option Delivery) :
    (q.setDelivery d delivery).deliveries d = delivery := Function.update_self ..

theorem setDelivery_of_ne (q : Queue β) {d e : Nat} (delivery : Option Delivery) (other : e ≠ d) :
    (q.setDelivery d delivery).deliveries e = q.deliveries e := Function.update_of_ne other ..

def answers (seq : Nat) (requests : List (Request β)) : Response → List (Answered β)
  | .status code => requests.map fun request => { seq, request, code }
  | .raised _ => []

def handled (q : Queue β) (d seq : Nat) (body : β) (response : Response) (now : DateTime) :
    Queue β :=
  let (result, forwardState) := forward { client := q.client, body, response, now } q.forwardState
  { q.setDelivery d (some { seq, settled := some !result.nacked }) with
    answered := q.answered ++ answers seq result.requests response
    forwardState }

def step (label : Label β) (q : Queue β) : Option (Queue β) :=
  match label with
  | .store body => some { q with stored := q.stored ++ [body] }
  | .deliver d seq =>
      if seq < q.stored.length ∧ seq ∉ q.acked ∧ (q.deliveries d).isNone then
        some (q.setDelivery d (some { seq }))
      else none
  | .handle d response now =>
      match q.deliveries d with
      | some { seq, settled := none } =>
          (q.stored[seq]?).map fun body => q.handled d seq body response now
      | _ => none
  | .answerLost d code =>
      match q.deliveries d with
      | some { seq, settled := none } =>
          if q.client.deliveryEnabled then
            (q.stored[seq]?).map fun body =>
              { q with answered := q.answered ++ [{ seq, request := q.client.request body, code }] }
          else none
      | _ => none
  | .ack d =>
      match q.deliveries d with
      | some { seq, settled := some true } =>
          some { q.setDelivery d none with acked := seq :: q.acked }
      | _ => none
  | .nack d =>
      match q.deliveries d with
      | some { settled := some false, .. } => some (q.setDelivery d none)
      | _ => none
  | .lose d => if (q.deliveries d).isSome then some (q.setDelivery d none) else none
  | .restart client =>
      some { q with deliveries := fun _ => none, client, forwardState := {} }

def machine (β : Type) : Machine (Queue β) (Label β) where
  step := step

inductive Step : Label β → Queue β → Queue β → Prop
  | store {q : Queue β} (body : β) : Step (.store body) q { q with stored := q.stored ++ [body] }
  | deliver {q : Queue β} {d seq : Nat} (bounded : seq < q.stored.length) (unacked : seq ∉ q.acked) :
      Step (.deliver d seq) q (q.setDelivery d (some { seq }))
  | handle {q : Queue β} {d seq : Nat} {body : β} (response : Response) (now : DateTime)
      (running : q.deliveries d = some { seq }) (found : q.stored[seq]? = some body) :
      Step (.handle d response now) q (q.handled d seq body response now)
  | answerLost {q : Queue β} {d seq : Nat} {body : β} (code : Int)
      (running : q.deliveries d = some { seq }) (found : q.stored[seq]? = some body) :
      Step (.answerLost d code) q
        { q with answered := q.answered ++ [{ seq, request := q.client.request body, code }] }
  | ack {q : Queue β} {d seq : Nat} (returned : q.deliveries d = some { seq, settled := some true }) :
      Step (.ack d) q { q.setDelivery d none with acked := seq :: q.acked }
  | nack {q : Queue β} {d seq : Nat} (raised : q.deliveries d = some { seq, settled := some false }) :
      Step (.nack d) q (q.setDelivery d none)
  | lose {q : Queue β} (d : Nat) : Step (.lose d) q (q.setDelivery d none)
  | restart {q : Queue β} (client : ServerClient) :
      Step (.restart client) q
        { q with deliveries := fun _ => none, client, forwardState := {} }

theorem step_sound {label : Label β} {q q' : Queue β} (stepped : step label q = some q') :
    Step label q q' := by
  cases label with
  | store body => cases stepped; exact .store body
  | deliver d seq =>
      simp only [step] at stepped
      split at stepped
      · rename_i guards
        cases stepped
        exact .deliver guards.1 guards.2.1
      · cases stepped
  | handle d response now =>
      simp only [step] at stepped
      split at stepped
      · rename_i seq running
        obtain ⟨body, found, rfl⟩ := Option.map_eq_some_iff.mp stepped
        exact .handle response now running found
      · cases stepped
  | answerLost d code =>
      simp only [step] at stepped
      split at stepped
      · rename_i seq running
        split at stepped
        · obtain ⟨body, found, rfl⟩ := Option.map_eq_some_iff.mp stepped
          exact .answerLost code running found
        · cases stepped
      · cases stepped
  | ack d =>
      simp only [step] at stepped
      split at stepped
      · rename_i seq returned
        cases stepped
        exact .ack returned
      · cases stepped
  | nack d =>
      simp only [step] at stepped
      split at stepped
      · rename_i seq raised
        cases stepped
        exact .nack raised
      · cases stepped
  | lose d =>
      simp only [step] at stepped
      split at stepped
      · cases stepped
        exact .lose d
      · cases stepped
  | restart client => cases stepped; exact .restart client

/-! ## Where an acked message has been -/

/-- The message was posted with its own body, and the server answered with a code in `P`. -/
def PostedWith (P : Int → Prop) (q : Queue β) (seq : Nat) : Prop :=
  ∃ body request code, q.stored[seq]? = some body ∧ { seq, request, code } ∈ q.answered ∧
    request.json = body ∧ P code

structure Inv (P : Int → Prop) (q : Queue β) : Prop where
  acked : ∀ seq ∈ q.acked, PostedWith P q seq
  returned : ∀ d seq, q.deliveries d = some { seq, settled := some true } → PostedWith P q seq

section

variable {P : Int → Prop} {q q' : Queue β} {seq : Nat}

theorem PostedWith.grow (posted : PostedWith P q seq) (stored : q.stored <+: q'.stored)
    (answered : q.answered ⊆ q'.answered) : PostedWith P q' seq := by
  obtain ⟨body, request, code, found, member, same, good⟩ := posted
  obtain ⟨more, appended⟩ := stored
  refine ⟨body, request, code, ?_, answered member, same, good⟩
  have bounded : seq < q.stored.length := (List.getElem?_eq_some_iff.mp found).1
  rw [← appended, List.getElem?_append_left bounded, found]

theorem Step.grows {label : Label β} (stepped : Step label q q') :
    q.stored <+: q'.stored ∧ q.answered ⊆ q'.answered := by
  cases stepped with
  | store body => exact ⟨List.prefix_append .., List.Subset.refl _⟩
  | handle response now running found =>
      exact ⟨List.prefix_rfl, List.subset_append_left ..⟩
  | answerLost code running found => exact ⟨List.prefix_rfl, List.subset_append_left ..⟩
  | _ => exact ⟨List.prefix_rfl, List.Subset.refl _⟩

private theorem returned_setDelivery {d e : Nat} {delivery : Option Delivery}
    (unreturned : ∀ seq, delivery ≠ some { seq, settled := some true })
    (returned : (q.setDelivery d delivery).deliveries e = some { seq, settled := some true }) :
    q.deliveries e = some { seq, settled := some true } := by
  by_cases same : e = d
  · subst same
    simp only [setDelivery, Function.update_self] at returned
    exact absurd returned (unreturned seq)
  · simpa [setDelivery, Function.update_of_ne same] using returned

theorem handled_returned {d : Nat} {body : β} {response : Response} {now : DateTime}
    (found : q.stored[seq]? = some body)
    (returned : (q.handled d seq body response now).deliveries d =
      some { seq, settled := some true }) :
    ∃ code, response = .status code ∧ code < 400 ∧
      PostedWith (· = code) (q.handled d seq body response now) seq := by
  have call := forward_cases { client := q.client, body, response, now } q.forwardState
  simp only [handled, setDelivery, Function.update_self, Option.some.injEq, Delivery.mk.injEq,
    true_and, Bool.not_eq_true'] at returned
  obtain ⟨-, -, ran⟩ | ⟨-, -, ran⟩ | ⟨-, -, ran⟩ | ⟨accepted, enabled, ran⟩ := call
  · rw [ran] at returned
    cases returned
  · rw [ran] at returned
    cases returned
  · rw [ran] at returned
    cases returned
  · obtain ⟨code, rfl, small⟩ := ServerClient.send_eq_ok.mp
      (ForwardCall.send_of_accepted accepted)
    refine ⟨code, rfl, small, body, q.client.request body, code, found, ?_, rfl, rfl⟩
    simp [handled, ran, answers]

theorem step_inv {label : Label β}
    (good : ∀ d code now, label = .handle d (.status code) now → code < 400 → P code)
    (inv : Inv P q) (stepped : Step label q q') : Inv P q' := by
  obtain ⟨stored, answered⟩ := stepped.grows
  have acked : ∀ seq ∈ q.acked, PostedWith P q' seq :=
    fun seq member => (inv.acked seq member).grow stored answered
  have returned : ∀ d seq, q.deliveries d = some { seq, settled := some true } →
      PostedWith P q' seq :=
    fun d seq ended => (inv.returned d seq ended).grow stored answered
  cases stepped with
  | store body => exact ⟨acked, returned⟩
  | deliver bounded unacked =>
      exact ⟨acked, fun e seq ended => returned e seq (returned_setDelivery (by simp) ended)⟩
  | @handle _ d handling body response now running found =>
      refine ⟨acked, ?_⟩
      intro e seq ended
      by_cases same : e = d
      · subst same
        obtain rfl : handling = seq := by
          simp only [handled, setDelivery, Function.update_self, Option.some.injEq,
            Delivery.mk.injEq] at ended
          exact ended.1
        obtain ⟨_, rfl, small, body, request, code, found, member, same, rfl⟩ :=
          handled_returned found ended
        exact ⟨body, request, code, found, member, same, good e code now rfl small⟩
      · refine returned e seq ?_
        simpa [handled, setDelivery, Function.update_of_ne same] using ended
  | answerLost code running found => exact ⟨acked, returned⟩
  | ack ended =>
      refine ⟨?_, fun e seq later => returned e seq (returned_setDelivery (by simp) later)⟩
      intro seq member
      rcases List.mem_cons.mp member with rfl | before
      · exact returned _ _ ended
      · exact acked seq before
  | nack raised =>
      exact ⟨acked, fun e seq ended => returned e seq (returned_setDelivery (by simp) ended)⟩
  | lose d => exact ⟨acked, fun e seq ended => returned e seq (returned_setDelivery (by simp) ended)⟩
  | restart client => exact ⟨acked, fun e seq ended => by cases ended⟩

theorem run_inv {labels : List (Label β)}
    (good : ∀ label ∈ labels, ∀ code, label.code? = some code → code < 400 → P code)
    (ran : (machine β).run labels q = some q') (inv : Inv P q) : Inv P q' := by
  refine Machine.invariant_of_labels
    (P := fun label => ∀ code, label.code? = some code → code < 400 → P code)
    (fun label q₁ q₂ accepts before stepped => ?_) ran good inv
  refine step_inv (fun d code now same small => ?_) before (step_sound stepped)
  exact accepts code (by rw [same]; rfl) small

end

def initial (client : ServerClient) : Queue β := { client }

theorem initial_inv (P : Int → Prop) (client : ServerClient) : Inv P (initial client : Queue β) where
  acked _ member := by cases member
  returned _ _ ended := by cases ended

end Queue

/-! ## What leaves the queue -/

def Successful (code : Int) : Prop := 200 ≤ code ∧ code < 300

/-- Every message ever stored is still unacked, or was posted and answered with success. -/
def Queue.Kept {β : Type} (q : Queue β) : Prop :=
  ∀ seq < q.stored.length, seq ∉ q.acked ∨ q.PostedWith Successful seq

def firstMessage {β : Type} (body : β) (code : Int) : List (Queue.Label β) :=
  [.store body, .deliver 0 0, .handle 0 (.status code) sampleNow, .ack 0]

theorem Queue.run_firstMessage {β : Type} (body : β) {code : Int} (small : code < 400) :
    ∃ q, (Queue.machine β).run (firstMessage body code) (.initial sampleClient) = some q ∧
      q.stored = [body] ∧ q.acked = [0] ∧
      q.answered = [{ seq := 0, request := sampleClient.request body, code }] := by
  have accepted : ServerClient.send (.status code) = .ok () :=
    ServerClient.send_eq_ok.mpr ⟨code, rfl, small⟩
  have enabled : sampleClient.deliveryEnabled = true := rfl
  refine ⟨_, by
    simp [firstMessage, Machine.run_cons, machine, step, setDelivery, handled, forward, accepted,
      enabled, initial]
    rfl, rfl, rfl, rfl⟩

theorem queued_until_accepted {β : Type} [Inhabited β] (S : Int → Prop) :
    (∀ (client : ServerClient) (labels : List (Queue.Label β)) (q : Queue β),
      (Queue.machine β).run labels (.initial client) = some q →
      (∀ label ∈ labels, ∀ code, label.code? = some code → S code) → q.Kept) ↔
    ∀ code, S code → Successful code ∨ 400 ≤ code := by
  constructor
  · intro kept code answered
    by_cases large : 400 ≤ code
    · exact .inr large
    · obtain ⟨q, ran, stored, acked, requests⟩ :=
        Queue.run_firstMessage (default : β) (Int.not_le.mp large)
      have answers : ∀ label ∈ firstMessage (default : β) code, ∀ other,
          label.code? = some other → S other := by
        simp [firstMessage, Queue.Label.code?, answered]
      rcases kept sampleClient _ q ran answers 0 (by simp [stored]) with unacked | posted
      · simp [acked] at unacked
      · obtain ⟨body, request, other, -, member, -, good⟩ := posted
        rw [requests, List.mem_singleton, Answered.mk.injEq] at member
        exact .inl (member.2.2 ▸ good)
  · intro only client labels q ran answers seq bounded
    have inv : q.Inv Successful := by
      refine Queue.run_inv (fun label member code answered small => ?_) ran
        (Queue.initial_inv Successful client)
      rcases only code (answers label member code answered) with good | large
      · exact good
      · omega
    by_cases acked : seq ∈ q.acked
    · exact .inr (inv.acked seq acked)
    · exact .inl acked

/-- A redirect counts as an acceptance: the message is acked and the server did not take it. -/
theorem redirected_message_lost :
    ∃ q, (Queue.machine Json).run
        (firstMessage .null 302) (.initial sampleClient) = some q ∧ ¬q.Kept := by
  obtain ⟨q, ran, stored, acked, requests⟩ := Queue.run_firstMessage Json.null
    (by decide : (302 : Int) < 400)
  refine ⟨q, ran, ?_⟩
  intro kept
  rcases kept 0 (by simp [stored]) with unacked | posted
  · simp [acked] at unacked
  · obtain ⟨body, request, code, -, member, -, good⟩ := posted
    rw [requests, List.mem_singleton, Answered.mk.injEq] at member
    simp [Successful, member.2.2] at good

end OopsysAgent.Forwarder
