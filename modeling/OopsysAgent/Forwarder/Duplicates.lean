import OopsysAgent.Forwarder.Queue

/-!
# How often the server takes a message

A message that the server took is delivered again only if an ack, an answer or the process was lost
in between. Each loss costs at most one duplicate.
-/

namespace OopsysAgent.Forwarder.Queue
open Concurrency

variable {β : Type}

/-- Answered without an error, so that `send` returned. -/
def isTaken (seq : Nat) (answer : Answered β) : Bool :=
  answer.seq = seq && decide (answer.code < 400)

def taken (q : Queue β) (seq : Nat) : Nat := q.answered.countP (isTaken seq)

def isOf (seq : Nat) (delivery : Option Delivery) : Bool := delivery.any (·.seq = seq)

/-- The message is not delivered while a delivery of it is under way: the stream waits for an ack
longer than the handler runs. -/
def Alone : Label β → Queue β → Prop
  | .deliver _ seq, q => ∀ d, isOf seq (q.deliveries d) = false
  | _, _ => True

/-- A step that may let the server take the message once more. -/
def loses (seq : Nat) (label : Label β) (q : Queue β) : Option Unit :=
  match label with
  -- the server took it and the agent does not know
  | .answerLost d code => if isOf seq (q.deliveries d) && decide (code < 400) then some () else none
  -- the agent knows and the stream does not
  | .lose d =>
      match q.deliveries d with
      | some { seq := handling, settled := some true } => if handling = seq then some () else none
      | _ => none
  | .restart _ => some ()
  | _ => none

def OnlyLine (q : Queue β) (seq d : Nat) (settled : Option Bool) : Prop :=
  q.deliveries d = some { seq, settled } ∧ ∀ e, isOf seq (q.deliveries e) = true → e = d

def NoLine (q : Queue β) (seq : Nat) : Prop := ∀ d, isOf seq (q.deliveries d) = false

/-- The way of a message through the queue, with `n` losses so far. -/
inductive Course (q : Queue β) (seq n : Nat) : Prop
  | waiting (idle : NoLine q seq) (unacked : seq ∉ q.acked) (bound : q.taken seq ≤ n)
  | underway (d : Nat) (settled : Option Bool) (line : OnlyLine q seq d settled)
      (unacked : seq ∉ q.acked) (unsettled : settled ≠ some true) (bound : q.taken seq ≤ n)
  | returned (d : Nat) (line : OnlyLine q seq d (some true)) (unacked : seq ∉ q.acked)
      (bound : q.taken seq ≤ n + 1)
  | gone (idle : NoLine q seq) (acked : seq ∈ q.acked) (bound : q.taken seq ≤ n + 1)

section

variable {q q' : Queue β} {seq n : Nat}

theorem course_initial (client : ServerClient) : Course (initial client : Queue β) seq 0 :=
  .waiting (fun _ => rfl) List.not_mem_nil le_rfl

theorem Course.congr (course : Course q seq n)
    (lines : ∀ d, isOf seq (q.deliveries d) = true ∨ isOf seq (q'.deliveries d) = true →
      q'.deliveries d = q.deliveries d)
    (acked : seq ∈ q'.acked ↔ seq ∈ q.acked) (taken : q'.taken seq = q.taken seq) :
    Course q' seq n := by
  have idle (before : NoLine q seq) : NoLine q' seq := by
    intro d
    by_contra inside
    have inside : isOf seq (q'.deliveries d) = true := by simpa using inside
    have same := lines d (.inr inside)
    rw [same, before d] at inside
    cases inside
  have line {d : Nat} {settled : Option Bool} (before : OnlyLine q seq d settled) :
      OnlyLine q' seq d settled := by
    have own : isOf seq (q.deliveries d) = true := by simp [before.1, isOf]
    refine ⟨(lines d (.inl own)).trans before.1, ?_⟩
    intro e inside
    rw [lines e (.inr inside)] at inside
    exact before.2 e inside
  cases course with
  | waiting before unacked bound =>
      exact .waiting (idle before) (mt acked.mp unacked) (taken ▸ bound)
  | underway d settled before unacked unsettled bound =>
      exact .underway d settled (line before) (mt acked.mp unacked) unsettled (taken ▸ bound)
  | returned d before unacked bound =>
      exact .returned d (line before) (mt acked.mp unacked) (taken ▸ bound)
  | gone before member bound => exact .gone (idle before) (acked.mpr member) (taken ▸ bound)

theorem Course.elsewhere (course : Course q seq n) {d : Nat} {delivery : Option Delivery}
    (before : isOf seq (q.deliveries d) = false) (after : isOf seq delivery = false) :
    Course (q.setDelivery d delivery) seq n := by
  refine course.congr ?_ Iff.rfl rfl
  intro e inside
  have other : e ≠ d := by
    rintro rfl
    rw [before, setDelivery_self, after] at inside
    simp at inside
  exact setDelivery_of_ne q delivery other

theorem OnlyLine.setDelivery {d : Nat} {settled : Option Bool} (line : OnlyLine q seq d settled)
    (settled' : Option Bool) : OnlyLine (q.setDelivery d (some { seq, settled := settled' })) seq d
      settled' := by
  refine ⟨setDelivery_self .., ?_⟩
  intro e inside
  by_contra other
  rw [setDelivery_of_ne q _ other] at inside
  exact other (line.2 e inside)

theorem OnlyLine.clear {d : Nat} {settled : Option Bool} (line : OnlyLine q seq d settled) :
    NoLine (q.setDelivery d none) seq := by
  intro e
  by_cases same : e = d
  · rw [same, setDelivery_self]
    rfl
  · rw [setDelivery_of_ne q _ same]
    by_contra inside
    exact same (line.2 e (by simpa using inside))

theorem isOf_line {d : Nat} {settled : Option Bool}
    (running : q.deliveries d = some { seq, settled }) : isOf seq (q.deliveries d) = true := by
  simp [running, isOf]

theorem Course.at_line (course : Course q seq n) {d : Nat} {settled : Option Bool}
    (running : q.deliveries d = some { seq, settled }) :
    OnlyLine q seq d settled ∧ seq ∉ q.acked ∧
      q.taken seq ≤ n + 1 ∧ (settled ≠ some true → q.taken seq ≤ n) := by
  have inside := isOf_line running
  have own {e : Nat} {other : Option Bool} (line : OnlyLine q seq e other) :
      OnlyLine q seq d settled := by
    obtain rfl := line.2 d inside
    exact ⟨running, line.2⟩
  cases course with
  | waiting idle unacked bound => cases (idle d).symm.trans inside
  | underway e other line unacked unsettled bound =>
      exact ⟨own line, unacked, Nat.le_succ_of_le bound, fun _ => bound⟩
  | returned e line unacked bound =>
      refine ⟨own line, unacked, bound, fun unsettled => ?_⟩
      obtain rfl := line.2 d inside
      have same := Option.some.inj (running.symm.trans line.1)
      exact absurd (Delivery.mk.inj same).2 unsettled
  | gone idle acked bound => cases (idle d).symm.trans inside

/-! ## Step by step -/

theorem taken_append (answered : List (Answered β)) :
    ({ q with answered := q.answered ++ answered } : Queue β).taken seq =
      q.taken seq + answered.countP (isTaken seq) := List.countP_append

theorem refused_taken {call : ForwardCall β} (enabled : call.client.deliveryEnabled = true)
    (failed : call.outcome ≠ .accepted) (handling : Nat) (requests : List (Request β)) :
    (answers handling requests call.response).countP (isTaken seq) = 0 := by
  cases answered : call.response with
  | raised reason => rfl
  | status code =>
      have large : ¬code < 400 := by
        intro small
        have sent := ServerClient.send_eq_ok.mpr ⟨code, answered, small⟩
        exact failed (by simp [ForwardCall.outcome, enabled, sent])
      simp [answers, isTaken, large]

theorem answers_taken (call : ForwardCall β) (f : ForwardState) (handling : Nat) :
    (answers handling (forward call f).1.requests call.response).countP (isTaken seq) =
      if handling = seq ∧ (forward call f).1.nacked = false then 1 else 0 := by
  obtain ⟨-, -, ran⟩ | ⟨outcome, enabled, ran⟩ | ⟨outcome, enabled, ran⟩ | ⟨accepted, -, ran⟩ :=
    forward_cases call f
  · rw [ran]
    cases call.response <;> simp [answers]
  · rw [ran, refused_taken enabled (by simp [outcome])]
    simp
  · rw [ran, refused_taken enabled (by simp [outcome])]
    simp
  · obtain ⟨code, answered, small⟩ :=
      ServerClient.send_eq_ok.mp (ForwardCall.send_of_accepted accepted)
    rw [ran, answered]
    by_cases same : handling = seq <;> simp [answers, isTaken, small, same]

theorem handled_taken (q : Queue β) (d handling : Nat) (body : β) (response : Response)
    (now : DateTime) :
    (q.handled d handling body response now).taken seq = q.taken seq +
      if handling = seq ∧ (forward { client := q.client, body, response, now }
        q.forwardState).1.nacked = false then 1 else 0 := by
  rw [← answers_taken]
  exact List.countP_append

theorem Course.handle (course : Course q seq n) {d handling : Nat} {body : β} {response : Response}
    {now : DateTime} (running : q.deliveries d = some { seq := handling }) :
    Course (q.handled d handling body response now) seq n := by
  have taken : (q.handled d handling body response now).taken seq = _ :=
    handled_taken q d handling body response now
  set call : ForwardCall β := { client := q.client, body, response, now } with called
  set settled := some !(forward call q.forwardState).1.nacked with ran
  by_cases own : handling = seq
  · subst own
    obtain ⟨line, unacked, -, bound⟩ := course.at_line running
    have later := line.setDelivery settled
    have bound := bound nofun
    cases nacked : (forward call q.forwardState).1.nacked with
    | true =>
        rw [nacked] at taken ran
        refine .underway d settled later unacked (by simp [ran]) ?_
        rw [taken]
        simpa using bound
    | false =>
        rw [nacked] at taken ran
        refine .returned d (ran ▸ later) unacked ?_
        rw [taken]
        simpa using bound
  · have before : isOf seq (q.deliveries d) = false := by simp [running, isOf, own]
    have after : isOf seq (some { seq := handling, settled }) = false := by simp [isOf, own]
    refine (course.elsewhere before after).congr (fun _ _ => rfl) Iff.rfl ?_
    rw [taken, if_neg (by simp [own])]
    rfl

theorem deliver_guards {d handling : Nat} (stepped : step (.deliver d handling) q = some q') :
    handling ∉ q.acked ∧ q.deliveries d = none ∧
      q' = q.setDelivery d (some { seq := handling }) := by
  simp only [step] at stepped
  split at stepped
  · rename_i guards
    exact ⟨guards.2.1, Option.isNone_iff_eq_none.mp guards.2.2, (Option.some.inj stepped).symm⟩
  · cases stepped

theorem Course.deliver (course : Course q seq n) {d handling : Nat}
    (alone : Alone (.deliver d handling) q)
    (stepped : step (.deliver d handling) q = some q') : Course q' seq n := by
  obtain ⟨unacked, free, rfl⟩ := deliver_guards stepped
  by_cases own : handling = seq
  · subst own
    have line : OnlyLine (q.setDelivery d (some { seq := handling })) handling d none := by
      refine ⟨setDelivery_self .., ?_⟩
      intro e inside
      by_contra other
      rw [setDelivery_of_ne q _ other, alone e] at inside
      cases inside
    cases course with
    | waiting idle unacked bound => exact .underway d none line unacked nofun bound
    | underway e settled before unacked unsettled bound =>
        cases (alone e).symm.trans (isOf_line before.1)
    | returned e before unacked bound => cases (alone e).symm.trans (isOf_line before.1)
    | gone idle acked bound => exact absurd acked unacked
  · exact course.elsewhere (by rw [free]; rfl) (by simp [isOf, own])

theorem Course.drop (course : Course q seq n) {d handling : Nat} {settled : Option Bool}
    (running : q.deliveries d = some { seq := handling, settled }) :
    Course (q.setDelivery d none) seq
      (n + if handling = seq ∧ settled = some true then 1 else 0) := by
  by_cases own : handling = seq
  · subst own
    obtain ⟨line, unacked, bound, unsettled⟩ := course.at_line running
    refine .waiting line.clear unacked ?_
    by_cases returned : settled = some true
    · rw [if_pos ⟨rfl, returned⟩]
      exact bound
    · rw [if_neg (by simp [returned])]
      exact unsettled returned
  · rw [if_neg (by simp [own])]
    exact course.elsewhere (by simp [running, isOf, own]) rfl

theorem Course.ack (course : Course q seq n) {d handling : Nat}
    (returned : q.deliveries d = some { seq := handling, settled := some true }) :
    Course { q.setDelivery d none with acked := handling :: q.acked } seq n := by
  by_cases own : handling = seq
  · subst own
    obtain ⟨line, -, bound, -⟩ := course.at_line returned
    exact .gone line.clear List.mem_cons_self bound
  · have before : isOf seq (q.deliveries d) = false := by simp [returned, isOf, own]
    have cleared : Course (q.setDelivery d none) seq n := course.elsewhere before rfl
    exact cleared.congr (fun _ _ => rfl) (by simp [setDelivery, Ne.symm own]) rfl

theorem Course.answerLost (course : Course q seq n) {d handling : Nat}
    (running : q.deliveries d = some { seq := handling }) (request : Request β) (code : Int) :
    Course { q with answered := q.answered ++ [{ seq := handling, request, code }] } seq
      (n + if handling = seq ∧ code < 400 then 1 else 0) := by
  have taken : ({ q with answered := q.answered ++ [{ seq := handling, request, code }] } :
      Queue β).taken seq = _ := taken_append [{ seq := handling, request, code }]
  by_cases counted : handling = seq ∧ code < 400
  · obtain ⟨rfl, small⟩ := counted
    obtain ⟨line, unacked, -, bound⟩ := course.at_line running
    rw [if_pos ⟨rfl, small⟩]
    refine .underway d none line unacked nofun ?_
    rw [taken]
    exact Nat.add_le_add (bound nofun) List.countP_le_length
  · rw [if_neg counted, Nat.add_zero]
    refine course.congr (fun _ _ => rfl) Iff.rfl ?_
    rw [taken]
    simpa [isTaken] using counted

theorem Course.restart (course : Course q seq n) (client : ServerClient) :
    Course { q with deliveries := fun _ => none, client, forwardState := {} } seq (n + 1) := by
  cases course with
  | waiting idle unacked bound => exact .waiting (fun _ => rfl) unacked (Nat.le_succ_of_le bound)
  | underway d settled line unacked unsettled bound =>
      exact .waiting (fun _ => rfl) unacked (Nat.le_succ_of_le bound)
  | returned d line unacked bound => exact .waiting (fun _ => rfl) unacked bound
  | gone idle acked bound => exact .gone (fun _ => rfl) acked (Nat.le_succ_of_le bound)

theorem step_course {label : Label β} (course : Course q seq n) (alone : Alone label q)
    (stepped : step label q = some q') :
    Course q' seq (n + (loses seq label q).toList.length) := by
  cases label with
  | store body =>
      cases stepped
      exact course.congr (fun _ _ => rfl) Iff.rfl rfl
  | deliver d handling => exact course.deliver alone stepped
  | handle d response now =>
      cases step_sound stepped with
      | handle _ _ running found => exact course.handle running
  | answerLost d code =>
      cases step_sound stepped with
      | @answerLost _ _ handling body _ running found =>
          have cost : (loses seq (.answerLost d code) q).toList.length =
              if handling = seq ∧ code < 400 then 1 else 0 := by
            simp only [loses, running, isOf, Option.any_some, Bool.and_eq_true, decide_eq_true_eq]
            split <;> rfl
          rw [cost]
          exact course.answerLost running _ code
  | ack d =>
      cases step_sound stepped with
      | ack returned => exact course.ack returned
  | nack d =>
      cases step_sound stepped with
      | nack raised =>
          have dropped := course.drop raised
          rwa [if_neg (by simp)] at dropped
  | lose d =>
      cases step_sound stepped
      cases running : q.deliveries d with
      | none => simp [step, running] at stepped
      | some delivery =>
          obtain ⟨handling, settled⟩ := delivery
          have cost : (loses seq (.lose d) q).toList.length =
              if handling = seq ∧ settled = some true then 1 else 0 := by
            rw [loses, running]
            rcases settled with _ | _ | _
            · simp
            · simp
            · by_cases own : handling = seq <;> simp [own]
          rw [cost]
          exact course.drop running
  | restart client =>
      cases stepped
      exact course.restart client

theorem run_course {labels : List (Label β)} (course : Course q seq n)
    (alone : (machine β).Along Alone labels q) (ran : (machine β).run labels q = some q') :
    Course q' seq (n + ((machine β).observe (loses seq) labels q).length) := by
  induction labels generalizing q n with
  | nil =>
      obtain rfl : q = q' := Option.some.inj ran
      exact course
  | cons label labels ih =>
      obtain ⟨m, stepped, rest⟩ := (machine β).run_cons_eq_some.mp ran
      obtain ⟨here, later⟩ := (Machine.along_cons stepped).mp alone
      rw [Machine.observe_cons stepped, List.length_append, ← Nat.add_assoc]
      exact ih (step_course course here stepped) later rest

theorem Course.bound (course : Course q seq n) : q.taken seq ≤ n + 1 := by
  cases course with
  | waiting idle unacked bound => exact Nat.le_succ_of_le bound
  | underway d settled line unacked unsettled bound => exact Nat.le_succ_of_le bound
  | returned d line unacked bound => exact bound
  | gone idle acked bound => exact bound

theorem PostedWith.taken_pos (posted : q.PostedWith (· < 400) seq) : 1 ≤ q.taken seq := by
  obtain ⟨body, request, code, -, member, -, small⟩ := posted
  apply List.countP_pos_iff.mpr
  exact ⟨_, member, by simpa [isTaken] using small⟩

end

/-- The server takes a message at most once and once more for each loss; it has taken each message
that was acked. -/
theorem taken_once_per_loss {β : Type} (client : ServerClient) (labels : List (Label β))
    (q : Queue β) (ran : (machine β).run labels (initial client) = some q)
    (alone : (machine β).Along Alone labels (initial client)) (seq : Nat) :
    q.taken seq ≤ ((machine β).observe (loses seq) labels (initial client)).length + 1 ∧
      (seq ∈ q.acked → 1 ≤ q.taken seq) := by
  constructor
  · have course : Course q seq _ := run_course (course_initial client) alone ran
    rw [Nat.zero_add] at course
    exact course.bound
  · intro acked
    have inv := run_inv (P := (· < 400)) (fun _ _ _ _ small => small) ran (initial_inv _ client)
    exact (inv.acked seq acked).taken_pos

/-- The ack of the first delivery is lost, and the server takes the message twice. -/
def ackLost : List (Label Unit) :=
  [.store (), .deliver 0 0, .handle 0 (.status 200) sampleNow, .lose 0, .deliver 1 0,
    .handle 1 (.status 200) sampleNow, .ack 1]

theorem taken_once_per_loss_ackLost :
    ∃ q, (machine Unit).run ackLost (initial sampleClient) = some q ∧ q.taken 0 = 2 ∧
      q.taken 0 ≤ ((machine Unit).observe (loses 0) ackLost (initial sampleClient)).length + 1 := by
  refine ⟨_, rfl, rfl, (taken_once_per_loss sampleClient ackLost _ rfl ?_ 0).1⟩
  refine ⟨trivial, ?_⟩
  rintro _ ⟨⟩
  refine ⟨fun _ => rfl, ?_⟩
  rintro _ ⟨⟩
  refine ⟨trivial, ?_⟩
  rintro _ ⟨⟩
  refine ⟨trivial, ?_⟩
  rintro _ ⟨⟩
  refine ⟨?_, fun _ _ => ⟨trivial, fun _ _ => ⟨trivial, fun _ _ => trivial⟩⟩⟩
  intro d
  match d with
  | 0 | _ + 1 => rfl

end OopsysAgent.Forwarder.Queue
