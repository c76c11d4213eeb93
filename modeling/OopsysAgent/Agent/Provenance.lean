import OopsysAgent.Agent.Acceptance

/-!
# Where a message came from

Whatever the stream stores or the server is sent is the message of one call whose rows are in the
history. Crashes and redeliveries do not change that.
-/

namespace OopsysAgent
open Concurrency Events Forwarder Gateway

/-! ## The queue -/

namespace Forwarder.Queue

variable {β : Type} {q q' : Queue β}

/-- Every request that was answered carried the message it was sent for. -/
def Faithful (q : Queue β) : Prop :=
  ∀ answer ∈ q.answered, q.stored[answer.seq]? = some answer.request.json

theorem forward_requests (call : ForwardCall β) (f : ForwardState) :
    ∀ request ∈ (forward call f).1.requests, request.json = call.body := by
  obtain ⟨-, -, ran⟩ | ⟨-, -, ran⟩ | ⟨-, -, ran⟩ | ⟨-, -, ran⟩ := forward_cases call f <;>
    simp [ran, ServerClient.request]

theorem step_faithful {label : Label β} (faithful : Faithful q) (stepped : Step label q q') :
    Faithful q' := by
  have kept (answer : Answered β) (member : answer ∈ q.answered) :
      q'.stored[answer.seq]? = some answer.request.json := by
    obtain ⟨more, appended⟩ := stepped.grows.1
    have found := faithful answer member
    have bounded : answer.seq < q.stored.length := (List.getElem?_eq_some_iff.mp found).1
    rw [← appended, List.getElem?_append_left bounded, found]
  cases stepped with
  | @handle _ d seq body response now running found =>
      intro answer member
      rcases List.mem_append.mp member with before | added
      · exact kept answer before
      · cases response with
        | raised reason => cases added
        | status code =>
            obtain ⟨request, sent, rfl⟩ := List.mem_map.mp added
            rw [forward_requests _ _ request sent]
            exact found
  | @answerLost _ d seq body code running found =>
      intro answer member
      rcases List.mem_append.mp member with before | added
      · exact kept answer before
      · obtain rfl := List.mem_singleton.mp added
        exact found
  | _ => exact kept

end Forwarder.Queue

namespace Agent

variable {ι : Type}

/-- The call has not handed anything to the gateway yet. -/
def Early (record : Record) : Prop :=
  record.pc = .idle ∨ ∃ agentId recording, record.pc = .committing agentId recording

/-- The message is that of an event whose rows are in the history. -/
def Recorded (pre : String) (history : List HistoryRow) (subject : String) (envelope : Envelope) :
    Prop :=
  ∃ agentId event storedAt sentAt,
    subject = (recordEvent event storedAt).subject pre agentId ∧
    envelope = (recordEvent event storedAt).envelope agentId sentAt ∧
    (recordEvent event storedAt).rows.map HistoryRow.stored <:+: history

theorem Recorded.grow {pre : String} {history : List HistoryRow} {subject : String}
    {envelope : Envelope} (recorded : Recorded pre history subject envelope)
    (more : List HistoryRow) : Recorded pre (history ++ more) subject envelope := by
  obtain ⟨agentId, event, storedAt, sentAt, sub, env, rows⟩ := recorded
  exact ⟨agentId, event, storedAt, sentAt, sub, env, rows.trans (List.infix_append' [] _ more)⟩

structure TracedRecord (pre : String) (history : List HistoryRow) (record : Record) : Prop where
  early : Early record → record.handed = none ∧ record.placed = none
  event : ∀ agentId recording, record.pc = .committing agentId recording →
    ∃ event now, recording = recordEvent event now
  handed : ∀ subject envelope, record.handed = some (subject, envelope) →
    Recorded pre history subject envelope

structure Traced (pre : String) (a : Agent ι) : Prop where
  records : ∀ c, TracedRecord pre a.history (a.records c)
  unique : ∀ c d seq, (a.records c).placed = some seq → (a.records d).placed = some seq → c = d
  covered : ∀ seq < a.queue.stored.length, ∃ c, (a.records c).placed = some seq
  faithful : a.queue.Faithful

theorem traced_initial (pre : String) (client : ServerClient) :
    Traced pre (initial client : Agent ι) where
  records _ := {
    early := fun _ => ⟨rfl, rfl⟩
    event := fun _ _ committing => nomatch committing
    handed := fun _ _ handed => nomatch handed }
  unique _ _ _ placed := nomatch placed
  covered _ bounded := absurd bounded (Nat.not_lt_zero _)
  faithful _ member := nomatch member

/-! ## One call -/

section

variable {pre : String} {history : List HistoryRow} {record : Record}

theorem TracedRecord.grow (traced : TracedRecord pre history record) (more : List HistoryRow) :
    TracedRecord pre (history ++ more) record :=
  ⟨traced.early, traced.event, fun subject envelope handed =>
    (traced.handed subject envelope handed).grow more⟩

theorem TracedRecord.late (late : ¬Early record)
    (handed : ∀ subject envelope, record.handed = some (subject, envelope) →
      Recorded pre history subject envelope) : TracedRecord pre history record where
  early early := absurd early late
  event agentId recording committing := absurd (.inr ⟨agentId, recording, committing⟩) late
  handed := handed

theorem not_early_afterPublish {pc : PublishPc} {handed : Option (String × Envelope)} {sent : Bool}
    {placed : Option Nat} : ¬Early { pc := afterPublish pc, handed, sent, placed } := by
  rintro (idle | ⟨agentId, recording, committing⟩) <;> cases pc <;>
    simp_all [afterPublish]

theorem TracedRecord.publishAt (traced : TracedRecord pre history record) (pc : PublishPc) :
    TracedRecord pre history { record with pc := afterPublish pc } :=
  .late not_early_afterPublish traced.handed

theorem TracedRecord.crash (traced : TracedRecord pre history record) :
    TracedRecord pre history record.crash := by
  have ended {raised : Record} (same : raised.pc = .raised) : ¬Early raised := by
    rintro (early | ⟨_, _, early⟩)
    · cases same.symm.trans early
    · cases same.symm.trans early
  unfold Record.crash
  split
  · exact .late (ended rfl) traced.handed
  · exact .late (ended rfl) traced.handed
  · exact traced

end

section

variable [DecidableEq ι] {pre : String} {a a' : Agent ι} {label : Label ι}

theorem forall_setRecord {P : Record → Prop} {c : ι} {record : Record} (here : P record)
    (others : ∀ d, P (a.records d)) (d : ι) : P ((a.setRecord c record).records d) := by
  by_cases same : d = c
  · subst same
    rw [setRecord_self]
    exact here
  · rw [setRecord_of_ne a record same]
    exact others d

/-- A call moves on; where the stream has its message stays as it is. -/
theorem Traced.setRecord (traced : Traced pre a) {c : ι} {record : Record}
    (here : TracedRecord pre a.history record) (placed : record.placed = (a.records c).placed) :
    Traced pre (a.setRecord c record) := by
  have unchanged (d : ι) : ((a.setRecord c record).records d).placed = (a.records d).placed := by
    by_cases same : d = c
    · subst same
      rw [setRecord_self, placed]
    · rw [setRecord_of_ne a record same]
  refine ⟨forall_setRecord here traced.records, ?_, ?_, traced.faithful⟩
  · intro c d seq here there
    rw [unchanged] at here there
    exact traced.unique c d seq here there
  · intro seq bounded
    obtain ⟨d, placed⟩ := traced.covered seq bounded
    exact ⟨d, (unchanged d).trans placed⟩

omit [DecidableEq ι] in
theorem Traced.gatewayStep (traced : Traced pre a) (g : NatsGateway ι) :
    Traced pre { a with gateway := g } :=
  ⟨traced.records, traced.unique, traced.covered, traced.faithful⟩

omit [DecidableEq ι] in
theorem Traced.grow (traced : Traced pre a) (more : List HistoryRow) :
    Traced pre { a with history := a.history ++ more } :=
  ⟨fun c => (traced.records c).grow more, traced.unique, traced.covered, traced.faithful⟩

theorem Traced.publishAt (traced : Traced pre a) (g : NatsGateway ι) (c : ι) (pc : PublishPc) :
    Traced pre ({ a with gateway := g }.setRecord c { a.records c with pc := afterPublish pc }) :=
  (traced.gatewayStep g).setRecord ((traced.records c).publishAt pc) rfl

theorem Traced.stored (traced : Traced pre a) (inv : Inv a) {c : ι} {subject : String}
    {envelope : Envelope} (handed : (a.records c).handed = some (subject, envelope))
    (unplaced : (a.records c).placed = none) :
    Traced pre
      ({ a with queue := { a.queue with stored := a.queue.stored ++ [envelope] } }.setRecord c
        { a.records c with placed := some a.queue.stored.length }) := by
  have late : ¬Early (a.records c) := by
    intro early
    rw [((traced.records c).early early).1] at handed
    cases handed
  have bounded {d : ι} {seq : Nat} (placed : (a.records d).placed = some seq) :
      seq < a.queue.stored.length := by
    obtain ⟨_, _, -, found⟩ := inv.placed d seq placed
    exact (List.getElem?_eq_some_iff.mp found).1
  set a' : Agent ι := { a with queue := { a.queue with stored := a.queue.stored ++ [envelope] } }
  have placements (d : ι) (seq : Nat) : ((a'.setRecord c
        { a.records c with placed := some a.queue.stored.length }).records d).placed = some seq ↔
      d = c ∧ seq = a.queue.stored.length ∨ (a.records d).placed = some seq := by
    by_cases same : d = c
    · subst same
      rw [setRecord_self, unplaced]
      simp [eq_comm]
    · rw [setRecord_of_ne a' _ same]
      simp [same, a']
  refine ⟨forall_setRecord (.late late (traced.records c).handed) traced.records, ?_, ?_,
    Queue.step_faithful traced.faithful (.store envelope)⟩
  · intro d e seq here there
    rcases (placements d seq).mp here with ⟨rfl, rfl⟩ | before
    · rcases (placements e _).mp there with ⟨rfl, -⟩ | before
      · rfl
      · exact absurd (bounded before) (lt_irrefl _)
    · rcases (placements e seq).mp there with ⟨rfl, rfl⟩ | before'
      · exact absurd (bounded before) (lt_irrefl _)
      · exact traced.unique d e seq before before'
  · intro seq bounded
    rcases Nat.lt_or_ge seq a.queue.stored.length with before | last
    · obtain ⟨d, placed⟩ := traced.covered seq before
      exact ⟨d, (placements d seq).mpr (.inr placed)⟩
    · have last : seq = a.queue.stored.length := by
        have short : seq < (a.queue.stored ++ [envelope]).length := bounded
        rw [List.length_append, List.length_singleton] at short
        omega
      exact ⟨c, (placements c seq).mpr (.inl ⟨rfl, last⟩)⟩

omit [DecidableEq ι] in
theorem forwards_stored {q q' : Queue Envelope} {label : Queue.Label Envelope}
    (own : forwards label = true) (moved : Queue.Step label q q') : q'.stored = q.stored := by
  cases moved with
  | store body => cases own
  | _ => rfl

theorem step_commitFailed {c : ι} (stepped : step pre (.commitFailed c) a = some a') :
    Early (a.records c) := by
  simp only [step] at stepped
  split at stepped
  · rename_i agentId recording committing
    exact .inr ⟨agentId, recording, committing⟩
  · cases stepped

theorem step_stored {c : ι} (stepped : step pre (.stored c) a = some a') :
    (a.records c).placed = none := by
  simp only [step] at stepped
  split at stepped
  · rename_i found
    rw [found]
  · cases stepped

theorem step_traced (inv : Inv a) (traced : Traced pre a) (stepped : step pre label a = some a') :
    Traced pre a' := by
  have moved := step_sound stepped
  cases moved with
  | @record _ c agentId event now idle =>
      have placed := ((traced.records c).early (.inl idle)).2
      refine traced.setRecord ⟨fun _ => ⟨rfl, rfl⟩, ?_, ?_⟩ placed.symm
      · intro _ _ committing
        exact ⟨event, now, (RecordPc.committing.inj committing).2.symm⟩
      · intro _ _ handed
        cases handed
  | @committed _ c agentId recording now g committing moved =>
      have placed := ((traced.records c).early (.inr ⟨agentId, recording, committing⟩)).2
      obtain ⟨event, storedAt, rfl⟩ := (traced.records c).event agentId recording committing
      refine ((traced.gatewayStep g).grow _).setRecord (.late not_early_afterPublish ?_) placed.symm
      intro subject envelope handed
      obtain ⟨rfl, rfl⟩ := Prod.mk.inj (Option.some.inj handed)
      exact ⟨agentId, event, storedAt, now, rfl, rfl, (List.suffix_append ..).isInfix⟩
  | @commitFailed _ c =>
      have placed := ((traced.records c).early (step_commitFailed stepped)).2
      refine traced.setRecord (.late ?_ ?_) placed.symm
      · rintro (early | ⟨_, _, early⟩) <;> cases early
      · intro _ _ handed
        cases handed
  | stored handed => exact traced.stored inv handed (step_stored stepped)
  | published safe moved => exact traced.publishAt ..
  | publishLogged moved => exact traced.publishAt ..
  | publishCancelled moved => exact traced.publishAt ..
  | @accepted _ c returned =>
      refine traced.setRecord (.late ?_ (traced.records c).handed) rfl
      rintro (early | ⟨_, _, early⟩) <;> cases early
  | gateway moved => exact traced.gatewayStep _
  | queue own served moved =>
      have same := forwards_stored own moved
      refine ⟨traced.records, traced.unique, ?_, Queue.step_faithful traced.faithful moved⟩
      exact same.symm ▸ traced.covered
  | restarted moved =>
      have faithful := Queue.step_faithful traced.faithful moved
      cases moved
      refine ⟨fun c => (traced.records c).crash, ?_, ?_, faithful⟩
      · intro c d seq here there
        rw [Record.crash_placed] at here there
        exact traced.unique c d seq here there
      · intro seq bounded
        obtain ⟨c, placed⟩ := traced.covered seq bounded
        exact ⟨c, (Record.crash_placed _).trans placed⟩

theorem run_traced {client : ServerClient} {labels : List (Label ι)}
    (ran : (machine ι pre).run labels (initial client) = some a) : Inv a ∧ Traced pre a := by
  refine Machine.invariant (I := fun a => Inv a ∧ Traced pre a)
    (fun label a a' before stepped => ?_) ran ⟨inv_initial client, traced_initial pre client⟩
  exact ⟨step_inv before.1 (step_sound stepped), step_traced before.1 before.2 stepped⟩

end

/-- What the server was sent, in any run, is the message of one call, sent from the position where
the stream has it, and the rows of its event are in the history. The positions of the stream and
the calls whose messages it stored correspond one to one, and at its position is the message that the
call handed on. -/
theorem delivered_from_history {ι : Type} [DecidableEq ι] (pre : String) (client : ServerClient)
    (labels : List (Label ι)) (a : Agent ι)
    (ran : (machine ι pre).run labels (initial client) = some a) :
    (∀ answer ∈ a.queue.answered, ∃ c subject,
      (a.records c).handed = some (subject, answer.request.json) ∧
      (a.records c).placed = some answer.seq ∧
      Recorded pre a.history subject answer.request.json) ∧
    (∀ seq < a.queue.stored.length, ∃! c, (a.records c).placed = some seq) ∧
    ∀ c seq, (a.records c).placed = some seq → ∃ subject envelope,
      (a.records c).handed = some (subject, envelope) ∧ a.queue.stored[seq]? = some envelope := by
  obtain ⟨inv, traced⟩ := run_traced ran
  refine ⟨?_, ?_, inv.placed⟩
  · intro answer member
    have found := traced.faithful answer member
    have bounded : answer.seq < a.queue.stored.length := (List.getElem?_eq_some_iff.mp found).1
    obtain ⟨c, placed⟩ := traced.covered answer.seq bounded
    obtain ⟨subject, envelope, handed, stored⟩ := inv.placed c answer.seq placed
    obtain rfl : answer.request.json = envelope := Option.some.inj (found.symm.trans stored)
    exact ⟨c, subject, handed, placed, (traced.records c).handed subject _ handed⟩
  · intro seq bounded
    obtain ⟨c, placed⟩ := traced.covered seq bounded
    exact ⟨c, placed, fun d here => traced.unique d c seq here placed⟩

/-- The report is stored, the agent crashes and connects again, and delivers the report twice. -/
def deliveredTwice : List (Label Nat) :=
  publishedReport ++ [.restarted sampleClient, .gateway .startCall, .gateway (.startStep .ok),
    .gateway (.startStep .ok), .gateway (.startStep .ok), .queue (.deliver 0 0),
    .queue (.handle 0 (.status 200) sampleNow),
    .queue (.lose 0), .queue (.deliver 1 0), .queue (.handle 1 (.status 200) sampleNow),
    .queue (.ack 1)]

theorem delivered_from_history_deliveredTwice :
    ∃ a, (machine Nat "oopsys").run deliveredTwice (initial sampleClient) = some a ∧
      a.queue.answered.length = 2 ∧
      ∀ answer ∈ a.queue.answered, ∃ c subject,
        (a.records c).handed = some (subject, answer.request.json) ∧
        (a.records c).placed = some answer.seq ∧
        Recorded "oopsys" a.history subject answer.request.json :=
  ⟨_, rfl, rfl, (delivered_from_history "oopsys" sampleClient deliveredTwice _ rfl).1⟩

end Agent

end OopsysAgent
