import OopsysAgent.Agent.Model

/-!
# Accepted events

`_enqueue` drops the result of `gateway.publish`, so a `record_*` call returns whether or not its
message got into the stream. It got there unless the gateway held no broker when the rows were
committed, or `broker.publish` raised and the stream does not have the message.
-/

namespace OopsysAgent
open Concurrency Events Forwarder Gateway

theorem Record.crash_handed (record : Record) : record.crash.handed = record.handed := by
  unfold Record.crash
  split <;> rfl

theorem Record.crash_placed (record : Record) : record.crash.placed = record.placed := by
  unfold Record.crash
  split <;> rfl

/-- The call returned to its caller; for a report, maybe the request was answered too. -/
def Record.Done (record : Record) : Prop := record.pc = .returned ∨ record.pc = .accepted

theorem Record.crash_done {record : Record} (done : record.crash.Done) : record.Done := by
  unfold Record.crash at done
  split at done
  · rcases done with done | done <;> cases done
  · rcases done with done | done <;> cases done
  · exact done

namespace Agent

variable {ι : Type}

/-- The message of the call is in the queue, or was posted and answered without an error. -/
def Kept (a : Agent ι) (c : ι) : Prop :=
  ∃ subject envelope seq, (a.records c).handed = some (subject, envelope) ∧
    (a.records c).placed = some seq ∧ a.queue.stored[seq]? = some envelope ∧
    (seq ∉ a.queue.acked ∨ a.queue.PostedWith (· < 400) seq)

/-- The steps at which a call loses its message. -/
def Loses (c : ι) : Label ι → Agent ι → Prop
  | .committed d _, a => d = c ∧ a.gateway.broker = none
  | .publishLogged d, a => d = c ∧ (a.records c).placed = none
  | _, _ => False

instance [DecidableEq ι] (c : ι) : (label : Label ι) → (a : Agent ι) → Decidable (Loses c label a)
  | .committed d _, a => inferInstanceAs (Decidable (d = c ∧ a.gateway.broker = none))
  | .publishLogged d, a => inferInstanceAs (Decidable (d = c ∧ (a.records c).placed = none))
  | .record .., _ | .commitFailed _, _ | .stored _, _ | .published .., _ | .publishCancelled _, _
  | .accepted _, _ | .gateway _, _ | .queue _, _ | .restarted _, _ => .isFalse not_false

structure Inv (a : Agent ι) : Prop where
  queue : a.queue.Inv (· < 400)
  placed : ∀ c seq, (a.records c).placed = some seq → ∃ subject envelope,
    (a.records c).handed = some (subject, envelope) ∧ a.queue.stored[seq]? = some envelope

theorem inv_initial (client : ServerClient) : Inv (initial client : Agent ι) where
  queue := Queue.initial_inv _ client
  placed c seq placed := by cases placed

theorem Inv.kept {a : Agent ι} (inv : Inv a) {c : ι} (placed : (a.records c).placed.isSome = true) :
    a.Kept c := by
  obtain ⟨seq, placed⟩ := Option.isSome_iff_exists.mp placed
  obtain ⟨subject, envelope, handed, stored⟩ := inv.placed c seq placed
  refine ⟨subject, envelope, seq, handed, placed, stored, ?_⟩
  by_cases acked : seq ∈ a.queue.acked
  · exact .inr (inv.queue.acked seq acked)
  · exact .inl acked

section

variable [DecidableEq ι] {pre : String} {a a' : Agent ι} {label : Label ι}

theorem setRecord_self (a : Agent ι) (c : ι) (record : Record) :
    (a.setRecord c record).records c = record := Function.update_self ..

theorem setRecord_of_ne (a : Agent ι) {c d : ι} (record : Record) (other : d ≠ c) :
    (a.setRecord c record).records d = a.records d := Function.update_of_ne other ..

theorem Inv.setRecord (inv : Inv a) {c : ι} {record : Record}
    (placed : ∀ seq, record.placed = some seq →
      record.handed = (a.records c).handed ∧ (a.records c).placed = some seq) :
    Inv (a.setRecord c record) where
  queue := inv.queue
  placed d seq here := by
    by_cases same : d = c
    · subst same
      rw [setRecord_self] at here ⊢
      obtain ⟨handed, before⟩ := placed seq here
      rw [handed]
      exact inv.placed d seq before
    · rw [setRecord_of_ne a record same] at here ⊢
      exact inv.placed d seq here

omit [DecidableEq ι] in
theorem Inv.queueStep (inv : Inv a) {label : Queue.Label Envelope} {q : Queue Envelope}
    (stepped : Queue.Step label a.queue q) : Inv { a with queue := q } where
  queue := Queue.step_inv (fun _ _ _ _ small => small) inv.queue stepped
  placed d seq placed := by
    obtain ⟨subject, envelope, handed, before⟩ := inv.placed d seq placed
    obtain ⟨more, appended⟩ := stepped.grows.1
    have bounded : seq < a.queue.stored.length := (List.getElem?_eq_some_iff.mp before).1
    refine ⟨subject, envelope, handed, ?_⟩
    rw [← appended, List.getElem?_append_left bounded, before]

omit [DecidableEq ι] in
theorem Inv.gatewayStep (inv : Inv a) (g : NatsGateway ι) (history : List HistoryRow) :
    Inv { a with gateway := g, history } := ⟨inv.queue, inv.placed⟩

theorem step_inv (inv : Inv a) (stepped : Step pre label a a') : Inv a' := by
  cases stepped with
  | record idle => exact inv.setRecord (by simp)
  | committed committing stepped => exact (inv.gatewayStep ..).setRecord (by simp)
  | commitFailed => exact inv.setRecord (by simp)
  | @stored _ c subject envelope handed =>
      have grown := inv.queueStep (.store envelope)
      refine ⟨grown.queue, ?_⟩
      intro d seq placed
      by_cases same : d = c
      · subst same
        rw [setRecord_self] at placed ⊢
        cases placed
        exact ⟨subject, envelope, handed, by simp [Agent.setRecord]⟩
      · rw [setRecord_of_ne _ _ same] at placed ⊢
        exact grown.placed d seq placed
  | published safe stepped => exact (inv.gatewayStep ..).setRecord (by simp)
  | publishLogged stepped => exact (inv.gatewayStep ..).setRecord (by simp)
  | publishCancelled stepped => exact (inv.gatewayStep ..).setRecord (by simp)
  | accepted returned => exact inv.setRecord (by simp)
  | gateway stepped => exact inv.gatewayStep ..
  | queue own served stepped => exact inv.queueStep stepped
  | restarted stepped =>
      have grown := inv.queueStep stepped
      refine ⟨grown.queue, ?_⟩
      intro d seq placed
      rw [Record.crash_placed] at placed
      rw [Record.crash_handed]
      exact grown.placed d seq placed

/-! ## Calls that lose nothing -/

def Delivered (a : Agent ι) (c : ι) : Prop :=
  (a.records c).Done → (a.records c).placed.isSome = true

theorem Delivered.setRecord {c d : ι} {record : Record} (before : a.Delivered d)
    (here : d = c → record.Done → record.placed.isSome = true) :
    (a.setRecord c record).Delivered d := by
  intro done
  by_cases same : d = c
  · subst same
    rw [setRecord_self] at done ⊢
    exact here rfl done
  · rw [setRecord_of_ne a record same] at done ⊢
    exact before done

theorem step_delivered {c : ι} (safe : ¬Loses c label a) (before : a.Delivered c)
    (stepped : Step pre label a a') : a'.Delivered c := by
  have moved (g : NatsGateway ι) (history : List HistoryRow) (q : Queue Envelope) :
      Delivered { a with gateway := g, history, queue := q } c := before
  cases stepped with
  | record idle => exact before.setRecord (by simp [Record.Done])
  | @committed _ d _ _ now _ committing stepped =>
      apply (moved _ _ a.queue).setRecord
      intro same done
      subst same
      cases stepped with
      | publishRefused idle closed => exact absurd ⟨rfl, closed⟩ safe
      | publishBegun idle held => simp [NatsGateway.publishAt, afterPublish, Record.Done] at done
  | commitFailed => exact before.setRecord (by simp [Record.Done])
  | stored handed => exact (moved _ _ _).setRecord fun _ _ => rfl
  | @published _ d outcome _ placed stepped =>
      apply (moved _ a.history a.queue).setRecord
      intro same done
      subst same
      cases stepped with
      | publishedOk inside => exact placed.resolve_left nofun
      | publishedRaised inside => simp [NatsGateway.publishAt, afterPublish, Record.Done] at done
  | publishLogged stepped =>
      apply (moved _ a.history a.queue).setRecord
      intro same done
      subst same
      by_contra missing
      exact safe ⟨rfl, by simpa using missing⟩
  | publishCancelled stepped =>
      apply (moved _ a.history a.queue).setRecord
      intro same done
      cases stepped
      simp [NatsGateway.publishAt, afterPublish, Record.Done] at done
  | accepted returned =>
      apply before.setRecord
      intro same done
      subst same
      exact before (.inl returned)
  | gateway stepped => exact before
  | queue own served stepped => exact before
  | restarted stepped =>
      intro done
      rw [Record.crash_placed]
      exact before (Record.crash_done done)

theorem step_loses {c : ι} (loses : Loses c label a) (stepped : Step pre label a a') :
    (a'.records c).pc = .returned ∧ (a'.records c).placed = none := by
  cases stepped with
  | committed committing stepped =>
      obtain ⟨rfl, closed⟩ := loses
      cases stepped with
      | publishRefused idle _ => simp [setRecord_self, NatsGateway.publishAt, afterPublish]
      | publishBegun idle held => simp [closed] at held
  | publishLogged stepped =>
      obtain ⟨rfl, missing⟩ := loses
      cases stepped
      simp [setRecord_self, NatsGateway.publishAt, afterPublish, missing]
  | _ => exact loses.elim

omit [DecidableEq ι] in
theorem not_kept {c : ι} (missing : (a.records c).placed = none) : ¬a.Kept c := by
  rintro ⟨-, -, seq, -, placed, -⟩
  rw [missing] at placed
  cases placed

theorem run_delivered {client : ServerClient} {labels : List (Label ι)} {c : ι}
    (ran : (machine ι pre).run labels (initial client) = some a)
    (safe : (machine ι pre).Along (fun label a => ¬Loses c label a) labels (initial client)) :
    Inv a ∧ a.Delivered c := by
  refine Machine.invariant_along (I := fun a => Inv a ∧ a.Delivered c)
    (fun label a a' safe before stepped => ?_) ran safe ⟨inv_initial client, ?_⟩
  · have moved := step_sound stepped
    exact ⟨step_inv before.1 moved, step_delivered safe before.2 moved⟩
  · rintro (done | done) <;> cases done

end

/-- Throughout a run, a call that returned has its message in the queue or forwarded, exactly if it
takes no losing step. -/
theorem returned_kept {ι : Type} [DecidableEq ι] (pre : String) (client : ServerClient)
    (labels : List (Label ι)) (a : Agent ι)
    (ran : (machine ι pre).run labels (initial client) = some a) (c : ι) :
    (∀ before after m, labels = before ++ after →
      (machine ι pre).run before (initial client) = some m → (m.records c).Done → m.Kept c) ↔
    ∀ before label after m, labels = before ++ label :: after →
      (machine ι pre).run before (initial client) = some m → ¬Loses c label m := by
  constructor
  · rintro kept before label after m rfl reached loses
    obtain ⟨m', stepped, -⟩ := Machine.run_split ran reached
    obtain ⟨returned, missing⟩ := step_loses loses (step_sound stepped)
    refine not_kept missing (kept _ after m' (by simp) (Machine.run_snoc reached stepped) ?_)
    exact .inl returned
  · rintro safe before after m rfl reached done
    obtain ⟨inv, delivered⟩ := run_delivered reached (Machine.along_iff.mpr
      fun earlier label later m' split ran' =>
        safe earlier label (later ++ after) m' (by simp [split]) ran')
    exact inv.kept (delivered done)

def sampleReport : ErrorReport :=
  { severity := .error, service := "billing", environment := "prod", exceptionType := "ValueError"
    message := "boom", traceback := "Traceback", timestamp := sampleNow }

def publishedReport : List (Label Nat) :=
  [.gateway .startCall, .gateway (.startStep .ok), .gateway (.startStep .ok),
    .gateway (.startStep .ok), .record 0 "agent" (.errorReport sampleReport) sampleNow,
    .committed 0 sampleNow, .stored 0, .published 0 .ok, .accepted 0]

theorem returned_kept_publishedReport :
    ∃ a, (machine Nat "oopsys").run publishedReport (initial sampleClient) = some a ∧
      (a.records 0).pc = .accepted ∧ a.Kept 0 := by
  refine ⟨_, rfl, rfl, ?_⟩
  refine (returned_kept "oopsys" sampleClient publishedReport _ rfl 0).mpr ?_ publishedReport []
    _ (by simp) rfl (.inr rfl)
  exact Machine.along_iff.mp (by decide)

/-- The gateway did not connect when the agent started, and a report comes in. -/
def reportWhileDown : List (Label Nat) :=
  [.gateway .startCall, .gateway (.startStep .raised), .gateway (.startStep .ok),
    .gateway (.startStep .ok), .record 0 "agent" (.errorReport sampleReport) sampleNow,
    .committed 0 sampleNow, .accepted 0]

theorem reportWhileDown_lost :
    ∃ a, (machine Nat "oopsys").run reportWhileDown (initial sampleClient) = some a ∧
      (a.records 0).pc = .accepted ∧ a.queue.stored = [] ∧ ¬a.Kept 0 :=
  ⟨_, rfl, rfl, rfl, not_kept rfl⟩

end Agent

end OopsysAgent
