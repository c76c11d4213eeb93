import OopsysAgent.Forwarder.ServerClient
import OopsysAgent.Library.Object

/-!
# The forwarder's handler

`_forward` on one message, and what its flags and the runtime say after any sequence of calls.
-/

namespace OopsysAgent.Forwarder
open Concurrency

/-- The log-once flags of the gateway and the runtime fields that `_forward` writes. -/
structure ForwardState where
  forwardNoTokenLogged : Bool := false
  forwardAuthLogged : Bool := false
  forwardUnreachableLogged : Bool := false
  serverReachable : Bool := false
  lastForwardedAt : Option DateTime := none

inductive LogLine
  | warning (event : String) (reason : Option String)
  | info (event : String)

structure ForwardCall (β : Type) where
  client : ServerClient
  body : β
  response : Response
  now : DateTime

/-- The requests a call sent, the lines it logged, and whether it raised `NackMessage`. -/
structure Forwarded (β : Type) where
  requests : List (Request β)
  logs : List LogLine
  nacked : Bool

def noTokenWarning : LogLine :=
  .warning "forwarding disabled: set AGENT__TOKEN in .env after `oopsys-agent token create`" none

def authWarning (reason : String) : LogLine :=
  .warning "token rejected by server; bind the same token in Agents UI" (some reason)

def unreachableWarning (reason : String) : LogLine :=
  .warning "server unreachable; messages stay in queue and will retry" (some reason)

def resumedInfo : LogLine := .info "server reachable again; forwarding resumed"

def forward {β : Type} (call : ForwardCall β) (f : ForwardState) : Forwarded β × ForwardState :=
  if !call.client.deliveryEnabled then
    ({ requests := []
       logs := if !f.forwardNoTokenLogged then [noTokenWarning] else []
       nacked := true },
      { f with serverReachable := false, forwardNoTokenLogged := true })
  else
    let requests := [call.client.request call.body]
    match ServerClient.send call.response with
    | .error (.serverAuthError reason) =>
        ({ requests
           logs := if !f.forwardAuthLogged then [authWarning reason] else []
           nacked := true },
          { f with serverReachable := false, forwardAuthLogged := true })
    | .error error =>
        let wasReachable := f.serverReachable
        ({ requests
           logs :=
            if wasReachable || !f.forwardUnreachableLogged then [unreachableWarning error.reason]
            else []
           nacked := true },
          { f with serverReachable := false, forwardUnreachableLogged := true })
    | .ok () =>
        ({ requests
           logs := if !f.serverReachable then [resumedInfo] else []
           nacked := false },
          { forwardNoTokenLogged := false
            forwardAuthLogged := false
            forwardUnreachableLogged := false
            serverReachable := true
            lastForwardedAt := some call.now })

def forwarder (β : Type) : Object (ForwardCall β) (Forwarded β) ForwardState where
  apply := forward

/-! ## Outcomes -/

inductive ForwardOutcome
  | noToken
  | authRejected
  | deliveryFailed
  | accepted
  deriving DecidableEq

def LogLine.event : LogLine → String
  | .warning event _ | .info event => event

def ForwardOutcome.event : ForwardOutcome → String
  | .noToken => "forwarding disabled: set AGENT__TOKEN in .env after `oopsys-agent token create`"
  | .authRejected => "token rejected by server; bind the same token in Agents UI"
  | .deliveryFailed => "server unreachable; messages stay in queue and will retry"
  | .accepted => "server reachable again; forwarding resumed"

namespace ForwardCall

variable {β : Type}

def outcome (call : ForwardCall β) : ForwardOutcome :=
  if !call.client.deliveryEnabled then .noToken
  else
    match ServerClient.send call.response with
    | .error (.serverAuthError _) => .authRejected
    | .error _ => .deliveryFailed
    | .ok () => .accepted

def line (call : ForwardCall β) : LogLine :=
  match call.outcome, ServerClient.send call.response with
  | .noToken, _ => noTokenWarning
  | .authRejected, .error error => authWarning error.reason
  | .deliveryFailed, .error error => unreachableWarning error.reason
  | _, _ => resumedInfo

theorem send_of_accepted {call : ForwardCall β} (accepted : call.outcome = .accepted) :
    ServerClient.send call.response = .ok () := by
  unfold outcome at accepted
  split at accepted
  · cases accepted
  · split at accepted
    · cases accepted
    · cases accepted
    · assumption

end ForwardCall

theorem forward_cases {β : Type} (call : ForwardCall β) (f : ForwardState) :
    (call.outcome = .noToken ∧ call.client.deliveryEnabled = false ∧
      forward call f =
        ({ requests := []
           logs := if f.forwardNoTokenLogged then [] else [call.line]
           nacked := true },
          { f with serverReachable := false, forwardNoTokenLogged := true })) ∨
    (call.outcome = .authRejected ∧ call.client.deliveryEnabled = true ∧
      forward call f =
        ({ requests := [call.client.request call.body]
           logs := if f.forwardAuthLogged then [] else [call.line]
           nacked := true },
          { f with serverReachable := false, forwardAuthLogged := true })) ∨
    (call.outcome = .deliveryFailed ∧ call.client.deliveryEnabled = true ∧
      forward call f =
        ({ requests := [call.client.request call.body]
           logs := if !f.serverReachable && f.forwardUnreachableLogged then [] else [call.line]
           nacked := true },
          { f with serverReachable := false, forwardUnreachableLogged := true })) ∨
    (call.outcome = .accepted ∧ call.client.deliveryEnabled = true ∧
      forward call f =
        ({ requests := [call.client.request call.body]
           logs := if f.serverReachable then [] else [call.line]
           nacked := false },
          { forwardNoTokenLogged := false
            forwardAuthLogged := false
            forwardUnreachableLogged := false
            serverReachable := true
            lastForwardedAt := some call.now })) := by
  unfold forward ForwardCall.line ForwardCall.outcome
  cases call.client.deliveryEnabled with
  | false => cases f.forwardNoTokenLogged <;> simp
  | true =>
      cases ServerClient.send call.response with
      | ok accepted => cases f.serverReachable <;> simp
      | error error =>
          cases error with
          | serverAuthError reason => cases f.forwardAuthLogged <;> simp [SendError.reason]
          | serverDeliveryError reason =>
              cases f.serverReachable <;> cases f.forwardUnreachableLogged <;> simp
          | exception reason =>
              cases f.serverReachable <;> cases f.forwardUnreachableLogged <;> simp

/-! ## What the state says about the history -/

/-- The failures since the last accepted call. -/
def stretch {β : Type} (calls : List (ForwardCall β)) : List ForwardOutcome :=
  (calls.map ForwardCall.outcome).rtakeWhile (· ≠ .accepted)

structure Reflects {β : Type} (calls : List (ForwardCall β)) (f : ForwardState) : Prop where
  forwardNoTokenLogged : f.forwardNoTokenLogged = decide (.noToken ∈ stretch calls)
  forwardAuthLogged : f.forwardAuthLogged = decide (.authRejected ∈ stretch calls)
  forwardUnreachableLogged : f.forwardUnreachableLogged = decide (.deliveryFailed ∈ stretch calls)
  serverReachable : f.serverReachable =
    decide ((calls.map ForwardCall.outcome).getLast? = some .accepted)
  lastForwardedAt : f.lastForwardedAt =
    (calls.filter (·.outcome = .accepted)).getLast?.map ForwardCall.now

section

variable {β : Type} {call : ForwardCall β} {past : List (ForwardCall β)} {f : ForwardState}

theorem stretch_failed (past : List (ForwardCall β)) (failed : call.outcome ≠ .accepted) :
    stretch (past ++ [call]) = stretch past ++ [call.outcome] := by
  simp [stretch, failed]

theorem stretch_accepted (past : List (ForwardCall β)) (accepted : call.outcome = .accepted) :
    stretch (past ++ [call]) = [] := by
  simp [stretch, accepted]

theorem reflects_fresh : Reflects ([] : List (ForwardCall β)) {} where
  forwardNoTokenLogged := rfl
  forwardAuthLogged := rfl
  forwardUnreachableLogged := rfl
  serverReachable := rfl
  lastForwardedAt := rfl

theorem Reflects.forward (reflects : Reflects past f) :
    Reflects (past ++ [call]) (forward call f).2 := by
  obtain ⟨noToken, auth, unreachable, reachable, last⟩ := reflects
  obtain ⟨outcome, -, ran⟩ | ⟨outcome, -, ran⟩ | ⟨outcome, -, ran⟩ | ⟨outcome, -, ran⟩ :=
    forward_cases call f
  · have stretched := stretch_failed past (outcome.trans_ne nofun)
    rw [ran]
    constructor <;> simp [stretched, outcome, auth, unreachable, last]
  · have stretched := stretch_failed past (outcome.trans_ne nofun)
    rw [ran]
    constructor <;> simp [stretched, outcome, noToken, unreachable, last]
  · have stretched := stretch_failed past (outcome.trans_ne nofun)
    rw [ran]
    constructor <;> simp [stretched, outcome, noToken, auth, last]
  · have stretched := stretch_accepted past outcome
    rw [ran]
    constructor <;> simp [stretched, outcome]

theorem stretch_of_reached
    (reached : (past.map ForwardCall.outcome).getLast? = some .accepted) : stretch past = [] := by
  obtain ⟨earlier, last⟩ := List.getLast?_eq_some_iff.mp reached
  rw [stretch, last]
  simp

theorem Reflects.logs (reflects : Reflects past f) (call : ForwardCall β) :
    (Forwarder.forward call f).1.logs =
      if call.outcome = .accepted then
        if (past.map ForwardCall.outcome).getLast? = some .accepted then [] else [call.line]
      else if call.outcome ∈ stretch past then [] else [call.line] := by
  obtain ⟨noToken, auth, unreachable, reachable, -⟩ := reflects
  obtain ⟨outcome, -, ran⟩ | ⟨outcome, -, ran⟩ | ⟨outcome, -, ran⟩ | ⟨outcome, -, ran⟩ :=
    forward_cases call f
  · rw [ran]
    simp [outcome, noToken]
  · rw [ran]
    simp [outcome, auth]
  · rw [ran]
    by_cases reached : (past.map ForwardCall.outcome).getLast? = some .accepted
    · have up : f.serverReachable = true := reachable.trans (decide_eq_true reached)
      simp [outcome, up, stretch_of_reached reached]
    · have down : f.serverReachable = false := reachable.trans (decide_eq_false reached)
      simp [outcome, down, unreachable]
  · rw [ran]
    simp [outcome, reachable]

theorem stretch_append {failures : List (ForwardCall β)}
    (failed : ∀ failure ∈ failures, failure.outcome ≠ .accepted) :
    stretch (past ++ failures) = stretch past ++ failures.map ForwardCall.outcome := by
  induction failures using List.reverseRecOn with
  | nil => simp
  | append_singleton earlier last ih =>
      have before := ih fun failure member => failed failure (List.mem_append_left _ member)
      have here : last.outcome ≠ .accepted := failed last (by simp)
      rw [← List.append_assoc, stretch_failed _ here, before, List.map_append, List.append_assoc]
      rfl

theorem ForwardCall.line_event (call : ForwardCall β) : call.line.event = call.outcome.event := by
  unfold ForwardCall.line ForwardCall.outcome
  cases call.client.deliveryEnabled with
  | false => rfl
  | true =>
      cases ServerClient.send call.response with
      | ok accepted => rfl
      | error error => cases error <;> rfl

theorem event_injective : Function.Injective ForwardOutcome.event := by
  intro a b same
  cases a <;> cases b <;> first | rfl | exact absurd same (by decide)

def linesOf (kind : ForwardOutcome) (results : List (Forwarded β)) : List LogLine :=
  (results.flatMap Forwarded.logs).filter (·.event = kind.event)

theorem Reflects.run (reflects : Reflects past f) (more : List (ForwardCall β)) :
    Reflects (past ++ more) ((forwarder β).run more f).2 := by
  refine Object.history_invariant (I := fun calls s => Reflects (past ++ calls) s)
    (fun calls call s here => ?_) ?_ more
  · rw [← List.append_assoc]
    exact here.forward
  · rwa [List.append_nil]

theorem linesOf_failures (reflects : Reflects past f) (fresh : stretch past = [])
    {failures : List (ForwardCall β)} (failed : ∀ failure ∈ failures, failure.outcome ≠ .accepted)
    (kind : ForwardOutcome) :
    (linesOf kind ((forwarder β).run failures f).1).length =
      if kind ∈ failures.map ForwardCall.outcome then 1 else 0 := by
  induction failures using List.reverseRecOn with
  | nil => rfl
  | append_singleton earlier last ih =>
      have failedBefore : ∀ failure ∈ earlier, failure.outcome ≠ .accepted :=
        fun failure member => failed failure (List.mem_append_left _ member)
      have here : last.outcome ≠ .accepted := failed last (by simp)
      have logged := (reflects.run earlier).logs last
      rw [if_neg here, stretch_append failedBefore, fresh, List.nil_append] at logged
      have before := ih failedBefore
      have split : linesOf kind ((forwarder β).run (earlier ++ [last]) f).1 =
          linesOf kind ((forwarder β).run earlier f).1 ++
            (forward last ((forwarder β).run earlier f).2).1.logs.filter (·.event = kind.event) := by
        simp [linesOf, Object.run_append, Object.run_cons, forwarder]
      rw [split, List.length_append, before, logged, List.map_append, List.map_singleton]
      by_cases again : last.outcome ∈ earlier.map ForwardCall.outcome
      · rw [if_pos again]
        by_cases same : kind = last.outcome
        · subst same
          simp [again]
        · simp [same]
      · rw [if_neg again]
        by_cases same : kind = last.outcome
        · subst same
          simp [again, last.line_event]
        · have other : last.outcome.event ≠ kind.event :=
            fun equal => same (event_injective equal).symm
          simp [same, last.line_event, other]

end

/-- After any calls, what one more call does and what the state then says are functions of the
outcomes so far, and no stretch of failures warns twice of one kind. -/
theorem forward_exact {β : Type} (before : List (ForwardCall β)) (call : ForwardCall β) :
    let f := ((forwarder β).run before {}).2
    let result := (forward call f).1
    let after := (forward call f).2
    (after.serverReachable = true ↔ call.outcome = .accepted) ∧
    after.lastForwardedAt =
      ((before ++ [call]).filter (·.outcome = .accepted)).getLast?.map ForwardCall.now ∧
    result.requests =
      (if call.client.deliveryEnabled then [call.client.request call.body] else []) ∧
    (call.outcome = .noToken ↔ call.client.deliveryEnabled = false) ∧
    (result.nacked = true ↔ call.outcome ≠ .accepted) ∧
    result.logs =
      (if call.outcome = .accepted then
        if (before.map ForwardCall.outcome).getLast? = some .accepted then [] else [call.line]
      else if call.outcome ∈ stretch before then [] else [call.line]) ∧
    call.line.event = call.outcome.event ∧
    ∀ failures, stretch before = [] → (∀ failure ∈ failures, failure.outcome ≠ .accepted) →
      ∀ kind, (linesOf kind ((forwarder β).run failures f).1).length =
        if kind ∈ failures.map ForwardCall.outcome then 1 else 0 := by
  intro f result after
  have reflects : Reflects before f := reflects_fresh.run before
  have now : Reflects (before ++ [call]) after := reflects.forward
  refine ⟨?_, now.lastForwardedAt, ?_, ?_, ?_, reflects.logs call, call.line_event,
    fun failures fresh failed kind => linesOf_failures reflects fresh failed kind⟩
  · rw [now.serverReachable]
    simp
  · obtain ⟨-, enabled, ran⟩ | ⟨-, enabled, ran⟩ | ⟨-, enabled, ran⟩ | ⟨-, enabled, ran⟩ :=
      forward_cases call f <;> simp [result, ran, enabled]
  · obtain ⟨outcome, enabled, -⟩ | ⟨outcome, enabled, -⟩ | ⟨outcome, enabled, -⟩ |
      ⟨outcome, enabled, -⟩ := forward_cases call f <;> simp [outcome, enabled]
  · obtain ⟨outcome, -, ran⟩ | ⟨outcome, -, ran⟩ | ⟨outcome, -, ran⟩ | ⟨outcome, -, ran⟩ :=
      forward_cases call f <;> simp [result, ran, outcome]

def sampleClient : ServerClient := { agent := { token := some "alpha" } }

def rejectedCall : ForwardCall Unit :=
  { client := sampleClient
    body := ()
    response := .status 401
    now := sampleNow }

theorem forward_exact_rejected :
    (linesOf .authRejected
      ((forwarder Unit).run [rejectedCall, rejectedCall] {}).1).length = 1 := by
  obtain ⟨-, -, -, -, -, -, -, counted⟩ := forward_exact [] rejectedCall
  exact counted [rejectedCall, rejectedCall] rfl (by decide) .authRejected

end OopsysAgent.Forwarder
