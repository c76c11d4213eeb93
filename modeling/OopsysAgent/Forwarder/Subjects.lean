import OopsysAgent.Events.Service
import OopsysAgent.Library.Text

/-!
# Subjects

The subjects that `EventService` publishes to, against the filters of the stream and of the
forwarder's subscriber.
-/

namespace OopsysAgent.Forwarder

def streamSubjects (pre : String) : List String := [pre ++ ".agents.*.>"]

def declareSubject (pre : String) : String := pre ++ ".agents._declare"

def subscriberSubject (pre : String) : String := pre ++ ".agents.*.>"

/-- The matching rule of NATS. -/
def tokens (subject : String) : List (List Char) := subject.toList.splitOn '.'

def subjectMatches (filter subject : String) : Bool :=
  Text.covers ['*'] ['>'] (tokens filter) (tokens subject)

def Consumed (pre subject : String) : Prop :=
  (∃ filter ∈ streamSubjects pre, subjectMatches filter subject = true) ∧
    subjectMatches (subscriberSubject pre) subject = true

def sourceOf (value : List Char) : Option Source :=
  [Source.projects, .server, .docker, .agent].find? fun source => source.value.toList = value

/-- The agent and the source that a subject names. -/
def parseSubject (pre subject : String) : Option (String × Source) :=
  let parts := (tokens subject).drop ((tokens pre).length + 1)
  (parts.getLast?.bind sourceOf).map fun source =>
    (String.ofList (['.'].intercalate parts.dropLast), source)

@[simp] theorem tokens_dot (front back : String) :
    tokens (front ++ "." ++ back) = tokens front ++ tokens back := by
  have dot : ".".toList = ['.'] := rfl
  rw [tokens, String.toList_append, String.toList_append, dot, List.append_assoc,
    List.singleton_append, List.splitOn_append_cons_self]
  rfl

theorem tokens_value (source : Source) : tokens source.value = [source.value.toList] := by
  cases source <;> decide

theorem tokens_under (pre name : String) :
    tokens (pre ++ ".agents." ++ name) = tokens pre ++ "agents".toList :: tokens name := by
  have word : ".agents." = "." ++ "agents" ++ "." := rfl
  have agents : tokens "agents" = ["agents".toList] := by decide
  have split : pre ++ ".agents." ++ name = pre ++ "." ++ ("agents" ++ "." ++ name) := by
    simp only [word, String.append_assoc]
  rw [split, tokens_dot, tokens_dot, agents, List.singleton_append]

theorem tokens_buildSubject (pre agentId : String) (source : Source) :
    tokens (buildSubject pre agentId source) =
      tokens pre ++ "agents".toList :: (tokens agentId ++ [source.value.toList]) := by
  have split : buildSubject pre agentId source =
      pre ++ ".agents." ++ (agentId ++ "." ++ source.value) := by
    simp only [buildSubject, String.append_assoc]
  rw [split, tokens_under, tokens_dot, tokens_value]

theorem tokens_subscriberSubject (pre : String) :
    tokens (subscriberSubject pre) = tokens pre ++ ["agents".toList, ['*'], ['>']] := by
  have split : subscriberSubject pre = pre ++ ".agents." ++ "*.>" := by
    rw [subscriberSubject, String.append_assoc]
    rfl
  have wildcards : tokens "*.>" = [['*'], ['>']] := by decide
  rw [split, tokens_under, wildcards]

theorem tokens_declareSubject (pre : String) :
    tokens (declareSubject pre) = tokens pre ++ ["agents".toList, "_declare".toList] := by
  have split : declareSubject pre = pre ++ ".agents." ++ "_declare" := by
    rw [declareSubject, String.append_assoc]
    rfl
  have declare : tokens "_declare" = ["_declare".toList] := by decide
  rw [split, tokens_under, declare]

theorem subscriber_matches (pre agentId : String) (source : Source) :
    subjectMatches (subscriberSubject pre) (buildSubject pre agentId source) = true := by
  rw [subjectMatches, tokens_subscriberSubject, tokens_buildSubject,
    Text.covers_append (by simp), Text.covers_cons _ (by simp)]
  -- the first token of the agent's id is under `*`, the others and the source are under `>`
  cases split : tokens agentId with
  | nil => exact absurd split (List.splitOn_ne_nil '.' _)
  | cons first others =>
      rw [List.cons_append, Text.covers_one _ (by simp)]
      cases others with
      | nil => exact Text.covers_rest _
      | cons second others => exact Text.covers_rest _

theorem declareSubject_unmatched (pre : String) :
    subjectMatches (subscriberSubject pre) (declareSubject pre) = false := by
  apply Bool.eq_false_iff.mpr
  intro matched
  have short := Text.covers_length matched
  rw [tokens_subscriberSubject, tokens_declareSubject] at short
  simp at short

theorem sourceOf_value (source : Source) : sourceOf source.value.toList = some source := by
  cases source <;> rfl

theorem parseSubject_buildSubject (pre agentId : String) (source : Source) :
    parseSubject pre (buildSubject pre agentId source) = some (agentId, source) := by
  have parts : (tokens (buildSubject pre agentId source)).drop ((tokens pre).length + 1) =
      tokens agentId ++ [source.value.toList] := by
    rw [tokens_buildSubject, List.drop_append]
    simp
  have joined : String.ofList (['.'].intercalate (tokens agentId)) = agentId := by
    rw [tokens, List.intercalate_splitOn, String.ofList_toList]
  simp [parseSubject, parts, sourceOf_value, joined]

example : parseSubject "oopsys" "oopsys.agents.host.a.docker" = some ("host.a", .docker) := by
  decide

theorem consumed_buildSubject (pre agentId : String) (source : Source) :
    Consumed pre (buildSubject pre agentId source) :=
  ⟨⟨_, List.mem_singleton.mpr rfl, subscriber_matches pre agentId source⟩,
    subscriber_matches pre agentId source⟩

theorem buildSubject_injective (pre : String) :
    Function.Injective fun of : String × Source => buildSubject pre of.1 of.2 := by
  intro of of' same
  have parsed := congrArg (parseSubject pre) same
  simpa [parseSubject_buildSubject] using parsed

/-- Under any prefix, every subject that is published to is in the stream and is consumed, names
its agent and source, and `_declare` is not consumed. -/
theorem subjects_agree (pre : String) :
    (∀ agentId source, Consumed pre (buildSubject pre agentId source) ∧
      parseSubject pre (buildSubject pre agentId source) = some (agentId, source)) ∧
    (∀ agentId event now,
      Consumed pre ((Events.recordEvent event now).subject pre agentId)) ∧
    Function.Injective (fun of : String × Source => buildSubject pre of.1 of.2) ∧
    subjectMatches (subscriberSubject pre) (declareSubject pre) = false :=
  ⟨fun agentId source => ⟨consumed_buildSubject pre agentId source,
      parseSubject_buildSubject pre agentId source⟩,
    fun agentId event now => consumed_buildSubject pre agentId (Events.recordEvent event now).source,
    buildSubject_injective pre, declareSubject_unmatched pre⟩

end OopsysAgent.Forwarder
