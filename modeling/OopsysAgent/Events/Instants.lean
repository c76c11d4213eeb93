import OopsysAgent.Domain.Calendar
import OopsysAgent.Events.Service

/-!
# The instants of the history

An event brings the time at which it happened with the offset of where it did. The columns keep the
wall-clock fields and no offset, and are read back as UTC.
-/

namespace OopsysAgent.Events

def instantsOf : Event → List DateTime
  | .errorReport report => [report.timestamp]
  | .containerSnapshot snapshot => snapshot.containers.filterMap ContainerState.startedAt
  | .containerState state => state.startedAt.toList
  | .serverMetrics _ | .agentFault _ => []

/-- `error_reports.occurred_at` and `container_states.started_at` -/
def HistoryRow.instant? : HistoryRow → Option DateTime
  | .errorReport record => some record.occurredAt
  | .containerState record => record.startedAt
  | .serverMetric _ | .agentFault _ => none

def storedInstants (recording : Recording) : List DateTime :=
  recording.rows.filterMap fun row => row.stored.instant?

theorem validOffset_utc :
    ∀ offset ∈ some (0 : Int), -86400000000 < offset ∧ offset < 86400000000 := by
  decide

def asUtc (d : DateTime) : DateTime :=
  { d with
    utcoffset := some 0
    validDate := d.validDate
    validTime := d.validTime
    validOffset := validOffset_utc }

theorem storedInstants_eq (event : Event) (now : DateTime) :
    storedInstants (recordEvent event now) = (instantsOf event).map DateTime.naive := by
  cases event with
  | errorReport report => rfl
  | serverMetrics metrics => rfl
  | containerSnapshot snapshot =>
      simp only [storedInstants, recordEvent, recordContainerSnapshot, instantsOf]
      rw [List.filterMap_map, List.map_filterMap]
      rfl
  | containerState state =>
      cases given : state.startedAt <;>
        simp [storedInstants, recordEvent, recordContainerState, containerStateRecord,
          HistoryRow.stored, HistoryRow.instant?, instantsOf, given]
  | agentFault fault => rfl

/-- Read back, the stored values denote the event's instants. -/
def KeepsInstants (event : Event) (now : DateTime) : Prop :=
  (storedInstants (recordEvent event now)).map (fun d => (asUtc d).instant) =
    (instantsOf event).map DateTime.instant

instance (event : Event) (now : DateTime) : Decidable (KeepsInstants event now) :=
  inferInstanceAs (Decidable (_ = _))

/-- Of two reports, the one that happened first is stored so that it sorts first. -/
def KeepsOrder (report report' : ErrorReport) (now now' : DateTime) : Prop :=
  report.timestamp.instant < report'.timestamp.instant →
    ∀ d ∈ storedInstants (recordErrorReport report now),
      ∀ d' ∈ storedInstants (recordErrorReport report' now'), d.fields < d'.fields

theorem asUtc_instant (d : DateTime) : (asUtc d.naive).instant = d.wall :=
  Int.sub_zero _

theorem wall_eq_instant {d : DateTime} (aware : d.utcoffset ≠ none) :
    d.wall = d.instant ↔ d.utcoffset = some 0 := by
  unfold DateTime.instant
  cases given : d.utcoffset with
  | none => exact absurd given aware
  | some offset =>
      simp only [Option.getD_some, Option.some.injEq]
      omega

theorem keepsInstants_iff {event : Event} (now : DateTime)
    (aware : ∀ d ∈ instantsOf event, d.utcoffset ≠ none) :
    KeepsInstants event now ↔ ∀ d ∈ instantsOf event, d.utcoffset = some 0 := by
  rw [KeepsInstants, storedInstants_eq, List.map_map, List.map_inj_left]
  exact forall₂_congr fun d member => by
    rw [Function.comp_apply, asUtc_instant, wall_eq_instant (aware d member)]

theorem keepsOrder_of_utc {report report' : ErrorReport} (now now' : DateTime)
    (utc : report.timestamp.utcoffset = some 0) (utc' : report'.timestamp.utcoffset = some 0) :
    KeepsOrder report report' now now' := by
  intro before d stored d' stored'
  obtain rfl := List.mem_singleton.mp stored
  obtain rfl := List.mem_singleton.mp stored'
  have wall := (wall_eq_instant (by simp [utc])).mpr utc
  have wall' := (wall_eq_instant (by simp [utc'])).mpr utc'
  rw [← wall, ← wall'] at before
  exact DateTime.fields_lt_iff.mpr before

/-- A history keeps the instants of its events and the order of its reports, exactly if all their
offsets are zero. -/
theorem history_keeps_instants (history : List (Event × DateTime))
    (aware : ∀ entry ∈ history, ∀ d ∈ instantsOf entry.1, d.utcoffset ≠ none) :
    ((∀ entry ∈ history, KeepsInstants entry.1 entry.2) ∧
      ∀ report now report' now', (.errorReport report, now) ∈ history →
        (.errorReport report', now') ∈ history → KeepsOrder report report' now now') ↔
    ∀ entry ∈ history, ∀ d ∈ instantsOf entry.1, d.utcoffset = some 0 := by
  constructor
  · rintro ⟨keeps, -⟩ entry member
    exact (keepsInstants_iff entry.2 (aware entry member)).mp (keeps entry member)
  · intro utc
    constructor
    · intro entry member
      exact (keepsInstants_iff entry.2 (aware entry member)).mpr (utc entry member)
    · intro report now report' now' member member'
      exact keepsOrder_of_utc now now' (utc _ member _ (List.mem_singleton.mpr rfl))
        (utc _ member' _ (List.mem_singleton.mpr rfl))

def reportAt (timestamp : DateTime) : ErrorReport :=
  { severity := .error
    service := "api"
    environment := "production"
    exceptionType := "ValueError"
    message := ""
    traceback := ""
    timestamp }

def utcEleven : DateTime :=
  { sampleNow with
    hour := 11
    validDate := sampleNow.validDate
    validTime := by decide
    validOffset := sampleNow.validOffset }

def startedAtEleven : ContainerState :=
  { containerId := "c1", name := "web", image := "nginx", status := "running"
    startedAt := some utcEleven, capturedAt := sampleNow }

def utcHistory : List (Event × DateTime) :=
  [(.errorReport (reportAt utcEleven), sampleNow),
    (.containerSnapshot { capturedAt := sampleNow, containers := [startedAtEleven] }, sampleNow),
    (.errorReport (reportAt sampleNow), sampleNow)]

theorem history_keeps_instants_utc :
    (∀ entry ∈ utcHistory, KeepsInstants entry.1 entry.2) ∧
      KeepsOrder (reportAt utcEleven) (reportAt sampleNow) sampleNow sampleNow := by
  have kept := (history_keeps_instants utcHistory (by decide)).mpr (by decide)
  exact ⟨kept.1, kept.2 _ _ _ _ (by simp [utcHistory]) (by simp [utcHistory])⟩

/-- Noon two hours east of UTC comes before eleven at UTC. -/
def eastNoon : DateTime :=
  { sampleNow with
    utcoffset := some 7200000000
    validDate := sampleNow.validDate
    validTime := sampleNow.validTime
    validOffset := by decide }

theorem eastNoon_moved :
    ¬KeepsInstants (.errorReport (reportAt eastNoon)) sampleNow ∧
      ¬KeepsOrder (reportAt eastNoon) (reportAt utcEleven) sampleNow sampleNow := by
  refine ⟨by decide, ?_⟩
  intro kept
  have sorted := kept (by decide) _ List.mem_cons_self _ List.mem_cons_self
  revert sorted
  decide

end OopsysAgent.Events
