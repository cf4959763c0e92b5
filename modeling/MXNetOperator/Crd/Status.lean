import MXNetOperator.Api.MXJob
import MXNetOperator.Crd.OpenAPI

/-!
Contract: the JSON of a status and what the definitions say about it.

Owns the encoding that the struct tags of `MXJobStatus` prescribe: zero values
with `omitempty` are left out, a nil slice is `null`.  `status_valid_iff` says
which statuses the definitions admit.

How a time is written is a parameter; times come from the clock and are not the
zero time.
-/

namespace MXNetOperator.Crd

open MXNetOperator.Kube MXNetOperator.Api MXNetOperator.JsonSchema

/-! ### Encoding -/

section Encoding

/-- A field with `omitempty` that is a pointer. -/
def encodePointer {α : Type} (name : String) (encode : α → Json) : Option α → List (String × Json)
  | none => []
  | some target => [(name, encode target)]

def encodeInt32 (value : Int32) : Json :=
  .number (Rat.ofInt value.toInt)

/-- A number with `omitempty`. -/
def encodeCount (name : String) (value : Int32) : List (String × Json) :=
  if value = 0 then [] else [(name, encodeInt32 value)]

/-- A string with `omitempty`. -/
def encodeText (name text : String) : List (String × Json) :=
  if text = "" then [] else [(name, .string text)]

def encodeReplicaStatus (status : MXReplicaStatus) : Json :=
  .object (encodeCount "active" status.active ++ encodeCount "failed" status.failed ++
    encodeCount "gone" status.gone ++ encodeCount "succeeded" status.succeeded)

def encodeReplicaStatuses (statuses : MXReplicaStatuses) : Json :=
  .object (encodePointer "scheduler" encodeReplicaStatus statuses.scheduler ++
    encodePointer "server" encodeReplicaStatus statuses.server ++
    encodePointer "worker" encodeReplicaStatus statuses.worker)

def conditionTypeText : MXJobConditionType → String
  | .created => "Created"
  | .initialized => "Initialized"
  | .running => "Running"
  | .restarting => "Restarting"
  | .succeeded => "Succeeded"
  | .failed => "Failed"
  | .other name => name

def conditionStatusText : ConditionStatus → String
  | .isTrue => "True"
  | .isFalse => "False"
  | .unknown => "Unknown"

theorem mem_encodePointer {α : Type} {name : String} {encode : α → Json} {pointer : Option α}
    {member : String × Json} (isMember : member ∈ encodePointer name encode pointer) :
    ∃ target, member = (name, encode target) := by
  cases pointer with
  | none => cases isMember
  | some target => exact ⟨target, List.mem_singleton.mp isMember⟩

theorem mem_encodeCount {name : String} {value : Int32} {member : String × Json}
    (isMember : member ∈ encodeCount name value) : member = (name, encodeInt32 value) := by
  unfold encodeCount at isMember
  split at isMember
  · cases isMember
  · exact List.mem_singleton.mp isMember

theorem mem_encodeText {name text : String} {member : String × Json}
    (isMember : member ∈ encodeText name text) : member = (name, .string text) := by
  unfold encodeText at isMember
  split at isMember
  · cases isMember
  · exact List.mem_singleton.mp isMember

variable (rfc3339 : Time → String)

def encodeTime (time : Time) : Json :=
  .string (rfc3339 time)

def encodeCondition (condition : MXJobCondition) : Json :=
  .object ([("lastTransitionTime", encodeTime rfc3339 condition.lastTransitionTime),
      ("lastUpdateTime", encodeTime rfc3339 condition.lastUpdateTime)] ++
    encodeText "message" condition.message ++ encodeText "reason" condition.reason ++
    [("status", .string (conditionStatusText condition.status)),
      ("type", .string (conditionTypeText condition.type))])

/-- A status without conditions has the nil slice: nobody has set one. -/
def encodeConditions (conditions : List MXJobCondition) : Json :=
  if conditions = [] then .null else .array (conditions.map (encodeCondition rfc3339))

def encodeStatus (status : MXJobStatus) : Json :=
  .object (encodePointer "completionTime" (encodeTime rfc3339) status.completionTime ++
    [("conditions", encodeConditions rfc3339 status.conditions),
      ("replicaStatuses", encodeReplicaStatuses status.replicaStatuses)] ++
    encodePointer "startTime" (encodeTime rfc3339) status.startTime)

end Encoding

/-! ### Validity -/

/-- The validator knows the formats of the group. -/
structure KnowsFormats (dialect : Dialect) (rfc3339 : Time → String) : Prop where
  time : ∀ time, dialect.hasFormat "date-time" (encodeTime rfc3339 time)
  int32 : ∀ value, dialect.hasFormat "int32" (encodeInt32 value)

/-! ### Statuses -/

/-- The definitions that the generator converts. -/
abbrev KubernetesDefinitions.known (kubernetes : KubernetesDefinitions) : Definitions :=
  kubernetes.definitions.fixKnownTypes

section Statuses

variable {kubernetes : KubernetesDefinitions} {dialect : Dialect} {rfc3339 : Time → String}
  {description : String}

theorem text_valid (text : String) :
    kubernetes.known.Valid dialect (typed description "string" "") (.string text) :=
  valid_typed_iff.mpr ⟨rfl, Or.inl rfl⟩

variable (formats : KnowsFormats dialect rfc3339)
include formats

theorem time_valid (time : Time) :
    kubernetes.known.Valid dialect (reference description timeName)
      (encodeTime rfc3339 time) := by
  rw [valid_reference_iff (by decide)]
  apply valid_typed_iff.mpr
  exact ⟨rfl, Or.inr (formats.time time)⟩

theorem count_valid (value : Int32) :
    kubernetes.known.Valid dialect (typed description "integer" "int32") (encodeInt32 value) := by
  apply valid_typed_iff.mpr
  exact ⟨rfl, Or.inr (formats.int32 value)⟩

theorem replicaStatus_valid (status : MXReplicaStatus) :
    kubernetes.known.Valid dialect (reference description mxReplicaStatusName)
      (encodeReplicaStatus status) := by
  rw [valid_reference_iff (by decide)]
  apply valid_object (by decide) (by simp)
  intro member isMember schema found
  simp only [List.mem_append] at isMember
  rcases isMember with ((active | failed) | gone) | succeeded
  · cases mem_encodeCount active
    cases found
    exact count_valid formats status.active
  · cases mem_encodeCount failed
    cases found
    exact count_valid formats status.failed
  · cases mem_encodeCount gone
    cases found
    exact count_valid formats status.gone
  · cases mem_encodeCount succeeded
    cases found
    exact count_valid formats status.succeeded

theorem replicaStatuses_valid (statuses : MXReplicaStatuses) :
    kubernetes.known.Valid dialect (reference description mxReplicaStatusesName)
      (encodeReplicaStatuses statuses) := by
  rw [valid_reference_iff (by decide)]
  apply valid_object (by decide) (by simp)
  intro member isMember schema found
  simp only [List.mem_append] at isMember
  rcases isMember with (scheduler | server) | worker
  · obtain ⟨status, rfl⟩ := mem_encodePointer scheduler
    cases found
    exact replicaStatus_valid formats status
  · obtain ⟨status, rfl⟩ := mem_encodePointer server
    cases found
    exact replicaStatus_valid formats status
  · obtain ⟨status, rfl⟩ := mem_encodePointer worker
    cases found
    exact replicaStatus_valid formats status

theorem condition_valid (condition : MXJobCondition) :
    kubernetes.known.Valid dialect (reference description mxJobConditionName)
      (encodeCondition rfc3339 condition) := by
  rw [valid_reference_iff (by decide)]
  apply valid_object (by decide) (by simp)
  intro member isMember schema found
  simp only [List.mem_append, List.mem_cons, List.not_mem_nil, or_false] at isMember
  rcases isMember with (((rfl | rfl) | message) | reason) | (rfl | rfl)
  · cases found
    exact time_valid formats condition.lastTransitionTime
  · cases found
    exact time_valid formats condition.lastUpdateTime
  · cases mem_encodeText message
    cases found
    exact text_valid condition.message
  · cases mem_encodeText reason
    cases found
    exact text_valid condition.reason
  · cases found
    exact text_valid _
  · cases found
    exact text_valid _

theorem conditions_valid_iff (conditions : List MXJobCondition) :
    kubernetes.known.Valid dialect (listOf description mxJobConditionName)
        (encodeConditions rfc3339 conditions) ↔ conditions ≠ [] := by
  rw [valid_listOf_iff, encodeConditions]
  split
  · rename_i none
    simp [none]
  · rename_i some
    simp only [Json.array.injEq, exists_eq_left', List.forall_mem_map, ne_eq, some,
      not_false_eq_true, iff_true]
    exact fun condition _ => condition_valid formats condition

/-- The definitions admit a status if and only if it has a condition: without
one, the required list of conditions is `null`. -/
theorem status_valid_iff (status : MXJobStatus) :
    kubernetes.known.Valid dialect (reference description mxJobStatusName)
        (encodeStatus rfc3339 status) ↔ status.conditions ≠ [] := by
  rw [valid_reference_iff (by decide)]
  constructor
  · intro valid
    apply (conditions_valid_iff formats status.conditions).mp
    exact (valid_object_iff.mp valid).2
      ("conditions", listOf "Represents is an array of current observed MXJob conditions."
        mxJobConditionName) (by simp)
      ("conditions", encodeConditions rfc3339 status.conditions) (by simp) rfl
  · intro some
    apply valid_object (by decide) (by simp)
    intro member isMember schema found
    simp only [List.mem_append, List.mem_cons, List.not_mem_nil, or_false] at isMember
    rcases isMember with (completion | rfl | rfl) | start
    · obtain ⟨time, rfl⟩ := mem_encodePointer completion
      cases found
      exact time_valid formats time
    · cases found
      exact (conditions_valid_iff formats status.conditions).mpr some
    · cases found
      exact replicaStatuses_valid formats status.replicaStatuses
    · obtain ⟨time, rfl⟩ := mem_encodePointer start
      cases found
      exact time_valid formats time

end Statuses

end MXNetOperator.Crd
