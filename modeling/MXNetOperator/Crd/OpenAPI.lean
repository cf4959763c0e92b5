import MXNetOperator.Crd.Meaning

/-!
Contract: the OpenAPI definitions of API group `ava.qiniu.com/v1alpha1`.

The generated file also has the definitions of the Kubernetes types that a pod
template and the metadata are made of.  Of those only `Time` is here; the others
are a parameter.
-/

namespace MXNetOperator.Crd

open MXNetOperator.JsonSchema

/-! ### Forms of schemas -/

/-- A field with a type. -/
def typed (description type format : String) : Schema :=
  .mk { type := [type], keywords := { description, format } }

/-- A field whose type has its own definition. -/
def reference (description name : String) : Schema :=
  .mk { ref := name, keywords := { description } }

/-- A list of what has its own definition. -/
def listOf (description name : String) : Schema :=
  .mk {
    type := ["array"]
    keywords := { description }
    applicators := { items := some { schema := some (reference "" name) } } }

/-! What schemas of these forms say. -/

section Validity

variable {definitions : Definitions} {dialect : Dialect} {description format : String}
  {value : Json}

theorem valid_typed_iff {type : String} :
    definitions.Valid dialect (typed description type format) value ↔
      value.hasType type = true ∧ (format = "" ∨ dialect.hasFormat format value) := by
  rw [typed, Definitions.valid_simple_iff, Keywords.valid_format_iff]
  simp [Applicators.valid_none]

theorem valid_reference_iff {name : String} (named : name ≠ "") :
    definitions.Valid dialect (reference description name) value ↔
      definitions.Valid dialect (definitions.openapiSpec.get name) value :=
  Definitions.valid_ref named

theorem valid_object_iff {required : List String} {properties : List (String × Schema)}
    {members : List (String × Json)} :
    definitions.Valid dialect
        (.mk { keywords := { description, required }, applicators := { properties } })
        (.object members) ↔
      (∀ name ∈ required, name ∈ members.map Prod.fst) ∧
        ∀ entry ∈ properties, ∀ member ∈ members, member.1 = entry.1 →
          definitions.Valid dialect entry.2 member.2 := by
  rw [Definitions.valid_simple_iff, Keywords.valid_object_iff, Applicators.valid_properties_iff]
  simp

theorem lookup_of_mem {properties : List (String × Schema)}
    (distinct : (properties.map Prod.fst).Nodup) :
    ∀ entry ∈ properties, properties.lookup entry.1 = some entry.2 := by
  induction properties with
  | nil => simp
  | cons first rest inductionHypothesis =>
      rw [List.map_cons, List.nodup_cons] at distinct
      intro entry member
      rw [List.lookup_cons]
      rcases List.mem_cons.mp member with rfl | later
      · simp
      · have different : (entry.1 == first.1) = false :=
          beq_false_of_ne fun same => distinct.1 (same ▸ List.mem_map_of_mem later)
        rw [different]
        exact inductionHypothesis distinct.2 entry later

/-- An object is checked member by member if no property is there twice. -/
theorem valid_object {required : List String} {properties : List (String × Schema)}
    {members : List (String × Json)} (distinct : (properties.map Prod.fst).Nodup)
    (present : ∀ name ∈ required, name ∈ members.map Prod.fst)
    (each : ∀ member ∈ members, ∀ schema, properties.lookup member.1 = some schema →
      definitions.Valid dialect schema member.2) :
    definitions.Valid dialect
        (.mk { keywords := { description, required }, applicators := { properties } })
        (.object members) := by
  rw [valid_object_iff]
  refine ⟨present, fun entry isEntry member isMember sameName => ?_⟩
  apply each member isMember
  rw [sameName]
  exact lookup_of_mem distinct entry isEntry

theorem valid_listOf_iff {name : String} :
    definitions.Valid dialect (listOf description name) value ↔
      ∃ elements, value = .array elements ∧
        ∀ element ∈ elements, definitions.Valid dialect (reference "" name) element := by
  rw [listOf, Definitions.valid_simple_iff, Applicators.valid_items_iff]
  have keyed : Keywords.Valid dialect { description } value :=
    Keywords.valid_format_iff.mpr (Or.inl rfl)
  constructor
  · rintro ⟨typed, _, each⟩
    cases value with
    | array elements => exact ⟨elements, rfl, each elements rfl⟩
    | _ => simp [Json.hasType] at typed
  · rintro ⟨elements, rfl, each⟩
    refine ⟨Or.inr ⟨"array", List.mem_singleton_self _, rfl⟩, keyed, ?_⟩
    rintro _ ⟨⟩
    exact each

end Validity

/-! ### Definitions of the group -/

def mxJobName : String := "github.com/qiniu-ava/mxnet-operator/pkg/apis/ava/v1alpha1.MXJob"

def mxJobConditionName : String :=
  "github.com/qiniu-ava/mxnet-operator/pkg/apis/ava/v1alpha1.MXJobCondition"

def mxJobListName : String := "github.com/qiniu-ava/mxnet-operator/pkg/apis/ava/v1alpha1.MXJobList"

def mxJobSpecName : String := "github.com/qiniu-ava/mxnet-operator/pkg/apis/ava/v1alpha1.MXJobSpec"

def mxJobStatusName : String :=
  "github.com/qiniu-ava/mxnet-operator/pkg/apis/ava/v1alpha1.MXJobStatus"

def mxReplicaSpecName : String :=
  "github.com/qiniu-ava/mxnet-operator/pkg/apis/ava/v1alpha1.MXReplicaSpec"

def mxReplicaSpecsName : String :=
  "github.com/qiniu-ava/mxnet-operator/pkg/apis/ava/v1alpha1.MXReplicaSpecs"

def mxReplicaStatusName : String :=
  "github.com/qiniu-ava/mxnet-operator/pkg/apis/ava/v1alpha1.MXReplicaStatus"

def mxReplicaStatusesName : String :=
  "github.com/qiniu-ava/mxnet-operator/pkg/apis/ava/v1alpha1.MXReplicaStatuses"

def podTemplateSpecName : String := "k8s.io/api/core/v1.PodTemplateSpec"

def listMetaName : String := "k8s.io/apimachinery/pkg/apis/meta/v1.ListMeta"

def objectMetaName : String := "k8s.io/apimachinery/pkg/apis/meta/v1.ObjectMeta"

def timeName : String := "k8s.io/apimachinery/pkg/apis/meta/v1.Time"

/-- The two fields of `TypeMeta`, which every object has. -/
def typeMetaProperties : List (String × Schema) :=
  [("kind", typed ("Kind is a string value representing the REST resource this object represents. " ++
      "Servers may infer this from the endpoint the client submits requests to. Cannot be updated. " ++
      "In CamelCase. More info: " ++
      "https://git.k8s.io/community/contributors/devel/api-conventions.md#types-kinds")
      "string" ""),
    ("apiVersion", typed ("APIVersion defines the versioned schema of this representation of an " ++
      "object. Servers should convert recognized schemas to the latest internal value, and may " ++
      "reject unrecognized values. More info: " ++
      "https://git.k8s.io/community/contributors/devel/api-conventions.md#resources")
      "string" "")]

def mxJobSchema : Schema :=
  .mk {
    keywords := { required := ["metadata", "spec"] }
    applicators := { properties := typeMetaProperties ++
      [("metadata", reference "" objectMetaName),
        ("spec", reference "" mxJobSpecName),
        ("status", reference "" mxJobStatusName)] } }

def mxJobConditionSchema : Schema :=
  .mk {
    keywords := {
      description := "MXJobCondition describes the state of the MXJob at a certain point."
      required := ["type", "status"] }
    applicators := { properties :=
      [("type", typed "Type of MXJob condition." "string" ""),
        ("status", typed "Status of the condition, one of True, False, Unknown." "string" ""),
        ("reason", typed "The reason for the condition's last transition." "string" ""),
        ("message", typed "A human readable message indicating details about the transition."
          "string" ""),
        ("lastUpdateTime", reference "The last time this condition was updated." timeName),
        ("lastTransitionTime", reference
          "Last time the condition transitioned from one status to another." timeName)] } }

def mxJobListSchema : Schema :=
  .mk {
    keywords := { required := ["metadata", "items"] }
    applicators := { properties := typeMetaProperties ++
      [("metadata", reference "" listMetaName),
        ("items", listOf "" mxJobName)] } }

def mxJobSpecSchema : Schema :=
  .mk {
    keywords := {
      description := "MXJobSpec is a desired state description of the MXJob."
      required := ["replicaSpecs"] }
    applicators := { properties :=
      [("replicaSpecs", reference ("MXReplicaSpecs is map of MXReplicaType and MXReplicaSpec " ++
          "specifies the MX replicas to run. For example,\n  \x7b\n    \"scheduler\": " ++
          "MXReplicaSpec,\n    \"server\": MXReplicaSpec,\n    \"worker\": MXReplicaSpe,\n  \x7d")
          mxReplicaSpecsName)] } }

def mxJobStatusSchema : Schema :=
  .mk {
    keywords := { required := ["replicaStatuses", "conditions"] }
    applicators := { properties :=
      [("replicaStatuses", reference "ReplicaStatuses specifies the status of each MX replica."
          mxReplicaStatusesName),
        ("startTime", reference ("Represents time when the MXJob was acknowledged by the MXJob " ++
          "controller. It is not guaranteed to be set in happens-before order across separate " ++
          "operations. It is represented in RFC3339 form and is in UTC.") timeName),
        ("completionTime", reference ("Represents time when the MXJob was completed. It is not " ++
          "guaranteed to be set in happens-before order across separate operations. It is " ++
          "represented in RFC3339 form and is in UTC.") timeName),
        ("conditions", listOf "Represents is an array of current observed MXJob conditions."
          mxJobConditionName)] } }

def mxReplicaSpecSchema : Schema :=
  .mk { applicators := { properties :=
    [("replicas", typed "Replicas is the number of desired replicas." "integer" "int32"),
      ("template", reference "" podTemplateSpecName),
      ("psRootPort", typed "PsRootPort is the port to use for scheduler." "integer" "int32"),
      ("psVerbose", typed "PsVerbose is the communication loggining level." "integer"
        "int32")] } }

def mxReplicaSpecsSchema : Schema :=
  .mk { applicators := { properties :=
    [("scheduler", reference "ReplicaSpecs specifies the MX scheduler replicas to run."
        mxReplicaSpecName),
      ("server", reference "ReplicaSpecs specifies the MX server replicas to run."
        mxReplicaSpecName),
      ("worker", reference "ReplicaSpecs specifies the MX worker replicas to run."
        mxReplicaSpecName)] } }

def mxReplicaStatusSchema : Schema :=
  .mk {
    keywords := { description := "MXReplicaStatus mxnet replica status" }
    applicators := { properties :=
      [("active", typed "The number of actively running pods." "integer" "int32"),
        ("succeeded", typed "The number of pods which reached phase Succeeded." "integer" "int32"),
        ("failed", typed "The number of pods which reached phase Failed." "integer" "int32"),
        ("gone", typed "The number of pods which is deleted." "integer" "int32")] } }

def mxReplicaStatusesSchema : Schema :=
  .mk {
    keywords := { description := "MXReplicaStatuses is the status collection of mxnet replica." }
    applicators := { properties :=
      [("scheduler", reference "" mxReplicaStatusName),
        ("server", reference "" mxReplicaStatusName),
        ("worker", reference "" mxReplicaStatusName)] } }

/-- `Time.OpenAPIDefinition`. -/
def timeSchema : Schema :=
  .mk { type := ["string"], keywords := { format := "date-time" } }

/-- `GetOpenAPIDefinitions`, with the definitions of the other Kubernetes types. -/
def getOpenAPIDefinitions (kubernetes : OpenAPISpec) : OpenAPISpec :=
  [(mxJobName, mxJobSchema), (mxJobConditionName, mxJobConditionSchema),
    (mxJobListName, mxJobListSchema), (mxJobSpecName, mxJobSpecSchema),
    (mxJobStatusName, mxJobStatusSchema), (mxReplicaSpecName, mxReplicaSpecSchema),
    (mxReplicaSpecsName, mxReplicaSpecsSchema), (mxReplicaStatusName, mxReplicaStatusSchema),
    (mxReplicaStatusesName, mxReplicaStatusesSchema), (timeName, timeSchema)] ++ kubernetes

/-- A definition has a higher rank than those it mentions. -/
def groupRank (name : String) : Nat :=
  if name = mxJobListName then 5
  else if name = mxJobName then 4
  else if name = mxJobSpecName ∨ name = mxJobStatusName then 3
  else if name = mxReplicaSpecsName ∨ name = mxReplicaStatusesName then 2
  else if name = mxReplicaSpecName ∨ name = mxReplicaStatusName ∨ name = mxJobConditionName then 1
  else 0

section Mentions

variable {name description other : String}

theorem mentions_typed_iff {type format : String} :
    Mentions name (typed description type format) ↔ False := by
  simp [typed, mentions_mk_iff, SchemaProps.children, Applicators.children]

theorem mentions_reference_iff :
    Mentions name (reference description other) ↔ other ≠ "" ∧ other = name := by
  simp [reference, mentions_mk_iff, SchemaProps.children, Applicators.children]

theorem mentions_object_iff {type : List String} {keywords : Keywords}
    {properties : List (String × Schema)} :
    Mentions name (.mk { type, keywords, applicators := { properties } }) ↔
      ∃ schema ∈ properties.map Prod.snd, Mentions name schema := by
  simp [mentions_mk_iff, SchemaProps.children, Applicators.children]

theorem mentions_listOf_iff :
    Mentions name (listOf description other) ↔ other ≠ "" ∧ other = name := by
  simp [listOf, mentions_mk_iff, mentions_reference_iff, SchemaProps.children,
    Applicators.children, SchemaOrArray.children]

end Mentions

/-- Definitions of Kubernetes types: each mentions definitions of lower rank only,
and none mentions the group. -/
structure KubernetesDefinitions where
  openapiSpec : OpenAPISpec
  rank : String → Nat
  apart : ∀ entry ∈ openapiSpec, groupRank entry.1 = 0
  descends : ∀ entry ∈ openapiSpec, ∀ other, Mentions other entry.2 →
    groupRank other = 0 ∧ rank other < rank entry.1

namespace KubernetesDefinitions

variable (kubernetes : KubernetesDefinitions) {name other : String}

/-- Exceeds the ranks of the Kubernetes types that the group mentions. -/
def ceiling : Nat :=
  kubernetes.rank objectMetaName + kubernetes.rank listMetaName +
    kubernetes.rank podTemplateSpecName + kubernetes.rank timeName

def jointRank (name : String) : Nat :=
  if groupRank name = 0 then kubernetes.rank name else kubernetes.ceiling + groupRank name

theorem jointRank_lt (lower : groupRank other < groupRank name)
    (below : groupRank other = 0 → kubernetes.rank other ≤ kubernetes.ceiling) :
    kubernetes.jointRank other < kubernetes.jointRank name := by
  rw [jointRank, jointRank, if_neg (Nat.ne_zero_of_lt lower)]
  split
  · rename_i isKubernetes
    have bound := below isKubernetes
    omega
  · omega

theorem jointRank_group (isGroup : groupRank other ≠ 0) (lower : groupRank other < groupRank name) :
    kubernetes.jointRank other < kubernetes.jointRank name :=
  kubernetes.jointRank_lt lower fun isKubernetes => absurd isKubernetes isGroup

theorem group_acyclic : WellFounded (Uses (getOpenAPIDefinitions kubernetes.openapiSpec)) := by
  apply acyclic_of_rank kubernetes.jointRank
  intro entry member other
  rcases List.mem_append.mp member with inGroup | inKubernetes
  · have objectMeta : kubernetes.rank objectMetaName ≤ kubernetes.ceiling := by
      unfold ceiling
      omega
    have listMeta : kubernetes.rank listMetaName ≤ kubernetes.ceiling := by
      unfold ceiling
      omega
    have podTemplateSpec : kubernetes.rank podTemplateSpecName ≤ kubernetes.ceiling := by
      unfold ceiling
      omega
    have time : kubernetes.rank timeName ≤ kubernetes.ceiling := by
      unfold ceiling
      omega
    simp only [List.mem_cons, List.not_mem_nil, or_false] at inGroup
    rcases inGroup with rfl | rfl | rfl | rfl | rfl | rfl | rfl | rfl | rfl | rfl
    all_goals
      simp [mxJobSchema, mxJobConditionSchema, mxJobListSchema, mxJobSpecSchema, mxJobStatusSchema,
        mxReplicaSpecSchema, mxReplicaSpecsSchema, mxReplicaStatusSchema, mxReplicaStatusesSchema,
        timeSchema, typeMetaProperties, mentions_object_iff, mentions_listOf_iff,
        mentions_typed_iff, mentions_reference_iff]
    · rintro (⟨_, rfl⟩ | ⟨_, rfl⟩ | ⟨_, rfl⟩)
      · exact kubernetes.jointRank_lt (by decide) fun _ => objectMeta
      · exact kubernetes.jointRank_group (by decide) (by decide)
      · exact kubernetes.jointRank_group (by decide) (by decide)
    · rintro _ rfl
      exact kubernetes.jointRank_lt (by decide) fun _ => time
    · rintro (⟨_, rfl⟩ | ⟨_, rfl⟩)
      · exact kubernetes.jointRank_lt (by decide) fun _ => listMeta
      · exact kubernetes.jointRank_group (by decide) (by decide)
    · rintro _ rfl
      exact kubernetes.jointRank_group (by decide) (by decide)
    · rintro (⟨_, rfl⟩ | ⟨_, rfl⟩ | ⟨_, rfl⟩)
      · exact kubernetes.jointRank_group (by decide) (by decide)
      · exact kubernetes.jointRank_lt (by decide) fun _ => time
      · exact kubernetes.jointRank_group (by decide) (by decide)
    · rintro _ rfl
      exact kubernetes.jointRank_lt (by decide) fun _ => podTemplateSpec
    · rintro _ rfl
      exact kubernetes.jointRank_group (by decide) (by decide)
    · rintro _ rfl
      exact kubernetes.jointRank_group (by decide) (by decide)
  · intro mentions
    obtain ⟨isKubernetes, lower⟩ := kubernetes.descends entry inKubernetes other mentions
    rwa [jointRank, jointRank, if_pos isKubernetes, if_pos (kubernetes.apart entry inKubernetes)]

/-- All definitions the generator is called with. -/
def definitions : Definitions where
  openapiSpec := getOpenAPIDefinitions kubernetes.openapiSpec
  acyclic := kubernetes.group_acyclic

end KubernetesDefinitions

/-- Without definitions of Kubernetes types, whatever refers to them is free. -/
def noKubernetes : KubernetesDefinitions where
  openapiSpec := []
  rank _ := 0
  apart := by simp
  descends := by simp

/-- `crdName` of the generator. -/
def crdName : String := mxJobName

end MXNetOperator.Crd
