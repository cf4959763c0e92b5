import MXNetOperator.Crd.Status
import MXNetOperator.Property.Generation
import MXNetOperator.Property.StatusHistory

/-!
Contract: the operator's statuses pass the generated validation.

The schema that the generator writes for the `status` of an `MXJob` is equivalent
to the definitions: nothing of them is lost there.  It requires the list of
conditions, which is `null` in a status without conditions.  A Sync never stores
such a status.
-/

namespace MXNetOperator.Property

open MXNetOperator.Kube MXNetOperator.Api MXNetOperator.Interaction
open MXNetOperator.JsonSchema MXNetOperator.Crd
open MXNetOperator.Mx MXNetOperator.Cluster

/-! ### Nothing is lost -/

theorem status_lossless {dialect : Dialect} {sprint : Json → String} {description : String}
    (kubernetes : KubernetesDefinitions) :
    Lossless dialect sprint kubernetes.known.openapiSpec
      (reference description mxJobStatusName) := by
  have count : ∀ description, Lossless dialect sprint kubernetes.known.openapiSpec
      (typed description "integer" "int32") := fun _ => lossless_typed (by decide)
  have text : ∀ description, Lossless dialect sprint kubernetes.known.openapiSpec
      (typed description "string" "") := fun _ => lossless_typed (by decide)
  have time : ∀ description, Lossless dialect sprint kubernetes.known.openapiSpec
      (reference description timeName) :=
    fun _ => lossless_reference (by decide) (lossless_typed (by decide))
  have replicaStatus : ∀ description, Lossless dialect sprint kubernetes.known.openapiSpec
      (reference description mxReplicaStatusName) := by
    refine fun _ => lossless_reference (by decide) (lossless_object ?_)
    simp [count]
  have replicaStatuses : ∀ description, Lossless dialect sprint kubernetes.known.openapiSpec
      (reference description mxReplicaStatusesName) := by
    refine fun _ => lossless_reference (by decide) (lossless_object ?_)
    simp [replicaStatus]
  have condition : ∀ description, Lossless dialect sprint kubernetes.known.openapiSpec
      (reference description mxJobConditionName) := by
    refine fun _ => lossless_reference (by decide) (lossless_object ?_)
    simp [text, time]
  refine lossless_reference (by decide) (lossless_object ?_)
  simp [replicaStatuses, time, lossless_listOf (condition _)]

/-! ### The schema of the status -/

section Status

variable {kubernetes : KubernetesDefinitions} {dialect : Dialect} {sprint : Json → String}
  {rfc3339 : Time → String} {depth : Nat} {props : JSONSchemaProps}
  (generated : getCustomResourceValidation sprint crdName
    (getOpenAPIDefinitions kubernetes.openapiSpec) depth = some props)
include generated

theorem status_converted {statusProps : JSONSchemaProps}
    (isStatus : ("status", statusProps) ∈ props.fields.applicators.properties) :
    ∃ below, schemaPropsToJSONProps sprint kubernetes.known.openapiSpec true below
      (reference "" mxJobStatusName) = some statusProps := by
  cases depth with
  | zero => cases generated
  | succ below =>
      obtain ⟨applicators, shape, rfl⟩ := (convert_plain_iff rfl).mp generated
      obtain ⟨entry, isEntry, sameName, converts⟩ := mem_of_forall₂ shape.properties _ isStatus
      have distinct : (mxJobSchema.props.applicators.properties.map Prod.fst).Nodup := by decide
      have found := lookup_of_mem distinct entry isEntry
      rw [sameName] at found
      have isReference : reference "" mxJobStatusName = entry.2 := Option.some.inj found
      rw [← isReference] at converts
      exact ⟨below, converts⟩

theorem exists_status :
    ∃ statusProps, ("status", statusProps) ∈ props.fields.applicators.properties := by
  cases depth with
  | zero => cases generated
  | succ below =>
      obtain ⟨applicators, shape, rfl⟩ := (convert_plain_iff rfl).mp generated
      obtain ⟨⟨name, statusProps⟩, isEntry, sameName, _⟩ := mem_of_forall₂ shape.swap.properties
        ("status", reference "" mxJobStatusName)
        (show _ ∈ mxJobSchema.props.applicators.properties by simp [mxJobSchema])
      cases sameName
      exact ⟨statusProps, isEntry⟩

/-- The generated schema admits the JSON of a status if and only if the status
has a condition. -/
theorem statusProps_valid_iff {statusProps : JSONSchemaProps}
    (isStatus : ("status", statusProps) ∈ props.fields.applicators.properties)
    (formats : KnowsFormats dialect rfc3339) (status : MXJobStatus) :
    statusProps.Valid dialect (encodeStatus rfc3339 status) ↔ status.conditions ≠ [] := by
  obtain ⟨below, converts⟩ := status_converted generated isStatus
  rw [converted_equivalent converts (status_lossless kubernetes)]
  exact status_valid_iff formats status

end Status

/-! ### The statuses that are sent -/

/-- A status is the one the job was created with, or a Sync has been through it. -/
def Touched (status : MXJobStatus) : Prop :=
  status = .empty ∨ isInitialized status = true

theorem conditions_of_initialized {status : MXJobStatus} (marked : isInitialized status = true) :
    status.conditions ≠ [] := by
  intro none
  simp [isInitialized, checkCondition, getCondition, none] at marked

theorem Touched.conditions_iff {status : MXJobStatus} (touched : Touched status) :
    status.conditions ≠ [] ↔ status ≠ .empty := by
  constructor
  · rintro some rfl
    exact some rfl
  · intro changed
    exact conditions_of_initialized (touched.resolve_left changed)

/-- Over a run: every stored status and every status in an update is touched, and
a Sync sends initialized ones only. -/
structure Sends (state : State) : Prop where
  versions : ∀ version ∈ state.world.versions, Touched version.status
  log : ∀ call ∈ state.log, ∀ job, call.request = .updateMXJob job → Touched job.status
  worker : ∀ call ∈ state.worker.trace, ∀ job, call.request = .updateMXJob job →
    isInitialized job.status = true

section Steps

variable {mxjob : MXJob} {state next : State} {action : Action}

theorem Sends.versions_step (sends : Sends state) (stepped : JobStep state action next) :
    ∀ version ∈ next.world.versions, Touched version.status := by
  have current := sends.versions state.world.job List.mem_cons_self
  have grown : Touched next.world.job.status := by
    cases stepped with
    | kept job older => rwa [job]
    | synced outcome after pods _ _ concluded _ stored =>
        rw [stored]
        exact Or.inr concluded.initialized
    | cleared index outcome thread _ isCurrent _ _ stored =>
        rw [stored]
        rw [← isCurrent] at current
        exact current
    | edited move edited => rwa [edited.status]
  intro version member
  rcases stepped.mem_versions member with rfl | older
  · exact grown
  · exact sends.versions version older

theorem Sends.step (sends : Sends state) (consistent : Consistent mxjob state)
    (stepped : Stepped state action next) : Sends next := by
  refine ⟨sends.versions_step (job_step consistent stepped), ?_, ?_⟩
  · cases stepped with
    | work outcome worker call issued pending reply input trace =>
        intro entry member job isUpdate
        rcases List.mem_append.mp member with earlier | isNew
        · exact sends.log entry earlier job isUpdate
        · rw [List.mem_singleton.mp isNew] at isUpdate
          rw [isUpdate] at issued
          obtain ⟨_, pods, concluded, _⟩ := sync_update issued
          exact Or.inr concluded.initialized
    | finalize index outcome thread changed call found issued reply input trace =>
        intro entry member job isUpdate
        rcases List.mem_append.mp member with earlier | isNew
        · exact sends.log entry earlier job isUpdate
        · rw [List.mem_singleton.mp isNew] at isUpdate
          rw [isUpdate] at issued
          have stored := consistent.goroutines thread (List.mem_of_getElem? found)
          generalize thread.trace = done at issued
          cases finalizer_issues issued with
          | storing _ _ _ => exact sends.versions thread.input.object stored
    | _ => exact sends.log
  · cases stepped with
    | deliver age deleted object stopped found => exact fun _ member => by cases member
    | restart => exact fun _ member => by cases member
    | work outcome worker call issued pending reply input trace =>
        intro entry member job isUpdate
        rw [trace] at member
        rcases List.mem_append.mp member with earlier | isNew
        · exact sends.worker entry earlier job isUpdate
        · rw [List.mem_singleton.mp isNew] at isUpdate
          rw [isUpdate] at issued
          obtain ⟨_, pods, concluded, _⟩ := sync_update issued
          exact concluded.initialized
    | _ => exact sends.worker

end Steps

theorem run_sends {allowed : State → Action → Prop} {mxjob : MXJob} {pods : List Pod}
    {services : List Service} {nextUID : UID} {past : List State} {state : State}
    (fresh : mxjob.status = .empty)
    (run : Run step allowed (State.initial mxjob pods services nextUID) past state) :
    Sends state := by
  refine run.historyInvariant (fun _ current => Sends current) ?_ ?_
  · refine ⟨fun version member => ?_, (fun _ member => by cases member),
      (fun _ member => by cases member)⟩
    rw [List.mem_singleton.mp member]
    exact Or.inl fresh
  · intro past current action reached sends _
    exact sends.step (run_consistent reached) (step_stepped current action)

/-- In every run of a job created with an empty status, the generated schema
admits every status that a Sync sends, and of the statuses that finalizer
goroutines send it admits exactly those that are not empty any more. -/
theorem sent_status_admitted {allowed : State → Action → Prop} {mxjob : MXJob} {pods : List Pod}
    {services : List Service} {nextUID : UID} {past : List State} {state : State}
    {kubernetes : KubernetesDefinitions} {dialect : Dialect} {sprint : Json → String}
    {rfc3339 : Time → String} {depth : Nat} {props statusProps : JSONSchemaProps}
    (generated : getCustomResourceValidation sprint crdName
      (getOpenAPIDefinitions kubernetes.openapiSpec) depth = some props)
    (isStatus : ("status", statusProps) ∈ props.fields.applicators.properties)
    (formats : KnowsFormats dialect rfc3339) (fresh : mxjob.status = .empty)
    (run : Run step allowed (State.initial mxjob pods services nextUID) past state) :
    (∀ call ∈ state.worker.trace, ∀ job, call.request = .updateMXJob job →
      statusProps.Valid dialect (encodeStatus rfc3339 job.status)) ∧
    ∀ call ∈ state.log, ∀ job, call.request = .updateMXJob job →
      (statusProps.Valid dialect (encodeStatus rfc3339 job.status) ↔ job.status ≠ .empty) := by
  have sends := run_sends fresh run
  constructor
  · intro call member job isUpdate
    rw [statusProps_valid_iff generated isStatus formats]
    exact conditions_of_initialized (sends.worker call member job isUpdate)
  · intro call member job isUpdate
    rw [statusProps_valid_iff generated isStatus formats]
    exact (sends.log call member job isUpdate).conditions_iff

/-- A job with the finalizer is deleted before its first Sync: the goroutine that
clears the finalizer sends the empty status. -/
def unsyncedJob : MXJob :=
  { sampleJob with finalizers := [finalizerFinishWebhook] }

def clearedUnsynced : List Action :=
  [.move (.deleteJob 7), .deliver 0 false, .work (.success "")] ++
    List.replicate 4 (.finalize 0 (.success ""))

/-- Whether a call is an update with an empty status. -/
def sendsEmpty (call : Call) : Bool :=
  match call.request with
  | .updateMXJob job => job.status == .empty
  | _ => false

theorem sent_status_admitted_clearedUnsynced :
    ∃ props statusProps, getCustomResourceValidation (fun _ => "") crdName
        (getOpenAPIDefinitions []) 12 = some props ∧
      ("status", statusProps) ∈ props.fields.applicators.properties ∧
      ∃ call ∈ (clearedUnsynced.foldl step (State.initial unsyncedJob [] [] 1)).log,
        ∃ job, call.request = .updateMXJob job ∧
          ¬ statusProps.Valid lenient (encodeStatus (fun _ => "") job.status) := by
  obtain ⟨props, generated⟩ := Option.isSome_iff_exists.mp (show (getCustomResourceValidation
    (fun _ => "") crdName (getOpenAPIDefinitions noKubernetes.openapiSpec) 12).isSome = true
    from rfl)
  obtain ⟨statusProps, isStatus⟩ := exists_status generated
  have run : Run step (fun _ _ => True) (State.initial unsyncedJob [] [] 1) _
      (clearedUnsynced.foldl step (State.initial unsyncedJob [] [] 1)) :=
    Run.start.extend (by simp [clearedUnsynced, Run.Permits])
  have sent := (sent_status_admitted generated isStatus
    (⟨fun _ => trivial, fun _ => trivial⟩ : KnowsFormats lenient fun _ => "") rfl run).2
  refine ⟨props, statusProps, generated, isStatus, ?_⟩
  have updates : ∃ call ∈ (clearedUnsynced.foldl step (State.initial unsyncedJob [] [] 1)).log,
      ∃ job, call.request = .updateMXJob job ∧ job.status = .empty := by
    obtain ⟨call, member, isEmpty⟩ := List.any_eq_true.mp (show (clearedUnsynced.foldl step
      (State.initial unsyncedJob [] [] 1)).log.any sendsEmpty = true by decide +kernel)
    unfold sendsEmpty at isEmpty
    split at isEmpty
    · rename_i job isUpdate
      exact ⟨call, member, job, isUpdate, eq_of_beq isEmpty⟩
    · cases isEmpty
  obtain ⟨call, member, job, isUpdate, empty⟩ := updates
  exact ⟨call, member, job, isUpdate, fun valid => (sent call member job isUpdate).mp valid empty⟩

end MXNetOperator.Property
