import MXNetOperator.Cluster.System

/-!
Contract: who writes the job, and when.

Owns `Consistent`, the bookkeeping invariant of every run: stored versions have
decreasing resource versions and one identity, and every goroutine works on one
of them.  With it, `job_step` says what a new version can be: a Sync or a
finalizer goroutine gets its update through only if it was handed the current
version.
-/

namespace MXNetOperator.Cluster

open MXNetOperator.Kube MXNetOperator.Api MXNetOperator.Interaction MXNetOperator.Mx

/-! ### Identity -/

/-- Two versions of one object. -/
structure SameObject (first second : MXJob) : Prop where
  uid : second.uid = first.uid
  name : second.name = first.name
  ns : second.ns = first.ns

theorem SameObject.refl (mxjob : MXJob) : SameObject mxjob mxjob := ⟨rfl, rfl, rfl⟩

theorem SameObject.trans {first second third : MXJob} (left : SameObject first second)
    (right : SameObject second third) : SameObject first third :=
  ⟨right.uid.trans left.uid, right.name.trans left.name, right.ns.trans left.ns⟩

theorem SameObject.of_meta {first second : MXJob}
    (same : first.toObjectMeta = second.toObjectMeta) : SameObject first second :=
  ⟨by rw [same], by rw [same], by rw [same]⟩

section Identity

variable {first second : MXJob} (same : SameObject first second)

include same

theorem SameObject.selects_eq (labels : Labels) : selects second labels = selects first labels := by
  simp only [selects, genLabels, same.name]

theorem SameObject.manages_eq (object : ObjectMeta) :
    manages second object = manages first object := by
  simp only [manages, same.selects_eq, same.uid]

theorem SameObject.newControllerRef_eq : newControllerRef second = newControllerRef first := by
  simp only [newControllerRef, same.name, same.uid]

theorem SameObject.carriesLabels {rtype : MXReplicaType} {labels : Labels} :
    CarriesLabels second rtype labels ↔ CarriesLabels first rtype labels := by
  simp only [CarriesLabels, genLabels, same.name]

theorem SameObject.isNewPod {rtype : MXReplicaType} {pod : PodRequest}
    (isNew : IsNewPod second rtype pod) : IsNewPod first rtype pod :=
  ⟨same.carriesLabels.mp isNew.labelled, by rw [isNew.owned, same.newControllerRef_eq]⟩

end Identity

/-! ### The bookkeeping invariant -/

/-- The stored versions are those of one object, newest first. -/
structure Versioned (mxjob : MXJob) (world : World) : Prop where
  ordered : world.versions.Pairwise fun newer older =>
    older.resourceVersion < newer.resourceVersion
  identity : ∀ version ∈ world.versions, SameObject mxjob version

structure Consistent (mxjob : MXJob) (state : State) : Prop extends
    Versioned mxjob state.world where
  worker : state.worker.input.object ∈ state.world.versions
  goroutines : ∀ thread ∈ state.goroutines, thread.input.object ∈ state.world.versions

section Consistency

variable {mxjob : MXJob} {state next : State} {action : Action}

theorem consistent_initial (mxjob : MXJob) (pods : List Pod) (services : List Service)
    (nextUID : UID) : Consistent mxjob (State.initial mxjob pods services nextUID) where
  ordered := List.pairwise_singleton _ _
  identity := by
    intro version member
    rw [List.mem_singleton.mp member]
    exact SameObject.refl mxjob
  worker := List.mem_singleton.mpr rfl
  goroutines := by simp [State.initial]

theorem Versioned.current_of_mem {world : World} (versioned : Versioned mxjob world) :
    SameObject mxjob world.job :=
  versioned.identity world.job List.mem_cons_self

/-- Whoever holds the current resource version holds the current job. -/
theorem Consistent.current (consistent : Consistent mxjob state) {object : MXJob}
    (stored : object ∈ state.world.versions)
    (sameVersion : object.resourceVersion = state.world.job.resourceVersion) :
    object = state.world.job := by
  have ordered := consistent.ordered
  rw [World.versions, List.pairwise_cons] at ordered
  rcases List.mem_cons.mp stored with same | older
  · exact same
  · have below := ordered.1 object older
    omega

/-! ### What a step can do to the job -/

/-- What a move can do to the stored job: nothing, or a new version with the
status of the one before. -/
structure Edited (move : Move) (world after : World) : Prop where
  older : after.older = world.versions
  revision : after.job.resourceVersion = world.job.resourceVersion + 1
  identity : SameObject world.job after.job
  status : after.job.status = world.job.status
  spec : after.job.spec = world.job.spec ∨ ∃ spec, move = .editSpec spec
  finalizers : after.job.finalizers = world.job.finalizers ∨
    (move = .editFinalizers after.job.finalizers ∧
      (world.job.deletionTimestamp = none ∨ after.job.finalizers ⊆ world.job.finalizers))
  deleting : world.job.deletionTimestamp.isSome = true →
    after.job.deletionTimestamp.isSome = true

/-- What a step can do to the stored job. -/
inductive JobStep (state : State) : Action → State → Prop where
  | kept {action : Action} {next : State} (job : next.world.job = state.world.job)
      (older : next.world.older = state.world.older) : JobStep state action next
  | synced (outcome : Outcome) {next : State} (after : MXJob) (pods : List Pod)
      (reconcilable : Reconcilable state.worker.input)
      (current : state.worker.input.object = state.world.job)
      (concluded : Concluded state.world.job pods after state.worker.trace)
      (present : state.world.present = true)
      (stored : next.world = state.world.store after) (reply : Option ApiError)
      (trace : next.worker.trace = state.worker.trace ++ [⟨.updateMXJob after, reply⟩])
      (log : state.log ⊆ next.log) : JobStep state (.work outcome) next
  | cleared (index : Nat) (outcome : Outcome) {next : State} (thread : Thread finalizer)
      (found : thread ∈ state.goroutines) (current : thread.input.object = state.world.job)
      (notified : isJobFinished state.world.job.status = false →
        (⟨.callHookAsync state.world.job false, ()⟩ : Call) ∈ thread.trace)
      (present : state.world.present = true)
      (stored : next.world = state.world.store thread.input.cleared) :
      JobStep state (.finalize index outcome) next
  | edited (move : Move) {next : State} (edited : Edited move state.world next.world) :
      JobStep state (.move move) next

theorem move_job (world : World) (move : Move) :
    ((world.move move).job = world.job ∧ (world.move move).older = world.older) ∨
      Edited move world (world.move move) := by
  cases move with
  | podCreate pod =>
      left
      simp only [World.move]
      split <;> exact ⟨rfl, rfl⟩
  | serviceCreate service =>
      left
      simp only [World.move]
      split <;> exact ⟨rfl, rfl⟩
  | editSpec spec =>
      simp only [World.move]
      split
      · exact Or.inr ⟨rfl, rfl, ⟨rfl, rfl, rfl⟩, rfl, Or.inr ⟨spec, rfl⟩, Or.inl rfl, id⟩
      · exact Or.inl ⟨rfl, rfl⟩
  | editFinalizers finalizers =>
      simp only [World.move]
      split
      · rename_i accepted
        exact Or.inr ⟨rfl, rfl, ⟨rfl, rfl, rfl⟩, rfl, Or.inl rfl, Or.inr ⟨rfl, accepted.2⟩, id⟩
      · exact Or.inl ⟨rfl, rfl⟩
  | deleteJob time =>
      simp only [World.move]
      split
      · exact Or.inl ⟨rfl, rfl⟩
      · split
        · exact Or.inl ⟨rfl, rfl⟩
        · exact Or.inr ⟨rfl, rfl, ⟨rfl, rfl, rfl⟩, rfl, Or.inl rfl, Or.inl rfl, fun _ => rfl⟩
  | _ => exact Or.inl ⟨rfl, rfl⟩

theorem job_step (consistent : Consistent mxjob state) (stepped : Stepped state action next) :
    JobStep state action next := by
  cases stepped with
  | idle => exact .kept rfl rfl
  | deliver => exact .kept rfl rfl
  | restart => exact .kept rfl rfl
  | move move =>
      rcases move_job state.world move with ⟨job, older⟩ | edited
      · exact .kept job older
      · exact .edited move edited
  | work outcome worker call issued pending reply input trace =>
      obtain ⟨request, answer⟩ := call
      have effect := serve_job outcome request state.world
      revert effect
      generalize (serve outcome request state.world).2 = after
      intro effect
      cases effect with
      | untouched job older _ => exact .kept job older
      | stored after present sameVersion =>
          obtain ⟨reconcilable, pods, concluded, _⟩ := sync_update issued
          have current : state.worker.input.object = state.world.job := by
            refine consistent.current consistent.worker ?_
            rw [← sameVersion, concluded.statusOnly.resourceVersion_eq]
          rw [current] at concluded
          exact .synced outcome after pods reconcilable current concluded present rfl answer trace
            (List.subset_append_left _ _)
  | finalize index outcome thread next call found issued reply input trace =>
      obtain ⟨request, answer⟩ := call
      have member : thread ∈ state.goroutines := List.mem_of_getElem? found
      have effect := serve_job outcome request state.world
      revert effect
      generalize (serve outcome request state.world).2 = after
      intro effect
      cases effect with
      | untouched job older _ => exact .kept job older
      | stored after present sameVersion =>
          generalize history : thread.trace = done at issued
          cases finalizer_issues issued with
          | storing _ notified =>
              have current : thread.input.object = state.world.job :=
                consistent.current (consistent.goroutines thread member) sameVersion
              rw [current, ← history] at notified
              exact .cleared index outcome thread member current notified present rfl

/-- A step stores at most one version, in front of the others. -/
theorem JobStep.versions (stepped : JobStep state action next) :
    next.world.versions = state.world.versions ∨
      next.world.versions = next.world.job :: state.world.versions := by
  cases stepped with
  | kept job older => exact Or.inl (by rw [World.versions, job, older, World.versions])
  | synced _ _ _ _ _ _ _ stored => exact Or.inr (by rw [stored]; rfl)
  | cleared _ _ _ _ _ _ _ stored => exact Or.inr (by rw [stored]; rfl)
  | edited _ edited => exact Or.inr (by rw [World.versions, edited.older])

theorem JobStep.versions_subset (stepped : JobStep state action next) :
    state.world.versions ⊆ next.world.versions := by
  rcases stepped.versions with same | extended
  · rw [same]
    exact List.Subset.refl _
  · rw [extended]
    exact List.subset_cons_self _ _

theorem JobStep.mem_versions (stepped : JobStep state action next) {version : MXJob}
    (member : version ∈ next.world.versions) :
    version = next.world.job ∨ version ∈ state.world.versions := by
  rcases stepped.versions with same | extended
  · exact Or.inr (same ▸ member)
  · exact List.mem_cons.mp (extended ▸ member)

/-- A job pending deletion stays so. -/
theorem JobStep.deleting (stepped : JobStep state action next)
    (before : state.world.job.deletionTimestamp.isSome = true) :
    next.world.job.deletionTimestamp.isSome = true := by
  cases stepped with
  | kept job older => rwa [job]
  | synced _ _ _ _ _ _ _ stored => rwa [stored]
  | cleared _ _ _ _ _ _ _ stored => rwa [stored]
  | edited _ edited => exact edited.deleting before

theorem Versioned.extend {world after : World} (versioned : Versioned mxjob world)
    (older : after.older = world.versions)
    (revision : after.job.resourceVersion = world.job.resourceVersion + 1)
    (identity : SameObject world.job after.job) : Versioned mxjob after where
  ordered := by
    have ordered := versioned.ordered
    rw [World.versions, older, List.pairwise_cons]
    refine ⟨fun version member => ?_, ordered⟩
    rw [World.versions, List.pairwise_cons] at ordered
    rcases List.mem_cons.mp member with rfl | earlier
    · omega
    · have below := ordered.1 version earlier
      omega
  identity := by
    intro version member
    rw [World.versions, older] at member
    rcases List.mem_cons.mp member with rfl | earlier
    · exact versioned.current_of_mem.trans identity
    · exact versioned.identity version earlier

theorem JobStep.versioned (stepped : JobStep state action next)
    (versioned : Versioned mxjob state.world) : Versioned mxjob next.world := by
  cases stepped with
  | kept job older =>
      refine ⟨?_, ?_⟩ <;> rw [World.versions, job, older]
      · exact versioned.ordered
      · exact versioned.identity
  | synced _ after _ _ _ concluded _ stored =>
      rw [stored]
      have same := SameObject.of_meta concluded.statusOnly.meta_eq
      exact versioned.extend rfl rfl ⟨same.uid, same.name, same.ns⟩
  | cleared _ _ thread _ current _ _ stored =>
      rw [stored]
      refine versioned.extend rfl rfl ?_
      rw [← current]
      exact ⟨rfl, rfl, rfl⟩
  | edited _ edited => exact versioned.extend edited.older edited.revision edited.identity

/-- Every step keeps the books. -/
theorem Consistent.step (consistent : Consistent mxjob state)
    (stepped : Stepped state action next) : Consistent mxjob next := by
  have jobStep := job_step consistent stepped
  have kept := jobStep.versions_subset
  refine ⟨jobStep.versioned consistent.toVersioned, ?_, ?_⟩
  · cases stepped with
    | deliver age deleted object stopped found => exact List.mem_of_getElem? found
    | restart => exact List.mem_cons_self
    | work outcome worker call issued pending reply input trace =>
        simp only [input]
        exact kept consistent.worker
    | _ => exact kept consistent.worker
  · intro thread member
    cases stepped with
    | restart => cases member
    | work outcome worker call issued pending reply input trace =>
        obtain ⟨request, answer⟩ := call
        rcases List.mem_append.mp member with earlier | fresh
        · exact kept (consistent.goroutines thread earlier)
        · cases request with
          | spawnFinalizer object index =>
              rw [List.mem_singleton.mp fresh]
              generalize history : state.worker.trace = done at issued
              cases sync_issues issued with
              | finalizing => exact kept consistent.worker
              | reconciling _ readings back clock job created inner =>
                  cases reconcileMXJobs_issues inner with
                  | evaluating evaluating => cases evaluate_serves evaluating
                  | terminating pods marked evaluation now marks finished shape =>
                      rcases shape with same | ⟨pod, _, same⟩ <;> cases same
          | _ => cases fresh
    | finalize index outcome old changed call found issued reply input trace =>
        rcases List.mem_or_eq_of_mem_set member with earlier | rfl
        · exact kept (consistent.goroutines thread earlier)
        · rw [input]
          exact kept (consistent.goroutines old (List.mem_of_getElem? found))
    | _ => exact kept (consistent.goroutines thread member)

theorem run_consistent {allowed : State → Action → Prop} {past : List State}
    {pods : List Pod} {services : List Service} {nextUID : UID}
    (run : Run step allowed (State.initial mxjob pods services nextUID) past state) :
    Consistent mxjob state :=
  run.invariant (Consistent mxjob) (consistent_initial mxjob pods services nextUID)
    fun current action consistent _ => consistent.step (step_stepped current action)

/-- Once a version is pending deletion, the stored one is. -/
theorem run_deleting {allowed : State → Action → Prop} {past : List State} {pods : List Pod}
    {services : List Service} {nextUID : UID}
    (run : Run step allowed (State.initial mxjob pods services nextUID) past state) :
    ∀ version ∈ state.world.versions, version.deletionTimestamp.isSome = true →
      state.world.job.deletionTimestamp.isSome = true := by
  refine run.historyInvariant (fun _ current => ∀ version ∈ current.world.versions,
    version.deletionTimestamp.isSome = true →
      current.world.job.deletionTimestamp.isSome = true) ?_ ?_
  · intro version member deleting
    rwa [List.mem_singleton.mp member] at deleting
  · intro past current action reached known _ version member deleting
    have jobStep := job_step (run_consistent reached) (step_stepped current action)
    rcases jobStep.mem_versions member with rfl | older
    · exact deleting
    · exact jobStep.deleting (known version older deleting)

/-- Nobody edits the specification. -/
def keepsSpec : Action → Bool
  | .move (.editSpec _) => false
  | _ => true

/-- Unless somebody edits it, every version has the specification of the first. -/
theorem run_spec {allowed : State → Action → Prop} {past : List State} {pods : List Pod}
    {services : List Service} {nextUID : UID}
    (unedited : ∀ current action, allowed current action → keepsSpec action = true)
    (run : Run step allowed (State.initial mxjob pods services nextUID) past state) :
    ∀ version ∈ state.world.versions, version.spec = mxjob.spec := by
  refine run.historyInvariant
    (fun _ current => ∀ version ∈ current.world.versions, version.spec = mxjob.spec) ?_ ?_
  · intro version member
    rw [List.mem_singleton.mp member]
    rfl
  · intro earlier current action reached known permitted
    have stepped := job_step (run_consistent reached) (step_stepped current action)
    have sameSpec : (step current action).world.job.spec = current.world.job.spec := by
      cases stepped with
      | kept job _ => rw [job]
      | synced outcome after pods _ _ concluded _ stored =>
          rw [stored]
          exact concluded.statusOnly.spec_eq
      | cleared index outcome thread _ isCurrent _ _ stored =>
          rw [stored, ← isCurrent]
          rfl
      | edited move edited =>
          rcases edited.spec with same | ⟨spec, rfl⟩
          · exact same
          · cases unedited current _ permitted
    intro version member
    rcases stepped.mem_versions member with rfl | older
    · exact sameSpec.trans (known _ List.mem_cons_self)
    · exact known version older

/-- The status changes only through a Sync that reaches its update. -/
theorem JobStep.status_cases (stepped : JobStep state action next) :
    next.world.job.status = state.world.job.status ∨
      ∃ after reply, next.worker.trace = state.worker.trace ++ [⟨.updateMXJob after, reply⟩] := by
  cases stepped with
  | kept job older => exact Or.inl (by rw [job])
  | synced outcome after pods _ _ _ _ _ reply trace => exact Or.inr ⟨after, reply, trace⟩
  | cleared index outcome thread _ current _ _ stored =>
      left
      rw [stored, ← current]
      rfl
  | edited move edited => exact Or.inl edited.status

/-- Whether the status marks the job as initialized. -/
def isInitialized (status : MXJobStatus) : Bool :=
  checkCondition status .initialized

theorem JobStep.initialized_kept (stepped : JobStep state action next)
    (before : isInitialized state.world.job.status = true) :
    isInitialized next.world.job.status = true := by
  cases stepped with
  | kept job older => exact job ▸ before
  | synced outcome after pods _ _ concluded _ stored =>
      rw [stored]
      exact concluded.initialized
  | cleared index outcome thread _ current _ _ stored =>
      rw [stored]
      rw [← current] at before
      exact before
  | edited move edited =>
      rw [edited.status]
      exact before

/-- Once some version is initialized, the current one is. -/
theorem run_initialized {allowed : State → Action → Prop} {past : List State} {pods : List Pod}
    {services : List Service} {nextUID : UID}
    (run : Run step allowed (State.initial mxjob pods services nextUID) past state) :
    ∀ version ∈ state.world.versions, isInitialized version.status = true →
      isInitialized state.world.job.status = true := by
  refine run.historyInvariant (fun _ current => ∀ version ∈ current.world.versions,
    isInitialized version.status = true → isInitialized current.world.job.status = true) ?_ ?_
  · intro version member marked
    rw [List.mem_singleton.mp member] at marked
    exact marked
  · intro past current action reached known _ version member marked
    have stepped := job_step (run_consistent reached) (step_stepped current action)
    rcases stepped.mem_versions member with rfl | older
    · exact marked
    · exact stepped.initialized_kept (known version older marked)

/-! ### What the worker was told -/

/-- Once the stored status is marked, an idle worker is handed marked versions
only. -/
def InformedDelivery (marked : MXJobStatus → Bool) (state : State) : Action → Prop
  | .deliver age _ => marked state.world.job.status = true →
      (state.world.versions[age]?).all (fun version => marked version.status) = true
  | _ => True

instance (marked : MXJobStatus → Bool) (state : State) :
    (action : Action) → Decidable (InformedDelivery marked state action)
  | .deliver _ _ => inferInstanceAs (Decidable (_ → _))
  | .work _ => inferInstanceAs (Decidable True)
  | .finalize _ _ => inferInstanceAs (Decidable True)
  | .restart => inferInstanceAs (Decidable True)
  | .move _ => inferInstanceAs (Decidable True)

/-- The Sync under way was handed a marked version, or it is over. -/
def Informed (marked : MXJobStatus → Bool) (state : State) : Prop :=
  marked state.worker.input.object.status = true ∨ state.worker.input.deleted = true ∨
    ∃ after reply, (⟨.updateMXJob after, reply⟩ : Call) ∈ state.worker.trace

theorem Informed.step {marked : MXJobStatus → Bool}
    (informed : marked state.world.job.status = true → Informed marked state)
    (permitted : InformedDelivery marked state action) (jobStep : JobStep state action next)
    (stepped : Stepped state action next) (now : marked next.world.job.status = true) :
    Informed marked next := by
  rcases jobStep.status_cases with same | ⟨after, reply, trace⟩
  · rw [same] at now
    cases stepped with
    | deliver age deleted object stopped found =>
        have handed := permitted now
        rw [found, Option.all_some] at handed
        exact Or.inl handed
    | restart => exact Or.inr (Or.inl rfl)
    | work outcome worker call issued pending reply input trace =>
        rcases informed now with handed | gone | ⟨after, sent, member⟩
        · exact Or.inl (input ▸ handed)
        · exact Or.inr (Or.inl (input ▸ gone))
        · exact Or.inr (Or.inr ⟨after, sent, by simp [trace, member]⟩)
    | _ => exact informed now
  · exact Or.inr (Or.inr ⟨after, reply, by simp [trace]⟩)

theorem run_informed {marked : MXJobStatus → Bool} {allowed : State → Action → Prop}
    {past : List State} {pods : List Pod} {services : List Service} {nextUID : UID}
    (informs : ∀ current action, allowed current action → InformedDelivery marked current action)
    (run : Run step allowed (State.initial mxjob pods services nextUID) past state) :
    marked state.world.job.status = true → Informed marked state := by
  refine run.historyInvariant
    (fun _ current => marked current.world.job.status = true → Informed marked current) ?_ ?_
  · exact fun _ => Or.inr (Or.inl rfl)
  · intro past current action reached informed permitted
    have stepped := step_stepped current action
    exact Informed.step informed (informs current action permitted)
      (job_step (run_consistent reached) stepped) stepped

/-- A Sync that is told what rules out a creation creates nothing. -/
theorem Informed.creates_none {marked : MXJobStatus → Bool} (informed : Informed marked state)
    (refuses : ∀ event claimed rtype, Reconcilable event → marked event.object.status = true →
      podsNeeded event.object claimed rtype = 0) (pod : PodRequest) :
    ¬ (sync state.worker.input).Issues state.worker.trace (.createPod pod) := by
  intro issued
  obtain ⟨reconcilable, _, claimed, rtype, _, _, below⟩ := sync_createPod issued
  rcases informed with handed | gone | ⟨after, reply, member⟩
  · rw [refuses _ claimed rtype reconcilable handed] at below
    exact Nat.not_lt_zero _ below
  · rw [reconcilable.present] at gone
    cases gone
  · exact sync_unstored issued _ member after rfl

end Consistency

end MXNetOperator.Cluster
