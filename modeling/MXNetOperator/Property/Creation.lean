import MXNetOperator.Cluster.Owned

/-!
Contract: how many pods the operator makes.

No retry, stale version or partial failure brings a replica type above its
replica count, and once a Sync is handed an initialized job no pod is made any
more.
-/

namespace MXNetOperator.Property

open MXNetOperator.Kube MXNetOperator.Api MXNetOperator.Interaction MXNetOperator.Mx
  MXNetOperator.Cluster

/-! ### No more pods than replicas -/

/-- Nobody edits the specification or the labels, and nobody else makes pods
with the job's labels. -/
def Unedited (mxjob : MXJob) (_ : State) (action : Action) : Prop :=
  undisturbed mxjob action = true ∧ keepsSpec action = true

instance (mxjob : MXJob) (state : State) (action : Action) :
    Decidable (Unedited mxjob state action) :=
  inferInstanceAs (Decidable (_ ∧ _))

/-- No over-creation.  In a cluster where only the operator makes pods with the
job's labels, and as long as neither the specification nor labels are edited,
the pods of a type that the job controls never outnumber its replicas. -/
theorem pods_within_replicas {mxjob : MXJob} {pods : List Pod} {services : List Service}
    {nextUID : UID} {past : List State} {state : State} {rtype : MXReplicaType}
    {replicas : Int32} (distinct : Distinct (State.initial mxjob pods services nextUID).world)
    (unselected : ∀ pod ∈ pods, selects mxjob pod.labels = false)
    (given : replicasOf mxjob rtype = some replicas)
    (run : Run step (Unedited mxjob) (State.initial mxjob pods services nextUID) past state) :
    ((filterPodsForMXReplicaType (ownPods mxjob state.world.pods) rtype).length : Int) ≤
      max replicas.toInt 0 := by
  have setting : Setting mxjob pods services nextUID (Unedited mxjob) :=
    ⟨fun _ _ permitted => permitted.1, distinct, unselected⟩
  rw [(run_owned setting run).1.length_ownPods]
  exact (run_count setting (fun _ _ permitted => permitted.2) given run).1

/-- After the first Sync of `sampleJob` its worker is removed, and the next Sync
is handed the version from before the first. -/
def staleSync : List Action :=
  firstSync ++ .move (.podRemove 4) :: .deliver 1 false ::
    calls ["", "", "", "", "", "", "", "", "worker-2", "", "", "", ""]

theorem run_staleSync : Run step (Unedited sampleJob) sampleStart
    (Run.passed step [] sampleStart staleSync) (staleSync.foldl step sampleStart) :=
  Run.start.extend (by decide +kernel)

theorem pods_within_replicas_staleSync :
    (filterPodsForMXReplicaType (ownPods sampleJob (staleSync.foldl step sampleStart).world.pods)
      .worker).length = 1 ∧
    ((filterPodsForMXReplicaType (ownPods sampleJob (staleSync.foldl step sampleStart).world.pods)
      .worker).length : Int) ≤ max (1 : Int32).toInt 0 :=
  ⟨by decide +kernel,
    pods_within_replicas (distinct_empty sampleJob [] 1) (fun _ member => nomatch member)
      (by decide +kernel) run_staleSync⟩

/-! ### No pod after initialization -/

section Initialized

theorem podsNeeded_of_initialized {object : MXJob} {claimed : List Pod} {rtype : MXReplicaType}
    (marked : isInitialized object.status = true) : podsNeeded object claimed rtype = 0 := by
  unfold podsNeeded
  cases replicasOf object rtype with
  | none => rfl
  | some replicas =>
      refine Nat.eq_zero_of_not_pos fun needed => ?_
      rw [Option.elim_some, neededPods_pos_iff] at needed
      exact absurd (marked.symm.trans needed.2) (by simp)

/-- A Sync of an initialized job that lists too few pods of a type ends with a
verdict, unless it ends with an error. -/
theorem short_listing {event : Event} {trace : List Call} (reconcilable : Reconcilable event)
    (marked : isInitialized event.object.status = true) (returned : (sync event).Returns trace ()) :
    ∃ claimed, Listed event.object claimed trace ∧ ∀ rtype replicas,
      replicasOf event.object rtype = some replicas →
      ((filterPodsForMXReplicaType claimed rtype).length : Int) < replicas.toInt →
        ∃ after, (⟨.updateMXJob after, none⟩ : Call) ∈ trace ∧
          (∀ pod ∈ filterActivePods claimed, (⟨.deletePod pod.name, none⟩ : Call) ∈ trace) ∧
          (AllSucceeded event.object claimed → checkCondition after.status .succeeded = true) ∧
          (¬ AllSucceeded event.object claimed → checkCondition after.status .failed = true) := by
  obtain ⟨claimed, job, after, front, created, conclusion, _, rfl⟩ :=
    sync_completes reconcilable returned
  have concluded : Concluded event.object claimed after front := ⟨job, created, conclusion⟩
  refine ⟨claimed, concluded.evaluation.listed.mono (List.subset_append_left _ _), ?_⟩
  intro rtype replicas given short
  have lost : Lost event.object claimed rtype := by
    have bounded : Bounded claimed rtype replicas := by
      unfold Bounded
      omega
    exact ⟨replicas, given, bounded.loses_iff.mpr (Or.inr ⟨marked, short⟩)⟩
  have success := concluded.succeeded reconcilable.unfinished
  have failure := concluded.failed reconcilable.unfinished
  have finished : isJobFinished after.status = true := by
    by_cases done : AllSucceeded event.object claimed
    · exact isJobFinished_of_check (Or.inl rfl) (success.mpr done)
    · exact isJobFinished_of_check (Or.inr rfl) (failure.mpr ⟨⟨rtype, lost⟩, done⟩)
  have changed : job.status ≠ after.status := by
    intro same
    rw [← same, created.isJobFinished_eq, reconcilable.unfinished] at finished
    cases finished
  refine ⟨after, by simp [changed], fun pod member => ?_, success.mpr, fun undone =>
    failure.mpr ⟨⟨rtype, lost⟩, undone⟩⟩
  exact List.mem_append_left _ ((concluded.stopped finished).1 pod member)

end Initialized

/-- No pod after initialization.  If every Sync that starts once an initialized
version is stored is handed an initialized version, no pod is created from then
on; a Sync that lists too few pods of some type and ends without error has
deleted the active ones and stored Failed, or Succeeded if all workers have
succeeded. -/
theorem no_pod_after_initialized {mxjob : MXJob} {pods : List Pod} {services : List Service}
    {nextUID : UID} {past : List State} {state : State}
    (run : Run step (InformedDelivery isInitialized) (State.initial mxjob pods services nextUID) past state) :
    ((∃ version ∈ state.world.versions, isInitialized version.status = true) →
      ∀ pod, ¬ (sync state.worker.input).Issues state.worker.trace (.createPod pod)) ∧
    (Reconcilable state.worker.input → isInitialized state.worker.input.object.status = true →
      (sync state.worker.input).Returns state.worker.trace () →
      ∃ claimed, Listed state.worker.input.object claimed state.worker.trace ∧
        ∀ rtype replicas, replicasOf state.worker.input.object rtype = some replicas →
        ((filterPodsForMXReplicaType claimed rtype).length : Int) < replicas.toInt →
        ∃ after, (⟨.updateMXJob after, none⟩ : Call) ∈ state.worker.trace ∧
          (∀ pod ∈ filterActivePods claimed,
            (⟨.deletePod pod.name, none⟩ : Call) ∈ state.worker.trace) ∧
          (AllSucceeded state.worker.input.object claimed →
            checkCondition after.status .succeeded = true) ∧
          (¬ AllSucceeded state.worker.input.object claimed →
            checkCondition after.status .failed = true)) := by
  refine ⟨fun ⟨version, stored, marked⟩ pod => ?_, short_listing⟩
  have informed := run_informed (fun _ _ permitted => permitted) run
    (run_initialized run version stored marked)
  exact informed.creates_none (fun _ _ _ _ => podsNeeded_of_initialized) pod

/-- The worker of `sampleJob` is removed once the job is initialized. -/
def removedWorker : List Action :=
  firstSync ++ .move (.podRemove 4) :: quietSync

theorem run_removedWorker : Run step (InformedDelivery isInitialized) sampleStart
    (Run.passed step [] sampleStart removedWorker) (removedWorker.foldl step sampleStart) :=
  Run.start.extend (by decide +kernel)

theorem no_pod_removedWorker :
    checkCondition (removedWorker.foldl step sampleStart).world.job.status .failed = true ∧
      ∀ pod, ¬ (sync (removedWorker.foldl step sampleStart).worker.input).Issues
        (removedWorker.foldl step sampleStart).worker.trace (.createPod pod) :=
  ⟨by decide +kernel, (no_pod_after_initialized run_removedWorker).1
    ⟨_, List.mem_cons_self, by decide +kernel⟩⟩

/-- The scheduler of `sampleJob` is removed after its worker has succeeded. -/
def removedScheduler : List Action :=
  firstSync ++ .move (.podPhase 4 .succeeded) :: .move (.podRemove 1) :: quietSync

/-- A stale version makes a Sync create a pod after initialization; and a
removed pod does not make the job fail when the workers have succeeded. -/
theorem pod_after_initialized :
    (isInitialized (firstSync.foldl step sampleStart).world.job.status = true ∧
      createCount .worker (firstSync.foldl step sampleStart).log = 1 ∧
      createCount .worker (staleSync.foldl step sampleStart).log = 2) ∧
    checkCondition (removedScheduler.foldl step sampleStart).world.job.status .failed = false ∧
      checkCondition (removedScheduler.foldl step sampleStart).world.job.status .succeeded =
        true := by
  refine ⟨⟨?_, ?_, ?_⟩, ?_, ?_⟩ <;> decide +kernel

end MXNetOperator.Property
