import MXNetOperator.Cluster.System

/-!
Contract: the verdict of a reconciliation as a function of the claimed pods.

`Mx.Verdict` has the verdict in the source's `int32` arithmetic.  Here the
counts are the mathematical ones, which takes no more pods of a type than its
replica count asks for.
-/

namespace MXNetOperator.Property

open MXNetOperator.Kube MXNetOperator.Api MXNetOperator.Interaction MXNetOperator.Mx
  MXNetOperator.Cluster

section Verdict

variable {mxjob after : MXJob} {pods other : List Pod} {rtype : MXReplicaType}
  {replicas : MXReplicaType → Int32} {trace : List Call}

/-- All replica specifications are present, with these counts. -/
def Replicated (mxjob : MXJob) (replicas : MXReplicaType → Int32) : Prop :=
  ∀ rtype, replicasOf mxjob rtype = some (replicas rtype)

/-- No type has more pods than replicas. -/
def WithinReplicas (pods : List Pod) (replicas : MXReplicaType → Int32) : Prop :=
  ∀ rtype, ((filterPodsForMXReplicaType pods rtype).length : Int) ≤ (replicas rtype).toInt

/-- The workers in phase Succeeded are as many as the worker replicas. -/
def WorkersSucceeded (pods : List Pod) (replicas : MXReplicaType → Int32) : Prop :=
  (filterPods (filterPodsForMXReplicaType pods .worker) .succeeded : Int) =
    (replicas .worker).toInt

/-- Some type has a pod in phase Failed or, once initialized, fewer pods than
replicas. -/
def PodsLost (mxjob : MXJob) (pods : List Pod) (replicas : MXReplicaType → Int32) : Prop :=
  ∃ rtype, (∃ pod ∈ filterPodsForMXReplicaType pods rtype, pod.phase = .failed) ∨
    (checkCondition mxjob.status .initialized = true ∧
      ((filterPodsForMXReplicaType pods rtype).length : Int) < (replicas rtype).toInt)

theorem WithinReplicas.bounded (within : WithinReplicas pods replicas) (rtype : MXReplicaType) :
    Bounded pods rtype (replicas rtype) :=
  Int.le_trans (within rtype) (Int.le_max_left _ _)

theorem WithinReplicas.allSucceeded_iff (within : WithinReplicas pods replicas)
    (given : Replicated mxjob replicas) :
    AllSucceeded mxjob pods ↔ WorkersSucceeded pods replicas :=
  (within.bounded .worker).allSucceeded_iff (given .worker)

theorem filterPods_pos {pods : List Pod} {phase : PodPhase} :
    0 < filterPods pods phase ↔ ∃ pod ∈ pods, pod.phase = phase := by
  simp [filterPods, List.countP_pos_iff, eq_comm (a := phase)]

theorem WithinReplicas.lost_iff (within : WithinReplicas pods replicas)
    (given : Replicated mxjob replicas) :
    (∃ rtype, Lost mxjob pods rtype) ↔ PodsLost mxjob pods replicas := by
  refine exists_congr fun rtype => ?_
  rw [← filterPods_pos, ← (within.bounded rtype).loses_iff, Lost, given rtype]
  simp

/-- The verdict of a conclusion, in terms of pod counts. -/
theorem conclusion_verdict (given : Replicated mxjob replicas)
    (within : WithinReplicas pods replicas) (unfinished : isJobFinished mxjob.status = false)
    (conclusion : Conclusion mxjob pods after trace) :
    (checkCondition after.status .succeeded = true ↔ WorkersSucceeded pods replicas) ∧
      (checkCondition after.status .failed = true ↔
        checkCondition after.status .succeeded = false ∧ PodsLost mxjob pods replicas) := by
  obtain ⟨noSuccess, noFailure⟩ := check_of_unfinished unfinished
  have success := conclusion.succeeded
  have failure := conclusion.failed
  rw [noSuccess, within.allSucceeded_iff given] at success
  rw [noSuccess, noFailure, within.allSucceeded_iff given, within.lost_iff given] at failure
  rw [← Bool.not_eq_true, failure, success]
  simp only [Bool.false_eq_true, false_or, and_true, true_and]
  exact and_comm

/-! ### Order -/

theorem filterPodsForMXReplicaType_perm (same : other.Perm pods) :
    (filterPodsForMXReplicaType other rtype).Perm (filterPodsForMXReplicaType pods rtype) :=
  same.filter _

theorem WithinReplicas.perm (within : WithinReplicas pods replicas) (same : other.Perm pods) :
    WithinReplicas other replicas := by
  intro rtype
  rw [(filterPodsForMXReplicaType_perm same).length_eq]
  exact within rtype

theorem workersSucceeded_perm (same : other.Perm pods) :
    WorkersSucceeded other replicas ↔ WorkersSucceeded pods replicas := by
  rw [WorkersSucceeded, WorkersSucceeded, filterPods, filterPods,
    (filterPodsForMXReplicaType_perm same).countP_eq]

theorem podsLost_perm (same : other.Perm pods) :
    PodsLost mxjob other replicas ↔ PodsLost mxjob pods replicas := by
  refine exists_congr fun rtype => ?_
  rw [(filterPodsForMXReplicaType_perm same).length_eq]
  simp only [(filterPodsForMXReplicaType_perm same).mem_iff]

/-! ### Early ends -/

theorem Replicated.present (given : Replicated mxjob replicas) (rtype : MXReplicaType) :
    ∃ spec, mxjob.spec.mxReplicaSpecs.get rtype = some spec ∧
      spec.replicas = some (replicas rtype) :=
  Option.bind_eq_some_iff.mp (given rtype)

theorem Replicated.environment (given : Replicated mxjob replicas) (rtype : MXReplicaType) :
    genMXConfigEnv mxjob rtype ≠ none := by
  obtain ⟨scheduler, hasScheduler, _⟩ := given.present .scheduler
  obtain ⟨server, hasServer, servers⟩ := given.present .server
  obtain ⟨worker, hasWorker, workers⟩ := given.present .worker
  obtain ⟨own, hasOwn, _⟩ := given.present rtype
  have scheduled : mxjob.spec.mxReplicaSpecs.scheduler = some scheduler := hasScheduler
  have served : mxjob.spec.mxReplicaSpecs.server = some server := hasServer
  have worked : mxjob.spec.mxReplicaSpecs.worker = some worker := hasWorker
  simp only [genMXConfigEnv, scheduled, served, worked, servers, workers, hasOwn, bind,
    Option.bind_some]
  cases own.psVerbose <;> simp

/-- With the pods claimed, only a failed call, a live read that forbids the
adoption of a service, or a missing template ends a reconciliation early. -/
theorem claimed_aborts {reason : Abort} (given : Replicated mxjob replicas)
    (claims : Claims mxjob pods trace)
    (aborted : (reconcileMXJobs mxjob).Aborts trace reason) :
    (∃ call ∈ trace, failedCall call = true ∨ recheckRefused mxjob call = true) ∨
      ∃ rtype spec, mxjob.spec.mxReplicaSpecs.get rtype = some spec ∧ spec.template = none ∧
        0 < podsNeeded mxjob pods rtype := by
  rcases reconcileMXJobs_aborts aborted with ⟨found, rtype, again, spec, present, missing⟩ |
    ⟨_, rtype, _, absent, _⟩ | cause | invalid
  · rw [← claims.unique again] at missing
    right
    rcases missing with missing | ⟨needed, missing | missing⟩
    · obtain ⟨own, isOwn, counted⟩ := given.present rtype
      rw [present] at isOwn
      cases isOwn
      rw [missing] at counted
      cases counted
    · exact ⟨rtype, spec, present, missing, needed⟩
    · exact absurd missing (given.environment rtype)
  · rw [given rtype] at absent
    cases absent
  · exact Or.inl cause
  · obtain ⟨selector, valid⟩ := claims.valid
    exact absurd valid (invalid selector)

end Verdict

/-- The verdict of a reconciliation.  For an unfinished job with all three
replica specifications and a claimed list with no more pods of a type than its
replicas: a reconciliation that runs to its end has the verdict the counts call
for; it ends early only on a failed call, a live read that forbids adoption, or
a missing pod template; and the order of the list does not matter. -/
theorem verdict_characterised {mxjob : MXJob} {pods : List Pod}
    {replicas : MXReplicaType → Int32} (given : Replicated mxjob replicas)
    (within : WithinReplicas pods replicas) (unfinished : isJobFinished mxjob.status = false) :
    (∀ trace after, Claims mxjob pods trace → (reconcileMXJobs mxjob).Returns trace after →
      (checkCondition after.status .succeeded = true ↔ WorkersSucceeded pods replicas) ∧
        (checkCondition after.status .failed = true ↔
          checkCondition after.status .succeeded = false ∧ PodsLost mxjob pods replicas)) ∧
      (∀ trace reason, Claims mxjob pods trace → (reconcileMXJobs mxjob).Aborts trace reason →
        (∃ call ∈ trace, failedCall call = true ∨ recheckRefused mxjob call = true) ∨
          ∃ rtype spec, mxjob.spec.mxReplicaSpecs.get rtype = some spec ∧ spec.template = none ∧
            0 < podsNeeded mxjob pods rtype) ∧
      ∀ other trace after otherTrace otherAfter, other.Perm pods →
        Claims mxjob pods trace → (reconcileMXJobs mxjob).Returns trace after →
        Claims mxjob other otherTrace →
        (reconcileMXJobs mxjob).Returns otherTrace otherAfter →
        ∀ type ∈ [MXJobConditionType.succeeded, .failed],
          checkCondition otherAfter.status type = checkCondition after.status type := by
  have verdict : ∀ {list : List Pod} {trace : List Call} {after : MXJob},
      WithinReplicas list replicas → Claims mxjob list trace →
      (reconcileMXJobs mxjob).Returns trace after →
      (checkCondition after.status .succeeded = true ↔ WorkersSucceeded list replicas) ∧
        (checkCondition after.status .failed = true ↔
          checkCondition after.status .succeeded = false ∧ PodsLost mxjob list replicas) := by
    intro list trace after within claims returned
    obtain ⟨found, front, conclusion, again, _⟩ := reconcileMXJobs_returns returned
    rw [← claims.unique again] at conclusion
    exact conclusion_verdict given within unfinished conclusion
  refine ⟨fun trace after => verdict within, fun trace reason => claimed_aborts given, ?_⟩
  intro other trace after otherTrace otherAfter same claims returned otherClaims otherReturned
  obtain ⟨success, failure⟩ := verdict within claims returned
  obtain ⟨otherSuccess, otherFailure⟩ := verdict (within.perm same) otherClaims otherReturned
  rw [workersSucceeded_perm same, ← success] at otherSuccess
  have sameSuccess := Bool.eq_iff_iff.mpr otherSuccess
  rw [podsLost_perm same, sameSuccess, ← failure] at otherFailure
  simp only [List.mem_cons, List.not_mem_nil, or_false]
  rintro type (rfl | rfl)
  · exact sameSuccess
  · exact Bool.eq_iff_iff.mpr otherFailure

/-! A scheduler in phase Failed beside a worker in phase Succeeded. -/

def startedJob : MXJob := (firstSync.foldl step sampleStart).world.job

def mixedPhases : List Action :=
  firstSync ++ [.move (.podPhase 1 .failed), .move (.podPhase 4 .succeeded)]

def mixedPods : List Pod := (mixedPhases.foldl step sampleStart).world.pods

def mixedPass : Thread reconcileMXJobs :=
  Thread.drive (serve (.success "")) 20 (Thread.start startedJob)
    ⟨startedJob, [], true, mixedPods, [], 5, []⟩

theorem mixedPass_claims : Claims startedJob mixedPods mixedPass.trace := by
  refine ⟨[⟨.listPods, .ok mixedPods⟩], mixedPass.trace.tail, rfl, ?_⟩
  exact claimListed_managed (jobSelector_ok (by decide)) rfl (by decide +kernel)

theorem verdict_mixedPass : ∃ after,
    (reconcileMXJobs startedJob).Returns mixedPass.trace after ∧
      checkCondition after.status .succeeded = true ∧
      checkCondition after.status .failed = false := by
  have given : Replicated startedJob fun _ => 1 := by
    intro rtype
    cases rtype <;> decide +kernel
  have within : WithinReplicas mixedPods fun _ => 1 := by
    intro rtype
    cases rtype <;> decide +kernel
  obtain ⟨after, finished⟩ := Option.isSome_iff_exists.mp
    (by decide +kernel : mixedPass.result.isSome = true)
  have returned : (reconcileMXJobs startedJob).Returns mixedPass.trace after :=
    Thread.returns_of_result finished
  obtain ⟨success, failure⟩ := (verdict_characterised given within (by decide +kernel)).1
    mixedPass.trace after mixedPass_claims returned
  have succeeded := success.mpr (by unfold WorkersSucceeded; decide +kernel)
  rw [succeeded] at failure
  exact ⟨after, returned, succeeded, by simpa using failure⟩

end MXNetOperator.Property
