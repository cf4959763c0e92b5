import MXNetOperator.Property.Panic
import MXNetOperator.Property.Verdict

/-!
Contract: the replica counters of a completed reconciliation.

Three places write them: the count of the listed pods, the prediction for the
pods about to be created, and the moves of the deleting goroutines.  Together
they account for every listed or wanted pod once, as long as the counts fit
into `int32`.
-/

namespace MXNetOperator.Property

open MXNetOperator.Kube MXNetOperator.Api MXNetOperator.Interaction MXNetOperator.Mx
  MXNetOperator.Cluster

/-! ### Classes of pods -/

/-- The pod is being deleted and was not stopped before. -/
def isLeaving (pod : Pod) : Bool :=
  pod.deletionTimestamp.isSome && pod.phase != .succeeded && pod.phase != .failed

/-- Every pod is active, succeeded, failed or leaving. -/
theorem length_eq_classes (pods : List Pod) :
    pods.length = (filterActivePods pods).length + filterPods pods .succeeded +
      filterPods pods .failed + pods.countP isLeaving := by
  induction pods with
  | nil => rfl
  | cons pod rest inductionHypothesis =>
      simp only [filterActivePods, filterPods, List.filter_cons, List.countP_cons,
        List.length_cons] at inductionHypothesis ⊢
      cases phase : pod.phase <;> cases stamp : pod.deletionTimestamp <;>
        simp [isPodActive, isLeaving, phase, stamp] <;> omega

/-- The counters of a type account for its listed pods and its replicas. -/
structure Conserved (replicas : Int32) (pods : List Pod) (status : MXReplicaStatus) : Prop where
  active : 0 ≤ status.active.toInt
  succeeded : 0 ≤ status.succeeded.toInt
  failed : 0 ≤ status.failed.toInt
  gone : 0 ≤ status.gone.toInt
  total : status.active.toInt + status.succeeded.toInt + status.failed.toInt +
    status.gone.toInt = max replicas.toInt pods.length - pods.countP isLeaving

section Counting

variable {mxjob after : MXJob} {pods : List Pod} {rtype : MXReplicaType} {replicas : Int32}
  {trace : List Call}

theorem toInt_add_of_room {left right : Int32} (above : -2 ^ 31 ≤ left.toInt + right.toInt)
    (below : left.toInt + right.toInt < 2 ^ 31) :
    (left + right).toInt = left.toInt + right.toInt := by
  rw [Int32.toInt_add, Int.bmod_eq_of_le] <;> omega

/-- The counters a pass records, with the listed active pods among the active. -/
theorem replicaCounters_conserved (wanted : 0 ≤ replicas.toInt)
    (fits : (filterPodsForMXReplicaType pods rtype).length < 2 ^ 31) :
    Conserved replicas (filterPodsForMXReplicaType pods rtype)
        (replicaCounters mxjob pods rtype replicas) ∧
      ((filterActivePods (filterPodsForMXReplicaType pods rtype)).length : Int) ≤
        (replicaCounters mxjob pods rtype replicas).active.toInt := by
  have classes := length_eq_classes (filterPodsForMXReplicaType pods rtype)
  have upper := Int32.toInt_lt replicas
  have difference : (podDiff pods rtype replicas).toInt =
      replicas.toInt - (filterPodsForMXReplicaType pods rtype).length :=
    diff_toInt_of_room (by omega)
  have positive : 0 < podDiff pods rtype replicas ↔
      ((filterPodsForMXReplicaType pods rtype).length : Int) < replicas.toInt := by
    rw [Int32.lt_iff_toInt_lt, difference, Int32.toInt_zero]
    omega
  have exact : ∀ {count : Nat}, count ≤ (filterPodsForMXReplicaType pods rtype).length →
      (Int32.ofNat count).toInt = count := by
    intro count small
    exact Int32.toInt_ofNat_of_lt (by omega)
  have succeeded : (replicaCounters mxjob pods rtype replicas).succeeded.toInt =
      filterPods (filterPodsForMXReplicaType pods rtype) .succeeded := exact (by omega)
  have failed : (replicaCounters mxjob pods rtype replicas).failed.toInt =
      filterPods (filterPodsForMXReplicaType pods rtype) .failed := exact (by omega)
  have listed : (Int32.ofNat (filterActivePods (filterPodsForMXReplicaType pods rtype)).length).toInt =
      (filterActivePods (filterPodsForMXReplicaType pods rtype)).length := exact (by omega)
  by_cases short : 0 < podDiff pods rtype replicas
  · have fewer := positive.mp short
    cases initialized : checkCondition mxjob.status .initialized with
    | false =>
        have active : (replicaCounters mxjob pods rtype replicas).active.toInt =
            (filterActivePods (filterPodsForMXReplicaType pods rtype)).length +
              (replicas.toInt - (filterPodsForMXReplicaType pods rtype).length) := by
          simp only [replicaCounters, short, initialized, and_self, ↓reduceIte]
          rw [toInt_add_of_room] <;> rw [listed, difference] <;> omega
        have gone : (replicaCounters mxjob pods rtype replicas).gone.toInt = 0 := by
          simp [replicaCounters, initialized]
        exact ⟨⟨by omega, by omega, by omega, by omega, by omega⟩, by omega⟩
    | true =>
        have active : (replicaCounters mxjob pods rtype replicas).active.toInt =
            (filterActivePods (filterPodsForMXReplicaType pods rtype)).length := by
          simpa [replicaCounters, initialized] using listed
        have gone : (replicaCounters mxjob pods rtype replicas).gone.toInt =
            replicas.toInt - (filterPodsForMXReplicaType pods rtype).length := by
          simpa [replicaCounters, initialized, short] using difference
        exact ⟨⟨by omega, by omega, by omega, by omega, by omega⟩, by omega⟩
  · have enough : ¬ ((filterPodsForMXReplicaType pods rtype).length : Int) < replicas.toInt :=
      fun fewer => short (positive.mpr fewer)
    have active : (replicaCounters mxjob pods rtype replicas).active.toInt =
        (filterActivePods (filterPodsForMXReplicaType pods rtype)).length := by
      simpa [replicaCounters, short] using listed
    have gone : (replicaCounters mxjob pods rtype replicas).gone.toInt = 0 := by
      simp [replicaCounters, short]
    exact ⟨⟨by omega, by omega, by omega, by omega, by omega⟩, by omega⟩

/-- Moving pods that are counted as active keeps the account. -/
theorem Conserved.moveToGone {status : MXReplicaStatus} {count : Nat}
    (conserved : Conserved replicas pods status) (small : pods.length < 2 ^ 31)
    (counted : (count : Int) ≤ status.active.toInt) :
    Conserved replicas pods (moveToGone status count) := by
  have upper := Int32.toInt_lt replicas
  have limit := Int32.toInt_lt status.active
  obtain ⟨active, succeeded, failed, gone, total⟩ := conserved
  have exact : (Int32.ofNat count).toInt = count := Int32.toInt_ofNat_of_lt (by omega)
  have fewer : (Mx.moveToGone status count).active.toInt = status.active.toInt - count :=
    diff_toInt_of_room (by omega)
  have more : (Mx.moveToGone status count).gone.toInt = status.gone.toInt + count := by
    simp only [Mx.moveToGone]
    rw [toInt_add_of_room] <;> rw [exact] <;> omega
  have sameSucceeded : (Mx.moveToGone status count).succeeded = status.succeeded := rfl
  have sameFailed : (Mx.moveToGone status count).failed = status.failed := rfl
  exact ⟨by omega, by rwa [sameSucceeded], by rwa [sameFailed], by omega, by
    rw [fewer, more, sameSucceeded, sameFailed]
    omega⟩

theorem filterActivePods_comm (pods : List Pod) (rtype : MXReplicaType) :
    filterPodsForMXReplicaType (filterActivePods pods) rtype =
      filterActivePods (filterPodsForMXReplicaType pods rtype) := by
  simp only [filterPodsForMXReplicaType, filterActivePods, List.filter_filter, Bool.and_comm]

/-- The counters of a concluded job are those of its passes, moved if the job is
finished. -/
theorem Conclusion.counters (conclusion : Conclusion mxjob pods after trace)
    (given : replicasOf mxjob rtype = some replicas) :
    ∃ moved : Nat, (moved = 0 ∨
        moved = (filterActivePods (filterPodsForMXReplicaType pods rtype)).length) ∧
      getMXReplicaStatus after rtype =
        some (moveToGone (replicaCounters mxjob pods rtype replicas) moved) := by
  obtain ⟨now, marked, marks, finishes⟩ := conclusion.outcome
  have counted : getMXReplicaStatus marked rtype =
      some (replicaCounters mxjob pods rtype replicas) := by
    rw [marks.counters, replicaPasses_counters, given]
    rfl
  cases finishes with
  | running =>
      refine ⟨0, Or.inl rfl, ?_⟩
      rw [counted]
      simp [moveToGone]
  | finished _ _ counters =>
      refine ⟨_, Or.inr rfl, ?_⟩
      rw [counters, counted, filterActivePods_comm]
      rfl

/-- The counters of every type account for its pods, with fewer than `2 ^ 31`
pods of the type listed. -/
theorem counters_conserved
    (given : replicasOf mxjob rtype = some replicas) (wanted : 0 ≤ replicas.toInt)
    (claims : Claims mxjob pods trace) (returned : (reconcileMXJobs mxjob).Returns trace after)
    (fits : (filterPodsForMXReplicaType pods rtype).length < 2 ^ 31) :
    ∃ status, getMXReplicaStatus after rtype = some status ∧
      Conserved replicas (filterPodsForMXReplicaType pods rtype) status := by
  obtain ⟨found, front, conclusion, again, _⟩ := reconcileMXJobs_returns returned
  obtain rfl : pods = found := claims.unique again
  obtain ⟨moved, amount, stored⟩ := Conclusion.counters conclusion given
  have passed : Conserved replicas _ (replicaCounters mxjob pods rtype replicas) ∧ _ :=
    replicaCounters_conserved wanted fits
  obtain ⟨conserved, active⟩ := passed
  refine ⟨_, stored, conserved.moveToGone fits ?_⟩
  rcases amount with rfl | rfl
  · exact conserved.active
  · exact active

end Counting

/-- The server of `mixedPass` is deleted and counted as gone. -/
theorem counters_conserved_mixedPass : ∃ after status,
    (reconcileMXJobs startedJob).Returns mixedPass.trace after ∧
      getMXReplicaStatus after .server = some status ∧
      Conserved 1 (filterPodsForMXReplicaType mixedPods .server) status := by
  obtain ⟨after, finished⟩ := Option.isSome_iff_exists.mp
    (by decide +kernel : mixedPass.result.isSome = true)
  have returned : (reconcileMXJobs startedJob).Returns mixedPass.trace after :=
    Thread.returns_of_result finished
  have given : replicasOf startedJob .server = some 1 := by decide +kernel
  have fits : (filterPodsForMXReplicaType mixedPods .server).length < 2 ^ 31 := by decide +kernel
  obtain ⟨status, stored, conserved⟩ :=
    counters_conserved given (by decide) mixedPass_claims returned fits
  exact ⟨after, status, returned, stored, conserved⟩

/-! ### Beyond int32

A list of `2 ^ 31` worker pods makes a counter wrap. -/

/-- Running worker pods of `sampleJob`. -/
def workerCrowd (count : Nat) : List Pod :=
  (List.range count).map fun index =>
    { name := "worker-" ++ toString index
      ns := sampleJob.ns
      uid := index + 1
      labels := genLabels sampleJob (some .worker)
      ownerReferences := [newControllerRef sampleJob]
      deletionTimestamp := none
      containers := []
      phase := .running }

section Granted

variable {mxjob after : MXJob} {pods : List Pod} {trace : List Call}

/-- A complete job whose pods are listed and whose calls are all granted is
reconciled to the end. -/
theorem granted_pass (complete : Complete mxjob) (live : mxjob.deletionTimestamp = none)
    (valid : labelSelectorAsSelector (genLabels mxjob none) = .ok ⟨genLabels mxjob none⟩)
    (managed : ∀ pod ∈ pods, manages mxjob pod.toObjectMeta = true) :
    ∃ trace after, Claims mxjob pods trace ∧ (reconcileMXJobs mxjob).Returns trace after := by
  have replies : ∀ call ∈ (reconcileMXJobs mxjob).answered (granting mxjob pods),
      call.reply = granting mxjob pods call.request := fun call => Program.answered_reply
  rcases (reconcileMXJobs mxjob).answered_ends (granting mxjob pods) with
    ⟨after, returned⟩ | ⟨reason, aborted⟩
  · obtain ⟨found, front, conclusion, claims, trace⟩ := reconcileMXJobs_returns returned
    obtain ⟨listed, call, claimed⟩ := conclusion.evaluation.listed
    have same : listed = pods := by
      have reply := replies _ (trace ▸ List.mem_append_left _ call)
      exact Except.ok.inj reply
    have all : found = pods := by
      rw [claimed.eq_managed fun pod member _ _ => ?_, same, List.filter_eq_self.mpr managed]
      have mine := managed pod (same ▸ member)
      rw [manages, Bool.and_eq_true] at mine
      exact mine.1
    exact ⟨_, after, all ▸ claims, returned⟩
  · rcases reconcileMXJobs_aborts aborted with ⟨list, rtype, _, missing⟩ |
      ⟨_, rtype, _, absent, _⟩ | hindered
    · exact absurd missing ((answerable_of_complete complete).inputs rtype)
    · obtain ⟨spec, present, counted, _⟩ := complete rtype
      rw [replicasOf, present] at absent
      exact absurd absent counted
    · exact absurd hindered (granting_unhindered live ⟨_, valid⟩)

end Granted

section Crowd

variable {count : Nat}

theorem workerCrowd_managed :
    ∀ pod ∈ workerCrowd count, manages sampleJob pod.toObjectMeta = true := by
  intro pod member
  obtain ⟨index, _, rfl⟩ := List.mem_map.mp member
  rfl

theorem workerCrowd_workers :
    filterPodsForMXReplicaType (workerCrowd count) .worker = workerCrowd count := by
  refine List.filter_eq_self.mpr fun pod member => ?_
  obtain ⟨index, _, rfl⟩ := List.mem_map.mp member
  rfl

theorem workerCrowd_active : filterActivePods (workerCrowd count) = workerCrowd count := by
  refine List.filter_eq_self.mpr fun pod member => ?_
  obtain ⟨index, _, rfl⟩ := List.mem_map.mp member
  rfl

theorem workerCrowd_length : (workerCrowd count).length = count := by
  simp [workerCrowd]

/-- A reconciliation that lists the crowd records its size as int32, as active
or, once deleted, as gone. -/
theorem workerCrowd_counted (surplus : ¬ (0 : Int32) < 1 - Int32.ofNat count) :
    ∃ trace after status, Claims sampleJob (workerCrowd count) trace ∧
      (reconcileMXJobs sampleJob).Returns trace after ∧
      getMXReplicaStatus after .worker = some status ∧
      (status.active = Int32.ofNat count ∨ status.gone = Int32.ofNat count) := by
  obtain ⟨trace, after, claims, returned⟩ :=
    granted_pass sampleJob_complete rfl rfl (@workerCrowd_managed count)
  obtain ⟨found, front, conclusion, again, _⟩ := reconcileMXJobs_returns returned
  rw [← claims.unique again] at conclusion
  obtain ⟨moved, amount, stored⟩ := Conclusion.counters conclusion
    (rfl : replicasOf sampleJob .worker = some 1)
  have diff : podDiff (workerCrowd count) .worker 1 = 1 - Int32.ofNat count := by
    rw [podDiff, workerCrowd_workers, workerCrowd_length]
  refine ⟨trace, after, _, claims, returned, stored, ?_⟩
  simp only [moveToGone, replicaCounters, diff, surplus, false_and, ↓reduceIte,
    workerCrowd_workers, workerCrowd_active, workerCrowd_length] at amount ⊢
  rcases amount with rfl | rfl
  · left
    simp
  · right
    simp

end Crowd

/-- With `2 ^ 31` worker pods a stored counter is negative. -/
theorem counters_overflow : ∃ trace after status,
    Claims sampleJob (workerCrowd (2 ^ 31)) trace ∧
      (reconcileMXJobs sampleJob).Returns trace after ∧
      getMXReplicaStatus after .worker = some status ∧
      (status.active.toInt < 0 ∨ status.gone.toInt < 0) := by
  have negative : (Int32.ofNat (2 ^ 31)).toInt < 0 := by decide
  obtain ⟨trace, after, status, claims, returned, stored, counted⟩ :=
    @workerCrowd_counted (2 ^ 31) (by decide)
  refine ⟨trace, after, status, claims, returned, stored, ?_⟩
  rcases counted with same | same
  · exact Or.inl (same ▸ negative)
  · exact Or.inr (same ▸ negative)

end MXNetOperator.Property
