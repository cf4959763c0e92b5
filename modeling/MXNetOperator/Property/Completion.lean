import MXNetOperator.Property.Verdict

/-!
Contract: completion of a job.

The worker pass completes a job when `replicas - succeeded` is zero.  Surplus
worker pods, left by a lowered replica count or by adoption, make the
difference negative, and the job then stays unfinished although every worker is
done.
-/

namespace MXNetOperator.Property

open MXNetOperator.Kube MXNetOperator.Api MXNetOperator.Interaction MXNetOperator.Mx
  MXNetOperator.Cluster

/-! ### Surplus workers -/

/-- The exchange stores a Succeeded condition. -/
def storesSuccess : Call → Bool
  | ⟨.updateMXJob mxjob, none⟩ => checkCondition mxjob.status .succeeded
  | _ => false

/-- All workers are in phase Succeeded. -/
def WorkersDone (pods : List Pod) : Prop :=
  ∀ pod ∈ filterPodsForMXReplicaType pods .worker, pod.phase = .succeeded

instance (pods : List Pod) : Decidable (WorkersDone pods) :=
  inferInstanceAs (Decidable (∀ pod ∈ _, _))

section Surplus

variable {mxjob : MXJob} {pods : List Pod} {replicas : Int32} {event : Event} {trace : List Call}

/-- The completion test compares in `int32`. -/
theorem allSucceeded_iff_done (given : replicasOf mxjob .worker = some replicas)
    (done : WorkersDone pods) :
    AllSucceeded mxjob pods ↔
      Int32.ofNat (filterPodsForMXReplicaType pods .worker).length = replicas := by
  have counted : filterPods (filterPodsForMXReplicaType pods .worker) .succeeded =
      (filterPodsForMXReplicaType pods .worker).length :=
    List.countP_eq_length.mpr fun pod member => by simp [done pod member]
  unfold AllSucceeded
  rw [given, getStatus, counted]
  constructor
  · rintro ⟨_, ⟨⟩, zero⟩
    exact (Int32.zero_add _).symm.trans (Int32.sub_eq_iff_eq_add.mp zero).symm
  · rintro rfl
    exact ⟨_, rfl, Int32.sub_self _⟩

/-- A Sync without error stores a success exactly if all workers count as
succeeded. -/
theorem storesSuccess_iff (reconcilable : Reconcilable event)
    (returned : (sync event).Returns trace ()) (claims : SyncClaims event.object pods trace) :
    (∃ call ∈ trace, storesSuccess call = true) ↔ AllSucceeded event.object pods := by
  constructor
  · rintro ⟨⟨request, reply⟩, member, stores⟩
    obtain ⟨front, back, rfl, issued⟩ := returned.issues_of_mem member
    unfold storesSuccess at stores
    split at stores
    · rename_i after same
      cases same
      obtain ⟨_, found, concluded, again⟩ := sync_update issued
      obtain rfl : pods = found := claims.unique again.append
      exact (concluded.succeeded reconcilable.unfinished).mp stores
    · cases stores
  · intro all
    obtain ⟨found, job, after, front, created, conclusion, again, rfl⟩ :=
      sync_completes reconcilable returned
    obtain rfl : pods = found := claims.unique again
    have concluded : Concluded event.object pods after front := ⟨job, created, conclusion⟩
    have success : checkCondition after.status .succeeded = true :=
      (concluded.succeeded reconcilable.unfinished).mpr all
    have changed : job.status ≠ after.status := by
      intro same
      have before := (check_of_unfinished reconcilable.unfinished).1
      rw [← created.check (by decide), same, success] at before
      cases before
    refine ⟨⟨.updateMXJob after, none⟩, ?_, success⟩
    rw [if_neg changed]
    exact List.mem_append_right front (List.mem_singleton.mpr rfl)

/-- A Sync without error of a job whose workers are all done stores the success
exactly if there are as many of them as replicas: a surplus worker blocks the
completion. -/
theorem exact_workers_complete (reconcilable : Reconcilable event)
    (given : replicasOf event.object .worker = some replicas)
    (returned : (sync event).Returns trace ()) (claims : SyncClaims event.object pods trace)
    (done : WorkersDone pods) :
    ((∃ call ∈ trace, storesSuccess call = true) ↔
        Int32.ofNat (filterPodsForMXReplicaType pods .worker).length = replicas) ∧
      ((filterPodsForMXReplicaType pods .worker).length < 2 ^ 31 →
        ((∃ call ∈ trace, storesSuccess call = true) ↔
          ((filterPodsForMXReplicaType pods .worker).length : Int) = replicas.toInt)) := by
  have stored := (storesSuccess_iff reconcilable returned claims).trans
    (allSucceeded_iff_done given done)
  refine ⟨stored, fun few => stored.trans ?_⟩
  rw [← Int32.toInt_inj, Int32.toInt_ofNat_of_lt few]

end Surplus

/-! `startedJob` with its workers done. -/

/-- A Sync of `startedJob`, without error, that lists these pods. -/
def startedSync (pods : List Pod) : Thread sync :=
  Thread.drive (serve (.success "")) 20 (Thread.start ⟨startedJob, false⟩)
    ⟨startedJob, [], true, pods, [], 9, []⟩

/-- The pods of `startedJob` after its worker is done. -/
def donePods : List Pod :=
  ((firstSync ++ [Action.move (.podPhase 4 .succeeded)]).foldl step sampleStart).world.pods

/-- A second worker pod that is done. -/
def surplusPods : List Pod :=
  donePods ++ (filterPodsForMXReplicaType donePods .worker).map fun pod =>
    { pod with name := "worker-2", uid := 5 }

theorem startedSync_returns {pods : List Pod} (finished : (startedSync pods).result = some ()) :
    (sync ⟨startedJob, false⟩).Returns (startedSync pods).trace () := by
  have returned := Thread.returns_of_result finished
  have input : (startedSync pods).input = ⟨startedJob, false⟩ := Thread.drive_input
  rwa [input] at returned

theorem startedSync_claims {pods : List Pod}
    (managed : ∀ pod ∈ pods, manages startedJob pod.toObjectMeta = true)
    (first : (startedSync pods).trace.head? = some ⟨.listPods, .ok pods⟩) :
    SyncClaims startedJob pods (startedSync pods).trace := by
  refine ⟨[], _, rfl, by simp, [⟨.listPods, .ok pods⟩], (startedSync pods).trace.tail, ?_, ?_⟩
  · exact (List.cons_head?_tail first).symm
  · exact claimListed_managed (jobSelector_ok (by decide)) rfl managed

theorem exact_workers_complete_donePods :
    (sync ⟨startedJob, false⟩).Returns (startedSync donePods).trace () ∧
      ∃ call ∈ (startedSync donePods).trace, storesSuccess call = true := by
  have returned : (sync ⟨startedJob, false⟩).Returns (startedSync donePods).trace () :=
    startedSync_returns (by decide +kernel)
  have reconcilable : Reconcilable ⟨startedJob, false⟩ :=
    ⟨rfl, by decide +kernel, by decide +kernel⟩
  have given : replicasOf startedJob .worker = some 1 := by decide +kernel
  have claims : SyncClaims startedJob donePods (startedSync donePods).trace :=
    startedSync_claims (by decide +kernel) rfl
  have complete := exact_workers_complete reconcilable given returned claims (by decide +kernel)
  exact ⟨returned, (complete.2 (by decide +kernel)).mpr (by decide +kernel)⟩

/-- Two workers are done where one is wanted: the Sync stores no success. -/
theorem surplus_worker_blocks :
    (sync ⟨startedJob, false⟩).Returns (startedSync surplusPods).trace () ∧
      SyncClaims startedJob surplusPods (startedSync surplusPods).trace ∧
      isJobFinished startedJob.status = false ∧
      replicasOf startedJob .worker = some 1 ∧ WorkersDone surplusPods ∧
      (filterPodsForMXReplicaType surplusPods .worker).length = 2 ∧
      ∀ call ∈ (startedSync surplusPods).trace, storesSuccess call = false := by
  refine ⟨startedSync_returns (by decide +kernel), startedSync_claims (by decide +kernel) rfl,
    by decide +kernel, by decide +kernel, by decide +kernel, by decide +kernel, ?_⟩
  have none : (startedSync surplusPods).trace.all (fun call => !storesSuccess call) = true := by
    decide +kernel
  simpa using none

end MXNetOperator.Property
