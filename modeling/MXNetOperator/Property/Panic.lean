import MXNetOperator.Property.Initialization

/-!
Contract: when a Sync can dereference nil.

`reconcileMXJobs` guards the three replica specifications one by one, but the
environment of every pod reads all of them, the passes read the replica count
and the template, and termination writes the counters of whatever type a pod is
labelled with.  `Answerable` names what these dereferences need.
-/

namespace MXNetOperator.Property

open MXNetOperator.Kube MXNetOperator.Api MXNetOperator.Interaction MXNetOperator.Mx
  MXNetOperator.Cluster

/-- What the code dereferences for these claimed pods is there.  Only a job the
pods decide is terminated. -/
structure Answerable (mxjob : MXJob) (pods : List Pod) : Prop where
  inputs : ∀ rtype, ¬ MissingInput mxjob pods rtype
  counted : Decided mxjob pods → ∀ rtype, replicasOf mxjob rtype = none →
    getMXReplicaStatus mxjob rtype = none →
    ∀ pod ∈ filterActivePods pods, (mxReplicaSelector rtype).isMatch pod.labels = false

section Panics

variable {mxjob before : MXJob} {pods : List Pod} {rtype : MXReplicaType} {trace : List Call}

/-- Code that never panics. -/
abbrev Steady {α : Type} (program : Go α) : Prop :=
  Program.Avoids .panicked program

theorem steady_failOn (error : Option GoError) : Steady (failOn error) := by
  cases error with
  | none => exact Program.avoids_pure ()
  | some cause => exact Program.avoids_abort (by simp)

/-! ### Listing and services -/

theorem steady_claimListed {Obj : Type} {kind : ClaimKind} {objectOf : Obj → ObjectMeta}
    {request : Request} {listing : request.Reply → Except ApiError (List Obj)} :
    Steady (claimListed mxjob request listing (claimMatching kind objectOf)) := by
  unfold claimListed
  split
  · exact Program.avoids_abort (by simp)
  · refine (Program.avoids_perform request).bind fun {_ reply} _ => ?_
    split
    · exact Program.avoids_abort (by simp)
    · refine Program.Avoids.bind ?_ fun _ => (steady_failOn _).bind fun _ => Program.avoids_pure _
      intro trace aborted
      simp [claimMatching, Program.aborts_bind] at aborted

theorem steady_reconcileServices {services : List Service} {spec : MXReplicaSpec} :
    Steady (reconcileServices mxjob services .scheduler spec) := by
  rw [reconcileServices_eq]
  split
  · exact (Program.avoids_perform _).bind fun _ => steady_failOn _
  · exact Program.avoids_pure ()

/-! ### The passes -/

theorem steady_reconcilePods {spec : MXReplicaSpec}
    (present : mxjob.spec.mxReplicaSpecs.get rtype = some spec)
    (able : ¬ MissingInput mxjob pods rtype) : Steady (reconcilePods mxjob pods rtype spec) := by
  cases given : spec.replicas with
  | none => exact absurd ⟨spec, present, Or.inl given⟩ able
  | some replicas =>
      rcases Nat.eq_zero_or_pos (neededPods mxjob pods rtype replicas) with idle | busy
      · rw [reconcilePods_idle given idle]
        exact (Program.avoids_perform _).bind fun _ => Program.avoids_pure _
      · rw [reconcilePods_busy given busy]
        refine Program.Avoids.bind ?_ fun _ => (steady_failOn _).bind fun _ =>
          (Program.avoids_perform _).bind fun _ => Program.avoids_pure _
        intro trace aborted
        obtain ⟨_, _, missing⟩ := createPods_aborts aborted
        refine able ⟨spec, present, Or.inr ⟨?_, missing⟩⟩
        rw [podsNeeded, replicasOf_eq_some present given]
        exact busy

theorem steady_reconcileReplica (able : ¬ MissingInput mxjob pods rtype) :
    Steady (reconcileReplica mxjob pods rtype) := by
  unfold reconcileReplica
  split
  · exact Program.avoids_pure _
  · rename_i spec present
    exact steady_reconcilePods present able

theorem steady_reconcileScheduler (able : ¬ MissingInput mxjob pods .scheduler) :
    Steady (reconcileScheduler mxjob pods) := by
  unfold reconcileScheduler
  split
  · exact Program.avoids_pure _
  · rename_i spec present
    have own : mxjob.spec.mxReplicaSpecs.get .scheduler = some spec := present
    refine (steady_reconcilePods own able).bind fun _ => ?_
    refine steady_claimListed.bind fun _ => ?_
    exact steady_reconcileServices.bind fun _ => Program.avoids_pure _

theorem steady_reconcileReplicas (able : ∀ rtype, ¬ MissingInput mxjob pods rtype) :
    Steady (reconcileReplicas mxjob pods) := by
  refine (steady_reconcileScheduler (able .scheduler)).bind fun first => ?_
  obtain ⟨_, rfl, _⟩ := reconcileScheduler_returns first
  refine (steady_reconcileReplica fun missing => able .server
    (missing.of_samePass passFor_samePass)).bind fun second => ?_
  obtain ⟨_, rfl, _⟩ := reconcileReplica_returns second
  exact steady_reconcileReplica fun missing => able .worker
    (missing.of_samePass (passFor_samePass.trans passFor_samePass))

/-! ### Termination and update -/

theorem steady_finishJob (counted : isJobFinished mxjob.status = true →
      ∀ rtype, getMXReplicaStatus mxjob rtype = none →
      ∀ pod ∈ filterActivePods pods, (mxReplicaSelector rtype).isMatch pod.labels = false) :
    Steady (finishJob mxjob pods) := by
  unfold finishJob terminateMXJob
  split
  · rename_i finished
    refine Program.Avoids.bind ?_ fun _ => (Program.avoids_perform _).bind fun _ =>
      Program.avoids_pure _
    split
    · exact Program.avoids_pure _
    · refine (Program.avoids_perform _).bind fun {_ order} _ => ?_
      refine Program.Avoids.bind ?_ fun _ => (steady_failOn _).bind fun _ => Program.avoids_pure _
      intro trace aborted
      have shuffled : order.1.Perm (filterActivePods pods) := order.2
      obtain ⟨_, pod, member, rtype, labelled, missing⟩ := deletePods_aborts aborted
      rw [counted finished rtype missing pod (shuffled.mem_iff.mp member)] at labelled
      cases labelled
  · exact Program.avoids_pure _

theorem steady_storeStatus {oldStatus : MXJobStatus} : Steady (storeStatus oldStatus mxjob) := by
  unfold storeStatus
  split
  · exact Program.avoids_pure _
  · exact (Program.avoids_perform _).bind fun _ => (steady_failOn _).bind fun _ =>
      Program.avoids_pure _

/-- A reconciliation of an unfinished job that panics has claimed pods it cannot
answer for. -/
theorem reconcileMXJobs_panics (unfinished : isJobFinished mxjob.status = false)
    (aborted : (reconcileMXJobs mxjob).Aborts trace .panicked) :
    ∃ pods, Claims mxjob pods trace ∧ ¬ Answerable mxjob pods := by
  simp only [reconcileMXJobs_eq, reconcileListed, Program.aborts_bind, aborts_markInitialized,
    false_or] at aborted
  rcases aborted with looking | ⟨pods, listing, back, rfl, looked, aborted⟩
  · exact absurd looking (steady_claimListed trace)
  refine ⟨pods, ⟨listing, back, rfl, looked⟩, fun answerable => ?_⟩
  rcases aborted with passing | ⟨_, front, _, rfl, passed, marked, middle, _, rfl, marking,
    finishing | ⟨final, closing, tail, rfl, _, storing⟩⟩
  · exact steady_reconcileReplicas answerable.inputs back passing
  · obtain ⟨now, rfl, _⟩ := reconcileReplicas_returns passed
    obtain ⟨marks, _⟩ := markInitialized_returns marking
    refine steady_finishJob (fun finished rtype missing => ?_) _ finishing
    rw [marks.counters, replicaPasses_counters, Option.or_eq_none_iff] at missing
    exact answerable.counted ((finished_iff_decided unfinished marks).mp finished) rtype
      (Option.map_eq_none_iff.mp missing.1) missing.2
  · exact steady_storeStatus _ storing

/-! ### What a completed reconciliation has found -/

theorem able_of_reconcilePods {spec : MXReplicaSpec} {after : MXJob}
    (present : mxjob.spec.mxReplicaSpecs.get rtype = some spec)
    (returned : (reconcilePods mxjob pods rtype spec).Returns trace after) :
    ¬ MissingInput mxjob pods rtype := by
  rintro ⟨own, found, cause⟩
  obtain rfl : spec = own := by
    rw [present] at found
    exact Option.some.inj found
  obtain ⟨replicas, given⟩ := replicas_of_returns returned
  rcases cause with missing | ⟨needed, missing⟩
  · rw [given] at missing
    cases missing
  · rw [podsNeeded, replicasOf_eq_some present given] at needed
    rw [reconcilePods_busy given needed] at returned
    obtain ⟨errors, creating, _, _, created, _⟩ := Program.returns_bind.mp returned
    exact createPods_found needed created missing

theorem able_of_reconcileReplica {after : MXJob}
    (returned : (reconcileReplica mxjob pods rtype).Returns trace after) :
    ¬ MissingInput mxjob pods rtype := by
  unfold reconcileReplica at returned
  split at returned
  · rename_i absent
    rintro ⟨spec, present, _⟩
    rw [absent] at present
    cases present
  · rename_i spec present
    exact able_of_reconcilePods present returned

theorem able_of_reconcileScheduler {after : MXJob}
    (returned : (reconcileScheduler mxjob pods).Returns trace after) :
    ¬ MissingInput mxjob pods .scheduler := by
  unfold reconcileScheduler at returned
  split at returned
  · rename_i absent
    rintro ⟨spec, present, _⟩
    rw [show mxjob.spec.mxReplicaSpecs.get .scheduler = none from absent] at present
    cases present
  · rename_i spec present
    obtain ⟨_, _, _, _, passed, _⟩ := Program.returns_bind.mp returned
    exact able_of_reconcilePods present passed

theorem able_of_reconcileReplicas {after : MXJob}
    (returned : (reconcileReplicas mxjob pods).Returns trace after) :
    ∀ rtype, ¬ MissingInput mxjob pods rtype := by
  simp only [reconcileReplicas, Program.returns_bind] at returned
  obtain ⟨_, front, _, _, first, _, middle, back, _, second, third⟩ := returned
  have scheduler := able_of_reconcileScheduler first
  obtain ⟨_, rfl, _⟩ := reconcileScheduler_returns first
  have server := able_of_reconcileReplica second
  obtain ⟨_, rfl, _⟩ := reconcileReplica_returns second
  have worker := able_of_reconcileReplica third
  intro rtype missing
  cases rtype with
  | scheduler => exact scheduler missing
  | server => exact server (missing.of_samePass passFor_samePass.symm)
  | worker =>
      exact worker (missing.of_samePass (passFor_samePass.trans passFor_samePass).symm)

theorem answerable_of_returns {after : MXJob} (unfinished : isJobFinished mxjob.status = false)
    (returned : (reconcileListed mxjob pods).Returns trace after) : Answerable mxjob pods := by
  simp only [reconcileListed, Program.returns_bind] at returned
  obtain ⟨_, front, _, _, passed, marked, middle, _, _, marking, final, back, tail, _, finishing,
    _⟩ := returned
  refine ⟨able_of_reconcileReplicas passed, fun decided rtype absent missing pod member => ?_⟩
  obtain ⟨now, rfl, _⟩ := reconcileReplicas_returns passed
  obtain ⟨marks, _⟩ := markInitialized_returns marking
  by_contra labelled
  rw [Bool.not_eq_false] at labelled
  unfold finishJob at finishing
  rw [if_pos ((finished_iff_decided unfinished marks).mpr decided)] at finishing
  obtain ⟨_, _, _, _, terminated, _⟩ := Program.returns_bind.mp finishing
  refine terminateMXJob_present terminated member labelled ?_
  rw [marks.counters, replicaPasses_counters, absent, missing]
  rfl

/-! ### A server that grants everything -/

/-- A server that lists these pods and grants everything else. -/
def granting (mxjob : MXJob) (pods : List Pod) : (request : Request) → request.Reply
  | .now => fun _ => (0 : Time)
  | .listPods => .ok pods
  | .listServices => .ok []
  | .getMXJob _ => .ok mxjob
  | .patchPod _ _ => none
  | .patchService _ _ => none
  | .createPod _ => none
  | .createService _ => none
  | .deletePod _ => none
  | .updateMXJob _ => none
  | .callHookAsync _ _ => ()
  | .awaitHook => ()
  | .spawnFinalizer _ _ => ()
  | .enterGroup _ => true
  | .leaveGroup _ => ()
  | .schedule pods => ⟨pods, .refl pods⟩
  | .rangeMap entries => fun _ => ⟨entries, .refl entries⟩

theorem granting_succeeds {call : Call} (reply : call.reply = granting mxjob pods call.request)
    (live : mxjob.deletionTimestamp = none) :
    failedCall call = false ∧ recheckRefused mxjob call = false := by
  obtain ⟨request, answer⟩ := call
  obtain rfl : answer = granting mxjob pods request := reply
  cases request <;> first | exact ⟨rfl, rfl⟩ | simp [failedCall, recheckRefused, granting, live]

/-- Such a server hinders no job whose name its selector accepts. -/
theorem granting_unhindered {program : Go MXJob} (live : mxjob.deletionTimestamp = none)
    (valid : ∃ selector, labelSelectorAsSelector (genLabels mxjob none) = .ok selector) :
    ¬ Hindered mxjob (program.answered (granting mxjob pods)) := by
  rintro (⟨call, member, refused⟩ | invalid)
  · obtain ⟨succeeded, allowed⟩ := granting_succeeds (Program.answered_reply member) live
    rw [succeeded, allowed] at refused
    simp at refused
  · obtain ⟨selector, valid⟩ := valid
    exact invalid selector valid

/-- With claimed pods that the job cannot answer for, granting the rest leads
into the panic. -/
theorem reconcileMXJobs_panics_of {listing : List Call}
    (unfinished : isJobFinished mxjob.status = false) (live : mxjob.deletionTimestamp = none)
    (looked : (getPodsForMXJob mxjob).Returns listing pods)
    (unanswerable : ¬ Answerable mxjob pods) :
    ∃ back, (reconcileMXJobs mxjob).Aborts (listing ++ back) .panicked := by
  have claims : Claims mxjob pods (listing ++ []) := ⟨listing, [], rfl, looked⟩
  rcases (reconcileListed mxjob pods).answered_ends (granting mxjob pods) with
    ⟨after, returned⟩ | ⟨reason, aborted⟩
  · exact absurd (answerable_of_returns unfinished returned) unanswerable
  · rcases reconcileListed_aborts aborted with ⟨rfl, _⟩ | hindered
    · rw [reconcileMXJobs_eq]
      exact ⟨_, Program.aborts_bind.mpr (Or.inr ⟨pods, listing, _, rfl, looked, aborted⟩)⟩
    · exact absurd hindered (granting_unhindered live claims.valid)

/-! ### Whole Syncs -/

theorem CreatedAs.answerable_iff {job : MXJob} (created : CreatedAs mxjob job) :
    Answerable job pods ↔ Answerable mxjob pods := by
  have same := created.samePass
  have counters : ∀ rtype, getMXReplicaStatus job rtype = getMXReplicaStatus mxjob rtype := by
    intro rtype
    cases created with
    | already => rfl
    | now fresh now =>
        cases rtype <;>
          simp only [getMXReplicaStatus, withCreated, updateMXJobConditions_replicaStatuses]
  constructor
  · rintro ⟨inputs, counted⟩
    refine ⟨fun rtype missing => inputs rtype (missing.of_samePass same.symm), ?_⟩
    simpa only [created.decided_iff, same.statusOnly.replicasOf_eq, counters] using counted
  · rintro ⟨inputs, counted⟩
    refine ⟨fun rtype missing => inputs rtype (missing.of_samePass same), ?_⟩
    simpa only [created.decided_iff, same.statusOnly.replicasOf_eq, counters] using counted

/-- Only a Sync that has claimed pods panics.  Of the Syncs of a live unfinished
job that claim given pods none panics exactly if the job can answer for them. -/
theorem sync_never_panics (event : Event) :
    (∀ trace, (sync event).Aborts trace .panicked →
      Reconcilable event ∧ ∃ pods, SyncClaims event.object pods trace) ∧
    ∀ pods listing, Reconcilable event →
      (getPodsForMXJob event.object).Returns listing pods →
      ((∀ trace, SyncClaims event.object pods trace → ¬ (sync event).Aborts trace .panicked) ↔
        Answerable event.object pods) := by
  have blamed : ∀ trace, (sync event).Aborts trace .panicked → Reconcilable event ∧
      ∃ pods, SyncClaims event.object pods trace ∧ ¬ Answerable event.object pods := by
    intro trace aborted
    obtain ⟨reconcilable, readings, back, job, rfl, clock, created, aborted⟩ := sync_aborts aborted
    obtain ⟨pods, claims, unanswerable⟩ := reconcileMXJobs_panics
      (created.isJobFinished_eq.trans reconcilable.unfinished) aborted
    rw [CreatedAs.answerable_iff created] at unanswerable
    exact ⟨reconcilable, pods, ⟨readings, back, rfl, clock, claims.of_created created⟩,
      unanswerable⟩
  refine ⟨fun trace aborted => ?_, fun pods listing reconcilable looked => ⟨fun safe => ?_,
    fun answerable trace claims aborted => ?_⟩⟩
  · obtain ⟨reconcilable, pods, claims, _⟩ := blamed trace aborted
    exact ⟨reconcilable, pods, claims⟩
  · by_contra unanswerable
    obtain ⟨readings, job, marked⟩ := markCreated_runs event.object
    obtain ⟨created, clock⟩ := markCreated_returns marked
    have live : job.deletionTimestamp = none := by
      rw [created.samePass.statusOnly]
      exact reconcilable.live
    have lookedAgain : (getPodsForMXJob job).Returns listing pods := by
      rwa [created.samePass.statusOnly, getPodsForMXJob_withStatus]
    obtain ⟨back, aborted⟩ := reconcileMXJobs_panics_of
      (created.isJobFinished_eq.trans reconcilable.unfinished) live lookedAgain
      (mt (CreatedAs.answerable_iff created).mp unanswerable)
    exact safe _ ⟨readings, _, rfl, clock, listing, back, rfl, looked⟩
      (sync_aborts_of_reconcile reconcilable marked aborted)
  · obtain ⟨_, other, again, unanswerable⟩ := blamed trace aborted
    rw [again.unique claims] at unanswerable
    exact unanswerable answerable

/-- All three specifications are there, each with replica count and template. -/
def Complete (mxjob : MXJob) : Prop :=
  ∀ rtype, ∃ spec, mxjob.spec.mxReplicaSpecs.get rtype = some spec ∧
    spec.replicas ≠ none ∧ spec.template ≠ none

/-- A complete job can answer for every list of pods. -/
theorem answerable_of_complete (complete : Complete mxjob) : Answerable mxjob pods where
  inputs := by
    rintro rtype ⟨spec, found, missing⟩
    obtain ⟨own, present, hasReplicas, hasTemplate⟩ := complete rtype
    obtain rfl : own = spec := by
      rw [present] at found
      exact Option.some.inj found
    obtain ⟨scheduler, schedulerSpec, _⟩ := complete .scheduler
    obtain ⟨server, serverSpec, serverReplicas, _⟩ := complete .server
    obtain ⟨worker, workerSpec, workerReplicas, _⟩ := complete .worker
    rcases missing with missing | ⟨_, missing | missing⟩
    · exact hasReplicas missing
    · exact hasTemplate missing
    · obtain ⟨servers, serversGiven⟩ := Option.ne_none_iff_exists'.mp serverReplicas
      obtain ⟨workers, workersGiven⟩ := Option.ne_none_iff_exists'.mp workerReplicas
      simp only [MXReplicaSpecs.get] at schedulerSpec serverSpec workerSpec
      simp only [genMXConfigEnv, schedulerSpec, serverSpec, workerSpec, serversGiven,
        workersGiven, present, Option.bind_eq_bind, Option.bind_some] at missing
      split at missing <;> cases missing
  counted := by
    intro _ rtype absent
    obtain ⟨own, present, hasReplicas, _⟩ := complete rtype
    rw [replicasOf, present, Option.bind_some] at absent
    exact absurd absent hasReplicas

end Panics

theorem sampleJob_complete : Complete sampleJob := fun rtype =>
  ⟨sampleReplica 1, by cases rtype <;> rfl, by simp [sampleReplica], by simp [sampleReplica]⟩

/-- No Sync of `sampleJob` that finds no pods panics. -/
theorem sync_never_panics_sampleJob :
    Reconcilable ⟨sampleJob, false⟩ ∧
      (getPodsForMXJob sampleJob).Returns [⟨.listPods, .ok []⟩] [] ∧
      ∀ trace, SyncClaims sampleJob [] trace →
        ¬ (sync ⟨sampleJob, false⟩).Aborts trace .panicked := by
  have reconcilable : Reconcilable ⟨sampleJob, false⟩ := ⟨rfl, rfl, rfl⟩
  have listing : (getPodsForMXJob sampleJob).Returns [⟨.listPods, .ok []⟩] [] :=
    .step _ (.stop _)
  exact ⟨reconcilable, listing, ((sync_never_panics ⟨sampleJob, false⟩).2 [] _ reconcilable
    listing).mpr (answerable_of_complete sampleJob_complete)⟩

/-- `sampleJob` with a worker specification only. -/
def workerOnlyJob : MXJob :=
  { sampleJob with spec := ⟨⟨none, none, some (sampleReplica 1)⟩, none, none⟩ }

/-- Its first Sync, with every call successful. -/
def workerOnlySync : Thread sync :=
  Thread.drive (serve (.success "")) 20 (Thread.start ⟨workerOnlyJob, false⟩) sampleStart.world

/-- The environment of the first worker pod dereferences the absent scheduler
specification. -/
theorem workerOnlyJob_panics :
    (sync ⟨workerOnlyJob, false⟩).Aborts workerOnlySync.trace .panicked := by
  have path := workerOnlySync.onPath
  have ended : workerOnlySync.rest = .abort .panicked := rfl
  rw [ended] at path
  exact path

end MXNetOperator.Property
