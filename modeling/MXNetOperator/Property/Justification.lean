import Mathlib.Data.List.Perm.Subperm
import MXNetOperator.Cluster.History
import MXNetOperator.Property.StatusHistory

/-!
Contract: a job fails only for a reason.

A Sync of an initialized job takes every missing pod for a deleted one.  That is
right if all pods of the type existed when the job was marked as initialized,
and they did if every creation the operator took for accepted had its effect.
-/

namespace MXNetOperator.Property

open MXNetOperator.Kube MXNetOperator.Api MXNetOperator.Interaction MXNetOperator.Mx
  MXNetOperator.Cluster

/-! ### The condition -/

/-- The pods a Sync is about to list are few enough to be subtracted from the
replica counts in 32 bits. -/
def ListingFits (mxjob : MXJob) (state : State) : Action → Prop
  | .work _ => state.worker.pending = some .listPods → ∀ rtype, ∀ replicas ∈ replicasOf mxjob rtype,
      (state.world.pods.length : Int) ≤ replicas.toInt + 2 ^ 31
  | _ => True

instance (mxjob : MXJob) (state : State) :
    (action : Action) → Decidable (ListingFits mxjob state action)
  | .work _ =>
      -- looked up in the option: `Int32` is a finite type and would be enumerated
      letI (rtype : MXReplicaType) : Decidable (∀ replicas ∈ replicasOf mxjob rtype,
          (state.world.pods.length : Int) ≤ replicas.toInt + 2 ^ 31) := Option.decidableForallMem _
      inferInstanceAs (Decidable (_ → _))
  | .deliver _ _ => inferInstanceAs (Decidable True)
  | .finalize _ _ => inferInstanceAs (Decidable True)
  | .restart => inferInstanceAs (Decidable True)
  | .move _ => inferInstanceAs (Decidable True)

/-- Neither the specification nor labels are edited, a creation answered with a
Timeout had its effect, and the number of pods does not overflow. -/
def Accountable (mxjob : MXJob) (state : State) (action : Action) : Prop :=
  keepsLabels action = true ∧ keepsSpec action = true ∧ CreationsEffective state action ∧
    ListingFits mxjob state action

instance (mxjob : MXJob) (state : State) (action : Action) :
    Decidable (Accountable mxjob state action) :=
  inferInstanceAs (Decidable (_ ∧ _))

section Runs

variable {mxjob : MXJob} {pods claimed : List Pod} {services : List Service} {nextUID : UID}
  {past : List State} {state : State} {rtype : MXReplicaType} {replicas : Int32}

theorem run_fits (given : replicasOf mxjob rtype = some replicas)
    (run : Run step (Accountable mxjob) (State.initial mxjob pods services nextUID) past state) :
    ∀ listed, lists listed ∈ state.worker.trace →
      (listed.length : Int) ≤ replicas.toInt + 2 ^ 31 := by
  refine run_sinceListing (fun _ listed _ => (listed.length : Int) ≤ replicas.toInt + 2 ^ 31) rfl
    ?_ ?_ run
  · intro past current outcome next _ permitted pending _ _ _
    exact permitted.2.2.2 pending rtype replicas given
  · intro past current action listed more _ _ _ known _ _
    exact known

/-! ### What the job has had -/

/-- Every pod that a Sync claims was under the job's control. -/
theorem run_claimed_possessed
    (distinct : Distinct (State.initial mxjob pods services nextUID).world)
    (run : Run step (Accountable mxjob) (State.initial mxjob pods services nextUID) past state)
    (listed : Listed state.worker.input.object claimed state.worker.trace) :
    ∃ earlier ∈ past, lists earlier.world.pods ∈ state.worker.trace ∧
      (ownPods mxjob earlier.world.pods).Sublist claimed ∧ claimed.Sublist earlier.world.pods ∧
      ∀ rtype, ∀ pod ∈ filterPodsForMXReplicaType claimed rtype,
        Possessed mxjob rtype (state :: past) pod.uid := by
  obtain ⟨all, found, claims⟩ := listed
  obtain ⟨earlier, isEarlier, rfl⟩ := run_listing rfl run all found
  have consistent := run_consistent run
  have same := consistent.identity _ consistent.worker
  refine ⟨earlier, isEarlier, found, ?_, claims.upper, ?_⟩
  · simpa only [ownPods, same.manages_eq] using claims.lower
  · intro rtype pod member
    obtain ⟨isClaimed, typed⟩ := List.mem_filter.mp member
    obtain ⟨selected, origin⟩ := claims.members pod isClaimed
    rw [same.selects_eq] at selected
    have isPod := claims.upper.subset isClaimed
    have carried : carries mxjob rtype pod = true := by rw [carries, selected, typed]; rfl
    rcases origin with controlled | adopted
    · rw [same.uid] at controlled
      exact ⟨earlier, List.mem_cons_of_mem _ isEarlier, pod, isPod, rfl, carried, controlled⟩
    · have patched := adopted.2.2
      rw [same.newControllerRef_eq] at patched
      exact run_adopted (fun _ _ permitted => permitted.1) distinct run rtype _ found pod isPod
        carried patched

/-- As many pods of the type as replicas have been under the job's control. -/
def Provided (mxjob : MXJob) (rtype : MXReplicaType) (replicas : Int32) (history : List State) :
    Prop :=
  ∃ uids : List UID, uids.Nodup ∧ replicas.toInt ≤ uids.length ∧
    ∀ uid ∈ uids, Possessed mxjob rtype history uid

theorem Provided.mono {history longer : List State}
    (provided : Provided mxjob rtype replicas history) (included : history ⊆ longer) :
    Provided mxjob rtype replicas longer := by
  obtain ⟨uids, nodup, enough, possessed⟩ := provided
  exact ⟨uids, nodup, enough, fun uid member => (possessed uid member).mono included⟩

/-- The pods of a type that a first evaluation lists and creates make up the
replicas. -/
theorem replicas_le_needed {object : MXJob} (fresh : isInitialized object.status = false)
    (given : replicasOf object rtype = some replicas)
    (room : ((filterPodsForMXReplicaType claimed rtype).length : Int) ≤ replicas.toInt + 2 ^ 31) :
    replicas.toInt ≤
      (filterPodsForMXReplicaType claimed rtype).length + podsNeeded object claimed rtype := by
  have exactly : (podDiff claimed rtype replicas).toInt = _ := diff_toInt_of_room room
  rw [podsNeeded, given, Option.elim_some, neededPods]
  have unmarked : checkCondition object.status .initialized = false := fresh
  by_cases short : 0 < podDiff claimed rtype replicas
  · rw [if_pos ⟨short, unmarked⟩]
    omega
  · rw [if_neg fun both => short both.1]
    rw [Int32.lt_iff_toInt_lt, Int32.toInt_zero] at short
    omega

/-- A Sync that marks the job as initialized has provided its pods. -/
theorem concluded_provides
    (distinct : Distinct (State.initial mxjob pods services nextUID).world)
    (given : replicasOf mxjob rtype = some replicas)
    (run : Run step (Accountable mxjob) (State.initial mxjob pods services nextUID) past state)
    {after : MXJob}
    (concluded : Concluded state.worker.input.object claimed after state.worker.trace)
    (fresh : isInitialized state.worker.input.object.status = false) :
    Provided mxjob rtype replicas (state :: past) := by
  have evaluation := concluded.evaluation
  have consistent := run_consistent run
  obtain ⟨earlier, isEarlier, found, _, upper, possessed⟩ :=
    run_claimed_possessed distinct run evaluation.listed
  obtain ⟨created, isCreated⟩ := run_created (fun _ _ permitted => permitted.1)
    (fun _ _ permitted => permitted.2.2.1) distinct run rtype _ found evaluation.accepted
  have typed : (filterPodsForMXReplicaType claimed rtype).Sublist earlier.world.pods :=
    List.filter_sublist.trans upper
  refine ⟨(filterPodsForMXReplicaType claimed rtype).map (fun pod => pod.uid) ++ created, ?_, ?_, ?_⟩
  · obtain ⟨before, reached⟩ := run.reaches_of_mem earlier isEarlier
    refine List.Nodup.append ((run_distinct distinct reached).uids.sublist (typed.map _))
      isCreated.nodup ?_
    intro uid listedUid createdUid
    obtain ⟨pod, member, rfl⟩ := List.mem_map.mp listedUid
    exact Nat.lt_irrefl _ (isCreated.newer _ createdUid pod (typed.subset member))
  · have sameReplicas : replicasOf state.worker.input.object rtype = some replicas := by
      rw [replicasOf, run_spec (fun _ _ permitted => permitted.2.1) run _ consistent.worker]
      exact given
    have fits := run_fits given run _ found
    have fewer := typed.length_le
    rw [List.length_append, List.length_map, isCreated.count, evaluation.counts]
    exact_mod_cast replicas_le_needed fresh sameReplicas (by omega)
  · intro uid member
    rcases List.mem_append.mp member with listedUid | createdUid
    · obtain ⟨pod, isPod, rfl⟩ := List.mem_map.mp listedUid
      exact possessed rtype pod isPod
    · exact isCreated.possessed uid createdUid

/-- An initialized job has had all its pods. -/
theorem run_provided (fresh : mxjob.status = .empty)
    (distinct : Distinct (State.initial mxjob pods services nextUID).world)
    (given : replicasOf mxjob rtype = some replicas)
    (run : Run step (Accountable mxjob) (State.initial mxjob pods services nextUID) past state) :
    isInitialized state.world.job.status = true →
      Provided mxjob rtype replicas (state :: past) := by
  refine run.historyInvariant (fun past current =>
    isInitialized current.world.job.status = true →
      Provided mxjob rtype replicas (current :: past)) ?_ ?_
  · intro marked
    change isInitialized mxjob.status = true at marked
    rw [fresh] at marked
    cases marked
  · intro past current action reached known permitted marked
    have earlier : isInitialized current.world.job.status = true →
        Provided mxjob rtype replicas (step current action :: current :: past) := fun before =>
      (known before).mono (List.subset_cons_self _ _)
    cases job_step (run_consistent reached) (step_stepped current action) with
    | kept job older => exact earlier (job ▸ marked)
    | synced outcome after claimed reconcilable isCurrent concluded =>
        cases before : isInitialized current.world.job.status with
        | true => exact earlier before
        | false =>
            rw [← isCurrent] at concluded before
            exact (concluded_provides distinct given reached concluded before).mono
              (List.subset_cons_self _ _)
    | cleared index outcome thread found isCurrent notified present stored =>
        refine earlier ?_
        rw [stored] at marked
        rw [← isCurrent]
        exact marked
    | edited move edited => exact earlier (edited.status ▸ marked)

/-! ### Gone pods -/

/-- The job has had this pod, and it is no more. -/
def Deleted (mxjob : MXJob) (rtype : MXReplicaType) (past : List State) (state : State)
    (uid : UID) : Prop :=
  Possessed mxjob rtype past uid ∧ ∀ pod ∈ state.world.pods, pod.uid ≠ uid

/-- A deleted pod does not come back. -/
theorem Deleted.step {action : Action} {uid : UID}
    (deleted : Deleted mxjob rtype past state uid) (below : uid < state.world.nextUID)
    (change : PodChange state action (step state action)) :
    Deleted mxjob rtype (state :: past) (Cluster.step state action) uid := by
  refine ⟨deleted.1.mono (List.subset_cons_self _ _), fun later member same => ?_⟩
  rcases change.origin member with ⟨pod, isPod, evolves⟩ | fresh
  · exact deleted.2 pod isPod (evolves.uid.symm.trans same)
  · exact Nat.ne_of_lt below (same.symm.trans fresh)

theorem Possessed.below {uid : UID}
    (distinct : Distinct (State.initial mxjob pods services nextUID).world)
    (run : Run step (Accountable mxjob) (State.initial mxjob pods services nextUID) past state)
    (possessed : Possessed mxjob rtype past uid) : uid < state.world.nextUID := by
  obtain ⟨earlier, isEarlier, pod, isPod, rfl, _⟩ := possessed
  exact (run_samePod (fun _ _ permitted => permitted.1) distinct run earlier isEarlier pod isPod).1

/-- A pod the job has had is still there and still managed, or deleted. -/
theorem Possessed.standing {uid : UID}
    (distinct : Distinct (State.initial mxjob pods services nextUID).world)
    (run : Run step (Accountable mxjob) (State.initial mxjob pods services nextUID) past state)
    (possessed : Possessed mxjob rtype (state :: past) uid) :
    (∃ pod ∈ filterPodsForMXReplicaType (ownPods mxjob state.world.pods) rtype, pod.uid = uid) ∨
      Deleted mxjob rtype (state :: past) state uid := by
  by_cases there : ∃ pod ∈ state.world.pods, pod.uid = uid
  · obtain ⟨later, isLater, sameUid⟩ := there
    obtain ⟨earlier, member, pod, isPod, rfl, typed, controlled⟩ := possessed
    have held : Held mxjob pod later := by
      rcases List.mem_cons.mp member with rfl | older
      · rw [(run_distinct distinct run).eq_of_uid isLater isPod sameUid]
        exact Held.refl mxjob pod
      · exact (run_held (fun _ _ permitted => permitted.1) distinct run earlier older pod isPod).2
          later isLater sameUid
    rw [carries, Bool.and_eq_true, ← held.labels] at typed
    have still := held.controlled (held.labels ▸ typed.1) controlled
    refine Or.inl ⟨later, List.mem_filter.mpr ⟨List.mem_filter.mpr ⟨isLater, ?_⟩, typed.2⟩, sameUid⟩
    rw [manages, still, typed.1]
    rfl
  · exact Or.inr ⟨possessed, fun pod isPod same => there ⟨pod, isPod, same⟩⟩

/-- At the listing of an initialized job, every pod the job has had is listed
and managed, or has been deleted. -/
theorem run_standing (fresh : mxjob.status = .empty)
    (distinct : Distinct (State.initial mxjob pods services nextUID).world)
    (given : replicasOf mxjob rtype = some replicas)
    (run : Run step (Accountable mxjob) (State.initial mxjob pods services nextUID) past state) :
    ∀ listed, lists listed ∈ state.worker.trace →
      isInitialized state.worker.input.object.status = true →
      ∃ uids : List UID, uids.Nodup ∧ replicas.toInt ≤ uids.length ∧ ∀ uid ∈ uids,
        (∃ pod ∈ filterPodsForMXReplicaType (ownPods mxjob listed) rtype, pod.uid = uid) ∨
          Deleted mxjob rtype past state uid := by
  refine run_sinceListing (fun past listed current =>
    isInitialized current.worker.input.object.status = true →
      ∃ uids : List UID, uids.Nodup ∧ replicas.toInt ≤ uids.length ∧ ∀ uid ∈ uids,
        (∃ pod ∈ filterPodsForMXReplicaType (ownPods mxjob listed) rtype, pod.uid = uid) ∨
          Deleted mxjob rtype past current uid) rfl ?_ ?_ run
  · intro past current outcome next reached permitted pending world input trace marked
    rw [input] at marked
    have consistent := run_consistent reached
    obtain ⟨uids, nodup, enough, possessed⟩ := run_provided fresh distinct given reached
      (run_initialized reached _ consistent.worker marked)
    refine ⟨uids, nodup, enough, fun uid member => ?_⟩
    refine (Possessed.standing distinct reached (possessed uid member)).imp_right fun deleted => ?_
    exact ⟨deleted.1, by rw [world]; exact deleted.2⟩
  · intro past current action listed more reached permitted found known grown input marked
    rw [input] at marked
    obtain ⟨uids, nodup, enough, standing⟩ := known marked
    refine ⟨uids, nodup, enough, fun uid member => (standing uid member).imp_right fun deleted => ?_⟩
    exact deleted.step (Possessed.below distinct reached deleted.1)
      (pod_change (run_distinct distinct reached) (step_stepped current action))

/-- Members of a duplicate-free list that are missing from a shorter one. -/
theorem length_le_missing {uids : List UID} (nodup : uids.Nodup) (present : List UID) :
    uids.length ≤ present.length + (uids.filter fun uid => !present.contains uid).length := by
  have parts := (List.filter_append_perm (fun uid => present.contains uid) uids).length_eq
  have inside : (uids.filter fun uid => present.contains uid).Subperm present := by
    refine (nodup.filter _).subperm fun uid member => ?_
    simpa using (List.mem_filter.mp member).2
  have fewer := inside.length_le
  rw [List.length_append] at parts
  omega

/-- As many pods as a Sync counts as gone have been deleted. -/
theorem run_gone (fresh : mxjob.status = .empty)
    (distinct : Distinct (State.initial mxjob pods services nextUID).world)
    (given : replicasOf mxjob rtype = some replicas)
    (run : Run step (Accountable mxjob) (State.initial mxjob pods services nextUID) past state)
    (listed : Listed state.worker.input.object claimed state.worker.trace) :
    ∃ deleted : List UID, deleted.Nodup ∧
      (replicaCounters state.worker.input.object claimed rtype replicas).gone.toInt ≤
        deleted.length ∧ ∀ uid ∈ deleted, Deleted mxjob rtype past state uid := by
  by_cases counted : 0 < podDiff claimed rtype replicas ∧
      isInitialized state.worker.input.object.status = true
  · obtain ⟨earlier, isEarlier, found, lower, upper, _⟩ := run_claimed_possessed distinct run listed
    obtain ⟨uids, nodup, enough, standing⟩ :=
      run_standing fresh distinct given run _ found counted.2
    refine ⟨uids.filter fun uid =>
      !((filterPodsForMXReplicaType claimed rtype).map fun pod => pod.uid).contains uid,
      nodup.filter _, ?_, ?_⟩
    · have fits := run_fits given run _ found
      have fewer : (filterPodsForMXReplicaType claimed rtype).length ≤ _ :=
        (List.filter_sublist.trans upper).length_le
      have exactly : (podDiff claimed rtype replicas).toInt =
          replicas.toInt - (filterPodsForMXReplicaType claimed rtype).length :=
        diff_toInt_of_room (by omega)
      have missing := length_le_missing nodup
        ((filterPodsForMXReplicaType claimed rtype).map fun pod => pod.uid)
      rw [List.length_map] at missing
      have gone : (replicaCounters state.worker.input.object claimed rtype replicas).gone =
        podDiff claimed rtype replicas := if_pos counted
      rw [gone, exactly]
      omega
    · intro uid member
      obtain ⟨isUid, absent⟩ := List.mem_filter.mp member
      rcases standing uid isUid with ⟨pod, isPod, rfl⟩ | deleted
      · have isClaimed : pod ∈ filterPodsForMXReplicaType claimed rtype :=
          (lower.filter _).subset isPod
        have present := List.mem_map_of_mem (f := fun pod : Pod => pod.uid) isClaimed
        rw [List.contains_iff_mem.mpr present] at absent
        cases absent
      · exact deleted
  · have none : (replicaCounters state.worker.input.object claimed rtype replicas).gone = 0 :=
      if_neg counted
    exact ⟨[], List.nodup_nil, by rw [none]; exact Int.le_refl 0, by simp⟩

/-! ### Failed pods -/

/-- A pod the job controls was in phase Failed. -/
def PodFailed (mxjob : MXJob) (history : List State) : Prop :=
  ∃ uid, (∃ earlier ∈ history, ∃ pod ∈ earlier.world.pods, pod.uid = uid ∧ pod.phase = .failed) ∧
    ∃ earlier ∈ history, ∃ pod ∈ earlier.world.pods, pod.uid = uid ∧
      pod.controlledBy mxjob.uid = true

/-- A pod was under the job's control and is no more. -/
def PodDeleted (mxjob : MXJob) (past : List State) (state : State) : Prop :=
  ∃ earlier ∈ past, ∃ pod ∈ earlier.world.pods, pod.controlledBy mxjob.uid = true ∧
    ∀ other ∈ state.world.pods, other.uid ≠ pod.uid

theorem failed_pos {object : MXJob}
    (failed : 0 < (replicaCounters object claimed rtype replicas).failed) :
    ∃ pod ∈ filterPodsForMXReplicaType claimed rtype, pod.phase = .failed := by
  have positive : 0 < filterPods (filterPodsForMXReplicaType claimed rtype) .failed := by
    refine Nat.pos_of_ne_zero fun none => ?_
    change 0 < Int32.ofNat (filterPods (filterPodsForMXReplicaType claimed rtype) .failed) at failed
    rw [none] at failed
    exact absurd failed (by decide)
  obtain ⟨pod, member, phase⟩ := List.countP_pos_iff.mp positive
  exact ⟨pod, member, (by simpa using phase : PodPhase.failed = pod.phase).symm⟩

/-- A Sync that reaches its update with Failed has a reason. -/
theorem concluded_justified (fresh : mxjob.status = .empty)
    (distinct : Distinct (State.initial mxjob pods services nextUID).world)
    (run : Run step (Accountable mxjob) (State.initial mxjob pods services nextUID) past state)
    (reconcilable : Reconcilable state.worker.input) {after : MXJob}
    (concluded : Concluded state.worker.input.object claimed after state.worker.trace)
    (failed : checkCondition after.status .failed = true) :
    PodFailed mxjob (state :: past) ∨ PodDeleted mxjob past state := by
  have consistent := run_consistent run
  have listed := concluded.evaluation.listed
  obtain ⟨⟨rtype, replicas, given, loses⟩, _⟩ :=
    (concluded.failed reconcilable.unfinished).mp failed
  rw [replicasOf, run_spec (fun _ _ permitted => permitted.2.1) run _ consistent.worker] at given
  rcases loses with failedPods | gonePods
  · obtain ⟨pod, member, phase⟩ := failed_pos failedPods
    obtain ⟨earlier, isEarlier, _, _, upper, possessed⟩ := run_claimed_possessed distinct run listed
    obtain ⟨holding, isHolding, held, isHeld, sameUid, _, controlled⟩ := possessed rtype pod member
    exact Or.inl ⟨pod.uid,
      ⟨earlier, List.mem_cons_of_mem _ isEarlier, pod,
        upper.subset (List.mem_filter.mp member).1, rfl, phase⟩,
      holding, isHolding, held, isHeld, sameUid, controlled⟩
  · obtain ⟨deleted, _, counted, areDeleted⟩ := run_gone fresh distinct given run listed
    rw [Int32.lt_iff_toInt_lt, Int32.toInt_zero] at gonePods
    obtain ⟨uid, member⟩ := List.exists_mem_of_length_pos (l := deleted) (by omega)
    obtain ⟨⟨earlier, isEarlier, pod, isPod, rfl, _, controlled⟩, absent⟩ := areDeleted uid member
    exact Or.inr ⟨earlier, isEarlier, pod, isPod, controlled, absent⟩

end Runs

/-- Failure is always justified.  When a step stores Failed, some pod of the job
had been in phase Failed or some pod that was under the job's control has been
deleted; and whenever a Sync gets to its update, at least as many pods of a type
have been deleted as it counted as gone. -/
theorem failure_justified {mxjob : MXJob} {pods : List Pod} {services : List Service}
    {nextUID : UID} {past : List State} {state : State} (fresh : mxjob.status = .empty)
    (distinct : Distinct (State.initial mxjob pods services nextUID).world)
    (run : Run step (Accountable mxjob) (State.initial mxjob pods services nextUID) past state) :
    (∀ action, checkCondition state.world.job.status .failed = false →
      checkCondition (step state action).world.job.status .failed = true →
        PodFailed mxjob (state :: past) ∨ PodDeleted mxjob past state) ∧
    ∀ after, (sync state.worker.input).Issues state.worker.trace (.updateMXJob after) →
      ∃ claimed, Listed state.worker.input.object claimed state.worker.trace ∧
        ∀ rtype replicas, replicasOf mxjob rtype = some replicas →
          ∃ deleted : List UID, deleted.Nodup ∧
            (replicaCounters state.worker.input.object claimed rtype replicas).gone.toInt ≤
              deleted.length ∧ ∀ uid ∈ deleted, Deleted mxjob rtype past state uid := by
  refine ⟨fun action before stored => ?_, fun after issued => ?_⟩
  · have unfailed : (step state action).world.job.status = state.world.job.status →
        PodFailed mxjob (state :: past) ∨ PodDeleted mxjob past state := by
      intro same
      rw [same, before] at stored
      cases stored
    cases job_step (run_consistent run) (step_stepped state action) with
    | kept job older => exact unfailed (by rw [job])
    | synced outcome after claimed reconcilable isCurrent concluded present isStored =>
        rw [isStored] at stored
        rw [← isCurrent] at concluded
        exact concluded_justified fresh distinct run reconcilable concluded stored
    | cleared index outcome thread found isCurrent notified present isStored =>
        refine unfailed ?_
        rw [isStored, ← isCurrent]
        rfl
    | edited move edited => exact unfailed edited.status
  · obtain ⟨_, claimed, concluded, _⟩ := sync_update issued
    have listed := concluded.evaluation.listed
    exact ⟨claimed, listed, fun rtype replicas given => run_gone fresh distinct given run listed⟩

/-- A Timeout that hides whether the pod was created. -/
def Outcome.timeout (name : String) (applied : Bool) : Outcome :=
  { Outcome.success name with failure := some ⟨.timeout, "timeout"⟩, applied := applied }

/-- The creation of the worker of `sampleJob` times out but has its effect; the
worker is removed, and the next Sync gets to its update. -/
def timedOutWorker : List Action :=
  firstSync.take 12 ++ .work (Outcome.timeout "worker-1" true) :: firstSync.drop 13 ++
    .move (.podRemove 4) :: quietSync.take 12

theorem run_timedOutWorker : Run step (Accountable sampleJob) sampleStart
    (Run.passed step [] sampleStart timedOutWorker) (timedOutWorker.foldl step sampleStart) :=
  Run.start.extend (by decide +kernel)

theorem failure_justified_timedOutWorker :
    checkCondition (step (timedOutWorker.foldl step sampleStart)
      (.work (.success ""))).world.job.status .failed = true ∧
    (PodFailed sampleJob (timedOutWorker.foldl step sampleStart ::
        Run.passed step [] sampleStart timedOutWorker) ∨
      PodDeleted sampleJob (Run.passed step [] sampleStart timedOutWorker)
        (timedOutWorker.foldl step sampleStart)) := by
  have stored : checkCondition (step (timedOutWorker.foldl step sampleStart)
      (.work (.success ""))).world.job.status .failed = true := by decide +kernel
  exact ⟨stored, (failure_justified (by rfl) (distinct_empty sampleJob [] 1)
    run_timedOutWorker).1 (.work (.success "")) (by decide +kernel) stored⟩

/-- All creations of the first Sync of `sampleJob` time out without effect. -/
def lostCreations : List Action :=
  .deliver 0 false :: calls ["", "", ""] ++ .work (Outcome.timeout "scheduler-1" false) ::
    calls ["", "", "", ""] ++ .work (Outcome.timeout "server-1" false) :: calls ["", ""] ++
    .work (Outcome.timeout "worker-1" false) :: calls ["", "", "", ""] ++ quietSync

/-- The job fails although no pod has ever existed. -/
theorem failed_without_pods :
    checkCondition (lostCreations.foldl step sampleStart).world.job.status .failed = true ∧
      ∀ earlier ∈ lostCreations.foldl step sampleStart ::
        Run.passed step [] sampleStart lostCreations, earlier.world.pods = [] := by
  refine ⟨?_, ?_⟩ <;> decide +kernel

end MXNetOperator.Property
