import MXNetOperator.Mx.Settled

/-!
Contract: the status after the first reconciliation of a job.

The job has no status yet and the pods it has claimed are all active and no more
than its replicas.  Owns `Conclusion.initial`: the counters, the conditions and
the start time are then functions of the specification alone, whatever pods were
found and whatever pods had to be created.
-/

namespace MXNetOperator.Mx

open MXNetOperator.Kube MXNetOperator.Api MXNetOperator.Interaction

/-! ### Conditions as types and statuses -/

/-- The conditions without their texts and times. -/
def conditionStates (status : MXJobStatus) : List (MXJobConditionType × ConditionStatus) :=
  status.conditions.map fun condition => (condition.type, condition.status)

section Conditions

variable {status : MXJobStatus} {condType : MXJobConditionType}

theorem getCondition_eq_none (absent : ∀ state ∈ conditionStates status, state.1 ≠ condType) :
    getCondition status condType = none := by
  refine List.find?_eq_none.mpr fun condition member => ?_
  have different := absent (condition.type, condition.status) (List.mem_map_of_mem member)
  simpa using different

theorem checkCondition_eq_false (absent : ∀ state ∈ conditionStates status, state.1 ≠ condType) :
    checkCondition status condType = false := by
  rw [checkCondition, getCondition_eq_none absent]
  rfl

/-- An update under a new type appends to the conditions. -/
theorem conditionStates_update {updated transitioned : Time} {reason : MXJobReason}
    {message : String} (absent : ∀ state ∈ conditionStates status, state.1 ≠ condType) :
    conditionStates (updateMXJobConditions updated transitioned status condType reason message) =
      conditionStates status ++ [(condType, .isTrue)] := by
  have others : filterOutCondition status.conditions condType = status.conditions := by
    refine List.filter_eq_self.mpr fun condition member => ?_
    have different := absent (condition.type, condition.status) (List.mem_map_of_mem member)
    simpa using different
  have fresh : getCondition status condType = none := getCondition_eq_none absent
  simp only [updateMXJobConditions, setCondition, newCondition, fresh, conditionStates, others,
    List.map_append, List.map_cons, List.map_nil]

theorem isJobFinished_states (status : MXJobStatus) : isJobFinished status =
    (conditionStates status).any fun state =>
      (state.1 == .succeeded || state.1 == .failed) && state.2 == .isTrue := by
  rw [isJobFinished, conditionStates, List.any_map]
  rfl

end Conditions

/-! ### Counters -/

section Counters

variable {mxjob : MXJob} {pods : List Pod} {rtype : MXReplicaType} {replicas : Int32}

theorem active_filterPods {phase : PodPhase} (active : ∀ pod ∈ pods, isPodActive pod = true)
    (final : phase = .succeeded ∨ phase = .failed) : filterPods pods phase = 0 := by
  refine List.countP_eq_zero.mpr fun pod member same => ?_
  have running := active pod member
  rw [isPodActive, ← eq_of_beq same] at running
  rcases final with rfl | rfl <;> simp at running

/-- Uninitialized and with active pods only, a pass counts every replica as active. -/
theorem replicaCounters_active (fresh : checkCondition mxjob.status .initialized = false)
    (active : ∀ pod ∈ pods, isPodActive pod = true)
    (within : ((filterPodsForMXReplicaType pods rtype).length : Int) ≤ replicas.toInt) :
    replicaCounters mxjob pods rtype replicas = ⟨replicas, 0, 0, 0⟩ := by
  have activeTyped : ∀ pod ∈ filterPodsForMXReplicaType pods rtype, isPodActive pod = true :=
    fun pod member => active pod (List.mem_filter.mp member).1
  have all : filterActivePods (filterPodsForMXReplicaType pods rtype) =
      filterPodsForMXReplicaType pods rtype := List.filter_eq_self.mpr activeTyped
  have succeeded := active_filterPods activeTyped (Or.inl rfl)
  have failed := active_filterPods activeTyped (Or.inr rfl)
  have filled : (if 0 < podDiff pods rtype replicas then
      Int32.ofNat (filterPodsForMXReplicaType pods rtype).length + podDiff pods rtype replicas
      else Int32.ofNat (filterPodsForMXReplicaType pods rtype).length) = replicas := by
    split
    · rw [podDiff]
      grind
    · rename_i enough
      have bounded : Bounded pods rtype replicas := Int.le_trans within (Int.le_max_left _ _)
      have exactly : ((filterPodsForMXReplicaType pods rtype).length : Int) = replicas.toInt :=
        Int.le_antisymm within (Int.not_lt.mp (bounded.podDiff_pos.not.mp enough))
      rw [← Int32.ofInt_eq_ofNat, exactly, Int32.ofInt_toInt]
  simp [replicaCounters, fresh, all, getStatus, succeeded, failed, filled]

/-- Uninitialized and with active pods only, a job has no verdict. -/
theorem undecided_of_active (fresh : checkCondition mxjob.status .initialized = false)
    (given : replicasOf mxjob .worker = some replicas) (positive : 0 < replicas)
    (active : ∀ pod ∈ pods, isPodActive pod = true) : ¬ Decided mxjob pods := by
  have typed (rtype : MXReplicaType) : ∀ pod ∈ filterPodsForMXReplicaType pods rtype,
      isPodActive pod = true := fun pod member => active pod (List.mem_filter.mp member).1
  rintro (⟨count, counted, done⟩ | ⟨rtype, count, _, lost⟩)
  · obtain rfl : replicas = count := Option.some.inj (given.symm.trans counted)
    rw [getStatus, active_filterPods (typed .worker) (Or.inl rfl)] at done
    have none : replicas = 0 := by simpa using done
    exact absurd positive (by simp [none])
  · simp [Loses, replicaCounters, getStatus, active_filterPods (typed rtype) (Or.inr rfl),
      fresh] at lost

end Counters

/-! ### Passes that find every replica active -/

section Passes

variable {now : Nat → Time} {name : String} {js : MXJobStatus} {rtype : MXReplicaType}
  {replicas : Int32} {mxjob : MXJob} {pods : List Pod}

theorem setFailed_calm : setFailed now name js 0 0 = js :=
  if_neg (by simp)

theorem judgeStatus_calm (other : rtype ≠ .worker) :
    judgeStatus now name js rtype ⟨replicas, 0, 0, 0⟩ replicas = js := by
  rw [judgeStatus, if_neg other]
  exact setFailed_calm

/-- The worker pass adds the Running condition. -/
theorem judgeStatus_worker (positive : 0 < replicas)
    (absent : ∀ state ∈ conditionStates js, state.1 ≠ .running) :
    conditionStates (judgeStatus now name js .worker ⟨replicas, 0, 0, 0⟩ replicas) =
      conditionStates js ++ [(.running, .isTrue)] := by
  have started : conditionStates (setStartTime now js replicas replicas) = conditionStates js := by
    unfold setStartTime
    split <;> rfl
  have pending : replicas - 0 ≠ 0 := by
    rw [Int32.sub_zero]
    rintro rfl
    exact absurd positive (by decide)
  rw [judgeStatus, if_pos rfl, setSucceeded_running pending, setFailed_calm, setRunning,
    if_pos positive, conditionStates_update (started ▸ absent), started]

variable (given : replicasOf mxjob rtype = some replicas)
  (counted : replicaCounters mxjob pods rtype replicas = ⟨replicas, 0, 0, 0⟩)

include given counted

theorem passFor_calm (other : rtype ≠ .worker) :
    conditionStates (passFor now mxjob pods rtype).status = conditionStates mxjob.status := by
  rw [passFor, given]
  simp only [replicaPass, counted, judgeStatus_calm other, conditionStates,
    updateMXReplicaStatuses_conditions]

theorem passFor_worker (isWorker : rtype = .worker) (positive : 0 < replicas)
    (absent : ∀ state ∈ conditionStates mxjob.status, state.1 ≠ .running) :
    conditionStates (passFor now mxjob pods rtype).status =
      conditionStates mxjob.status ++ [(.running, .isTrue)] := by
  subst isWorker
  have same : conditionStates (updateMXReplicaStatuses mxjob .worker ⟨replicas, 0, 0, 0⟩).status =
      conditionStates mxjob.status := by
    rw [conditionStates, updateMXReplicaStatuses_conditions, conditionStates]
  rw [passFor, given]
  simp only [replicaPass, counted]
  rw [judgeStatus_worker positive (same ▸ absent), same]

end Passes

/-! ### The first conclusion -/

section First

variable {mxjob job after : MXJob} {pods : List Pod} {replicas : MXReplicaType → Int32}
  {trace : List Call}

theorem CreatedAs.initial (created : CreatedAs mxjob job) (empty : mxjob.status = .empty) :
    conditionStates job.status = [(.created, .isTrue)] := by
  cases created with
  | already created =>
      rw [empty] at created
      cases created
  | now fresh now =>
      show conditionStates (updateMXJobConditions _ _ mxjob.status _ _ _) = _
      rw [empty]
      exact conditionStates_update (by simp [conditionStates, MXJobStatus.empty])

/-- A reconciliation that finds no worker ended, and no more than the wanted
ones, records a start time. -/
theorem Conclusion.started_of_active {wanted : Int32} (conclusion : Conclusion job pods after trace)
    (fresh : checkCondition job.status .initialized = false)
    (given : replicasOf job .worker = some wanted) (active : ∀ pod ∈ pods, isPodActive pod = true)
    (within : ((filterPodsForMXReplicaType pods .worker).length : Int) ≤ wanted.toInt) :
    after.status.startTime ≠ none := by
  obtain ⟨now, marked, marks, finishes⟩ := conclusion.outcome
  have served : SamePass job
      (passFor (now .server) (passFor (now .scheduler) job pods .scheduler) pods .server) :=
    passFor_samePass.trans passFor_samePass
  have same : after.status.startTime = marked.status.startTime := by
    rw [finishes.frame]
  rw [same, marks.startTime]
  refine passFor_started ((served.statusOnly.replicasOf_eq _).trans given) ?_
  rw [served.replicaCounters_eq, replicaCounters_active fresh active within]

/-- What every reconciliation of a new job records once it comes to an end. -/
structure InitialStatus (replicas : MXReplicaType → Int32) (after : MXJob) : Prop where
  counters : ∀ rtype, getMXReplicaStatus after rtype = some ⟨replicas rtype, 0, 0, 0⟩
  conditions : conditionStates after.status =
    [(.created, .isTrue), (.running, .isTrue), (.initialized, .isTrue)]
  started : after.status.startTime ≠ none

theorem InitialStatus.unfinished (initial : InitialStatus replicas after) :
    isJobFinished after.status = false := by
  rw [isJobFinished_states, initial.conditions]
  rfl

theorem Conclusion.initial (conclusion : Conclusion job pods after trace)
    (created : CreatedAs mxjob job) (empty : mxjob.status = .empty)
    (given : ∀ rtype, replicasOf mxjob rtype = some (replicas rtype))
    (positive : 0 < replicas .worker) (active : ∀ pod ∈ pods, isPodActive pod = true)
    (within : ∀ rtype, ((filterPodsForMXReplicaType pods rtype).length : Int) ≤
      (replicas rtype).toInt) : InitialStatus replicas after := by
  have states := created.initial empty
  have fresh : checkCondition job.status .initialized = false :=
    checkCondition_eq_false (by simp [states])
  have own (rtype : MXReplicaType) : replicasOf job rtype = some (replicas rtype) :=
    (created.samePass.statusOnly.replicasOf_eq rtype).trans (given rtype)
  have counted (rtype : MXReplicaType) : replicaCounters job pods rtype (replicas rtype) =
      ⟨replicas rtype, 0, 0, 0⟩ := replicaCounters_active fresh active (within rtype)
  have started := conclusion.started_of_active fresh (own .worker) active (within .worker)
  obtain ⟨now, marked, marks, finishes⟩ := conclusion.outcome
  -- the three passes in their order; only the last one adds a condition
  have scheduled : SamePass job (passFor (now .scheduler) job pods .scheduler) := passFor_samePass
  have served : SamePass job
      (passFor (now .server) (passFor (now .scheduler) job pods .scheduler) pods .server) :=
    scheduled.trans passFor_samePass
  have passes : conditionStates (replicaPasses now job pods).status =
      [(.created, .isTrue), (.running, .isTrue)] := by
    have before : conditionStates (passFor (now .server)
        (passFor (now .scheduler) job pods .scheduler) pods .server).status =
        [(.created, .isTrue)] := by
      rw [passFor_calm ((scheduled.statusOnly.replicasOf_eq _).trans (own .server))
          (scheduled.replicaCounters_eq.trans (counted .server)) (by simp),
        passFor_calm (own .scheduler) (counted .scheduler) (by simp), states]
    rw [replicaPasses, passFor_worker ((served.statusOnly.replicasOf_eq _).trans (own .worker))
      (served.replicaCounters_eq.trans (counted .worker)) rfl positive (by simp [before]), before]
    rfl
  have conditions : conditionStates marked.status =
      [(.created, .isTrue), (.running, .isTrue), (.initialized, .isTrue)] := by
    cases marks with
    | already initialized =>
        rw [checkCondition_eq_false (by simp [passes])] at initialized
        cases initialized
    | now _ now =>
        show conditionStates (updateMXJobConditions _ _ _ _ _ _) = _
        rw [conditionStates_update (by simp [passes]), passes]
        rfl
  have ended : after = marked := by
    cases finishes with
    | running => rfl
    | finished finished =>
        rw [isJobFinished_states, conditions] at finished
        cases finished
  subst ended
  refine ⟨fun rtype => ?_, conditions, started⟩
  rw [marks.counters, replicaPasses_counters, own rtype]
  exact congrArg some (counted rtype)

end First

end MXNetOperator.Mx
