import MXNetOperator.Cluster.System

/-!
Contract: replica arithmetic over the integers.

The source subtracts pod counts from the replica count in `int32`.  A negative
count is not excluded by the schema, and below it there is room for few pods
only: the subtraction is the mathematical one exactly as long as it does not
fall below the least `int32`.  Then a pass creates, or reports as gone, exactly
the pods that are missing; beyond it pods are missing that nobody wants.
-/

namespace MXNetOperator.Property

open MXNetOperator.Kube MXNetOperator.Api MXNetOperator.Interaction MXNetOperator.Mx
  MXNetOperator.Cluster

section Counts

variable {mxjob after : MXJob} {pods : List Pod} {rtype : MXReplicaType} {spec : MXReplicaSpec}
  {replicas : Int32} {trace : List Call}

/-- The pods missing from a type. -/
def missingPods (pods : List Pod) (rtype : MXReplicaType) (replicas : Int32) : Int :=
  max 0 (replicas.toInt - (filterPodsForMXReplicaType pods rtype).length)

/-- The difference of replicas and pods fits into `int32`. -/
def HasRoom (pods : List Pod) (rtype : MXReplicaType) (replicas : Int32) : Prop :=
  ((filterPodsForMXReplicaType pods rtype).length : Int) ≤ replicas.toInt + 2 ^ 31

theorem HasRoom.podDiff_toInt (room : HasRoom pods rtype replicas) :
    (podDiff pods rtype replicas).toInt =
      replicas.toInt - (filterPodsForMXReplicaType pods rtype).length :=
  diff_toInt_of_room room

theorem HasRoom.podDiff_pos (room : HasRoom pods rtype replicas) :
    0 < podDiff pods rtype replicas ↔
      ((filterPodsForMXReplicaType pods rtype).length : Int) < replicas.toInt := by
  rw [Int32.lt_iff_toInt_lt, room.podDiff_toInt, Int32.toInt_zero]
  omega

/-- `active += diff`, which runs only if pods are missing. -/
theorem HasRoom.active_toInt (room : HasRoom pods rtype replicas)
    (short : 0 < podDiff pods rtype replicas) :
    (Int32.ofNat (filterActivePods (filterPodsForMXReplicaType pods rtype)).length +
        podDiff pods rtype replicas).toInt =
      (filterActivePods (filterPodsForMXReplicaType pods rtype)).length +
        (replicas.toInt - (filterPodsForMXReplicaType pods rtype).length) := by
  have fewer : (filterActivePods (filterPodsForMXReplicaType pods rtype)).length ≤
      (filterPodsForMXReplicaType pods rtype).length := List.length_filter_le _ _
  have missing := room.podDiff_pos.mp short
  have upper := Int32.toInt_lt replicas
  rw [Int32.toInt_add, room.podDiff_toInt, Int32.toInt_ofNat_of_lt (by omega),
    Int.bmod_eq_of_le] <;> omega

/-- `expected := replicas - status.Succeeded`. -/
theorem HasRoom.expected_toInt (room : HasRoom pods rtype replicas) :
    (replicas - (getStatus (filterPodsForMXReplicaType pods rtype)).1).toInt =
      replicas.toInt - filterPods (filterPodsForMXReplicaType pods rtype) .succeeded := by
  have fewer := filterPods_le (filterPodsForMXReplicaType pods rtype) .succeeded
  unfold HasRoom at room
  exact diff_toInt_of_room (by omega)

theorem HasRoom.neededPods_eq (room : HasRoom pods rtype replicas)
    (fresh : checkCondition mxjob.status .initialized = false) :
    (neededPods mxjob pods rtype replicas : Int) = missingPods pods rtype replicas := by
  unfold neededPods missingPods
  have exact := room.podDiff_toInt
  by_cases short : 0 < podDiff pods rtype replicas
  · have positive := room.podDiff_pos.mp short
    rw [if_pos ⟨short, fresh⟩]
    omega
  · have enough := mt room.podDiff_pos.mpr short
    rw [if_neg fun both => short both.1]
    omega

theorem neededPods_initialized (initialized : checkCondition mxjob.status .initialized = true) :
    neededPods mxjob pods rtype replicas = 0 := by
  rw [neededPods, if_neg]
  rintro ⟨_, fresh⟩
  rw [initialized] at fresh
  cases fresh

theorem HasRoom.neededPods_enough (room : HasRoom pods rtype replicas)
    (enough : replicas.toInt ≤ (filterPodsForMXReplicaType pods rtype).length) :
    neededPods mxjob pods rtype replicas = 0 := by
  rw [neededPods, if_neg]
  rintro ⟨short, _⟩
  have missing := room.podDiff_pos.mp short
  omega

/-- The Gone counter is the missing pods of an initialized job. -/
theorem HasRoom.gone_toInt (room : HasRoom pods rtype replicas) :
    (replicaCounters mxjob pods rtype replicas).gone.toInt =
      if checkCondition mxjob.status .initialized = true then missingPods pods rtype replicas
      else 0 := by
  have exact := room.podDiff_toInt
  have positive := room.podDiff_pos
  simp only [replicaCounters, missingPods]
  by_cases initialized : checkCondition mxjob.status .initialized = true
  · rw [if_pos initialized]
    by_cases short : 0 < podDiff pods rtype replicas
    · have missing := positive.mp short
      rw [if_pos ⟨short, initialized⟩]
      omega
    · have enough := mt positive.mpr short
      rw [if_neg fun both => short both.1, Int32.toInt_zero]
      omega
  · rw [if_neg initialized, if_neg fun both => initialized both.2, Int32.toInt_zero]

/-! ### Passes -/

/-- A pass that ends, with or without error, has issued the creations it
needed. -/
theorem createCount_of_error {cause : GoError} (given : spec.replicas = some replicas)
    (aborted : (reconcilePods mxjob pods rtype spec).Aborts trace (.error cause)) :
    createCount rtype trace = neededPods mxjob pods rtype replicas := by
  rcases Nat.eq_zero_or_pos (neededPods mxjob pods rtype replicas) with idle | busy
  · rw [reconcilePods_idle given idle] at aborted
    simp [Program.aborts_bind] at aborted
  · rw [reconcilePods_busy given busy] at aborted
    simp only [Program.aborts_bind, aborts_failOn, aborts_ask, Program.aborts_pure, and_false,
      exists_false, or_false] at aborted
    rcases aborted with panicking | ⟨errors, creating, _, rfl, created, rfl, _⟩
    · cases (createPods_aborts panicking).2.1
    · rw [List.append_nil, (createPods_returns created).1 rtype, if_pos rfl]

theorem createCount_of_returns (given : spec.replicas = some replicas)
    (returned : (reconcilePods mxjob pods rtype spec).Returns trace after) :
    createCount rtype trace = neededPods mxjob pods rtype replicas ∧
      getMXReplicaStatus after rtype = some (replicaCounters mxjob pods rtype replicas) := by
  obtain ⟨count, now, creating, present, rfl, all, rfl⟩ := reconcilePods_returns returned
  obtain rfl := Option.some.inj (given.symm.trans present)
  have quiet : createCount rtype [(⟨.now, now⟩ : Call)] = 0 := rfl
  refine ⟨?_, ?_⟩
  · rw [createCount_append, all.counts, if_pos rfl, quiet, Nat.add_zero]
  · exact (replicaPass_counters rtype).trans getMXReplicaStatus_update_same

/-- A pass that needs no pod issues no creation. -/
theorem no_creation (given : spec.replicas = some replicas)
    (idle : neededPods mxjob pods rtype replicas = 0) {pod : PodRequest} :
    ¬ (reconcilePods mxjob pods rtype spec).Issues trace (.createPod pod) := by
  intro issued
  obtain ⟨count, present, _, shape⟩ := reconcilePods_issues issued
  obtain rfl := Option.some.inj (given.symm.trans present)
  rcases shape with ⟨busy, _⟩ | ⟨impossible, _⟩
  · omega
  · cases impossible

/-- A pass that needs a pod begins with its creation. -/
theorem creation_issued {request : Request} (given : spec.replicas = some replicas)
    (busy : 0 < neededPods mxjob pods rtype replicas)
    (built : (createNewPod (initializeMXReplicaStatuses mxjob rtype) rtype spec).Issues trace
      request) : (reconcilePods mxjob pods rtype spec).Issues trace request := by
  rw [reconcilePods_busy given busy]
  refine Program.issues_bind.mpr (Or.inl ?_)
  cases needed : neededPods mxjob pods rtype replicas with
  | zero => omega
  | succ count => exact Program.issues_bind.mpr (Or.inl built)

/-- The arithmetic of a pass is that of the integers. -/
structure ExactPass (mxjob : MXJob) (pods : List Pod) (rtype : MXReplicaType)
    (spec : MXReplicaSpec) (replicas : Int32) : Prop where
  diff : (podDiff pods rtype replicas).toInt =
    replicas.toInt - (filterPodsForMXReplicaType pods rtype).length
  active : 0 < podDiff pods rtype replicas →
    (Int32.ofNat (filterActivePods (filterPodsForMXReplicaType pods rtype)).length +
        podDiff pods rtype replicas).toInt =
      (filterActivePods (filterPodsForMXReplicaType pods rtype)).length +
        (replicas.toInt - (filterPodsForMXReplicaType pods rtype).length)
  expected : (replicas - (getStatus (filterPodsForMXReplicaType pods rtype)).1).toInt =
    replicas.toInt - filterPods (filterPodsForMXReplicaType pods rtype) .succeeded
  /-- Before initialization exactly the missing pods are created. -/
  created : checkCondition mxjob.status .initialized = false →
    (∀ trace after, (reconcilePods mxjob pods rtype spec).Returns trace after →
      (createCount rtype trace : Int) = missingPods pods rtype replicas) ∧
    ∀ trace cause, (reconcilePods mxjob pods rtype spec).Aborts trace (.error cause) →
      (createCount rtype trace : Int) = missingPods pods rtype replicas
  /-- After it none is created and the missing ones are reported. -/
  gone : checkCondition mxjob.status .initialized = true →
    (∀ trace pod, ¬ (reconcilePods mxjob pods rtype spec).Issues trace (.createPod pod)) ∧
    ∀ trace after, (reconcilePods mxjob pods rtype spec).Returns trace after →
      ∃ status, getMXReplicaStatus after rtype = some status ∧
        status.gone.toInt = missingPods pods rtype replicas
  enough : replicas.toInt ≤ (filterPodsForMXReplicaType pods rtype).length →
    (∀ trace pod, ¬ (reconcilePods mxjob pods rtype spec).Issues trace (.createPod pod)) ∧
    ∀ trace after, (reconcilePods mxjob pods rtype spec).Returns trace after →
      ∃ status, getMXReplicaStatus after rtype = some status ∧ status.gone = 0

theorem HasRoom.exactPass (room : HasRoom pods rtype replicas)
    (given : spec.replicas = some replicas) : ExactPass mxjob pods rtype spec replicas where
  diff := room.podDiff_toInt
  active := room.active_toInt
  expected := room.expected_toInt
  created := by
    intro fresh
    refine ⟨fun trace after returned => ?_, fun trace cause aborted => ?_⟩
    · rw [(createCount_of_returns given returned).1]
      exact room.neededPods_eq fresh
    · rw [createCount_of_error given aborted]
      exact room.neededPods_eq fresh
  gone := by
    intro initialized
    refine ⟨fun trace pod => no_creation given (neededPods_initialized initialized),
      fun trace after returned => ⟨_, (createCount_of_returns given returned).2, ?_⟩⟩
    rw [room.gone_toInt, if_pos initialized]
  enough := by
    intro enough
    refine ⟨fun trace pod => no_creation given (room.neededPods_enough enough),
      fun trace after returned => ⟨_, (createCount_of_returns given returned).2, ?_⟩⟩
    rw [← Int32.toInt_inj, room.gone_toInt, Int32.toInt_zero]
    unfold missingPods
    split <;> omega

/-- Without room the difference wraps to a positive number. -/
theorem podDiff_wrapped (few : pods.length < 2 ^ 31) (cramped : ¬ HasRoom pods rtype replicas) :
    0 < podDiff pods rtype replicas := by
  have fewer : (filterPodsForMXReplicaType pods rtype).length ≤ pods.length :=
    List.length_filter_le _ _
  have lower := Int32.le_toInt replicas
  have upper := Int32.toInt_lt replicas
  unfold HasRoom at cramped
  rw [Int32.lt_iff_toInt_lt, Int32.toInt_zero, podDiff, Int32.toInt_sub,
    Int32.toInt_ofNat_of_lt (by omega), Int.bmod_def]
  omega

/-- Replica arithmetic is exact if and only if the difference fits.  Where it
does not, a pass finds pods missing although there are enough: it sets out to
create them before initialization and reports them as gone after it. -/
theorem arithmetic_exact (given : spec.replicas = some replicas) (few : pods.length < 2 ^ 31) :
    (ExactPass mxjob pods rtype spec replicas ↔
      ((filterPodsForMXReplicaType pods rtype).length : Int) ≤ replicas.toInt + 2 ^ 31) ∧
    (¬ ((filterPodsForMXReplicaType pods rtype).length : Int) ≤ replicas.toInt + 2 ^ 31 →
      replicas.toInt ≤ (filterPodsForMXReplicaType pods rtype).length ∧
      (checkCondition mxjob.status .initialized = false →
        0 < neededPods mxjob pods rtype replicas) ∧
      (checkCondition mxjob.status .initialized = true →
        ∀ trace after, (reconcilePods mxjob pods rtype spec).Returns trace after →
          ∃ status, getMXReplicaStatus after rtype = some status ∧ 0 < status.gone)) := by
  refine ⟨⟨fun exact => ?_, fun room => HasRoom.exactPass room given⟩, fun cramped => ?_⟩
  · have lower := Int32.le_toInt (podDiff pods rtype replicas)
    rw [exact.diff] at lower
    omega
  · have wrapped := podDiff_wrapped few cramped
    have positive := Int32.lt_iff_toInt_lt.mp wrapped
    rw [Int32.toInt_zero] at positive
    have upper := Int32.toInt_lt replicas
    refine ⟨by omega, fun fresh => ?_, fun initialized trace after returned =>
      ⟨_, (createCount_of_returns given returned).2, ?_⟩⟩
    · rw [neededPods, if_pos ⟨wrapped, fresh⟩]
      omega
    · simp only [replicaCounters]
      rwa [if_pos (show _ ∧ checkCondition mxjob.status .initialized = true from
        ⟨wrapped, initialized⟩)]

end Counts

/-- A pass of `sampleJob` with one replica wanted and none there. -/
theorem arithmetic_exact_sampleJob :
    missingPods [] .worker 1 = 1 ∧
      ∀ trace after, (reconcilePods sampleJob [] .worker (sampleReplica 1)).Returns trace after →
        (createCount .worker trace : Int) = 1 := by
  have missing : missingPods [] .worker 1 = 1 := by decide
  refine ⟨missing, fun trace after returned => ?_⟩
  rw [← missing]
  exact (((arithmetic_exact rfl (by decide)).1.mpr (by decide)).created rfl).1 trace after returned

/-- The least replica count the schema admits. -/
def leastReplicas : Int32 := -2147483648

/-- A worker of `sampleJob` from elsewhere. -/
def strayWorker : Pod where
  name := "stray"
  ns := "default"
  uid := 9
  labels := genLabels sampleJob (some .worker)
  ownerReferences := [newControllerRef sampleJob]
  deletionTimestamp := none
  containers := []
  phase := .running

/-- With the least count and one pod the difference wraps: the pass sets out to
create `2 ^ 31 - 1` pods although fewer than none are wanted. -/
theorem arithmetic_wraps :
    (leastReplicas.toInt = -2 ^ 31 ∧
      (filterPodsForMXReplicaType [strayWorker] .worker).length = 1) ∧
    (podDiff [strayWorker] .worker leastReplicas).toInt = 2 ^ 31 - 1 ∧
    neededPods sampleJob [strayWorker] .worker leastReplicas = 2 ^ 31 - 1 ∧
    ∃ trace pod, (reconcilePods sampleJob [strayWorker] .worker
      (sampleReplica leastReplicas)).Issues trace (.createPod pod) := by
  have needed : neededPods sampleJob [strayWorker] .worker leastReplicas = 2 ^ 31 - 1 := by
    decide +kernel
  refine ⟨⟨by decide, by decide +kernel⟩, by decide +kernel, needed, ?_⟩
  have built := @createNewPod_builds (initializeMXReplicaStatuses sampleJob .worker) .worker
    (sampleReplica leastReplicas) _ _ rfl rfl fun _ => ⟨_, .refl _⟩
  exact ⟨_, _, creation_issued rfl (by rw [needed]; decide) built⟩

end MXNetOperator.Property
