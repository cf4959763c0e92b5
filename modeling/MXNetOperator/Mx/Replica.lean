import MXNetOperator.Mx.Pod

/-!
Contract: the reconciliation of one replica type.

Owns `reconcilePods` with the status functions it uses, and its pure outcome
`replicaPass`: the job a pass without error leaves behind, as a function of the
listed pods.  The effect lemmas say what a pass does to each condition, to the
two times and to the counters of every replica type.
-/

namespace MXNetOperator.Mx

open MXNetOperator.Kube MXNetOperator.Api MXNetOperator.Interaction

/-! ### Source functions -/

/-- `getMXReplicaStatus`. -/
def getMXReplicaStatus (mxjob : MXJob) : MXReplicaType → Option MXReplicaStatus
  | .scheduler => mxjob.status.replicaStatuses.scheduler
  | .server => mxjob.status.replicaStatuses.server
  | .worker => mxjob.status.replicaStatuses.worker

/-- `updateMXReplicaStatuses`. -/
def updateMXReplicaStatuses (mxjob : MXJob) (rtype : MXReplicaType)
    (replicaStatus : MXReplicaStatus) : MXJob :=
  let statuses := mxjob.status.replicaStatuses
  let updated : MXReplicaStatuses :=
    match rtype with
    | .scheduler => { statuses with scheduler := some replicaStatus }
    | .server => { statuses with server := some replicaStatus }
    | .worker => { statuses with worker := some replicaStatus }
  { mxjob with status := { mxjob.status with replicaStatuses := updated } }

def initializeMXReplicaStatuses (mxjob : MXJob) (rtype : MXReplicaType) : MXJob :=
  updateMXReplicaStatuses mxjob rtype .zero

/-- `filterPods`: the number of pods in a phase. -/
def filterPods (pods : List Pod) (phase : PodPhase) : Nat :=
  pods.countP fun pod => phase == pod.phase

/-- `getStatus`: succeeded and failed pods. -/
def getStatus (pods : List Pod) : Int32 × Int32 :=
  (Int32.ofNat (filterPods pods .succeeded), Int32.ofNat (filterPods pods .failed))

/-! The blocks of `updateMXJobStatus`, each with its own clock readings. -/

/-- All workers are running, set the start time. -/
def setStartTime (now : Nat → Time) (js : MXJobStatus) (running replicas : Int32) :
    MXJobStatus :=
  if running = replicas ∧ js.startTime = none then
    { js with startTime := some (now 0) }
  else
    js

/-- Some workers are still running, leave a running condition. -/
def setRunning (now : Nat → Time) (name : String) (js : MXJobStatus) (running : Int32) :
    MXJobStatus :=
  if 0 < running then
    updateMXJobConditions (now 1) (now 2) js .running reasonRunning
      ("MXJob " ++ name ++ " is running.")
  else
    js

/-- All workers are succeeded, leave a succeeded condition and reset the failed
one. -/
def setSucceeded (now : Nat → Time) (name : String) (js : MXJobStatus) (expected : Int32) :
    MXJobStatus :=
  if expected = 0 then
    let completed :=
      if js.completionTime = none then { js with completionTime := some (now 3) } else js
    let succeeded := updateMXJobConditions (now 4) (now 5) completed .succeeded reasonSucceeded
      ("MXJob " ++ name ++ " is successfully completed.")
    updateMXJobFalseConditions (now 6) succeeded .failed reasonFailed
      ("MXJob " ++ name ++ " is not failed.")
  else
    js

/-- Some replicas are failed or gone, leave a failed condition unless the job
has succeeded. -/
def setFailed (now : Nat → Time) (name : String) (js : MXJobStatus) (failed gone : Int32) :
    MXJobStatus :=
  if (0 < failed ∨ 0 < gone) ∧ checkCondition js .succeeded = false then
    updateMXJobConditions (now 7) (now 8) js .failed reasonFailed
      ("MXJob " ++ name ++ " is failed.")
  else
    js

/-- The body of `updateMXJobStatus` once the replica status is read. -/
def judgeStatus (now : Nat → Time) (name : String) (js : MXJobStatus) (rtype : MXReplicaType)
    (status : MXReplicaStatus) (replicas : Int32) : MXJobStatus :=
  let judged :=
    if rtype = .worker then
      setSucceeded now name
        (setRunning now name (setStartTime now js status.active replicas) status.active)
        (replicas - status.succeeded)
    else
      js
  setFailed now name judged status.failed status.gone

/-- `updateMXJobStatus`; `none` is a nil replica status. -/
def updateMXJobStatus (now : Nat → Time) (mxjob : MXJob) (rtype : MXReplicaType)
    (replicas : Int32) : Option MXJob := do
  let status ← getMXReplicaStatus mxjob rtype
  some { mxjob with
    status := judgeStatus now mxjob.name mxjob.status rtype status replicas }

/-- The part of `reconcilePods` under `diff > 0`: the number of active and of
gone pods. -/
def replenishPods (mxjob : MXJob) (rtype : MXReplicaType) (spec : MXReplicaSpec)
    (diff active gone : Int32) : Go (Int32 × Int32) :=
  if 0 < diff then
    if checkCondition mxjob.status .initialized then
      -- after initialization a missing pod is a deleted pod
      pure (active, diff)
    else do
      let errors ← createPods mxjob rtype spec diff.toInt.toNat
      failOn errors.head?
      pure (active + diff - Int32.ofNat errors.length, gone)
  else
    pure (active, gone)

def reconcilePods (mxjob : MXJob) (pods : List Pod) (rtype : MXReplicaType)
    (spec : MXReplicaSpec) : Go MXJob := do
  let pods := filterPodsForMXReplicaType pods rtype
  let replicas ← deref spec.replicas
  let diff := replicas - Int32.ofNat pods.length
  let active := Int32.ofNat (filterActivePods pods).length
  let mxjob := initializeMXReplicaStatuses mxjob rtype
  let status ← deref (getMXReplicaStatus mxjob rtype)
  let (active, gone) ← replenishPods mxjob rtype spec diff active status.gone
  let (succeeded, failed) := getStatus pods
  let mxjob := updateMXReplicaStatuses mxjob rtype ⟨active, succeeded, failed, gone⟩
  let now ← ask .now
  deref (updateMXJobStatus now mxjob rtype replicas)

/-! ### Replica status records -/

section Records

variable {mxjob : MXJob} {rtype other : MXReplicaType} {status : MXReplicaStatus}

@[simp] theorem getMXReplicaStatus_update_same :
    getMXReplicaStatus (updateMXReplicaStatuses mxjob rtype status) rtype = some status := by
  cases rtype <;> rfl

theorem getMXReplicaStatus_update_other (different : other ≠ rtype) :
    getMXReplicaStatus (updateMXReplicaStatuses mxjob rtype status) other =
      getMXReplicaStatus mxjob other := by
  cases rtype <;> cases other <;> first | rfl | exact absurd rfl different

@[simp] theorem updateMXReplicaStatuses_conditions :
    (updateMXReplicaStatuses mxjob rtype status).status.conditions =
      mxjob.status.conditions := rfl

@[simp] theorem updateMXReplicaStatuses_twice (first : MXReplicaStatus) :
    updateMXReplicaStatuses (updateMXReplicaStatuses mxjob rtype first) rtype status =
      updateMXReplicaStatuses mxjob rtype status := by
  cases rtype <;> rfl

end Records

/-! ### The outcome of a pass -/

/-- `replicas - int32(len(pods))` for the pods of the type. -/
def podDiff (pods : List Pod) (rtype : MXReplicaType) (replicas : Int32) : Int32 :=
  replicas - Int32.ofNat (filterPodsForMXReplicaType pods rtype).length

/-- The number of pods a pass sets out to create. -/
def neededPods (mxjob : MXJob) (pods : List Pod) (rtype : MXReplicaType)
    (replicas : Int32) : Nat :=
  if 0 < podDiff pods rtype replicas ∧ checkCondition mxjob.status .initialized = false then
    (podDiff pods rtype replicas).toInt.toNat
  else
    0

/-- The counters a pass without error records. -/
def replicaCounters (mxjob : MXJob) (pods : List Pod) (rtype : MXReplicaType)
    (replicas : Int32) : MXReplicaStatus where
  active :=
    let active := Int32.ofNat (filterActivePods (filterPodsForMXReplicaType pods rtype)).length
    if 0 < podDiff pods rtype replicas ∧ checkCondition mxjob.status .initialized = false then
      active + podDiff pods rtype replicas
    else
      active
  succeeded := (getStatus (filterPodsForMXReplicaType pods rtype)).1
  failed := (getStatus (filterPodsForMXReplicaType pods rtype)).2
  gone :=
    if 0 < podDiff pods rtype replicas ∧ checkCondition mxjob.status .initialized = true then
      podDiff pods rtype replicas
    else
      0

/-- The job after a pass without error. -/
def replicaPass (now : Nat → Time) (mxjob : MXJob) (pods : List Pod) (rtype : MXReplicaType)
    (replicas : Int32) : MXJob :=
  let counters := replicaCounters mxjob pods rtype replicas
  let counted := updateMXReplicaStatuses mxjob rtype counters
  { mxjob with
    status := judgeStatus now mxjob.name counted.status rtype counters replicas }

/-- `reconcilePods` as creation followed by the pure recording of the pass. -/
theorem reconcilePods_eq (mxjob : MXJob) (pods : List Pod) (rtype : MXReplicaType)
    (spec : MXReplicaSpec) :
    reconcilePods mxjob pods rtype spec = (do
      let replicas ← deref spec.replicas
      let counts ← replenishPods (initializeMXReplicaStatuses mxjob rtype) rtype spec
        (podDiff pods rtype replicas)
        (Int32.ofNat (filterActivePods (filterPodsForMXReplicaType pods rtype)).length) 0
      let now ← ask .now
      let counters : MXReplicaStatus :=
        ⟨counts.1, (getStatus (filterPodsForMXReplicaType pods rtype)).1,
          (getStatus (filterPodsForMXReplicaType pods rtype)).2, counts.2⟩
      pure { mxjob with
        status := judgeStatus now mxjob.name
          (updateMXReplicaStatuses mxjob rtype counters).status rtype counters replicas }) := by
  unfold reconcilePods initializeMXReplicaStatuses updateMXJobStatus
  simp only [getMXReplicaStatus_update_same, updateMXReplicaStatuses_twice]
  rfl

section Pass

variable {mxjob after : MXJob} {pods : List Pod} {rtype : MXReplicaType} {spec : MXReplicaSpec}
  {replicas : Int32} {trace : List Call}

theorem neededPods_pos (short : 0 < podDiff pods rtype replicas)
    (fresh : checkCondition mxjob.status .initialized = false) :
    0 < neededPods mxjob pods rtype replicas := by
  have positive := Int32.lt_iff_toInt_lt.mp short
  rw [Int32.toInt_zero] at positive
  rw [neededPods, if_pos ⟨short, fresh⟩]
  omega

theorem neededPods_pos_iff : 0 < neededPods mxjob pods rtype replicas ↔
    0 < podDiff pods rtype replicas ∧ checkCondition mxjob.status .initialized = false := by
  refine ⟨?_, fun holds => neededPods_pos holds.1 holds.2⟩
  intro positive
  by_contra other
  rw [neededPods, if_neg other] at positive
  exact absurd positive (Nat.lt_irrefl 0)

/-- The pass when no pod is needed. -/
theorem reconcilePods_idle (present : spec.replicas = some replicas)
    (idle : neededPods mxjob pods rtype replicas = 0) :
    reconcilePods mxjob pods rtype spec = (do
      let now ← ask .now
      pure (replicaPass now mxjob pods rtype replicas)) := by
  rw [reconcilePods_eq, present]
  have settled : ¬ (0 < podDiff pods rtype replicas ∧
      checkCondition mxjob.status .initialized = false) := by
    rw [← neededPods_pos_iff, idle]
    exact Nat.lt_irrefl 0
  have counts : ∀ active : Int32,
      replenishPods (initializeMXReplicaStatuses mxjob rtype) rtype spec
        (podDiff pods rtype replicas) active 0 =
      pure (active, (replicaCounters mxjob pods rtype replicas).gone) := by
    intro active
    by_cases short : 0 < podDiff pods rtype replicas
    · have initialized : checkCondition mxjob.status .initialized = true := by
        simpa [short] using settled
      have still :
          checkCondition (initializeMXReplicaStatuses mxjob rtype).status .initialized = true :=
        initialized
      rw [replenishPods, if_pos short, if_pos still]
      simp only [replicaCounters, if_pos (And.intro short initialized)]
    · rw [replenishPods, if_neg short]
      simp only [replicaCounters, short, false_and, ↓reduceIte]
  simp only [deref_some, Program.done_bind, counts]
  simp only [replicaPass, replicaCounters, if_neg settled]

/-- The pass when pods are needed: creation, and the outcome if none failed. -/
theorem reconcilePods_busy (present : spec.replicas = some replicas)
    (busy : 0 < neededPods mxjob pods rtype replicas) :
    reconcilePods mxjob pods rtype spec = (do
      let errors ← createPods (initializeMXReplicaStatuses mxjob rtype) rtype spec
        (neededPods mxjob pods rtype replicas)
      failOn errors.head?
      let now ← ask .now
      pure { mxjob with
        status := judgeStatus now mxjob.name
          (updateMXReplicaStatuses mxjob rtype
            { replicaCounters mxjob pods rtype replicas with
              active := (replicaCounters mxjob pods rtype replicas).active -
                Int32.ofNat errors.length }).status rtype
            { replicaCounters mxjob pods rtype replicas with
              active := (replicaCounters mxjob pods rtype replicas).active -
                Int32.ofNat errors.length } replicas }) := by
  obtain ⟨short, fresh⟩ := neededPods_pos_iff.mp busy
  have needed : neededPods mxjob pods rtype replicas =
      (podDiff pods rtype replicas).toInt.toNat := by
    rw [neededPods, if_pos ⟨short, fresh⟩]
  have stillFresh :
      checkCondition (initializeMXReplicaStatuses mxjob rtype).status .initialized = false := fresh
  rw [reconcilePods_eq, present, needed]
  simp only [replicaCounters, replenishPods, stillFresh, Bool.false_eq_true, ↓reduceIte,
    deref_some, short, fresh, and_self, and_false, Program.bind_bind, Program.done_bind]

/-- The exchanges by which a pass created what it needed. -/
structure CreatedAll (mxjob : MXJob) (pods : List Pod) (rtype : MXReplicaType)
    (replicas : Int32) (trace : List Call) : Prop where
  counts : ∀ other, createCount other trace =
    if other = rtype then neededPods mxjob pods rtype replicas else 0
  calls : ∀ call ∈ trace, CreationCall mxjob rtype call
  accepted : ∀ call ∈ trace, acceptedCreate call

theorem createdAll_nil (idle : neededPods mxjob pods rtype replicas = 0) :
    CreatedAll mxjob pods rtype replicas [] where
  counts := by
    intro other
    simp [createCount, idle]
  calls := by simp
  accepted := by simp

theorem createdAll_of_returns
    (created : (createPods (initializeMXReplicaStatuses mxjob rtype) rtype spec
      (neededPods mxjob pods rtype replicas)).Returns trace []) :
    CreatedAll mxjob pods rtype replicas trace := by
  obtain ⟨counts, calls, accepted, _⟩ := createPods_returns created
  exact ⟨counts, fun call member => (calls call member).of_meta rfl, accepted rfl⟩

theorem replicas_of_returns (returned : (reconcilePods mxjob pods rtype spec).Returns trace after) :
    ∃ replicas, spec.replicas = some replicas := by
  rw [reconcilePods_eq] at returned
  simp only [Program.returns_bind, returns_deref] at returned
  obtain ⟨replicas, _, _, _, ⟨_, present⟩, _⟩ := returned
  exact ⟨replicas, present⟩

/-- A pass that returns has created what it needed and read the clock once; its
result is the pure outcome. -/
theorem reconcilePods_returns
    (returned : (reconcilePods mxjob pods rtype spec).Returns trace after) :
    ∃ replicas now creating, spec.replicas = some replicas ∧
      trace = creating ++ [(⟨.now, now⟩ : Call)] ∧
      CreatedAll mxjob pods rtype replicas creating ∧
      after = replicaPass now mxjob pods rtype replicas := by
  obtain ⟨replicas, present⟩ := replicas_of_returns returned
  refine ⟨replicas, ?_⟩
  rcases Nat.eq_zero_or_pos (neededPods mxjob pods rtype replicas) with idle | busy
  · rw [reconcilePods_idle present idle] at returned
    simp only [Program.returns_bind, returns_ask, Program.returns_pure] at returned
    obtain ⟨now, _, _, rfl, rfl, rfl, rfl⟩ := returned
    exact ⟨now, [], present, rfl, createdAll_nil idle, rfl⟩
  · rw [reconcilePods_busy present busy] at returned
    simp only [Program.returns_bind, returns_ask, returns_failOn, Program.returns_pure] at returned
    obtain ⟨errors, creating, _, rfl, created, _, _, _, rfl, ⟨rfl, silent⟩, now, _, _, rfl, rfl,
      rfl, rfl⟩ := returned
    obtain rfl : errors = [] := List.head?_eq_none_iff.mp silent
    refine ⟨now, creating, present, by simp, createdAll_of_returns created, ?_⟩
    simp [replicaPass]

/-- A pass stops early on a missing replica count, on a panic of a creation it
needed, or on a failed creation. -/
theorem reconcilePods_aborts {reason : Abort}
    (aborted : (reconcilePods mxjob pods rtype spec).Aborts trace reason) :
    (reason = .panicked ∧ spec.replicas = none) ∨
      (∃ replicas, spec.replicas = some replicas ∧ reason = .panicked ∧
        0 < neededPods mxjob pods rtype replicas ∧
        (spec.template = none ∨ genMXConfigEnv mxjob rtype = none)) ∨
      ∃ call ∈ trace, failedCall call = true := by
  cases present : spec.replicas with
  | none =>
      rw [reconcilePods_eq, present] at aborted
      simp only [Program.aborts_bind, aborts_deref, returns_deref, reduceCtorEq, and_false,
        false_and, exists_false, or_false] at aborted
      exact Or.inl ⟨aborted.2.2, rfl⟩
  | some replicas =>
      rcases Nat.eq_zero_or_pos (neededPods mxjob pods rtype replicas) with idle | busy
      · rw [reconcilePods_idle present idle] at aborted
        simp [Program.aborts_bind] at aborted
      · rw [reconcilePods_busy present busy] at aborted
        simp only [Program.aborts_bind, aborts_failOn, aborts_ask, Program.aborts_pure, and_false,
          exists_false, or_false] at aborted
        rcases aborted with panicking | ⟨errors, creating, _, rfl, created, _, cause, reported, _⟩
        · obtain ⟨_, panicked, missing⟩ := createPods_aborts panicking
          exact Or.inr (Or.inl ⟨replicas, rfl, panicked, busy, missing⟩)
        · have some : errors ≠ [] := by
            intro empty
            rw [empty] at reported
            cases reported
          obtain ⟨call, member, failed⟩ := (createPods_returns created).2.2.2 some
          exact Or.inr (Or.inr ⟨call, List.mem_append_left _ member, failed⟩)

/-- The requests of a pass: creations of its own type, fewer than needed so
far, and then one clock reading. -/
theorem reconcilePods_issues {request : Request}
    (issued : (reconcilePods mxjob pods rtype spec).Issues trace request) :
    ∃ replicas, spec.replicas = some replicas ∧
      (∀ call ∈ trace, CreationCall mxjob rtype call) ∧
      ((0 < neededPods mxjob pods rtype replicas ∧
        (∀ other, createCount other trace ≤
          if other = rtype then neededPods mxjob pods rtype replicas - 1 else 0) ∧
        ((∃ env, request = .rangeMap env) ∨
          ∃ pod, IsNewPod mxjob rtype pod ∧ request = .createPod pod)) ∨
      (request = .now ∧ CreatedAll mxjob pods rtype replicas trace)) := by
  cases present : spec.replicas with
  | none =>
      rw [reconcilePods_eq, present] at issued
      simp [Program.issues_bind] at issued
  | some replicas =>
      refine ⟨replicas, rfl, ?_⟩
      rcases Nat.eq_zero_or_pos (neededPods mxjob pods rtype replicas) with idle | busy
      · rw [reconcilePods_idle present idle] at issued
        simp only [Program.issues_bind, issues_ask, Program.issues_pure, and_false, exists_false,
          or_false] at issued
        obtain ⟨rfl, rfl⟩ := issued
        exact ⟨by simp, Or.inr ⟨rfl, createdAll_nil idle⟩⟩
      · rw [reconcilePods_busy present busy] at issued
        simp only [Program.issues_bind, issues_failOn, issues_ask, returns_failOn, false_or,
          Program.issues_pure, and_false, exists_false, or_false] at issued
        rcases issued with creating |
          ⟨errors, _, _, rfl, created, _, _, _, rfl, ⟨rfl, silent⟩, rfl, rfl⟩
        · obtain ⟨counts, _, calls, shape⟩ := createPods_issues creating
          refine ⟨fun call member => (calls call member).of_meta rfl, Or.inl ⟨busy, counts, ?_⟩⟩
          rcases shape with order | ⟨pod, isNew, rfl⟩
          · exact Or.inl order
          · exact Or.inr ⟨pod, isNew.of_meta rfl, rfl⟩
        · obtain rfl : errors = [] := List.head?_eq_none_iff.mp silent
          have all := createdAll_of_returns created
          rw [List.append_nil, List.append_nil]
          exact ⟨all.calls, Or.inr ⟨rfl, all⟩⟩

end Pass

/-! ### Effects of a pass on the status -/

section Effects

variable {now : Nat → Time} {name : String} {js : MXJobStatus} {rtype : MXReplicaType}
  {status : MXReplicaStatus} {replicas running expected failed gone : Int32}
  {type : MXJobConditionType}

/-- What an update of the status may touch besides the conditions it sets. -/
structure StatusFrame (before after : MXJobStatus) : Prop where
  unique : UniqueConditions before → UniqueConditions after
  visible : ∀ {condType}, Visible before condType → Visible after condType
  counters : after.replicaStatuses = before.replicaStatuses

theorem StatusFrame.refl : StatusFrame js js := ⟨id, id, rfl⟩

theorem StatusFrame.trans {first second third : MXJobStatus} (left : StatusFrame first second)
    (right : StatusFrame second third) : StatusFrame first third :=
  ⟨fun unique => right.unique (left.unique unique),
    fun visible => right.visible (left.visible visible), right.counters.trans left.counters⟩

theorem setStartTime_frame : StatusFrame js (setStartTime now js running replicas) := by
  unfold setStartTime
  split
  · exact ⟨id, id, rfl⟩
  · exact StatusFrame.refl

@[simp] theorem setStartTime_check :
    checkCondition (setStartTime now js running replicas) type = checkCondition js type := by
  unfold setStartTime
  split <;> rfl

@[simp] theorem setStartTime_completionTime :
    (setStartTime now js running replicas).completionTime = js.completionTime := by
  unfold setStartTime
  split <;> rfl

theorem setRunning_frame : StatusFrame js (setRunning now name js running) := by
  unfold setRunning
  split
  · exact ⟨updateMXJobConditions_unique, updateMXJobConditions_visible,
      updateMXJobConditions_replicaStatuses⟩
  · exact StatusFrame.refl

theorem setRunning_check (other : type ≠ .running) :
    checkCondition (setRunning now name js running) type = checkCondition js type := by
  unfold setRunning
  split
  · exact checkCondition_update_other other
  · rfl

@[simp] theorem setRunning_completionTime :
    (setRunning now name js running).completionTime = js.completionTime := by
  unfold setRunning
  split <;> simp

theorem setSucceeded_frame : StatusFrame js (setSucceeded now name js expected) := by
  unfold setSucceeded
  split
  · refine ⟨fun unique => ?_, fun visible => ?_, ?_⟩
    · apply updateMXJobFalseConditions_unique
      apply updateMXJobConditions_unique
      split <;> exact unique
    · apply updateMXJobFalseConditions_visible
      apply updateMXJobConditions_visible
      split <;> exact visible
    · rw [updateMXJobFalseConditions_frame.1, updateMXJobConditions_replicaStatuses]
      split <;> rfl
  · exact StatusFrame.refl

theorem setSucceeded_succeeded :
    checkCondition (setSucceeded now name js expected) .succeeded =
      (checkCondition js .succeeded || decide (expected = 0)) := by
  unfold setSucceeded
  split
  · rename_i done
    rw [checkCondition_false_other (by decide), checkCondition_update_same]
    simp [done]
  · rename_i pending
    simp [pending]

theorem setSucceeded_failed :
    checkCondition (setSucceeded now name js expected) .failed =
      (checkCondition js .failed && decide (expected ≠ 0)) := by
  unfold setSucceeded
  split
  · rename_i done
    simp [done]
  · rename_i pending
    simp [pending]

theorem setSucceeded_other (notSucceeded : type ≠ .succeeded) (notFailed : type ≠ .failed) :
    checkCondition (setSucceeded now name js expected) type = checkCondition js type := by
  unfold setSucceeded
  split
  · rw [checkCondition_false_other notFailed, checkCondition_update_other notSucceeded]
    split <;> rfl
  · rfl

theorem setSucceeded_completionTime :
    (setSucceeded now name js expected).completionTime.isSome =
      (js.completionTime.isSome || decide (expected = 0)) := by
  unfold setSucceeded
  split
  · rename_i done
    rw [updateMXJobFalseConditions_frame.2.2, updateMXJobConditions_completionTime]
    cases stored : js.completionTime <;> simp [done, stored]
  · rename_i pending
    simp [pending]

theorem setFailed_frame : StatusFrame js (setFailed now name js failed gone) := by
  unfold setFailed
  split
  · exact ⟨updateMXJobConditions_unique, updateMXJobConditions_visible,
      updateMXJobConditions_replicaStatuses⟩
  · exact StatusFrame.refl

theorem setFailed_failed :
    checkCondition (setFailed now name js failed gone) .failed =
      (checkCondition js .failed ||
        (decide (0 < failed ∨ 0 < gone) && !checkCondition js .succeeded)) := by
  unfold setFailed
  split
  · rename_i lost
    simp [lost.1, lost.2]
  · rename_i kept
    cases succeeded : checkCondition js .succeeded
    · have none : ¬ (0 < failed ∨ 0 < gone) := fun lost => kept ⟨lost, succeeded⟩
      simp [none]
    · simp

theorem setFailed_other (notFailed : type ≠ .failed) :
    checkCondition (setFailed now name js failed gone) type = checkCondition js type := by
  unfold setFailed
  split
  · exact checkCondition_update_other notFailed
  · rfl

@[simp] theorem setFailed_completionTime :
    (setFailed now name js failed gone).completionTime = js.completionTime := by
  unfold setFailed
  split <;> simp

/-- The worker pass that finds every worker succeeded. -/
def Completes (rtype : MXReplicaType) (status : MXReplicaStatus) (replicas : Int32) : Prop :=
  rtype = .worker ∧ replicas - status.succeeded = 0

instance : Decidable (Completes rtype status replicas) :=
  inferInstanceAs (Decidable (_ ∧ _))

/-- The counters of a pass that report a failed or a gone pod. -/
def Loses (status : MXReplicaStatus) : Prop :=
  0 < status.failed ∨ 0 < status.gone

instance : Decidable (Loses status) :=
  inferInstanceAs (Decidable (_ ∨ _))

theorem judgeStatus_frame : StatusFrame js (judgeStatus now name js rtype status replicas) := by
  unfold judgeStatus
  refine StatusFrame.trans ?_ setFailed_frame
  split
  · exact (setStartTime_frame.trans setRunning_frame).trans setSucceeded_frame
  · exact StatusFrame.refl

theorem judgeStatus_succeeded :
    checkCondition (judgeStatus now name js rtype status replicas) .succeeded =
      (checkCondition js .succeeded || decide (Completes rtype status replicas)) := by
  unfold judgeStatus Completes
  rw [setFailed_other (by decide)]
  split
  · rename_i worker
    rw [setSucceeded_succeeded, setRunning_check (by decide), setStartTime_check]
    simp [worker]
  · rename_i other
    simp [other]

theorem judgeStatus_failed :
    checkCondition (judgeStatus now name js rtype status replicas) .failed =
      ((checkCondition js .failed || (decide (Loses status) && !checkCondition js .succeeded)) &&
        !decide (Completes rtype status replicas)) := by
  have lost : decide (0 < status.failed ∨ 0 < status.gone) = decide (Loses status) := rfl
  unfold judgeStatus Completes
  rw [setFailed_failed, lost]
  split
  · rename_i worker
    rw [setSucceeded_succeeded, setSucceeded_failed, setRunning_check (by decide),
      setRunning_check (by decide), setStartTime_check, setStartTime_check]
    by_cases done : replicas - status.succeeded = 0 <;> simp [worker, done]
  · rename_i other
    simp [other]

theorem judgeStatus_other (notRunning : type ≠ .running) (notSucceeded : type ≠ .succeeded)
    (notFailed : type ≠ .failed) :
    checkCondition (judgeStatus now name js rtype status replicas) type =
      checkCondition js type := by
  unfold judgeStatus
  rw [setFailed_other notFailed]
  split
  · rw [setSucceeded_other notSucceeded notFailed, setRunning_check notRunning,
      setStartTime_check]
  · rfl

theorem judgeStatus_completionTime :
    (judgeStatus now name js rtype status replicas).completionTime.isSome =
      (js.completionTime.isSome || decide (Completes rtype status replicas)) := by
  unfold judgeStatus Completes
  rw [setFailed_completionTime]
  split
  · rename_i worker
    rw [setSucceeded_completionTime, setRunning_completionTime, setStartTime_completionTime]
    simp [worker]
  · rename_i other
    simp [other]

end Effects

end MXNetOperator.Mx
