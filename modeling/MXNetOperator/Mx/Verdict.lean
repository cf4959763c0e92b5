import Mathlib.Algebra.Group.Int.Defs
import Mathlib.Algebra.Group.Nat.Defs
import MXNetOperator.Mx.Replica

/-!
Contract: the outcome of reconciling all replica types, as a pure function.

Owns `replicaPasses`, the three passes a reconciliation makes over one status,
and the characterisation of its verdict: which conditions, times and counters
it leaves behind, in terms of the pods alone.

Does not own the requests made along the way; `Mx.Reconcile` shows that a
reconciliation without error has this outcome.
-/

namespace MXNetOperator.Mx

open MXNetOperator.Kube MXNetOperator.Api MXNetOperator.Interaction

/-! ### What a pass reads -/

/-- The second job is the first with another status. -/
def StatusOnly (before after : MXJob) : Prop :=
  after = { before with status := after.status }

theorem StatusOnly.refl (mxjob : MXJob) : StatusOnly mxjob mxjob := rfl

theorem StatusOnly.trans {first second third : MXJob} (left : StatusOnly first second)
    (right : StatusOnly second third) : StatusOnly first third := by
  unfold StatusOnly at *
  rw [right, left]

theorem StatusOnly.symm {before after : MXJob} (same : StatusOnly before after) :
    StatusOnly after before := by
  unfold StatusOnly at same ⊢
  rw [same]

theorem StatusOnly.meta_eq {before after : MXJob} (same : StatusOnly before after) :
    before.toObjectMeta = after.toObjectMeta := by
  rw [same]

theorem StatusOnly.spec_eq {before after : MXJob} (same : StatusOnly before after) :
    after.spec = before.spec := by
  rw [same]

theorem StatusOnly.resourceVersion_eq {before after : MXJob} (same : StatusOnly before after) :
    after.resourceVersion = before.resourceVersion := by
  rw [same]

theorem StatusOnly.finalizers_eq {before after : MXJob} (same : StatusOnly before after) :
    after.finalizers = before.finalizers := by
  rw [same]

/-- The replica count of a type, if its specification is present and gives one. -/
def replicasOf (mxjob : MXJob) (rtype : MXReplicaType) : Option Int32 :=
  (mxjob.spec.mxReplicaSpecs.get rtype).bind MXReplicaSpec.replicas

theorem StatusOnly.replicasOf_eq {before after : MXJob} (same : StatusOnly before after)
    (rtype : MXReplicaType) : replicasOf after rtype = replicasOf before rtype := by
  rw [replicasOf, same.spec_eq, replicasOf]

/-- The number of pods of a type a reconciliation sets out to create. -/
def podsNeeded (mxjob : MXJob) (pods : List Pod) (rtype : MXReplicaType) : Nat :=
  (replicasOf mxjob rtype).elim 0 (neededPods mxjob pods rtype)

/-- A job that a pass treats like another one: same specification and metadata,
same answer to whether it is initialized. -/
structure SamePass (before after : MXJob) : Prop where
  statusOnly : StatusOnly before after
  initialized : checkCondition after.status .initialized =
    checkCondition before.status .initialized

theorem SamePass.refl (mxjob : MXJob) : SamePass mxjob mxjob :=
  ⟨StatusOnly.refl mxjob, rfl⟩

theorem SamePass.symm {before after : MXJob} (same : SamePass before after) :
    SamePass after before :=
  ⟨same.statusOnly.symm, same.initialized.symm⟩

theorem SamePass.trans {first second third : MXJob} (left : SamePass first second)
    (right : SamePass second third) : SamePass first third :=
  ⟨left.statusOnly.trans right.statusOnly, right.initialized.trans left.initialized⟩

section SamePass

variable {before after : MXJob} {pods : List Pod} {rtype : MXReplicaType} {replicas : Int32}

theorem SamePass.neededPods_eq (same : SamePass before after) :
    neededPods after pods rtype replicas = neededPods before pods rtype replicas := by
  rw [neededPods, neededPods, same.initialized]

theorem SamePass.podsNeeded_eq (same : SamePass before after) :
    podsNeeded after pods rtype = podsNeeded before pods rtype := by
  rw [podsNeeded, podsNeeded, same.statusOnly.replicasOf_eq]
  congr 1
  funext replicas
  exact same.neededPods_eq

theorem SamePass.replicaCounters_eq (same : SamePass before after) :
    replicaCounters after pods rtype replicas = replicaCounters before pods rtype replicas := by
  rw [replicaCounters, replicaCounters, same.initialized]

end SamePass

/-! ### One pass -/

/-- The worker pods in phase Succeeded make up the worker replicas. -/
def AllSucceeded (mxjob : MXJob) (pods : List Pod) : Prop :=
  ∃ replicas, replicasOf mxjob .worker = some replicas ∧
    replicas - (getStatus (filterPodsForMXReplicaType pods .worker)).1 = 0

/-- A pass of the type finds a failed or a gone pod. -/
def Lost (mxjob : MXJob) (pods : List Pod) (rtype : MXReplicaType) : Prop :=
  ∃ replicas, replicasOf mxjob rtype = some replicas ∧
    Loses (replicaCounters mxjob pods rtype replicas)

theorem exists_replicaType {holds : MXReplicaType → Prop} :
    (∃ rtype, holds rtype) ↔ holds .scheduler ∨ holds .server ∨ holds .worker := by
  constructor
  · rintro ⟨rtype, holdsHere⟩
    cases rtype
    · exact Or.inl holdsHere
    · exact Or.inr (Or.inl holdsHere)
    · exact Or.inr (Or.inr holdsHere)
  · rintro (holdsHere | holdsHere | holdsHere) <;> exact ⟨_, holdsHere⟩

instance decidableForallReplicaType {holds : MXReplicaType → Prop}
    [∀ rtype, Decidable (holds rtype)] : Decidable (∀ rtype, holds rtype) :=
  decidable_of_iff (holds .scheduler ∧ holds .server ∧ holds .worker)
    ⟨fun ⟨scheduler, server, worker⟩ rtype => by cases rtype <;> assumption,
      fun holdsAll => ⟨holdsAll .scheduler, holdsAll .server, holdsAll .worker⟩⟩

instance (mxjob : MXJob) (pods : List Pod) : Decidable (AllSucceeded mxjob pods) :=
  decidable_of_iff ((replicasOf mxjob .worker).any (fun replicas =>
      decide (replicas - (getStatus (filterPodsForMXReplicaType pods .worker)).1 = 0)) = true) (by
    simp [AllSucceeded, Option.any_eq_true])

instance (mxjob : MXJob) (pods : List Pod) (rtype : MXReplicaType) :
    Decidable (Lost mxjob pods rtype) :=
  decidable_of_iff ((replicasOf mxjob rtype).any (fun replicas =>
      decide (Loses (replicaCounters mxjob pods rtype replicas))) = true) (by
    simp [Lost, Option.any_eq_true])

/-- The outcome of the pass of one type; an absent specification is skipped. -/
def passFor (now : Nat → Time) (mxjob : MXJob) (pods : List Pod) (rtype : MXReplicaType) :
    MXJob :=
  match replicasOf mxjob rtype with
  | none => mxjob
  | some replicas => replicaPass now mxjob pods rtype replicas

section Pass

variable {now : Nat → Time} {mxjob before : MXJob} {pods : List Pod} {rtype : MXReplicaType}

theorem SamePass.allSucceeded_iff (same : SamePass before mxjob) :
    AllSucceeded mxjob pods ↔ AllSucceeded before pods := by
  unfold AllSucceeded
  rw [same.statusOnly.replicasOf_eq]

theorem SamePass.lost_iff (same : SamePass before mxjob) :
    Lost mxjob pods rtype ↔ Lost before pods rtype := by
  unfold Lost
  rw [same.statusOnly.replicasOf_eq]
  simp only [same.replicaCounters_eq]

theorem passFor_samePass : SamePass mxjob (passFor now mxjob pods rtype) := by
  unfold passFor
  cases replicasOf mxjob rtype with
  | none => exact SamePass.refl mxjob
  | some replicas =>
      exact ⟨rfl, judgeStatus_other (by decide) (by decide) (by decide)⟩

theorem passFor_unique (unique : UniqueConditions mxjob.status) :
    UniqueConditions (passFor now mxjob pods rtype).status := by
  unfold passFor
  cases replicasOf mxjob rtype with
  | none => exact unique
  | some replicas => exact judgeStatus_frame.unique unique

theorem passFor_visible {condType : MXJobConditionType} (visible : Visible mxjob.status condType) :
    Visible (passFor now mxjob pods rtype).status condType := by
  unfold passFor
  cases replicasOf mxjob rtype with
  | none => exact visible
  | some replicas => exact judgeStatus_frame.visible visible

theorem completes_iff {replicas : Int32} (present : replicasOf mxjob rtype = some replicas) :
    Completes rtype (replicaCounters mxjob pods rtype replicas) replicas ↔
      rtype = .worker ∧ AllSucceeded mxjob pods := by
  refine and_congr_right ?_
  rintro rfl
  simp [AllSucceeded, present, replicaCounters]

theorem absent_not_completes (absent : replicasOf mxjob rtype = none) :
    ¬ (rtype = .worker ∧ AllSucceeded mxjob pods) := by
  rintro ⟨rfl, replicas, given, _⟩
  rw [absent] at given
  cases given

theorem passFor_succeeded :
    checkCondition (passFor now mxjob pods rtype).status .succeeded = true ↔
      checkCondition mxjob.status .succeeded = true ∨
        (rtype = .worker ∧ AllSucceeded mxjob pods) := by
  unfold passFor
  cases present : replicasOf mxjob rtype with
  | none => simp only [absent_not_completes present, or_false]
  | some replicas =>
      have judged : checkCondition (replicaPass now mxjob pods rtype replicas).status .succeeded =
          (checkCondition mxjob.status .succeeded ||
            decide (Completes rtype (replicaCounters mxjob pods rtype replicas) replicas)) :=
        judgeStatus_succeeded
      simp only [judged, Bool.or_eq_true, decide_eq_true_eq, completes_iff present]

theorem passFor_failed :
    checkCondition (passFor now mxjob pods rtype).status .failed = true ↔
      (checkCondition mxjob.status .failed = true ∨
        (Lost mxjob pods rtype ∧ checkCondition mxjob.status .succeeded = false)) ∧
        ¬ (rtype = .worker ∧ AllSucceeded mxjob pods) := by
  unfold passFor Lost
  cases present : replicasOf mxjob rtype with
  | none => simp [absent_not_completes present]
  | some replicas =>
      have judged : checkCondition (replicaPass now mxjob pods rtype replicas).status .failed =
          ((checkCondition mxjob.status .failed ||
            (decide (Loses (replicaCounters mxjob pods rtype replicas)) &&
              !checkCondition mxjob.status .succeeded)) &&
            !decide (Completes rtype (replicaCounters mxjob pods rtype replicas) replicas)) :=
        judgeStatus_failed
      simp only [judged, Bool.and_eq_true, Bool.or_eq_true, Bool.not_eq_true', decide_eq_true_eq,
        decide_eq_false_iff_not, completes_iff present, Option.some.injEq, exists_eq_left']

theorem passFor_completionTime :
    (passFor now mxjob pods rtype).status.completionTime.isSome = true ↔
      mxjob.status.completionTime.isSome = true ∨
        (rtype = .worker ∧ AllSucceeded mxjob pods) := by
  unfold passFor
  cases present : replicasOf mxjob rtype with
  | none => simp only [absent_not_completes present, or_false]
  | some replicas =>
      have judged : (replicaPass now mxjob pods rtype replicas).status.completionTime.isSome =
          (mxjob.status.completionTime.isSome ||
            decide (Completes rtype (replicaCounters mxjob pods rtype replicas) replicas)) :=
        judgeStatus_completionTime
      simp only [judged, Bool.or_eq_true, decide_eq_true_eq, completes_iff present]

/-- Judging a pass leaves the counters it recorded alone. -/
theorem replicaPass_counters {replicas : Int32} (other : MXReplicaType) :
    getMXReplicaStatus (replicaPass now mxjob pods rtype replicas) other =
      getMXReplicaStatus (updateMXReplicaStatuses mxjob rtype
        (replicaCounters mxjob pods rtype replicas)) other := by
  cases other <;> simp only [getMXReplicaStatus, replicaPass, judgeStatus_frame.counters]

theorem passFor_counters (other : MXReplicaType) :
    getMXReplicaStatus (passFor now mxjob pods rtype) other =
      if other = rtype then
        ((replicasOf mxjob rtype).map (replicaCounters mxjob pods rtype)).or
          (getMXReplicaStatus mxjob other)
      else
        getMXReplicaStatus mxjob other := by
  unfold passFor
  cases present : replicasOf mxjob rtype with
  | none => simp
  | some replicas =>
      simp only [replicaPass_counters, Option.map_some]
      by_cases same : other = rtype
      · subst same
        simp
      · rw [getMXReplicaStatus_update_other same, if_neg same]

end Pass

/-! ### All passes -/

/-- The passes of a reconciliation in the order of the source, each with its
own clock readings. -/
def replicaPasses (now : MXReplicaType → Nat → Time) (mxjob : MXJob) (pods : List Pod) : MXJob :=
  passFor (now .worker)
    (passFor (now .server) (passFor (now .scheduler) mxjob pods .scheduler) pods .server)
    pods .worker

section Passes

variable {now : MXReplicaType → Nat → Time} {mxjob : MXJob} {pods : List Pod}

theorem replicaPasses_samePass : SamePass mxjob (replicaPasses now mxjob pods) :=
  (passFor_samePass.trans passFor_samePass).trans passFor_samePass

theorem replicaPasses_unique (unique : UniqueConditions mxjob.status) :
    UniqueConditions (replicaPasses now mxjob pods).status :=
  passFor_unique (passFor_unique (passFor_unique unique))

theorem replicaPasses_visible {condType : MXJobConditionType}
    (visible : Visible mxjob.status condType) :
    Visible (replicaPasses now mxjob pods).status condType :=
  passFor_visible (passFor_visible (passFor_visible visible))

/-- The success verdict: the workers in phase Succeeded make up the replicas. -/
theorem replicaPasses_succeeded :
    checkCondition (replicaPasses now mxjob pods).status .succeeded = true ↔
      checkCondition mxjob.status .succeeded = true ∨ AllSucceeded mxjob pods := by
  simp only [replicaPasses, passFor_succeeded, passFor_samePass.allSucceeded_iff, reduceCtorEq,
    false_and, or_false, true_and]

/-- The failure verdict: some type has lost a pod and the workers have not all
succeeded. -/
theorem replicaPasses_failed :
    checkCondition (replicaPasses now mxjob pods).status .failed = true ↔
      (checkCondition mxjob.status .failed = true ∨
        ((∃ rtype, Lost mxjob pods rtype) ∧ checkCondition mxjob.status .succeeded = false)) ∧
        ¬ AllSucceeded mxjob pods := by
  have unsucceeded : ∀ {first : Nat → Time} {job : MXJob} {rtype : MXReplicaType},
      rtype ≠ .worker → (checkCondition (passFor first job pods rtype).status .succeeded = false ↔
        checkCondition job.status .succeeded = false) := by
    intro first job rtype notWorker
    rw [← Bool.not_eq_true, passFor_succeeded, ← Bool.not_eq_true]
    simp only [notWorker, false_and, or_false]
  simp only [replicaPasses, passFor_failed, passFor_samePass.allSucceeded_iff,
    passFor_samePass.lost_iff, unsucceeded (show MXReplicaType.scheduler ≠ .worker by decide),
    unsucceeded (show MXReplicaType.server ≠ .worker by decide), exists_replicaType, reduceCtorEq,
    false_and, not_false_eq_true, and_true, true_and]
  tauto

theorem replicaPasses_completionTime :
    (replicaPasses now mxjob pods).status.completionTime.isSome = true ↔
      mxjob.status.completionTime.isSome = true ∨ AllSucceeded mxjob pods := by
  simp only [replicaPasses, passFor_completionTime, passFor_samePass.allSucceeded_iff,
    reduceCtorEq, false_and, or_false, true_and]

/-- Every present type ends with the counters of its own pass. -/
theorem replicaPasses_counters (rtype : MXReplicaType) :
    getMXReplicaStatus (replicaPasses now mxjob pods) rtype =
      ((replicasOf mxjob rtype).map (replicaCounters mxjob pods rtype)).or
        (getMXReplicaStatus mxjob rtype) := by
  have same : ∀ {before after : MXJob} {other : MXReplicaType}, SamePass before after →
      (replicasOf after other).map (replicaCounters after pods other) =
        (replicasOf before other).map (replicaCounters before pods other) := by
    intro before after other alike
    rw [alike.statusOnly.replicasOf_eq]
    congr 1
    funext replicas
    exact alike.replicaCounters_eq
  have second : SamePass mxjob (passFor (now .scheduler) mxjob pods .scheduler) :=
    passFor_samePass
  have third : SamePass mxjob
      (passFor (now .server) (passFor (now .scheduler) mxjob pods .scheduler) pods .server) :=
    second.trans passFor_samePass
  unfold replicaPasses
  rw [passFor_counters, passFor_counters, passFor_counters, same second, same third]
  cases rtype <;> simp

end Passes

/-! ### Counting without wrap-around

The source counts in `int32`.  As long as a type has no more pods than its
replica count asks for, its differences are the mathematical ones. -/

section Arithmetic

variable {mxjob : MXJob} {pods : List Pod} {rtype : MXReplicaType} {replicas : Int32}

/-- At most the wanted pods of the type; for a negative count, none. -/
def Bounded (pods : List Pod) (rtype : MXReplicaType) (replicas : Int32) : Prop :=
  ((filterPodsForMXReplicaType pods rtype).length : Int) ≤ max replicas.toInt 0

/-- The difference is exact unless it falls below the least int32. -/
theorem diff_toInt_of_room {count : Nat} (room : (count : Int) ≤ replicas.toInt + 2 ^ 31) :
    (replicas - Int32.ofNat count).toInt = replicas.toInt - count := by
  have upper := Int32.toInt_lt replicas
  have wrapped : (Int32.ofNat count).toInt = (count : Int).bmod (2 ^ 32) := Int32.toInt_ofNat'
  rw [Int32.toInt_sub, wrapped, Int.sub_bmod_bmod]
  rw [Int.bmod_eq_of_le] <;> omega

theorem diff_toInt {count : Nat} (bounded : (count : Int) ≤ max replicas.toInt 0) :
    (replicas - Int32.ofNat count).toInt = replicas.toInt - count := by
  have lower := Int32.le_toInt replicas
  exact diff_toInt_of_room (by omega)

theorem Bounded.podDiff_toInt (bounded : Bounded pods rtype replicas) :
    (podDiff pods rtype replicas).toInt =
      replicas.toInt - (filterPodsForMXReplicaType pods rtype).length :=
  diff_toInt bounded

theorem Bounded.podDiff_pos (bounded : Bounded pods rtype replicas) :
    0 < podDiff pods rtype replicas ↔
      ((filterPodsForMXReplicaType pods rtype).length : Int) < replicas.toInt := by
  rw [Int32.lt_iff_toInt_lt, bounded.podDiff_toInt, Int32.toInt_zero]
  omega

/-- The pods a pass creates bring the type to its replica count, no further. -/
theorem Bounded.neededPods_le (bounded : Bounded pods rtype replicas) :
    ((filterPodsForMXReplicaType pods rtype).length : Int) + neededPods mxjob pods rtype replicas ≤
      max replicas.toInt 0 := by
  unfold neededPods
  unfold Bounded at bounded
  split
  · rename_i short
    have exact := Bounded.podDiff_toInt bounded
    have positive := (Bounded.podDiff_pos bounded).mp short.1
    omega
  · omega

theorem filterPods_le (pods : List Pod) (phase : PodPhase) :
    filterPods pods phase ≤ pods.length :=
  List.countP_le_length

/-- `expected == 0` says that the counted pods are the replicas. -/
theorem expected_eq_zero {count : Nat} (bounded : (count : Int) ≤ max replicas.toInt 0) :
    replicas - Int32.ofNat count = 0 ↔ (count : Int) = replicas.toInt := by
  rw [← Int32.toInt_inj, diff_toInt bounded, Int32.toInt_zero]
  omega

theorem Bounded.loses_iff (bounded : Bounded pods rtype replicas) :
    Loses (replicaCounters mxjob pods rtype replicas) ↔
      0 < filterPods (filterPodsForMXReplicaType pods rtype) .failed ∨
        (checkCondition mxjob.status .initialized = true ∧
          ((filterPodsForMXReplicaType pods rtype).length : Int) < replicas.toInt) := by
  have small := filterPods_le (filterPodsForMXReplicaType pods rtype) .failed
  have upper := Int32.toInt_lt replicas
  have wanted : ((filterPodsForMXReplicaType pods rtype).length : Int) ≤ max replicas.toInt 0 :=
    bounded
  refine or_congr ?_ ?_
  · simp only [replicaCounters, getStatus]
    rw [Int32.lt_iff_toInt_lt, Int32.toInt_ofNat_of_lt (by omega), Int32.toInt_zero]
    omega
  · simp only [replicaCounters]
    split
    · rename_i short
      simp [short.1, short.2, bounded.podDiff_pos.mp short.1]
    · rename_i enough
      rw [bounded.podDiff_pos] at enough
      have none : ¬ (0 : Int32) < 0 := by decide
      exact iff_of_false none fun short => enough ⟨short.2, short.1⟩

theorem Bounded.allSucceeded_iff (bounded : Bounded pods .worker replicas)
    (given : replicasOf mxjob .worker = some replicas) :
    AllSucceeded mxjob pods ↔
      (filterPods (filterPodsForMXReplicaType pods .worker) .succeeded : Int) =
        replicas.toInt := by
  have small := filterPods_le (filterPodsForMXReplicaType pods .worker) .succeeded
  have wanted : ((filterPodsForMXReplicaType pods .worker).length : Int) ≤
      max replicas.toInt 0 := bounded
  rw [← expected_eq_zero (by omega)]
  simp [AllSucceeded, given, getStatus]

end Arithmetic

end MXNetOperator.Mx
