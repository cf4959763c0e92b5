import MXNetOperator.Mx.Replica

/-!
Contract: termination of a finished job.

Owns `terminateMXJob`: which pods it deletes, what it moves from the active to
the gone counters, and how it can fail.  It works on the pods it is handed and
never looks at the cluster.
-/

namespace MXNetOperator.Mx

open MXNetOperator.Kube MXNetOperator.Api MXNetOperator.Interaction

/-! ### Source functions -/

/-- The `switch` over the raw replica-type label. -/
def replicaTypeOf (labels : Labels) : Option MXReplicaType :=
  [.scheduler, .server, .worker].find? fun rtype =>
    labels.lookup mxLabelReplicaType == some rtype.toString

/-- `count` pods of a type moved from active to gone. -/
def moveToGone (status : MXReplicaStatus) (count : Nat) : MXReplicaStatus :=
  { status with
    active := status.active - Int32.ofNat count
    gone := status.gone + Int32.ofNat count }

/-- The counter update of one deletion; `none` is a nil replica status. -/
def recordGone (mxjob : MXJob) (pod : Pod) : Option MXJob :=
  match replicaTypeOf pod.labels with
  | none => some mxjob
  | some rtype => do
      let status ← getMXReplicaStatus mxjob rtype
      some (updateMXReplicaStatuses mxjob rtype (moveToGone status 1))

/-- The deleting goroutines in the order in which they get to run; the counters
change whether or not the deletion succeeds. -/
def deletePods (mxjob : MXJob) : List Pod → Go (MXJob × List GoError)
  | [] => pure (mxjob, [])
  | pod :: rest => do
      let reply ← ask (.deletePod pod.name)
      let mxjob ← deref (recordGone mxjob pod)
      let (mxjob, errors) ← deletePods mxjob rest
      let error : Option GoError := (reply : Option ApiError).map fun error =>
        .plain ("unable to delete pods: " ++ error.message)
      pure (mxjob, error.toList ++ errors)

def terminateMXJob (mxjob : MXJob) (pods : List Pod) : Go MXJob :=
  if (filterActivePods pods).isEmpty then
    pure mxjob
  else do
    let order ← ask (.schedule (filterActivePods pods))
    let (mxjob, errors) ← deletePods mxjob order.1
    failOn errors.head?
    pure mxjob

/-! ### Counters -/

theorem replicaTypeOf_eq_some {labels : Labels} {rtype : MXReplicaType} :
    replicaTypeOf labels = some rtype ↔ (mxReplicaSelector rtype).isMatch labels = true := by
  rw [mxReplicaSelector_isMatch]
  constructor
  · intro found
    have label := List.find?_some found
    simpa using label
  · intro label
    cases rtype <;> simp [replicaTypeOf, label, MXReplicaType.toString]

/-- The second job is the first with other replica counters. -/
def CountersOnly (before after : MXJob) : Prop :=
  after = { before with
    status := { before.status with replicaStatuses := after.status.replicaStatuses } }

theorem CountersOnly.refl (mxjob : MXJob) : CountersOnly mxjob mxjob := rfl

theorem CountersOnly.trans {first second third : MXJob} (left : CountersOnly first second)
    (right : CountersOnly second third) : CountersOnly first third := by
  unfold CountersOnly at *
  rw [right, left]

theorem countersOnly_update (mxjob : MXJob) (rtype : MXReplicaType) (status : MXReplicaStatus) :
    CountersOnly mxjob (updateMXReplicaStatuses mxjob rtype status) := rfl

theorem recordGone_eq_some {mxjob after : MXJob} {pod : Pod}
    (recorded : recordGone mxjob pod = some after) :
    CountersOnly mxjob after ∧ ∀ rtype, getMXReplicaStatus after rtype =
      (getMXReplicaStatus mxjob rtype).map fun status =>
        moveToGone status (if (mxReplicaSelector rtype).isMatch pod.labels then 1 else 0) := by
  have unmoved : ∀ status : MXReplicaStatus, moveToGone status 0 = status := by
    intro status
    simp [moveToGone]
  unfold recordGone at recorded
  cases kind : replicaTypeOf pod.labels with
  | none =>
      simp only [kind, Option.some.injEq] at recorded
      subst recorded
      refine ⟨CountersOnly.refl _, fun rtype => ?_⟩
      have unlabelled : (mxReplicaSelector rtype).isMatch pod.labels = false := by
        by_contra labelled
        rw [Bool.not_eq_false, ← replicaTypeOf_eq_some, kind] at labelled
        cases labelled
      simp [unlabelled, unmoved]
  | some own =>
      simp only [kind, Option.bind_eq_bind, Option.bind_eq_some_iff, Option.some.injEq] at recorded
      obtain ⟨status, present, rfl⟩ := recorded
      refine ⟨countersOnly_update mxjob own _, fun rtype => ?_⟩
      by_cases same : rtype = own
      · subst same
        simp [present, replicaTypeOf_eq_some.mp kind]
      · have unlabelled : (mxReplicaSelector rtype).isMatch pod.labels = false := by
          by_contra labelled
          rw [Bool.not_eq_false, ← replicaTypeOf_eq_some, kind] at labelled
          exact same (Option.some.inj labelled).symm
        rw [getMXReplicaStatus_update_other same]
        simp [unlabelled, unmoved]

theorem recordGone_eq_none {mxjob : MXJob} {pod : Pod} (failed : recordGone mxjob pod = none) :
    ∃ rtype, (mxReplicaSelector rtype).isMatch pod.labels = true ∧
      getMXReplicaStatus mxjob rtype = none := by
  unfold recordGone at failed
  cases kind : replicaTypeOf pod.labels with
  | none => simp [kind] at failed
  | some own =>
      refine ⟨own, replicaTypeOf_eq_some.mp kind, ?_⟩
      rw [Option.eq_none_iff_forall_ne_some]
      simpa [kind] using failed

theorem moveToGone_moveToGone (status : MXReplicaStatus) (first second : Nat) :
    moveToGone (moveToGone status first) second = moveToGone status (first + second) := by
  simp only [moveToGone, Int32.ofNat_add, MXReplicaStatus.mk.injEq, true_and]
  refine ⟨?_, Int32.add_assoc _ _ _⟩
  rw [Int32.sub_sub]

/-- The counters after a whole list of deletions. -/
theorem recordAll_eq_some {pods : List Pod} {mxjob after : MXJob}
    (recorded : pods.foldlM recordGone mxjob = some after) :
    CountersOnly mxjob after ∧ ∀ rtype, getMXReplicaStatus after rtype =
      (getMXReplicaStatus mxjob rtype).map fun status =>
        moveToGone status (filterPodsForMXReplicaType pods rtype).length := by
  induction pods generalizing mxjob with
  | nil =>
      cases recorded
      refine ⟨CountersOnly.refl _, fun rtype => ?_⟩
      simp [filterPodsForMXReplicaType, moveToGone]
  | cons head tail inductionHypothesis =>
      simp only [List.foldlM_cons, Option.bind_eq_bind, Option.bind_eq_some_iff] at recorded
      obtain ⟨middle, first, rest⟩ := recorded
      obtain ⟨firstFrame, firstCounters⟩ := recordGone_eq_some first
      obtain ⟨restFrame, restCounters⟩ := inductionHypothesis rest
      refine ⟨firstFrame.trans restFrame, fun rtype => ?_⟩
      rw [restCounters, firstCounters, Option.map_map]
      congr 1
      funext status
      rw [Function.comp_apply, moveToGone_moveToGone]
      congr 1
      by_cases labelled : (mxReplicaSelector rtype).isMatch head.labels = true
      · simp [filterPodsForMXReplicaType, labelled, Nat.add_comm]
      · simp [filterPodsForMXReplicaType, labelled]

/-- A recorded deletion found the replica status of the pod's type. -/
theorem recordGone_present {mxjob after : MXJob} {pod : Pod} {rtype : MXReplicaType}
    (recorded : recordGone mxjob pod = some after)
    (labelled : (mxReplicaSelector rtype).isMatch pod.labels = true) :
    getMXReplicaStatus mxjob rtype ≠ none := by
  intro missing
  simp [recordGone, replicaTypeOf_eq_some.mpr labelled, missing] at recorded

theorem recordAll_present {pods : List Pod} {mxjob after : MXJob} {rtype : MXReplicaType}
    (recorded : pods.foldlM recordGone mxjob = some after) {pod : Pod} (member : pod ∈ pods)
    (labelled : (mxReplicaSelector rtype).isMatch pod.labels = true) :
    getMXReplicaStatus mxjob rtype ≠ none := by
  induction pods generalizing mxjob with
  | nil => cases member
  | cons head tail inductionHypothesis =>
      simp only [List.foldlM_cons, Option.bind_eq_bind, Option.bind_eq_some_iff] at recorded
      obtain ⟨middle, first, rest⟩ := recorded
      rcases List.mem_cons.mp member with rfl | later
      · exact recordGone_present first labelled
      · have present := inductionHypothesis rest later
        rwa [(recordGone_eq_some first).2 rtype, ne_eq, Option.map_eq_none_iff] at present

/-! ### What deleting and terminating can do -/

section Deletion

variable {mxjob after : MXJob} {pods : List Pod} {trace : List Call} {errors : List GoError}

theorem deletePods_returns (returned : (deletePods mxjob pods).Returns trace (after, errors)) :
    pods.foldlM recordGone mxjob = some after ∧
      (errors = [] → ∀ pod ∈ pods, (⟨.deletePod pod.name, none⟩ : Call) ∈ trace) ∧
      (errors ≠ [] → ∃ call ∈ trace, failedCall call = true) := by
  induction pods generalizing mxjob trace errors with
  | nil =>
      obtain ⟨rfl, same⟩ := Program.returns_pure.mp returned
      cases same
      simp
  | cons head tail inductionHypothesis =>
      simp only [deletePods, Program.returns_bind, returns_ask, returns_deref,
        Program.returns_pure] at returned
      obtain ⟨reply, _, _, rfl, rfl, middle, _, _, rfl, ⟨rfl, recorded⟩, ⟨final, failures⟩, front,
        _, rfl, rest, rfl, same⟩ := returned
      cases same
      obtain ⟨folded, deleted, failed⟩ := inductionHypothesis rest
      refine ⟨by simp [recorded, folded], ?_, ?_⟩
      · intro silent pod member
        cases reply with
        | some error => cases silent
        | none =>
            rcases List.mem_cons.mp member with rfl | later
            · simp
            · simp [deleted (by simpa using silent) pod later]
      · intro some
        cases reply with
        | some error => exact ⟨_, List.mem_cons_self, rfl⟩
        | none =>
            obtain ⟨call, member, isFailed⟩ := failed (by simpa using some)
            exact ⟨call, by simp [member], isFailed⟩

/-- Deleting panics only on a pod of a type without a replica status. -/
theorem deletePods_aborts {reason : Abort}
    (aborted : (deletePods mxjob pods).Aborts trace reason) :
    reason = .panicked ∧ ∃ pod ∈ pods, ∃ rtype,
      (mxReplicaSelector rtype).isMatch pod.labels = true ∧
        getMXReplicaStatus mxjob rtype = none := by
  induction pods generalizing mxjob trace with
  | nil => exact absurd aborted Program.aborts_pure
  | cons head tail inductionHypothesis =>
      simp only [deletePods, Program.aborts_bind, aborts_ask, false_or, returns_ask, aborts_deref,
        returns_deref, Program.aborts_pure, and_false, exists_false, or_false] at aborted
      obtain ⟨_, _, _, _, _, ⟨_, failed, rfl⟩ | ⟨middle, _, _, _, ⟨_, recorded⟩, rest⟩⟩ := aborted
      · obtain ⟨rtype, labelled, missing⟩ := recordGone_eq_none failed
        exact ⟨rfl, head, List.mem_cons_self, rtype, labelled, missing⟩
      · obtain ⟨panicked, pod, member, rtype, labelled, missing⟩ := inductionHypothesis rest
        refine ⟨panicked, pod, List.mem_cons_of_mem head member, rtype, labelled, ?_⟩
        rw [(recordGone_eq_some recorded).2 rtype] at missing
        exact Option.map_eq_none_iff.mp missing

theorem deletePods_issues {request : Request}
    (issued : (deletePods mxjob pods).Issues trace request) :
    ∃ pod ∈ pods, request = .deletePod pod.name := by
  induction pods generalizing mxjob trace with
  | nil => exact absurd issued Program.issues_pure
  | cons head tail inductionHypothesis =>
      simp only [deletePods, Program.issues_bind, issues_ask, issues_deref, false_or,
        Program.issues_pure, and_false, exists_false, or_false] at issued
      rcases issued with ⟨_, same⟩ | ⟨_, _, _, _, _, _, _, _, _, _, rest⟩
      · exact ⟨head, List.mem_cons_self, same⟩
      · obtain ⟨pod, member, same⟩ := inductionHypothesis rest
        exact ⟨pod, List.mem_cons_of_mem head member, same⟩

/-- Specification of `terminateMXJob`: only counters change, and every active
pod it was handed has been deleted. -/
theorem terminateMXJob_returns (returned : (terminateMXJob mxjob pods).Returns trace after) :
    CountersOnly mxjob after ∧
      (∀ rtype, getMXReplicaStatus after rtype =
        (getMXReplicaStatus mxjob rtype).map fun status =>
          moveToGone status
            (filterPodsForMXReplicaType (filterActivePods pods) rtype).length) ∧
      ∀ pod ∈ filterActivePods pods, (⟨.deletePod pod.name, none⟩ : Call) ∈ trace := by
  unfold terminateMXJob at returned
  split at returned
  · rename_i empty
    obtain ⟨rfl, rfl⟩ := Program.returns_pure.mp returned
    rw [List.isEmpty_iff.mp empty]
    exact ⟨CountersOnly.refl _, by simp [filterPodsForMXReplicaType, moveToGone], by simp⟩
  · simp only [Program.returns_bind, returns_ask, returns_failOn, Program.returns_pure] at returned
    obtain ⟨order, _, _, rfl, rfl, ⟨final, errors⟩, deleting, _, rfl, deleted, _, _, _, rfl,
      ⟨rfl, silent⟩, rfl, rfl⟩ := returned
    obtain rfl : errors = [] := List.head?_eq_none_iff.mp silent
    obtain ⟨folded, all, _⟩ := deletePods_returns deleted
    obtain ⟨frame, counters⟩ := recordAll_eq_some folded
    have shuffled : order.1.Perm (filterActivePods pods) := order.2
    refine ⟨frame, fun rtype => ?_, fun pod member => ?_⟩
    · rw [counters rtype]
      have sameLength := (shuffled.filter
        fun pod => (mxReplicaSelector rtype).isMatch pod.labels).length_eq
      simp only [filterPodsForMXReplicaType, sameLength]
    · have found := all rfl pod (shuffled.mem_iff.mpr member)
      simp [found]

/-- A termination that ran to its end had a replica status for every active
pod's type. -/
theorem terminateMXJob_present {rtype : MXReplicaType}
    (returned : (terminateMXJob mxjob pods).Returns trace after) {pod : Pod}
    (member : pod ∈ filterActivePods pods)
    (labelled : (mxReplicaSelector rtype).isMatch pod.labels = true) :
    getMXReplicaStatus mxjob rtype ≠ none := by
  unfold terminateMXJob at returned
  split at returned
  · rename_i empty
    rw [List.isEmpty_iff.mp empty] at member
    cases member
  · simp only [Program.returns_bind, returns_ask] at returned
    obtain ⟨order, _, _, rfl, rfl, ⟨final, errors⟩, deleting, _, rfl, deleted, _⟩ := returned
    have shuffled : order.1.Perm (filterActivePods pods) := order.2
    exact recordAll_present (deletePods_returns deleted).1 (shuffled.mem_iff.mpr member) labelled

theorem terminateMXJob_aborts {reason : Abort}
    (aborted : (terminateMXJob mxjob pods).Aborts trace reason) :
    (reason = .panicked ∧ ∃ pod ∈ filterActivePods pods, ∃ rtype,
        (mxReplicaSelector rtype).isMatch pod.labels = true ∧
          getMXReplicaStatus mxjob rtype = none) ∨
      ∃ call ∈ trace, failedCall call = true := by
  unfold terminateMXJob at aborted
  split at aborted
  · exact absurd aborted Program.aborts_pure
  · simp only [Program.aborts_bind, aborts_ask, false_or, returns_ask, aborts_failOn,
      Program.aborts_pure, and_false, exists_false, or_false] at aborted
    obtain ⟨order, _, _, rfl, rfl, panicking | ⟨⟨final, errors⟩, deleting, _, rfl, deleted, _,
      cause, reported, _⟩⟩ := aborted
    · have shuffled : order.1.Perm (filterActivePods pods) := order.2
      obtain ⟨panicked, pod, member, missing⟩ := deletePods_aborts panicking
      exact Or.inl ⟨panicked, pod, shuffled.mem_iff.mp member, missing⟩
    · have some : errors ≠ [] := by
        intro empty
        rw [empty] at reported
        cases reported
      obtain ⟨call, member, failed⟩ := (deletePods_returns deleted).2.2 some
      exact Or.inr ⟨call, by simp [member], failed⟩

theorem terminateMXJob_issues {request : Request}
    (issued : (terminateMXJob mxjob pods).Issues trace request) :
    request = .schedule (filterActivePods pods) ∨
      ∃ pod ∈ filterActivePods pods, request = .deletePod pod.name := by
  unfold terminateMXJob at issued
  split at issued
  · exact absurd issued Program.issues_pure
  · simp only [Program.issues_bind, issues_ask, issues_failOn, Program.issues_pure, and_false,
      exists_false, or_false] at issued
    rcases issued with ⟨_, same⟩ | ⟨order, _, _, _, _, deleting⟩
    · exact Or.inl same
    · have shuffled : order.1.Perm (filterActivePods pods) := order.2
      obtain ⟨pod, member, same⟩ := deletePods_issues deleting
      exact Or.inr ⟨pod, shuffled.mem_iff.mp member, same⟩

end Deletion

end MXNetOperator.Mx
