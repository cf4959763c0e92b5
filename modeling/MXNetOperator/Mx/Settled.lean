import MXNetOperator.Mx.Sync

/-!
Contract: statuses that a further reconciliation leaves alone.

Owns:
- `Settled`, a status that records what a reconciliation of these pods would
  record, and `Settled.replicaPasses_eq`: the passes do not change it;
- `Replenished`, the pods a reconciliation leaves behind, and
  `Conclusion.settled`: without a verdict its status is settled for them;
- `settled_quiet`: a Sync of a settled job disturbs nothing.
-/

namespace MXNetOperator.Mx

open MXNetOperator.Kube MXNetOperator.Api MXNetOperator.Interaction

/-- The status of the job is what a reconciliation of these pods would record,
and the job is neither successful nor lost. -/
structure Settled (mxjob : MXJob) (pods : List Pod) : Prop where
  initialized : checkCondition mxjob.status .initialized = true
  counters : ∀ rtype replicas, replicasOf mxjob rtype = some replicas →
    getMXReplicaStatus mxjob rtype = some (replicaCounters mxjob pods rtype replicas)
  unlost : ∀ rtype, ¬ Lost mxjob pods rtype
  incomplete : ¬ AllSucceeded mxjob pods
  started : ∀ replicas, replicasOf mxjob .worker = some replicas →
    (replicaCounters mxjob pods .worker replicas).active = replicas →
      mxjob.status.startTime ≠ none
  running : ∀ replicas, replicasOf mxjob .worker = some replicas →
    0 < (replicaCounters mxjob pods .worker replicas).active →
      ∃ entry, getCondition mxjob.status .running = some entry ∧ entry.status = .isTrue ∧
        entry.reason = reasonRunning

/-! ### Passes over a settled status -/

section Passes

variable {now : Nat → Time} {mxjob job : MXJob} {pods : List Pod} {rtype : MXReplicaType}

theorem updateMXReplicaStatuses_self {status : MXReplicaStatus}
    (recorded : getMXReplicaStatus mxjob rtype = some status) :
    updateMXReplicaStatuses mxjob rtype status = mxjob := by
  cases rtype <;>
    · simp only [getMXReplicaStatus] at recorded
      simp only [updateMXReplicaStatuses, ← recorded]

theorem Settled.judgeStatus_eq (settled : Settled mxjob pods) {replicas : Int32}
    (given : replicasOf mxjob rtype = some replicas) :
    judgeStatus now mxjob.name mxjob.status rtype (replicaCounters mxjob pods rtype replicas)
      replicas = mxjob.status := by
  have unlost : ¬ ((0 < (replicaCounters mxjob pods rtype replicas).failed ∨
      0 < (replicaCounters mxjob pods rtype replicas).gone) ∧
      checkCondition mxjob.status .succeeded = false) :=
    fun lost => settled.unlost rtype ⟨replicas, given, lost.1⟩
  unfold judgeStatus
  split
  · rename_i isWorker
    subst isWorker
    have start : setStartTime now mxjob.status (replicaCounters mxjob pods .worker replicas).active
        replicas = mxjob.status :=
      if_neg fun unset => settled.started replicas given unset.1 unset.2
    have run : setRunning now mxjob.name mxjob.status
        (replicaCounters mxjob pods .worker replicas).active = mxjob.status := by
      unfold setRunning
      split
      · rename_i active
        obtain ⟨entry, found, isTrue, sameReason⟩ := settled.running replicas given active
        exact updateMXJobConditions_settled found isTrue sameReason
      · rfl
    have succeed : setSucceeded now mxjob.name mxjob.status
        (replicas - (replicaCounters mxjob pods .worker replicas).succeeded) = mxjob.status :=
      if_neg fun done => settled.incomplete ⟨replicas, given, done⟩
    rw [start, run, succeed]
    exact if_neg unlost
  · exact if_neg unlost

theorem Settled.passFor_eq (settled : Settled mxjob pods) :
    passFor now mxjob pods rtype = mxjob := by
  unfold passFor
  cases given : replicasOf mxjob rtype with
  | none => rfl
  | some replicas =>
      simp only [replicaPass, updateMXReplicaStatuses_self (settled.counters rtype replicas given),
        settled.judgeStatus_eq given]

theorem Settled.replicaPasses_eq (settled : Settled mxjob pods)
    (now : MXReplicaType → Nat → Time) : replicaPasses now mxjob pods = mxjob := by
  rw [replicaPasses, settled.passFor_eq, settled.passFor_eq, settled.passFor_eq]

/-! ### Where settled statuses come from -/

section Blocks

variable {name : String} {js : MXJobStatus} {running expected failed gone : Int32}

@[simp] theorem setRunning_startTime :
    (setRunning now name js running).startTime = js.startTime := by
  unfold setRunning
  split <;> simp

@[simp] theorem setSucceeded_startTime :
    (setSucceeded now name js expected).startTime = js.startTime := by
  unfold setSucceeded
  split
  · rw [updateMXJobFalseConditions_frame.2.1, updateMXJobConditions_startTime]
    split <;> rfl
  · rfl

@[simp] theorem setFailed_startTime :
    (setFailed now name js failed gone).startTime = js.startTime := by
  unfold setFailed
  split <;> simp

theorem setFailed_running :
    getCondition (setFailed now name js failed gone) .running = getCondition js .running := by
  unfold setFailed
  split
  · exact getCondition_setCondition_other js (by simp [newCondition])
  · rfl

theorem setSucceeded_running (pending : expected ≠ 0) :
    setSucceeded now name js expected = js :=
  if_neg pending

end Blocks

/-- A worker pass that counts every worker as active records a start time. -/
theorem passFor_started {replicas : Int32} (given : replicasOf mxjob .worker = some replicas)
    (all : (replicaCounters mxjob pods .worker replicas).active = replicas) :
    (passFor now mxjob pods .worker).status.startTime ≠ none := by
  simp only [passFor, given, replicaPass, judgeStatus, if_true, setFailed_startTime,
    setSucceeded_startTime, setRunning_startTime]
  unfold setStartTime
  split
  · simp
  · rename_i kept
    exact fun unset => kept ⟨all, unset⟩

/-- A worker pass that counts an active worker records that the job runs. -/
theorem passFor_running {replicas : Int32} (given : replicasOf mxjob .worker = some replicas)
    (active : 0 < (replicaCounters mxjob pods .worker replicas).active)
    (pending : replicas - (replicaCounters mxjob pods .worker replicas).succeeded ≠ 0) :
    ∃ entry, getCondition (passFor now mxjob pods .worker).status .running = some entry ∧
      entry.status = .isTrue ∧ entry.reason = reasonRunning := by
  simp only [passFor, given, replicaPass, judgeStatus, if_true, setFailed_running,
    setSucceeded_running pending, setRunning, if_pos active]
  exact getCondition_update_same

end Passes

/-! ### Statuses that agree on what a pass reads -/

/-- Two versions of a job that a pass treats alike: they differ at most in
conditions other than Running and Initialized, and in the metadata. -/
structure Alike (first second : MXJob) : Prop where
  spec : second.spec = first.spec
  counters : second.status.replicaStatuses = first.status.replicaStatuses
  startTime : second.status.startTime = first.status.startTime
  running : getCondition second.status .running = getCondition first.status .running
  initialized : checkCondition second.status .initialized =
    checkCondition first.status .initialized

theorem Alike.symm {first second : MXJob} (alike : Alike first second) : Alike second first :=
  ⟨alike.spec.symm, alike.counters.symm, alike.startTime.symm, alike.running.symm,
    alike.initialized.symm⟩

theorem Alike.trans {first second third : MXJob} (left : Alike first second)
    (right : Alike second third) : Alike first third :=
  ⟨right.spec.trans left.spec, right.counters.trans left.counters,
    right.startTime.trans left.startTime, right.running.trans left.running,
    right.initialized.trans left.initialized⟩

theorem Alike.of_status {first second : MXJob} (spec : second.spec = first.spec)
    (status : second.status = first.status) : Alike first second :=
  ⟨spec, by rw [status], by rw [status], by rw [status], by rw [status]⟩

theorem CreatedAs.alike {mxjob job : MXJob} (created : CreatedAs mxjob job) : Alike mxjob job := by
  cases created with
  | already => exact .of_status rfl rfl
  | now _ now =>
      exact ⟨rfl, updateMXJobConditions_replicaStatuses, updateMXJobConditions_startTime,
        getCondition_setCondition_other mxjob.status (by simp [newCondition]),
        checkCondition_update_other (by simp)⟩

section Alike

variable {first second : MXJob} {pods : List Pod} {rtype : MXReplicaType}

theorem Alike.replicasOf_eq (alike : Alike first second) :
    replicasOf second rtype = replicasOf first rtype := by
  rw [replicasOf, replicasOf, alike.spec]

theorem Alike.replicaCounters_eq (alike : Alike first second) {replicas : Int32} :
    replicaCounters second pods rtype replicas = replicaCounters first pods rtype replicas := by
  simp only [replicaCounters, alike.initialized]

theorem Alike.status_eq (alike : Alike first second) :
    getMXReplicaStatus second rtype = getMXReplicaStatus first rtype := by
  cases rtype <;> simp only [getMXReplicaStatus, alike.counters]

theorem Settled.of_alike (settled : Settled first pods) (alike : Alike first second) :
    Settled second pods where
  initialized := alike.initialized.trans settled.initialized
  counters := by
    intro rtype replicas given
    rw [alike.status_eq, alike.replicaCounters_eq]
    exact settled.counters rtype replicas (alike.replicasOf_eq ▸ given)
  unlost := by
    rintro rtype ⟨replicas, given, loses⟩
    rw [alike.replicaCounters_eq] at loses
    exact settled.unlost rtype ⟨replicas, alike.replicasOf_eq ▸ given, loses⟩
  incomplete := by
    rintro ⟨replicas, given, done⟩
    exact settled.incomplete ⟨replicas, alike.replicasOf_eq ▸ given, done⟩
  started := by
    intro replicas given all
    rw [alike.replicaCounters_eq] at all
    rw [alike.startTime]
    exact settled.started replicas (alike.replicasOf_eq ▸ given) all
  running := by
    intro replicas given active
    rw [alike.replicaCounters_eq] at active
    rw [alike.running]
    exact settled.running replicas (alike.replicasOf_eq ▸ given) active

end Alike

/-! ### What a reconciliation leaves behind -/

/-- The pods claimed after a reconciliation of `pods` that created every pod it
needed and touched no other. -/
structure Replenished (mxjob : MXJob) (pods later : List Pod) (rtype : MXReplicaType) : Prop where
  total : (filterPodsForMXReplicaType later rtype).length =
    (filterPodsForMXReplicaType pods rtype).length + podsNeeded mxjob pods rtype
  active : (filterActivePods (filterPodsForMXReplicaType later rtype)).length =
    (filterActivePods (filterPodsForMXReplicaType pods rtype)).length +
      podsNeeded mxjob pods rtype
  phases : getStatus (filterPodsForMXReplicaType later rtype) =
    getStatus (filterPodsForMXReplicaType pods rtype)

section Recount

variable {mxjob after : MXJob} {pods later : List Pod} {rtype : MXReplicaType}
  {replicas : Int32}

theorem ofNat_neededPods (short : 0 < podDiff pods rtype replicas)
    (fresh : checkCondition mxjob.status .initialized = false) :
    Int32.ofNat (neededPods mxjob pods rtype replicas) = podDiff pods rtype replicas := by
  have positive := Int32.lt_iff_toInt_lt.mp short
  rw [Int32.toInt_zero] at positive
  rw [neededPods, if_pos ⟨short, fresh⟩, ← Int32.ofInt_eq_ofNat,
    Int.toNat_of_nonneg (Int.le_of_lt positive), Int32.ofInt_toInt]

/-- The counters a pass predicts are the counters an initialized job recounts.
The arithmetic is modulo `2 ^ 32`, so no bound on the pods is needed. -/
theorem Replenished.replicaCounters_eq (replenished : Replenished mxjob pods later rtype)
    (given : replicasOf mxjob rtype = some replicas)
    (initialized : checkCondition after.status .initialized = true) :
    replicaCounters after later rtype replicas = replicaCounters mxjob pods rtype replicas := by
  obtain ⟨total, active, phases⟩ := replenished
  have needed : podsNeeded mxjob pods rtype = neededPods mxjob pods rtype replicas := by
    rw [podsNeeded, given, Option.elim_some]
  rw [needed] at total active
  by_cases creates : 0 < podDiff pods rtype replicas ∧
      checkCondition mxjob.status .initialized = false
  · have amount := ofNat_neededPods creates.1 creates.2
    have filled : podDiff later rtype replicas = 0 := by
      rw [podDiff, total, Int32.ofNat_add, amount, podDiff]
      grind
    simp [replicaCounters, initialized, filled, creates, phases, active, Int32.ofNat_add, amount]
  · have idle : neededPods mxjob pods rtype replicas = 0 := if_neg creates
    have kept : podDiff later rtype replicas = podDiff pods rtype replicas := by
      rw [podDiff, podDiff, total, idle, Nat.add_zero]
    rw [idle, Nat.add_zero] at active
    have gone : (0 < podDiff pods rtype replicas ∧
        checkCondition mxjob.status .initialized = true) ↔ 0 < podDiff pods rtype replicas := by
      refine and_iff_left_of_imp fun short => ?_
      simpa using not_and.mp creates short
    simp [replicaCounters, initialized, kept, creates, phases, active, gone]

theorem MarkedAs.startTime {evaluated marked : MXJob} (marks : MarkedAs evaluated marked) :
    marked.status.startTime = evaluated.status.startTime := by
  cases marks with
  | already => rfl
  | now => exact updateMXJobConditions_startTime

theorem MarkedAs.running {evaluated marked : MXJob} (marks : MarkedAs evaluated marked) :
    getCondition marked.status .running = getCondition evaluated.status .running := by
  cases marks with
  | already => rfl
  | now => exact getCondition_setCondition_other evaluated.status (by simp [newCondition])

/-- A reconciliation that reaches no verdict leaves a status that is settled for
the pods it leaves behind. -/
theorem Conclusion.settled {trace : List Call} (conclusion : Conclusion mxjob pods after trace)
    (undecided : isJobFinished mxjob.status = false)
    (unfinished : isJobFinished after.status = false)
    (replenished : ∀ rtype, Replenished mxjob pods later rtype) : Settled after later := by
  have same := conclusion.statusOnly
  have initialized := conclusion.initialized
  have verdictless := check_of_unfinished unfinished
  have incomplete : ¬ AllSucceeded mxjob pods := fun complete => by
    rw [conclusion.succeeded.mpr (Or.inr complete)] at verdictless
    exact absurd verdictless.1 (by simp)
  have unlost : ∀ rtype, ¬ Lost mxjob pods rtype := fun rtype lost => by
    have failed := conclusion.failed.mpr
      ⟨Or.inr ⟨⟨rtype, lost⟩, (check_of_unfinished undecided).1⟩, incomplete⟩
    rw [failed] at verdictless
    exact absurd verdictless.2 (by simp)
  have recount (rtype : MXReplicaType) {replicas : Int32}
      (given : replicasOf after rtype = some replicas) :
      replicasOf mxjob rtype = some replicas ∧
        replicaCounters after later rtype replicas = replicaCounters mxjob pods rtype replicas := by
    rw [same.replicasOf_eq] at given
    exact ⟨given, (replenished rtype).replicaCounters_eq given initialized⟩
  obtain ⟨now, marked, marks, finishes⟩ := conclusion.outcome
  have ended : after = marked := by
    cases finishes with
    | running => rfl
    | finished finished frame =>
        rw [frame.isJobFinished_eq, finished] at unfinished
        exact absurd unfinished (by simp)
  subst ended
  -- the worker pass comes last, so its start time and condition are the final ones
  have before : SamePass mxjob (passFor (now .server) (passFor (now .scheduler) mxjob pods
      .scheduler) pods .server) := passFor_samePass.trans passFor_samePass
  refine ⟨initialized, ?_, ?_, ?_, ?_, ?_⟩
  · intro rtype replicas given
    obtain ⟨own, counted⟩ := recount rtype given
    rw [counted, marks.counters, replicaPasses_counters, own]
    rfl
  · rintro rtype ⟨replicas, given, loses⟩
    obtain ⟨own, counted⟩ := recount rtype given
    exact unlost rtype ⟨replicas, own, counted ▸ loses⟩
  · rintro ⟨replicas, given, done⟩
    rw [(replenished .worker).phases] at done
    exact incomplete ⟨replicas, same.replicasOf_eq .worker ▸ given, done⟩
  · intro replicas given all
    obtain ⟨own, counted⟩ := recount .worker given
    rw [marks.startTime]
    refine passFor_started ((before.statusOnly.replicasOf_eq .worker).trans own) ?_
    rw [before.replicaCounters_eq, ← counted, all]
  · intro replicas given active
    obtain ⟨own, counted⟩ := recount .worker given
    rw [marks.running]
    refine passFor_running ((before.statusOnly.replicasOf_eq .worker).trans own) ?_ ?_
    · rw [before.replicaCounters_eq, ← counted]
      exact active
    · intro done
      exact incomplete ⟨replicas, own, done⟩

end Recount

/-! ### A Sync of a settled job -/

/-- The calls that change pods, the job or the listeners of its webhook. -/
def disturbs : Request → Bool
  | .createPod _ => true
  | .deletePod _ => true
  | .updateMXJob _ => true
  | .callHookAsync _ _ => true
  | _ => false

theorem servesListing_calm {request : Request} (serves : servesListing request = true) :
    disturbs request = false := by
  cases request <;> simp_all [servesListing, disturbs]

theorem servesReplicas_calm {request : Request} (serves : servesReplicas request = true)
    (creates : ∀ pod, request ≠ .createPod pod) : disturbs request = false := by
  cases request <;> simp_all [servesReplicas, disturbs]

section Quiet

variable {event : Event} {mxjob marked after : MXJob} {pods : List Pod} {trace : List Call}
  {request : Request} {now : MXReplicaType → Nat → Time}

theorem Settled.podsNeeded_eq (settled : Settled mxjob pods) (rtype : MXReplicaType) :
    podsNeeded mxjob pods rtype = 0 := by
  unfold podsNeeded
  cases replicasOf mxjob rtype with
  | none => rfl
  | some replicas => exact if_neg fun short => by simp [settled.initialized] at short

theorem Settled.marked_eq (settled : Settled mxjob pods)
    (marks : MarkedAs (replicaPasses now mxjob pods) marked) : marked = mxjob := by
  rw [settled.replicaPasses_eq] at marks
  cases marks with
  | already => rfl
  | now fresh =>
      rw [settled.initialized] at fresh
      exact absurd fresh (by simp)

theorem Settled.after_eq (settled : Settled mxjob pods)
    (undecided : isJobFinished mxjob.status = false)
    (conclusion : Conclusion mxjob pods after trace) : after = mxjob := by
  obtain ⟨now, marked, marks, finishes⟩ := conclusion.outcome
  obtain rfl := settled.marked_eq marks
  cases finishes with
  | running => rfl
  | finished finished =>
      rw [undecided] at finished
      exact absurd finished (by simp)

/-- A reconciliation of a settled job only reads, and claims what it lists. -/
theorem reconcile_settled (asked : ReconcileRequest mxjob trace request)
    (undecided : isJobFinished mxjob.status = false)
    (settled : ∀ pods, Listed mxjob pods trace → Settled mxjob pods) :
    disturbs request = false := by
  cases asked with
  | evaluating issued =>
      rcases evaluate_issues issued with listing | ⟨pods, listed, passes⟩
      · exact servesListing_calm (getPodsForMXJob_serves listing)
      · refine servesReplicas_calm passes.serves fun pod creates => ?_
        obtain ⟨rtype, _, room⟩ := passes.creation pod creates
        rw [(settled pods listed).podsNeeded_eq] at room
        exact absurd room (Nat.not_lt_zero _)
  | reading => rfl
  | starting pods evaluation fresh =>
      rw [(settled pods evaluation.listed).initialized] at fresh
      exact absurd fresh (by simp)
  | terminating pods marked evaluation now marks finished =>
      rw [(settled pods evaluation.listed).marked_eq marks, undecided] at finished
      exact absurd finished (by simp)
  | notifying pods marked after evaluation now marks finished =>
      rw [(settled pods evaluation.listed).marked_eq marks, undecided] at finished
      exact absurd finished (by simp)
  | storing pods after claims conclusion changed =>
      rw [(settled pods conclusion.evaluation.listed).after_eq undecided conclusion] at changed
      exact absurd rfl changed

/-- A Sync that finds the job finished, or settled for whatever it lists,
disturbs nothing. -/
theorem settled_quiet (issued : (sync event).Issues trace request)
    (settled : Reconcilable event → ∀ job pods, CreatedAs event.object job →
      Listed event.object pods trace → Settled job pods) :
    disturbs request = false := by
  by_cases reading : request = .now
  · rw [reading]
    rfl
  by_cases spawning : ∃ object index, request = .spawnFinalizer object index
  · obtain ⟨object, index, rfl⟩ := spawning
    rfl
  obtain ⟨reconcilable, readings, back, job, rfl, _, created, asked⟩ :=
    sync_reconciles issued reading fun object index same => spawning ⟨object, index, same⟩
  refine reconcile_settled asked (created.isJobFinished_eq.trans reconcilable.unfinished) ?_
  intro pods listed
  refine settled reconcilable job pods created ?_
  exact (listed.mono (List.subset_append_right _ _)).of_meta
    created.samePass.statusOnly.meta_eq.symm

end Quiet

end MXNetOperator.Mx
