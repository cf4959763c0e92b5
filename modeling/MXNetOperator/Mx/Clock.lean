import MXNetOperator.Mx.Sync

/-!
Contract: where the two times of a status come from.

Owns `Timed`: a status that follows another one has its times, or times read
from the clock on the way; a start time is never replaced.  Every part of
`Sync` up to the update is shown to be timed.
-/

namespace MXNetOperator.Mx

open MXNetOperator.Kube MXNetOperator.Api MXNetOperator.Interaction

/-- The times of a status that follows another one after these exchanges. -/
structure Timed (before after : MXJobStatus) (trace : List Call) : Prop where
  start : after.startTime = before.startTime ∨ (before.startTime = none ∧
    ∃ now : Nat → Time, (⟨.now, now⟩ : Call) ∈ trace ∧ after.startTime = some (now 0))
  completion : after.completionTime = before.completionTime ∨
    ∃ now : Nat → Time, (⟨.now, now⟩ : Call) ∈ trace ∧ after.completionTime = some (now 3)

section Timed

variable {before middle after : MXJobStatus} {trace larger : List Call}

theorem Timed.of_eq (start : after.startTime = before.startTime)
    (completion : after.completionTime = before.completionTime) : Timed before after trace :=
  ⟨Or.inl start, Or.inl completion⟩

theorem Timed.mono (timed : Timed before after trace) (included : trace ⊆ larger) :
    Timed before after larger where
  start := by
    rcases timed.start with same | ⟨unset, now, read, set⟩
    · exact Or.inl same
    · exact Or.inr ⟨unset, now, included read, set⟩
  completion := by
    rcases timed.completion with same | ⟨now, read, set⟩
    · exact Or.inl same
    · exact Or.inr ⟨now, included read, set⟩

theorem Timed.trans (first : Timed before middle trace) (second : Timed middle after trace) :
    Timed before after trace where
  start := by
    rcases second.start with same | ⟨unset, now, read, set⟩
    · rw [same]
      exact first.start
    · rcases first.start with kept | ⟨_, _, _, earlier⟩
      · exact Or.inr ⟨kept ▸ unset, now, read, set⟩
      · rw [earlier] at unset
        cases unset
  completion := by
    rcases second.completion with same | later
    · rw [same]
      exact first.completion
    · exact Or.inr later

theorem Timed.startTime_kept (timed : Timed before after trace) {time : Time}
    (stored : before.startTime = some time) : after.startTime = some time := by
  rcases timed.start with same | ⟨unset, _⟩
  · rw [same, stored]
  · rw [stored] at unset
    cases unset

end Timed

/-! ### The blocks of a pass -/

section Blocks

variable {now : Nat → Time} {name : String} {js : MXJobStatus} {rtype : MXReplicaType}
  {status : MXReplicaStatus} {replicas running expected failed gone : Int32} {trace : List Call}

theorem setStartTime_timed (read : (⟨.now, now⟩ : Call) ∈ trace) :
    Timed js (setStartTime now js running replicas) trace := by
  unfold setStartTime
  split
  · rename_i started
    exact ⟨Or.inr ⟨started.2, now, read, rfl⟩, Or.inl rfl⟩
  · exact .of_eq rfl rfl

theorem setRunning_timed : Timed js (setRunning now name js running) trace := by
  unfold setRunning
  split
  · exact .of_eq updateMXJobConditions_startTime updateMXJobConditions_completionTime
  · exact .of_eq rfl rfl

theorem setSucceeded_timed (read : (⟨.now, now⟩ : Call) ∈ trace) :
    Timed js (setSucceeded now name js expected) trace := by
  unfold setSucceeded
  split
  · have completed : Timed js (if js.completionTime = none then
        { js with completionTime := some (now 3) } else js) trace := by
      split
      · exact ⟨Or.inl rfl, Or.inr ⟨now, read, rfl⟩⟩
      · exact .of_eq rfl rfl
    refine completed.trans (.of_eq ?_ ?_)
    · rw [updateMXJobFalseConditions_frame.2.1, updateMXJobConditions_startTime]
    · rw [updateMXJobFalseConditions_frame.2.2, updateMXJobConditions_completionTime]
  · exact .of_eq rfl rfl

theorem setFailed_timed : Timed js (setFailed now name js failed gone) trace := by
  unfold setFailed
  split
  · exact .of_eq updateMXJobConditions_startTime updateMXJobConditions_completionTime
  · exact .of_eq rfl rfl

theorem judgeStatus_timed (read : (⟨.now, now⟩ : Call) ∈ trace) :
    Timed js (judgeStatus now name js rtype status replicas) trace := by
  unfold judgeStatus
  refine Timed.trans ?_ setFailed_timed
  split
  · exact ((setStartTime_timed read).trans setRunning_timed).trans (setSucceeded_timed read)
  · exact .of_eq rfl rfl

end Blocks

/-! ### Whole Syncs -/

section Syncs

variable {mxjob after : MXJob} {pods : List Pod} {rtype : MXReplicaType} {spec : MXReplicaSpec}
  {trace : List Call}

theorem reconcilePods_timed (returned : (reconcilePods mxjob pods rtype spec).Returns trace after) :
    Timed mxjob.status after.status trace := by
  obtain ⟨replicas, now, creating, _, rfl, _, rfl⟩ := reconcilePods_returns returned
  have read : (⟨.now, now⟩ : Call) ∈ creating ++ [⟨.now, now⟩] := by simp
  refine Timed.trans ?_ (judgeStatus_timed read)
  cases rtype <;> exact .of_eq rfl rfl

theorem reconcileReplica_timed (returned : (reconcileReplica mxjob pods rtype).Returns trace after) :
    Timed mxjob.status after.status trace := by
  unfold reconcileReplica at returned
  split at returned
  · obtain ⟨_, rfl⟩ := Program.returns_pure.mp returned
    exact .of_eq rfl rfl
  · exact reconcilePods_timed returned

theorem reconcileScheduler_timed (returned : (reconcileScheduler mxjob pods).Returns trace after) :
    Timed mxjob.status after.status trace := by
  unfold reconcileScheduler at returned
  split at returned
  · obtain ⟨_, rfl⟩ := Program.returns_pure.mp returned
    exact .of_eq rfl rfl
  · simp only [Program.returns_bind, Program.returns_pure] at returned
    obtain ⟨_, creating, _, rfl, passed, _, _, _, _, _, _, _, _, _, _, _, rfl⟩ := returned
    exact (reconcilePods_timed passed).mono (List.subset_append_left creating _)

theorem evaluate_timed (returned : (evaluate mxjob).Returns trace (pods, after)) :
    Timed mxjob.status after.status trace := by
  simp only [evaluate, reconcileReplicas, Program.returns_bind, Program.returns_pure,
    Prod.mk.injEq] at returned
  obtain ⟨_, listing, _, rfl, _, _, passing, _, rfl,
    ⟨_, first, _, rfl, scheduler, _, second, third, rfl, server, worker⟩, rfl, rfl, rfl⟩ := returned
  have one := (reconcileScheduler_timed scheduler).mono
    (List.subset_append_left first (second ++ third))
  have two := (reconcileReplica_timed server).mono
    (List.subset_append_of_subset_right first (List.subset_append_left second third))
  have three := (reconcileReplica_timed worker).mono
    (List.subset_append_of_subset_right first (List.subset_append_right second third))
  refine ((one.trans two).trans three).mono ?_
  rw [List.append_nil]
  exact List.subset_append_right listing _

theorem MarkedAs.timed {evaluated marked : MXJob} (marks : MarkedAs evaluated marked) :
    Timed evaluated.status marked.status trace := by
  cases marks with
  | already => exact .of_eq rfl rfl
  | now fresh now =>
      exact .of_eq updateMXJobConditions_startTime updateMXJobConditions_completionTime

theorem CountersOnly.timed {before : MXJob} (frame : CountersOnly before after) :
    Timed before.status after.status trace := by
  rw [frame]
  exact .of_eq rfl rfl

theorem CreatedAs.timed {job : MXJob} (created : CreatedAs mxjob job) :
    Timed mxjob.status job.status trace := by
  cases created with
  | already => exact .of_eq rfl rfl
  | now fresh now =>
      exact .of_eq updateMXJobConditions_startTime updateMXJobConditions_completionTime

/-- A job that a reconciliation gets to store is timed. -/
theorem reconcileMXJobs_timed (issued : (reconcileMXJobs mxjob).Issues trace (.updateMXJob after)) :
    Timed mxjob.status after.status trace := by
  simp only [reconcileMXJobs, Program.issues_bind] at issued
  rcases issued with evaluating | ⟨⟨pods, evaluated⟩, front, _, rfl, evaluation, later⟩
  · cases evaluate_serves evaluating
  · rcases later with marking | ⟨marked, middle, _, rfl, marking, later⟩
    · rcases (markInitialized_issues marking).2.2 with same | ⟨_, same⟩ <;> cases same
    · rcases later with finishing | ⟨final, back, tail, rfl, finishing, storing⟩
      · rcases (finishJob_issues finishing).2.2 with same | ⟨_, _, same⟩ | ⟨_, _, same, _⟩ <;>
          cases same
      · obtain ⟨_, _, same⟩ := storeStatus_issues storing
        cases same
        have evaluatedTimed := (evaluate_timed evaluation).mono
          (List.subset_append_left front (middle ++ (back ++ tail)))
        exact (evaluatedTimed.trans (markInitialized_returns marking).1.timed).trans
          (finishJob_returns finishing).1.frame.timed

theorem sync_timed {event : Event} (issued : (sync event).Issues trace (.updateMXJob after)) :
    Timed event.object.status after.status trace := by
  cases sync_issues issued with
  | reconciling reconcilable readings back clock job created inner =>
      exact created.timed.trans
        ((reconcileMXJobs_timed inner).mono (List.subset_append_right readings back))

end Syncs

end MXNetOperator.Mx
