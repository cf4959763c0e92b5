import MXNetOperator.Cluster.Versions

/-!
Contract: what every stored status satisfies, in every run.

Verdicts exclude each other, the completion time goes with success, and a
stored verdict is final: both writers of the job, Sync and the finalizer
goroutine, leave the status of a finished job alone, however stale the version
they were handed.
-/

namespace MXNetOperator.Property

open MXNetOperator.Kube MXNetOperator.Api MXNetOperator.Interaction MXNetOperator.Mx
  MXNetOperator.Cluster

/-- What every stored status satisfies. -/
structure StatusSound (status : MXJobStatus) : Prop where
  unique : UniqueConditions status
  exclusive : ¬ (checkCondition status .succeeded = true ∧ checkCondition status .failed = true)
  completed : status.completionTime.isSome = true ↔ checkCondition status .succeeded = true

theorem statusSound_empty : StatusSound .empty where
  unique := List.nodup_nil
  exclusive := by decide
  completed := by decide

/-- A Sync of an unfinished job concludes with a sound status. -/
theorem StatusSound.concluded {mxjob after : MXJob} {pods : List Pod} {trace : List Call}
    (sound : StatusSound mxjob.status) (unfinished : isJobFinished mxjob.status = false)
    (concluded : Concluded mxjob pods after trace) : StatusSound after.status where
  unique := concluded.unique sound.unique
  exclusive := by
    rw [concluded.succeeded unfinished, concluded.failed unfinished]
    exact fun both => both.2.2 both.1
  completed := by
    have incomplete : ¬ mxjob.status.completionTime.isSome = true := by
      rw [sound.completed, (check_of_unfinished unfinished).1]
      simp
    rw [concluded.completionTime, concluded.succeeded unfinished]
    simp [incomplete]

/-- The history of the stored status: every version is sound, and no version
differs in status from an earlier finished one. -/
structure StatusHistory (world : World) : Prop where
  sound : ∀ version ∈ world.versions, StatusSound version.status
  final : world.versions.Pairwise fun newer older =>
    isJobFinished older.status = true → newer.status = older.status

section Steps

variable {mxjob : MXJob} {world after : World} {state next : State} {action : Action}

theorem StatusHistory.of_versions (history : StatusHistory world)
    (same : after.versions = world.versions) : StatusHistory after :=
  ⟨by rw [same]; exact history.sound, by rw [same]; exact history.final⟩

/-- A new version continues the history if it is sound and leaves a finished
status alone. -/
theorem StatusHistory.extend (history : StatusHistory world)
    (older : after.older = world.versions) (sound : StatusSound after.job.status)
    (final : isJobFinished world.job.status = true → after.job.status = world.job.status) :
    StatusHistory after := by
  have finals := history.final
  rw [World.versions, List.pairwise_cons] at finals
  refine ⟨?_, ?_⟩
  · intro version member
    rw [World.versions, older] at member
    rcases List.mem_cons.mp member with rfl | earlier
    · exact sound
    · exact history.sound version earlier
  · rw [World.versions, older, List.pairwise_cons]
    refine ⟨fun version member finished => ?_, history.final⟩
    rcases List.mem_cons.mp member with rfl | earlier
    · exact final finished
    · -- an older finished version already fixed the status of the current one
      have same := finals.1 version earlier finished
      rw [← same] at finished ⊢
      exact final finished

theorem StatusHistory.step (history : StatusHistory state.world)
    (stepped : JobStep state action next) : StatusHistory next.world := by
  have current := history.sound state.world.job List.mem_cons_self
  cases stepped with
  | kept job older => exact history.of_versions (by rw [World.versions, job, older, World.versions])
  | synced outcome result pods reconcilable isCurrent concluded present stored =>
      have unfinished := reconcilable.unfinished
      rw [isCurrent] at unfinished
      have sound : StatusSound result.status := current.concluded unfinished concluded
      rw [stored]
      exact history.extend rfl sound (by simp [unfinished])
  | cleared index outcome thread found isCurrent notified present stored =>
      have same : (state.world.store thread.input.cleared).job.status =
          state.world.job.status := by
        rw [← isCurrent]
        rfl
      rw [stored]
      exact history.extend rfl (same ▸ current) fun _ => same
  | edited move edited =>
      exact history.extend edited.older (edited.status ▸ current) fun _ => edited.status

end Steps

/-- Along a run every stored status is sound and finished ones never change. -/
theorem run_statusHistory {allowed : State → Action → Prop} {mxjob : MXJob} {pods : List Pod}
    {services : List Service} {nextUID : UID} {past : List State} {state : State}
    (fresh : mxjob.status = .empty)
    (run : Run step allowed (State.initial mxjob pods services nextUID) past state) :
    StatusHistory state.world := by
  refine run.historyInvariant (fun _ current => StatusHistory current.world) ?_ ?_
  · refine ⟨?_, List.pairwise_singleton _ _⟩
    intro version member
    rw [List.mem_singleton.mp member]
    change StatusSound mxjob.status
    rw [fresh]
    exact statusSound_empty
  · intro earlier current action reached history _
    exact history.step (job_step (run_consistent reached) (step_stepped current action))

/-- The job stored in an earlier state is one of the versions of a later one. -/
theorem run_versions {allowed : State → Action → Prop} {mxjob : MXJob} {pods : List Pod}
    {services : List Service} {nextUID : UID} {past : List State} {state : State}
    (run : Run step allowed (State.initial mxjob pods services nextUID) past state) :
    ∀ earlier ∈ past, earlier.world.job ∈ state.world.versions := by
  refine run.historyInvariant
    (fun past current => ∀ earlier ∈ past, earlier.world.job ∈ current.world.versions) (by simp) ?_
  intro past current action reached stored _ earlier member
  have kept := (job_step (run_consistent reached) (step_stepped current action)).versions_subset
  rcases List.mem_cons.mp member with rfl | older
  · exact kept List.mem_cons_self
  · exact kept (stored earlier older)

/-- Exclusive and final verdicts.  In every run of a job created with an empty
status, every stored status has at most one verdict and a completion time
exactly with success, and once a verdict is stored the stored status is the
same in every later state. -/
theorem verdict_exclusive_final {mxjob : MXJob} {pods : List Pod} {services : List Service}
    {nextUID : UID} {past : List State} {state : State} (fresh : mxjob.status = .empty)
    (run : Run step (fun _ _ => True) (State.initial mxjob pods services nextUID) past state) :
    (∀ version ∈ state.world.versions,
      ¬ (checkCondition version.status .succeeded = true ∧
          checkCondition version.status .failed = true) ∧
        (version.status.completionTime.isSome = true ↔
          checkCondition version.status .succeeded = true)) ∧
      ∀ earlier ∈ past, checkCondition earlier.world.job.status .succeeded = true ∨
          checkCondition earlier.world.job.status .failed = true →
        state.world.job.status = earlier.world.job.status := by
  have history := run_statusHistory fresh run
  refine ⟨fun version member => ?_, fun earlier member verdict => ?_⟩
  · have sound := history.sound version member
    exact ⟨sound.exclusive, sound.completed⟩
  · have finished : isJobFinished earlier.world.job.status = true :=
      verdict.elim (isJobFinished_of_check (Or.inl rfl)) (isJobFinished_of_check (Or.inr rfl))
    have final := history.final
    rw [World.versions, List.pairwise_cons] at final
    rcases List.mem_cons.mp (run_versions run earlier member) with same | older
    · rw [same]
    · exact final.1 _ older finished

/-- The worker of `sampleJob` succeeds; then the scheduler fails. -/
def lateFailure : List Action :=
  firstSync ++ .move (.podPhase 4 .succeeded) :: quietSync ++
    .move (.podPhase 1 .failed) :: quietSync

theorem run_lateFailure : Run step (fun _ _ => True) sampleStart
    (Run.passed step [] sampleStart lateFailure) (lateFailure.foldl step sampleStart) :=
  Run.start.extend (by decide +kernel)

theorem verdict_final_lateFailure :
    checkCondition (lateFailure.foldl step sampleStart).world.job.status .succeeded = true ∧
      ∀ earlier ∈ Run.passed step [] sampleStart lateFailure,
        checkCondition earlier.world.job.status .succeeded = true ∨
          checkCondition earlier.world.job.status .failed = true →
        (lateFailure.foldl step sampleStart).world.job.status = earlier.world.job.status :=
  ⟨by decide +kernel, (verdict_exclusive_final (by rfl) run_lateFailure).2⟩

end MXNetOperator.Property
