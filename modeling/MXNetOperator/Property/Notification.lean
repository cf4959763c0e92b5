import MXNetOperator.Cluster.Versions

/-!
Contract: no webhook call is skipped.

Both webhooks are called before the update that records them is stored, so what
the stored job records was notified.  The finalizer path leaves the finish
webhook out for finished jobs; it may, because a finished status is only stored
after that call.
-/

namespace MXNetOperator.Property

open MXNetOperator.Kube MXNetOperator.Api MXNetOperator.Interaction MXNetOperator.Mx
  MXNetOperator.Cluster

/-- The start webhook was called. -/
def StartNotified (log : List Call) : Prop :=
  ∃ job, (⟨.callHookAsync job true, ()⟩ : Call) ∈ log

/-- The finish webhook was called for a finished job or one pending deletion. -/
def FinishNotified (log : List Call) : Prop :=
  ∃ job, (⟨.callHookAsync job false, ()⟩ : Call) ∈ log ∧
    (isJobFinished job.status = true ∨ job.deletionTimestamp.isSome = true)

/-- The log has the exchanges of every thread, and finalizer goroutines serve
jobs pending deletion that have the finalizer. -/
structure Recorded (state : State) : Prop where
  worker : state.worker.trace ⊆ state.log
  goroutines : ∀ thread ∈ state.goroutines, thread.trace ⊆ state.log ∧
    thread.input.object.deletionTimestamp.isSome = true
  found : ∀ thread ∈ state.goroutines,
    indexFound thread.input.object.finalizers = some thread.input.index

section Runs

variable {mxjob : MXJob} {pods : List Pod} {services : List Service} {nextUID : UID}
  {allowed : State → Action → Prop} {past : List State} {state next : State} {action : Action}

theorem log_subset (stepped : Stepped state action next) : state.log ⊆ next.log := by
  cases stepped with
  | work => exact List.subset_append_left _ _
  | finalize => exact List.subset_append_left _ _
  | _ => exact List.Subset.refl _

/-- A Sync starts a finalizer goroutine first thing, for a job pending deletion
that has the finalizer. -/
theorem sync_spawn {event : Event} {trace : List Call} {object : MXJob} {index : Nat}
    (issued : (sync event).Issues trace (.spawnFinalizer object index)) :
    trace = [] ∧ object = event.object ∧ event.deleted = false ∧
      event.object.deletionTimestamp.isSome = true ∧
      indexFound event.object.finalizers = some index := by
  generalize trace = calls at issued ⊢
  cases sync_issues issued with
  | finalizing _ present deleting found => exact ⟨rfl, rfl, present, deleting, found⟩
  | reconciling _ readings back clock job created inner =>
      cases reconcileMXJobs_issues inner with
      | evaluating evaluating => cases evaluate_serves evaluating
      | terminating pods marked evaluation now marks finished shape =>
          rcases shape with same | ⟨pod, _, same⟩ <;> cases same

theorem append_singleton_subset {trace log : List Call} (included : trace ⊆ log) (call : Call) :
    trace ++ [call] ⊆ log ++ [call] := by
  intro other member
  rcases List.mem_append.mp member with earlier | last
  · exact List.mem_append_left _ (included earlier)
  · exact List.mem_append_right _ last

theorem Recorded.step (recorded : Recorded state) (stepped : Stepped state action next) :
    Recorded next := by
  have kept := log_subset stepped
  refine ⟨?_, ?_, ?_⟩
  · cases stepped with
    | deliver => exact List.nil_subset _
    | restart => exact List.nil_subset _
    | work outcome worker call issued pending reply input trace =>
        simp only [trace]
        exact append_singleton_subset recorded.worker call
    | _ => exact List.Subset.trans recorded.worker kept
  · have earlier : ∀ thread ∈ state.goroutines, thread.trace ⊆ next.log ∧
        thread.input.object.deletionTimestamp.isSome = true := by
      intro thread member
      obtain ⟨logged, deleting⟩ := recorded.goroutines thread member
      exact ⟨List.Subset.trans logged kept, deleting⟩
    intro thread member
    cases stepped with
    | restart => cases member
    | work outcome worker call issued pending reply input trace =>
        rcases List.mem_append.mp member with old | fresh
        · exact earlier thread old
        · obtain ⟨request, answer⟩ := call
          cases request with
          | spawnFinalizer object index =>
              rw [List.mem_singleton.mp fresh]
              obtain ⟨_, rfl, _, deleting, _⟩ := sync_spawn issued
              exact ⟨List.nil_subset _, deleting⟩
          | _ => cases fresh
    | finalize index outcome old changed call found issued reply input trace =>
        rcases List.mem_or_eq_of_mem_set member with other | rfl
        · exact earlier thread other
        · obtain ⟨logged, deleting⟩ := recorded.goroutines old (List.mem_of_getElem? found)
          rw [trace, input]
          exact ⟨append_singleton_subset logged call, deleting⟩
    | _ => exact earlier thread member
  · intro thread member
    cases stepped with
    | restart => cases member
    | work outcome worker call issued pending reply input trace =>
        rcases List.mem_append.mp member with old | fresh
        · exact recorded.found thread old
        · obtain ⟨request, answer⟩ := call
          cases request with
          | spawnFinalizer object index =>
              rw [List.mem_singleton.mp fresh]
              obtain ⟨_, rfl, _, _, found⟩ := sync_spawn issued
              exact found
          | _ => cases fresh
    | finalize index outcome old changed call found issued reply input trace =>
        rcases List.mem_or_eq_of_mem_set member with other | rfl
        · exact recorded.found thread other
        · rw [input]
          exact recorded.found old (List.mem_of_getElem? found)
    | _ => exact recorded.found thread member

theorem run_recorded
    (run : Run step allowed (State.initial mxjob pods services nextUID) past state) :
    Recorded state :=
  run.invariant Recorded ⟨List.nil_subset _, by simp [State.initial], by simp [State.initial]⟩
    fun current action recorded _ => recorded.step (step_stepped current action)

/-! ### No notification is skipped -/

/-- Users neither add the finalizer of the finish webhook nor remove its last
occurrence. -/
def keepsFinishWebhook (state : State) : Action → Bool
  | .move (.editFinalizers finalizers) =>
      decide (finalizerFinishWebhook ∈ finalizers ↔
        finalizerFinishWebhook ∈ state.world.job.finalizers)
  | _ => true

/-- The operator has removed the last finalizer of the finish webhook. -/
def FinalizerCleared (mxjob : MXJob) (world : World) : Prop :=
  finalizerFinishWebhook ∈ mxjob.finalizers ∧
    finalizerFinishWebhook ∉ world.job.finalizers

/-- What the stored job records was notified. -/
structure Notified (mxjob : MXJob) (state : State) : Prop where
  started : isInitialized state.world.job.status = true → StartNotified state.log
  finished : isJobFinished state.world.job.status = true → FinishNotified state.log
  cleared : FinalizerCleared mxjob state.world → FinishNotified state.log

theorem StartNotified.mono {log larger : List Call} (notified : StartNotified log)
    (included : log ⊆ larger) : StartNotified larger := by
  obtain ⟨job, member⟩ := notified
  exact ⟨job, included member⟩

theorem FinishNotified.mono {log larger : List Call} (notified : FinishNotified log)
    (included : log ⊆ larger) : FinishNotified larger := by
  obtain ⟨job, member, cause⟩ := notified
  exact ⟨job, included member, cause⟩

/-- A step that changes neither what the job records keeps it notified. -/
theorem Notified.of_same (notified : Notified mxjob state) (logged : state.log ⊆ next.log)
    (status : next.world.job.status = state.world.job.status)
    (finalizers : finalizerFinishWebhook ∈ next.world.job.finalizers ↔
      finalizerFinishWebhook ∈ state.world.job.finalizers) : Notified mxjob next where
  started := by
    rw [status]
    exact fun marked => (notified.started marked).mono logged
  finished := by
    rw [status]
    exact fun verdict => (notified.finished verdict).mono logged
  cleared := by
    rw [FinalizerCleared, finalizers]
    exact fun removed => (notified.cleared removed).mono logged

/-- The step lemma: whoever stores a version has notified before. -/
theorem Notified.step (notified : Notified mxjob state) (recorded : Recorded state)
    (kept : keepsFinishWebhook state action = true) (logged : state.log ⊆ next.log)
    (stepped : JobStep state action next) : Notified mxjob next := by
  cases stepped with
  | kept job older => exact notified.of_same logged (by rw [job]) (by rw [job])
  | synced outcome after claimed reconcilable isCurrent concluded present stored =>
      have traced := List.Subset.trans recorded.worker logged
      refine ⟨fun _ => ?_, fun verdict => ?_, fun removed => ?_⟩
      · cases marked : isInitialized state.world.job.status with
        | true => exact (notified.started marked).mono logged
        | false =>
            obtain ⟨job, _, hook⟩ := concluded.started marked
            exact ⟨job, traced hook⟩
      · rw [stored] at verdict
        exact ⟨after, traced (concluded.stopped verdict).2, Or.inl verdict⟩
      · rw [FinalizerCleared, stored] at removed
        have same : after.finalizers = state.world.job.finalizers :=
          concluded.statusOnly.finalizers_eq
        exact (notified.cleared ⟨removed.1, same ▸ removed.2⟩).mono logged
  | cleared index outcome thread found isCurrent hooked present stored =>
      obtain ⟨traced, deleting⟩ := recorded.goroutines thread found
      have finish : FinishNotified next.log := by
        cases verdict : isJobFinished state.world.job.status with
        | true => exact (notified.finished verdict).mono logged
        | false =>
            rw [isCurrent] at deleting
            exact ⟨_, logged (traced (hooked verdict)), Or.inr deleting⟩
      refine ⟨fun marked => ?_, fun _ => finish, fun _ => finish⟩
      rw [stored] at marked
      have before : isInitialized thread.input.object.status = true := marked
      rw [isCurrent] at before
      exact (notified.started before).mono logged
  | edited move edited =>
      refine notified.of_same logged edited.status ?_
      rcases edited.finalizers with same | ⟨moved, _⟩
      · rw [same]
      · rw [moved] at kept
        exact of_decide_eq_true kept

end Runs

/-- No notification is skipped.  As long as only the operator adds or removes
the finalizer: if the stored status is initialized, the start webhook was
called; if it is finished, or the operator has removed the last finalizer, the
finish webhook was called for a finished job or one pending deletion. -/
theorem notifications_complete {mxjob : MXJob} {pods : List Pod} {services : List Service}
    {nextUID : UID} {past : List State} {state : State} (fresh : mxjob.status = .empty)
    (run : Run step (fun state action => keepsFinishWebhook state action = true)
      (State.initial mxjob pods services nextUID) past state) :
    (isInitialized state.world.job.status = true → StartNotified state.log) ∧
      (isJobFinished state.world.job.status = true ∨ FinalizerCleared mxjob state.world →
        FinishNotified state.log) := by
  have notified : Notified mxjob state := by
    refine run.historyInvariant (fun _ current => Notified mxjob current) ?_ ?_
    · have empty : (State.initial mxjob pods services nextUID).world.job.status = .empty := fresh
      refine ⟨?_, ?_, fun removed => absurd removed.1 removed.2⟩ <;>
        · rw [empty]
          intro impossible
          cases impossible
    · intro past current action reached notified permitted
      have stepped := step_stepped current action
      exact notified.step (run_recorded reached) permitted (log_subset stepped)
        (job_step (run_consistent reached) stepped)
  exact ⟨notified.started, fun cause => cause.elim notified.finished notified.cleared⟩

/-- `sampleJob` with the finalizer, deleted once it is initialized. -/
def finalizedStart : State :=
  State.initial { sampleJob with finalizers := [finalizerFinishWebhook] } [] [] 1

def deletedJob : List Action :=
  firstSync ++ .move (.deleteJob 7) :: .deliver 0 false :: .work (.success "") ::
    List.replicate 5 (.finalize 0 (.success ""))

theorem run_deletedJob : Run step (fun state action => keepsFinishWebhook state action = true)
    finalizedStart (Run.passed step [] finalizedStart deletedJob)
    (deletedJob.foldl step finalizedStart) :=
  Run.start.extend (by decide +kernel)

theorem notifications_complete_deletedJob :
    FinalizerCleared { sampleJob with finalizers := [finalizerFinishWebhook] }
        (deletedJob.foldl step finalizedStart).world ∧
      FinishNotified (deletedJob.foldl step finalizedStart).log := by
  have cleared : FinalizerCleared { sampleJob with finalizers := [finalizerFinishWebhook] }
      (deletedJob.foldl step finalizedStart).world := by
    unfold FinalizerCleared
    decide +kernel
  exact ⟨cleared, (notifications_complete (by rfl) run_deletedJob).2 (Or.inr cleared)⟩

end MXNetOperator.Property
