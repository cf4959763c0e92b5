import MXNetOperator.Cluster.Owned
import MXNetOperator.Property.StatusHistory

/-!
Contract: a stored verdict means that the job's pods are stopped.

`terminateMXJob` works on the pods listed at the start of the Sync.  Pods that
the same Sync created escape it, so the contract holds as long as no Sync meets
a list that is incomplete and decides the job at the same time.
-/

namespace MXNetOperator.Property

open MXNetOperator.Kube MXNetOperator.Api MXNetOperator.Interaction MXNetOperator.Mx
  MXNetOperator.Cluster

/-! ### The condition -/

def isFinalPhase (phase : PodPhase) : Bool :=
  phase == .succeeded || phase == .failed

/-- A pod in phase Succeeded or Failed stays in it. -/
def keepsFinalPhases (state : State) : Action → Bool
  | .move (.podPhase uid phase) => state.world.pods.all fun pod =>
      pod.uid != uid || !isFinalPhase pod.phase || phase == pod.phase
  | _ => true

/-- A Sync of this version would create pods beside the listed ones. -/
def Short (mxjob : MXJob) (pods : List Pod) : Prop :=
  ∃ rtype, 0 < podsNeeded mxjob pods rtype

instance (mxjob : MXJob) (pods : List Pod) : Decidable (Short mxjob pods) :=
  decidable_of_iff _ exists_replicaType.symm

/-- The pods a Sync is about to list are not at once incomplete and decisive. -/
def UndecidedShortage (mxjob : MXJob) (state : State) : Action → Prop
  | .work _ => state.worker.pending = some .listPods →
      ¬ (Short state.worker.input.object (ownPods mxjob state.world.pods) ∧
        Decided state.worker.input.object (ownPods mxjob state.world.pods))
  | _ => True

instance (mxjob : MXJob) (state : State) :
    (action : Action) → Decidable (UndecidedShortage mxjob state action)
  | .work _ => inferInstanceAs (Decidable (_ → _))
  | .deliver _ _ => inferInstanceAs (Decidable True)
  | .finalize _ _ => inferInstanceAs (Decidable True)
  | .restart => inferInstanceAs (Decidable True)
  | .move _ => inferInstanceAs (Decidable True)

/-- The steps under which a verdict stops the job. -/
def Terminable (mxjob : MXJob) (state : State) (action : Action) : Prop :=
  undisturbed mxjob action = true ∧ keepsFinalPhases state action = true ∧
    InformedDelivery isJobFinished state action ∧ UndecidedShortage mxjob state action

instance (mxjob : MXJob) (state : State) (action : Action) :
    Decidable (Terminable mxjob state action) :=
  inferInstanceAs (Decidable (_ ∧ _))

section Runs

variable {mxjob : MXJob} {pods : List Pod} {services : List Service} {nextUID : UID}
  {allowed : State → Action → Prop} {past : List State} {state next : State} {action : Action}

/-! ### Stopped pods stay stopped -/

/-- The same pod later on, still stopped if it was. -/
structure StillStopped (pod later : Pod) : Prop extends SamePod pod later where
  phase : isFinalPhase pod.phase = true → later.phase = pod.phase

theorem Evolves.stillStopped {pod later : Pod} (evolves : Evolves state action pod later)
    (member : pod ∈ state.world.pods) (calm : undisturbed mxjob action = true)
    (final : keepsFinalPhases state action = true) : StillStopped pod later := by
  refine ⟨evolves.samePod (undisturbed_keepsLabels calm), fun stopped => ?_⟩
  rcases evolves.phase with same | rfl
  · exact same
  · have kept := List.all_eq_true.mp final pod member
    simpa [stopped] using kept

theorem StillStopped.inactive {pod later : Pod} (same : StillStopped pod later)
    (stopped : isPodActive pod = false) : isPodActive later = false := by
  have reasons : isFinalPhase pod.phase = true ∨ pod.deletionTimestamp.isSome = true := by
    unfold isPodActive at stopped
    cases phase : pod.phase <;> cases stamp : pod.deletionTimestamp <;>
      simp_all [isFinalPhase]
  rcases reasons with final | deleting
  · rw [isPodActive, same.phase final]
    unfold isFinalPhase at final
    cases phase : pod.phase <;> simp_all
  · have marked := same.deleting deleting
    cases stamp : later.deletionTimestamp with
    | none => simp [stamp] at marked
    | some time => simp [isPodActive, stamp]

theorem run_stillStopped (setting : Setting mxjob pods services nextUID allowed)
    (final : ∀ current action, allowed current action → keepsFinalPhases current action = true)
    (run : Run step allowed (State.initial mxjob pods services nextUID) past state) :
    ∀ earlier ∈ past, ∀ pod ∈ earlier.world.pods, pod.uid < state.world.nextUID ∧
      ∀ later ∈ state.world.pods, later.uid = pod.uid → StillStopped pod later :=
  run_evolves (fun pod => ⟨SamePod.refl pod, fun _ => rfl⟩)
    (fun left right => ⟨left.toSamePod.trans right.toSamePod, fun stopped => by
      rw [right.phase (left.phase stopped ▸ stopped), left.phase stopped]⟩)
    (fun _ current action pod later _ permitted member evolves =>
      Evolves.stillStopped evolves member (setting.calm current action permitted)
        (final current action permitted)) setting.distinct run

/-! ### Deleted pods -/

/-- The step lemma for deletions. -/
theorem deleted_step {name : String}
    (known : (⟨.deletePod name, none⟩ : Call) ∈ state.worker.trace → ∀ pod ∈ state.world.pods,
      selects mxjob pod.labels = true → pod.name = name → pod.deletionTimestamp.isSome = true)
    (calm : undisturbed mxjob action = true) (change : PodChange state action next)
    (worker : WorkerStep state action next)
    (sent : (⟨.deletePod name, none⟩ : Call) ∈ next.worker.trace) :
    ∀ pod ∈ next.world.pods, selects mxjob pod.labels = true → pod.name = name →
      pod.deletionTimestamp.isSome = true := by
  have carried : (⟨.deletePod name, none⟩ : Call) ∈ state.worker.trace →
      ∀ pod ∈ next.world.pods, selects mxjob pod.labels = true → pod.name = name →
        pod.deletionTimestamp.isSome = true := by
    intro before later member selected named
    cases change with
    | edited edit evolves pods uids =>
        rw [pods] at member
        obtain ⟨pod, isPod, rfl⟩ := List.mem_map.mp member
        have same := (evolves pod isPod).samePod (undisturbed_keepsLabels calm)
        exact same.deleting (known before pod isPod (same.labels ▸ selected) (same.name ▸ named))
    | removed keep pods uids =>
        rw [pods] at member
        exact known before later (List.mem_filter.mp member).1 selected named
    | created outcome request reply working issued trace free pods uids =>
        -- creations come before the verdict, deletions after it
        have early := (sync_createPod issued).2.1 _ before
        cases early
    | foreign pod stored moving copy free pods uids =>
        rw [pods] at member
        rcases List.mem_append.mp member with old | new
        · exact known before later old selected named
        · subst moving
          rw [List.mem_singleton.mp new, copy] at selected
          exact absurd selected (by simpa [undisturbed] using calm)
  cases worker with
  | rested worker => exact carried (worker ▸ sent)
  | reset trace => simp [trace] at sent
  | called outcome call working issued pending reply input trace world =>
      rw [trace] at sent
      rcases List.mem_append.mp sent with before | last
      · exact carried before
      · obtain rfl := (List.mem_singleton.mp last).symm
        intro pod member _ named
        rw [world, serve_deletePod reply.symm, World.deletePod] at member
        split at member
        · have other := (List.mem_filter.mp member).2
          simp [named] at other
        · obtain ⟨old, _, rfl⟩ := List.mem_map.mp member
          split
          · rfl
          · rename_i other
            rw [if_neg other] at named
            exact absurd named other

/-- A pod whose deletion succeeded in the Sync under way is marked or gone. -/
theorem run_deleted (setting : Setting mxjob pods services nextUID allowed)
    (run : Run step allowed (State.initial mxjob pods services nextUID) past state)
    {name : String} (sent : (⟨.deletePod name, none⟩ : Call) ∈ state.worker.trace) :
    ∀ pod ∈ state.world.pods, selects mxjob pod.labels = true → pod.name = name →
      pod.deletionTimestamp.isSome = true := by
  refine run.historyInvariant (fun _ current =>
    (⟨.deletePod name, none⟩ : Call) ∈ current.worker.trace → ∀ pod ∈ current.world.pods,
      selects mxjob pod.labels = true → pod.name = name →
        pod.deletionTimestamp.isSome = true) ?_ ?_ sent
  · intro member
    cases member
  · intro past current action reached known permitted
    have stepped := step_stepped current action
    exact deleted_step known (setting.calm current action permitted)
      (pod_change (run_distinct setting.distinct reached) stepped) (worker_step stepped)

/-! ### The verdict -/

theorem run_undecided
    (condition : ∀ current action, allowed current action →
      UndecidedShortage mxjob current action)
    (run : Run step allowed (State.initial mxjob pods services nextUID) past state) :
    ∀ listed, lists listed ∈ state.worker.trace →
      ¬ (Short state.worker.input.object (ownPods mxjob listed) ∧
        Decided state.worker.input.object (ownPods mxjob listed)) := by
  refine run_sinceListing (fun _ listed current =>
    ¬ (Short current.worker.input.object (ownPods mxjob listed) ∧
      Decided current.worker.input.object (ownPods mxjob listed))) rfl ?_ ?_ run
  · intro past current outcome next _ permitted pending _ input _
    rw [input]
    exact condition current _ permitted pending
  · intro past current action listed more _ _ _ known _ input
    rw [input]
    exact known

/-- A Sync that reaches its update with a verdict has found the job decided. -/
theorem Concluded.decided {object after : MXJob} {claimed : List Pod} {trace : List Call}
    (concluded : Concluded object claimed after trace) (unique : UniqueConditions object.status)
    (unfinished : isJobFinished object.status = false)
    (finished : isJobFinished after.status = true) : Decided object claimed := by
  rw [isJobFinished_eq (concluded.unique unique), Bool.or_eq_true,
    concluded.succeeded unfinished, concluded.failed unfinished] at finished
  rcases finished with done | ⟨lost, _⟩
  · exact Or.inl done
  · exact Or.inr lost

/-- When a Sync reaches its update with a verdict, no pod of the job is active. -/
theorem verdict_stops (setting : Setting mxjob pods services nextUID allowed)
    (fresh : mxjob.status = .empty)
    (final : ∀ current action, allowed current action → keepsFinalPhases current action = true)
    (condition : ∀ current action, allowed current action →
      UndecidedShortage mxjob current action)
    (run : Run step allowed (State.initial mxjob pods services nextUID) past state)
    {after : MXJob} {claimed : List Pod} (reconcilable : Reconcilable state.worker.input)
    (concluded : Concluded state.worker.input.object claimed after state.worker.trace)
    (finished : isJobFinished after.status = true) :
    ∀ pod ∈ state.world.pods, selects mxjob pod.labels = true → isPodActive pod = false := by
  have consistent := run_consistent run
  have unique := ((run_statusHistory fresh run).sound _ consistent.worker).unique
  have decided := Concluded.decided concluded unique reconcilable.unfinished finished
  obtain ⟨earlier, isEarlier, found, rfl⟩ :=
    run_claimed setting run concluded.evaluation.listed
  -- the decisive list was complete, so the Sync created nothing
  have complete : ∀ rtype, createCount rtype state.worker.trace = 0 := by
    intro rtype
    rw [concluded.evaluation.counts rtype]
    refine Nat.eq_zero_of_not_pos fun needed => ?_
    exact run_undecided condition run _ found ⟨⟨rtype, needed⟩, decided⟩
  intro pod member selected
  obtain ⟨rtype, typed⟩ := run_typed setting run pod member selected
  have accounted := run_unlisted setting run rtype _ found
  rw [complete rtype] at accounted
  have isListed := List.countP_eq_zero.mp (Nat.eq_zero_of_le_zero accounted) pod member
  simp only [unlisted, typed, Bool.true_and, Bool.not_eq_true', Bool.not_eq_false,
    List.any_eq_true, beq_iff_eq] at isListed
  obtain ⟨before, isBefore, sameUid⟩ := isListed
  have same := (run_stillStopped setting final run earlier isEarlier before isBefore).2 pod member
    sameUid.symm
  cases active : isPodActive before with
  | false => exact same.inactive active
  | true =>
      -- it was in the list and active, so this Sync has deleted it
      have selectedThen : selects mxjob before.labels = true := same.labels ▸ selected
      have own : before ∈ ownPods mxjob earlier.world.pods := by
        refine List.mem_filter.mpr ⟨isBefore, ?_⟩
        rw [manages, selectedThen, (run_owned setting run).2 earlier isEarlier before isBefore
          selectedThen]
        rfl
      have sent := (concluded.stopped finished).1 before (List.mem_filter.mpr ⟨own, active⟩)
      have marked := run_deleted setting run sent pod member selected same.name
      cases stamp : pod.deletionTimestamp with
      | none => simp [stamp] at marked
      | some time => simp [isPodActive, stamp]

/-- The step lemma after a verdict: nothing becomes active again. -/
theorem stopped_step
    (known : ∀ pod ∈ state.world.pods, selects mxjob pod.labels = true → isPodActive pod = false)
    (calm : undisturbed mxjob action = true) (final : keepsFinalPhases state action = true)
    (change : PodChange state action next)
    (silent : ∀ request,
      ¬ (sync state.worker.input).Issues state.worker.trace (.createPod request)) :
    ∀ pod ∈ next.world.pods, selects mxjob pod.labels = true → isPodActive pod = false := by
  intro later member selected
  cases change with
  | edited edit evolves pods uids =>
      rw [pods] at member
      obtain ⟨pod, isPod, rfl⟩ := List.mem_map.mp member
      have same := Evolves.stillStopped (evolves pod isPod) isPod calm final
      exact same.inactive (known pod isPod (same.labels ▸ selected))
  | removed keep pods uids =>
      rw [pods] at member
      exact known later (List.mem_filter.mp member).1 selected
  | created outcome request reply working issued trace free pods uids =>
      exact absurd issued (silent request)
  | foreign pod stored moving copy free pods uids =>
      rw [pods] at member
      rcases List.mem_append.mp member with old | new
      · exact known later old selected
      · subst moving
        rw [List.mem_singleton.mp new, copy] at selected
        exact absurd selected (by simpa [undisturbed] using calm)

/-- Once a verdict is stored, no pod of the job is active. -/
theorem run_stopped (fresh : mxjob.status = .empty)
    (run : Run step (Terminable mxjob) (State.initial mxjob [] services nextUID) past state) :
    isJobFinished state.world.job.status = true →
      ∀ pod ∈ state.world.pods, selects mxjob pod.labels = true → isPodActive pod = false := by
  have setting : Setting mxjob [] services nextUID (Terminable mxjob) :=
    Setting.empty fun _ _ permitted => permitted.1
  refine run.historyInvariant (fun _ current => isJobFinished current.world.job.status = true →
    ∀ pod ∈ current.world.pods, selects mxjob pod.labels = true → isPodActive pod = false) ?_ ?_
  · intro _ pod member
    cases member
  · intro past current action reached known permitted finished
    have stepped := step_stepped current action
    have change := pod_change (run_distinct setting.distinct reached) stepped
    -- a step that leaves the status alone keeps the pods stopped
    have kept : (step current action).world.job.status = current.world.job.status →
        ∀ pod ∈ (step current action).world.pods, selects mxjob pod.labels = true →
          isPodActive pod = false := by
      intro same
      rw [same] at finished
      have informed := run_informed (fun _ _ permitted => permitted.2.2.1) reached finished
      refine stopped_step (known finished) permitted.1 permitted.2.1 change ?_
      refine informed.creates_none fun event claimed rtype reconcilable marked => ?_
      rw [reconcilable.unfinished] at marked
      cases marked
    cases job_step (run_consistent reached) stepped with
    | kept job older => exact kept (by rw [job])
    | synced outcome after claimed reconcilable isCurrent concluded present stored =>
        rw [stored] at finished ⊢
        rw [← isCurrent] at concluded
        have verdict : isJobFinished after.status = true := finished
        exact verdict_stops setting fresh (fun _ _ permitted => permitted.2.1)
          (fun _ _ permitted => permitted.2.2.2) reached reconcilable concluded verdict
    | cleared index outcome thread found isCurrent notified present stored =>
        refine kept ?_
        rw [stored, ← isCurrent]
        rfl
    | edited move edited => exact kept edited.status

end Runs

/-- Finished means stopped.  For a job that starts with an empty status and no
pods: whenever a Sync reaches its update with a verdict, and in every state
once a verdict is stored, no pod of the job is active.  The pods the job's
selector accepts are those the operator created.  A pod that was listed as
active has been deleted by that Sync. -/
theorem finished_stopped {mxjob : MXJob} {services : List Service} {nextUID : UID}
    {past : List State} {state : State} (fresh : mxjob.status = .empty)
    (run : Run step (Terminable mxjob) (State.initial mxjob [] services nextUID) past state) :
    (∀ after, (sync state.worker.input).Issues state.worker.trace (.updateMXJob after) →
      isJobFinished after.status = true →
        (∃ claimed, Listed state.worker.input.object claimed state.worker.trace ∧
          ∀ pod ∈ filterActivePods claimed,
            (⟨.deletePod pod.name, none⟩ : Call) ∈ state.worker.trace) ∧
        ∀ pod ∈ state.world.pods, selects mxjob pod.labels = true → isPodActive pod = false) ∧
      (isJobFinished state.world.job.status = true →
        ∀ pod ∈ state.world.pods, selects mxjob pod.labels = true →
          isPodActive pod = false) := by
  refine ⟨fun after issued finished => ?_, run_stopped fresh run⟩
  obtain ⟨reconcilable, claimed, concluded, _⟩ := sync_update issued
  refine ⟨⟨claimed, concluded.evaluation.listed, (concluded.stopped finished).1⟩, ?_⟩
  exact verdict_stops (Setting.empty fun _ _ permitted => permitted.1) fresh
    (fun _ _ permitted => permitted.2.1) (fun _ _ permitted => permitted.2.2.2) run reconcilable
    concluded finished

/-- The scheduler of `sampleJob` fails when all pods are there. -/
def failedScheduler : List Action :=
  firstSync ++ .move (.podPhase 1 .failed) :: quietSync

theorem run_failedScheduler : Run step (Terminable sampleJob) sampleStart
    (Run.passed step [] sampleStart failedScheduler) (failedScheduler.foldl step sampleStart) :=
  Run.start.extend (by decide +kernel)

theorem finished_stopped_failedScheduler :
    (failedScheduler.foldl step sampleStart).world.pods.length = 3 ∧
      ∀ pod ∈ (failedScheduler.foldl step sampleStart).world.pods,
        selects sampleJob pod.labels = true → isPodActive pod = false :=
  ⟨by decide +kernel,
    (finished_stopped (by rfl) run_failedScheduler).2 (by decide +kernel)⟩

/-- The service of `sampleJob` cannot be created at first, and the scheduler
fails before the next Sync, which creates the server and the worker. -/
def splitCreation : List Action :=
  .deliver 0 false :: calls ["", "", "", "scheduler-1", "", ""] ++
    .work (.error .internalError) :: .move (.podPhase 1 .failed) :: .deliver 0 false ::
    calls ["", "", "", "", "", "", "server-1", "", "", "worker-1", "", "", "", "", ""]

def deletesPod : Call → Bool
  | ⟨.deletePod _, _⟩ => true
  | _ => false

/-- The verdict is stored, two pods of the job are active, and nothing was ever
deleted. -/
theorem finished_active_splitCreation :
    isJobFinished (splitCreation.foldl step sampleStart).world.job.status = true ∧
      (splitCreation.foldl step sampleStart).world.pods.countP (fun pod =>
        selects sampleJob pod.labels && isPodActive pod) = 2 ∧
      (splitCreation.foldl step sampleStart).log.countP deletesPod = 0 := by
  refine ⟨?_, ?_, ?_⟩ <;> decide +kernel

end MXNetOperator.Property
