import MXNetOperator.Mx.Clock
import MXNetOperator.Mx.Initial
import MXNetOperator.Cluster.Owned
import MXNetOperator.Property.StatusHistory

/-!
Contract: the start time of completed jobs.

A start time is recorded in the pass that counts exactly the wanted workers as
active, and it is lost with that pass when the update fails.  If pods may end
before the first status is stored, a job completes without one.  If they may
not, the Sync that stores the first status has counted every worker as active,
so every stored status has a start time.  A stored start time never changes.
-/

namespace MXNetOperator.Property

open MXNetOperator.Kube MXNetOperator.Api MXNetOperator.Interaction MXNetOperator.Mx
  MXNetOperator.Cluster

/-! ### The condition -/

/-- A reading taken before this one shows no later time.  A pass reads the clock
at most nine times. -/
def readsForward (clock : Nat → Time) : Call → Bool
  | ⟨.now, earlier⟩ => decide ((earlier : Nat → Time) 8 ≤ clock 0)
  | _ => true

/-- The clock does not go back. -/
def ClockForward (state : State) : Action → Prop
  | .work outcome => state.worker.pending = some .now →
      (∀ index < 8, outcome.clock index ≤ outcome.clock (index + 1)) ∧
        ∀ call ∈ state.log, readsForward outcome.clock call = true
  | _ => True

instance (state : State) : (action : Action) → Decidable (ClockForward state action)
  | .work _ => inferInstanceAs (Decidable (_ → _))
  | .deliver _ _ => inferInstanceAs (Decidable True)
  | .finalize _ _ => inferInstanceAs (Decidable True)
  | .restart => inferInstanceAs (Decidable True)
  | .move _ => inferInstanceAs (Decidable True)

/-- No pod with this uid has labels the job's selector accepts. -/
def notOwn (mxjob : MXJob) (state : State) (uid : UID) : Bool :=
  state.world.pods.all fun pod => pod.uid != uid || !selects mxjob pod.labels

/-- No pod of the job ends, and nobody else deletes one. -/
def leavesRunning (mxjob : MXJob) (state : State) : Action → Bool
  | .move (.podPhase uid phase) =>
      (phase != .succeeded && phase != .failed) || notOwn mxjob state uid
  | .move (.podDelete uid _) => notOwn mxjob state uid
  | _ => true

/-- The steps under which a completed job has a start time: the clock goes
forward and nobody edits the specification, and as long as no status is stored
the operator alone makes pods for the job and none of them ends. -/
def EndsLate (mxjob : MXJob) (state : State) (action : Action) : Prop :=
  keepsSpec action = true ∧ ClockForward state action ∧
    (state.world.job.status = .empty →
      undisturbed mxjob action = true ∧ leavesRunning mxjob state action = true)

instance (mxjob : MXJob) (state : State) (action : Action) :
    Decidable (EndsLate mxjob state action) :=
  inferInstanceAs (Decidable (_ ∧ _))

/-! ### Start times are final -/

section Runs

variable {mxjob : MXJob} {pods : List Pod} {services : List Service} {nextUID : UID}
  {allowed : State → Action → Prop} {past : List State} {state next : State} {action : Action}

theorem StatusStored.startTime_kept {after : MXJob} (stored : StatusStored state next after)
    {time : Time} (started : state.world.job.status.startTime = some time) :
    next.world.job.status.startTime = some time := by
  rw [stored.status]
  have timed := sync_timed stored.issued
  rw [stored.current] at timed
  exact timed.startTime_kept started

theorem run_startTime (run : Run step allowed (State.initial mxjob pods services nextUID) past state) :
    ∀ earlier ∈ past, ∀ time, earlier.world.job.status.startTime = some time →
      state.world.job.status.startTime = some time := by
  refine run.historyInvariant (fun past current => ∀ earlier ∈ past, ∀ time,
    earlier.world.job.status.startTime = some time →
      current.world.job.status.startTime = some time) (by simp) ?_
  intro past current action reached known _ earlier member time started
  have before : current.world.job.status.startTime = some time := by
    rcases List.mem_cons.mp member with rfl | older
    · exact started
    · exact known earlier older time started
  have stepped := step_stepped current action
  rcases (job_step (run_consistent reached) stepped).status_stored (worker_step stepped) with
    same | ⟨after, stored⟩
  · rw [same, before]
  · exact StatusStored.startTime_kept stored before

/-! ### Times come from the clock -/

/-- Where the times of a state come from: every stored start time was read from
the clock, and the Sync under way reads no earlier times than the start time it
was handed. -/
structure TimesKnown (state : State) : Prop where
  logged : state.worker.trace ⊆ state.log
  rising : ∀ now : Nat → Time, (⟨.now, now⟩ : Call) ∈ state.log →
    ∀ first last, first ≤ last → last ≤ 8 → now first ≤ now last
  read : ∀ version ∈ state.world.versions, ∀ time, version.status.startTime = some time →
    ∃ now : Nat → Time, (⟨.now, now⟩ : Call) ∈ state.log ∧ time = now 0
  later : ∀ now : Nat → Time, (⟨.now, now⟩ : Call) ∈ state.worker.trace → ∀ time,
    state.worker.input.object.status.startTime = some time → time ≤ now 3

theorem rising_of_steps {clock : Nat → Time}
    (steps : ∀ index < 8, clock index ≤ clock (index + 1)) {first last : Nat}
    (ordered : first ≤ last) (within : last ≤ 8) : clock first ≤ clock last := by
  induction last, ordered using Nat.le_induction with
  | base => exact Nat.le_refl _
  | succ last _ inductionHypothesis =>
      exact Nat.le_trans (inductionHypothesis (by omega)) (steps last (by omega))

/-- A new log entry that reads the clock is a reading of the Sync under way. -/
theorem logged_reading (stepped : Stepped state action next) (forward : ClockForward state action)
    {now : Nat → Time} (member : (⟨.now, now⟩ : Call) ∈ next.log) :
    (⟨.now, now⟩ : Call) ∈ state.log ∨
      ((∀ index < 8, now index ≤ now (index + 1)) ∧
        ∀ call ∈ state.log, readsForward now call = true) := by
  cases stepped with
  | work outcome worker call issued pending reply input trace =>
      rcases List.mem_append.mp member with old | new
      · exact Or.inl old
      · right
        obtain rfl := List.mem_singleton.mp new
        have clock : now = outcome.clock := reply
        subst clock
        exact forward pending
  | finalize index outcome thread changed call found issued reply input trace =>
      rcases List.mem_append.mp member with old | new
      · exact Or.inl old
      · obtain rfl := List.mem_singleton.mp new
        generalize thread.trace = done at issued
        cases finalizer_issues issued
  | _ => exact Or.inl member

theorem logged_step (logged : state.worker.trace ⊆ state.log)
    (stepped : Stepped state action next) :
    state.log ⊆ next.log ∧ next.worker.trace ⊆ next.log := by
  cases stepped with
  | idle => exact ⟨List.Subset.refl _, logged⟩
  | deliver => exact ⟨List.Subset.refl _, List.nil_subset _⟩
  | restart => exact ⟨List.Subset.refl _, List.nil_subset _⟩
  | move => exact ⟨List.Subset.refl _, logged⟩
  | work outcome worker call issued pending reply input trace =>
      refine ⟨List.subset_append_left _ _, ?_⟩
      simp only [trace]
      exact List.append_subset.mpr ⟨List.subset_append_of_subset_left _ logged,
        List.subset_append_right _ _⟩
  | finalize =>
      exact ⟨List.subset_append_left _ _, List.subset_append_of_subset_left _ logged⟩

/-- The start time of a new version was read from the clock. -/
theorem TimesKnown.read_step (known : TimesKnown state) (included : state.log ⊆ next.log)
    (jobStep : JobStep state action next) (worker : WorkerStep state action next) :
    ∀ version ∈ next.world.versions, ∀ time, version.status.startTime = some time →
      ∃ now : Nat → Time, (⟨.now, now⟩ : Call) ∈ next.log ∧ time = now 0 := by
  have before : ∀ version ∈ state.world.versions, ∀ time,
      version.status.startTime = some time →
        ∃ now : Nat → Time, (⟨.now, now⟩ : Call) ∈ next.log ∧ time = now 0 := by
    intro version member time started
    obtain ⟨now, read, same⟩ := known.read version member time started
    exact ⟨now, included read, same⟩
  have current : ∀ time, next.world.job.status.startTime = some time →
      ∃ now : Nat → Time, (⟨.now, now⟩ : Call) ∈ next.log ∧ time = now 0 := by
    intro time started
    rcases jobStep.status_stored worker with same | ⟨after, stored⟩
    · rw [same] at started
      exact before _ List.mem_cons_self time started
    · have timed := sync_timed stored.issued
      rw [stored.current] at timed
      rw [stored.status] at started
      rcases timed.start with same | ⟨_, now, read, set⟩
      · rw [same] at started
        exact before _ List.mem_cons_self time started
      · rw [set] at started
        exact ⟨now, included (known.logged read), (Option.some.inj started).symm⟩
  intro version member
  rcases jobStep.mem_versions member with rfl | older
  · exact current
  · exact before version older

theorem TimesKnown.step (consistent : Consistent mxjob state) (known : TimesKnown state)
    (forward : ClockForward state action) (stepped : Stepped state action next) :
    TimesKnown next := by
  obtain ⟨included, logged⟩ := logged_step known.logged stepped
  have worker := worker_step stepped
  refine ⟨logged, ?_, known.read_step included (job_step consistent stepped) worker, ?_⟩
  · intro now member first last ordered within
    rcases logged_reading stepped forward member with old | ⟨steps, _⟩
    · exact known.rising now old first last ordered within
    · exact rising_of_steps steps ordered within
  · intro now member time started
    cases worker with
    | rested worker =>
        rw [worker] at member started
        exact known.later now member time started
    | reset trace => simp [trace] at member
    | called outcome call working issued pending reply input trace world =>
        rw [input] at started
        rw [trace] at member
        rcases List.mem_append.mp member with old | new
        · exact known.later now old time started
        · obtain rfl := List.mem_singleton.mp new
          have clock : now = outcome.clock := reply
          subst clock working
          obtain ⟨steps, forwards⟩ := forward pending
          obtain ⟨earlier, read, rfl⟩ := known.read _ consistent.worker time started
          have below : earlier 8 ≤ outcome.clock 0 := by simpa [readsForward] using forwards _ read
          calc earlier 0 ≤ earlier 8 := known.rising earlier read 0 8 (by omega) (by omega)
            _ ≤ outcome.clock 0 := below
            _ ≤ outcome.clock 3 := rising_of_steps steps (by omega) (by omega)

theorem run_timesKnown (fresh : mxjob.status = .empty)
    (forward : ∀ current action, allowed current action → ClockForward current action)
    (run : Run step allowed (State.initial mxjob pods services nextUID) past state) :
    TimesKnown state := by
  refine run.historyInvariant (fun _ current => TimesKnown current) ?_ ?_
  · refine ⟨List.Subset.refl _, fun now member => ?_, ?_, fun now member => ?_⟩
    · cases member
    swap
    · cases member
    intro version member time started
    rw [List.mem_singleton.mp member] at started
    change mxjob.status.startTime = some time at started
    rw [fresh] at started
    cases started
  · intro past current action reached known permitted
    exact known.step (run_consistent reached) (forward current action permitted)
      (step_stepped current action)

/-! ### Before a status is stored -/

/-- A stored status marks the job as initialized, so it is never empty. -/
theorem StatusStored.nonempty {after : MXJob} (stored : StatusStored state next after) :
    next.world.job.status ≠ .empty := by
  obtain ⟨claimed, concluded⟩ := stored.concluded
  intro empty
  have initialized := concluded.initialized
  rw [← stored.status, empty] at initialized
  cases initialized

/-- A job without status has never had one. -/
theorem run_unstored
    (run : Run step allowed (State.initial mxjob pods services nextUID) past state) :
    state.world.job.status = .empty →
      (∀ version ∈ state.world.versions, version.status = .empty) ∧
        ∀ earlier ∈ past, earlier.world.job.status = .empty := by
  refine run.historyInvariant (fun past current => current.world.job.status = .empty →
    (∀ version ∈ current.world.versions, version.status = .empty) ∧
      ∀ earlier ∈ past, earlier.world.job.status = .empty) ?_ ?_
  · intro empty
    refine ⟨fun version member => ?_, by simp⟩
    rw [List.mem_singleton.mp member]
    exact empty
  · intro past current action reached known _ empty
    have stepped := step_stepped current action
    have jobStep := job_step (run_consistent reached) stepped
    have before : current.world.job.status = .empty := by
      rcases jobStep.status_stored (worker_step stepped) with same | ⟨after, stored⟩
      · rw [← same, empty]
      · exact absurd empty (StatusStored.nonempty stored)
    obtain ⟨versions, passed⟩ := known before
    refine ⟨fun version member => ?_, List.forall_mem_cons.mpr ⟨before, passed⟩⟩
    rcases jobStep.mem_versions member with rfl | older
    · exact empty
    · exact versions version older

/-- The steps of the part of a run in which no status is stored. -/
def Unstored (mxjob : MXJob) (state : State) (action : Action) : Prop :=
  EndsLate mxjob state action ∧ state.world.job.status = .empty

theorem Unstored.setting (distinct : Distinct (State.initial mxjob pods services nextUID).world)
    (unselected : ∀ pod ∈ pods, selects mxjob pod.labels = false) :
    Setting mxjob pods services nextUID (Unstored mxjob) where
  calm := fun _ _ permitted => (permitted.1.2.2 permitted.2).1
  distinct := distinct
  unselected := unselected

/-- The pods of the job are all active. -/
def AllActive (mxjob : MXJob) (world : World) : Prop :=
  ∀ pod ∈ world.pods, selects mxjob pod.labels = true → isPodActive pod = true

theorem AllActive.ownPods {world : World} (active : AllActive mxjob world) :
    ∀ pod ∈ ownPods mxjob world.pods, isPodActive pod = true := by
  intro pod member
  obtain ⟨isPod, managed⟩ := List.mem_filter.mp member
  rw [manages, Bool.and_eq_true] at managed
  exact active pod isPod managed.2

/-- The step lemma: a step that leaves the job's pods running, while the Sync
under way deletes none, keeps them active. -/
theorem AllActive.step (active : AllActive mxjob state.world)
    (calm : undisturbed mxjob action = true) (running : leavesRunning mxjob state action = true)
    (spared : ∀ name,
      ¬ (sync state.worker.input).Issues state.worker.trace (.deletePod name))
    (change : PodChange state action next) : AllActive mxjob next.world := by
  intro later member selected
  cases change with
  | edited edit evolves same uids =>
      rw [same] at member
      obtain ⟨pod, isPod, rfl⟩ := List.mem_map.mp member
      have evolved := evolves pod isPod
      rw [(evolved.samePod (undisturbed_keepsLabels calm)).labels] at selected
      have before := active pod isPod selected
      have own : notOwn mxjob state pod.uid = false := by
        rw [notOwn, List.all_eq_false]
        exact ⟨pod, isPod, by simp [selected]⟩
      have undeleted : (edit pod).deletionTimestamp = pod.deletionTimestamp := by
        rcases evolved.doomed with kept | ⟨time, rfl⟩ | issued
        · exact kept
        · simp [leavesRunning, own] at running
        · exact absurd issued (spared pod.name)
      rcases evolved.phase with kept | rfl
      · rwa [isPodActive, kept, undeleted]
      · simp only [leavesRunning, own, Bool.or_false] at running
        simp only [isPodActive, Bool.and_eq_true] at before
        rw [isPodActive, running, undeleted, before.2]
        rfl
  | removed keep same uids =>
      rw [same] at member
      exact active later (List.mem_filter.mp member).1 selected
  | created outcome request reply working issued trace free same uids =>
      rw [same] at member
      rcases List.mem_append.mp member with old | new
      · exact active later old selected
      · rw [List.mem_singleton.mp new]
        rfl
  | foreign foreign stored moving copy free same uids =>
      rw [same] at member
      rcases List.mem_append.mp member with old | new
      · exact active later old selected
      · subst moving
        rw [List.mem_singleton.mp new, copy] at selected
        exact absurd selected (by simpa [undisturbed] using calm)

section Unstored

variable {replicas : Int32} (distinct : Distinct (State.initial mxjob pods services nextUID).world)
  (unselected : ∀ pod ∈ pods, selects mxjob pod.labels = false)
  (workers : replicasOf mxjob .worker = some replicas) (wanted : 0 < replicas.toInt)

include distinct unselected workers wanted

/-- Before a status is stored, what a Sync claims does not decide the job. -/
theorem Unstored.undecided
    (run : Run step (Unstored mxjob) (State.initial mxjob pods services nextUID) past state)
    (active : ∀ earlier ∈ past, AllActive mxjob earlier.world)
    (empty : state.world.job.status = .empty) {claimed : List Pod}
    (listed : Listed state.worker.input.object claimed state.worker.trace) :
    ¬ Decided state.worker.input.object claimed := by
  have isVersion := (run_consistent run).worker
  obtain ⟨earlier, isEarlier, _, rfl⟩ :=
    run_claimed (Unstored.setting distinct unselected) run listed
  have fresh : checkCondition state.worker.input.object.status .initialized = false := by
    rw [(run_unstored run empty).1 _ isVersion]
    rfl
  have given : replicasOf state.worker.input.object .worker = some replicas := by
    rw [replicasOf, run_spec (fun _ _ permitted => permitted.1.1) run _ isVersion]
    exact workers
  refine undecided_of_active fresh given ?_ (active earlier isEarlier).ownPods
  rw [Int32.lt_iff_toInt_lt, Int32.toInt_zero]
  exact wanted

/-- The run lemma: before a status is stored, the job's pods are active. -/
theorem run_allActive
    (run : Run step (Unstored mxjob) (State.initial mxjob pods services nextUID) past state) :
    AllActive mxjob state.world ∧ ∀ earlier ∈ past, AllActive mxjob earlier.world := by
  refine run.historyInvariant (fun past current => AllActive mxjob current.world ∧
    ∀ earlier ∈ past, AllActive mxjob earlier.world) ⟨?_, by simp⟩ ?_
  · intro pod member selected
    rw [unselected pod member] at selected
    cases selected
  · rintro past current action reached ⟨active, before⟩ permitted
    obtain ⟨calm, running⟩ := permitted.1.2.2 permitted.2
    refine ⟨active.step calm running (fun name issued => ?_)
      (pod_change (run_distinct distinct reached) (step_stepped current action)),
      List.forall_mem_cons.mpr ⟨active, before⟩⟩
    obtain ⟨_, claimed, evaluation, _, decided⟩ := sync_deletePod issued
    exact Unstored.undecided distinct unselected workers wanted reached before permitted.2
      evaluation.listed decided

/-- The first status that is stored has a start time and no completion time. -/
theorem first_status {claimed : List Pod} {after : MXJob}
    (run : Run step (Unstored mxjob) (State.initial mxjob pods services nextUID) past state)
    (empty : state.world.job.status = .empty)
    (current : state.worker.input.object = state.world.job)
    (concluded : Concluded state.world.job claimed after state.worker.trace) :
    after.status.startTime ≠ none ∧ ¬ AllSucceeded state.world.job claimed := by
  have setting := Unstored.setting distinct unselected
  have before := (run_allActive distinct unselected workers wanted run).2
  have listed : Listed state.worker.input.object claimed state.worker.trace :=
    current ▸ concluded.evaluation.listed
  have undecided := Unstored.undecided distinct unselected workers wanted run before empty listed
  rw [current] at undecided
  refine ⟨?_, fun done => undecided (Or.inl done)⟩
  obtain ⟨earlier, isEarlier, _, rfl⟩ := run_claimed setting run listed
  have unedited : ∀ current action, Unstored mxjob current action → keepsSpec action = true :=
    fun _ _ permitted => permitted.1.1
  obtain ⟨job, created, conclusion⟩ := concluded
  have fresh : checkCondition job.status .initialized = false := by
    rw [created.check (by decide), empty]
    rfl
  have given : replicasOf job .worker = some replicas := by
    rw [created.samePass.statusOnly.replicasOf_eq, replicasOf,
      run_spec unedited run _ List.mem_cons_self]
    exact workers
  refine conclusion.started_of_active fresh given (before earlier isEarlier).ownPods ?_
  have count := (run_count setting unedited workers run).2 earlier isEarlier
  rw [((run_owned setting run).2 earlier isEarlier).length_ownPods]
  omega

/-- Every status that is ever stored has a start time. -/
theorem run_started (fresh : mxjob.status = .empty)
    (run : Run step (EndsLate mxjob) (State.initial mxjob pods services nextUID) past state) :
    state.world.job.status = .empty ∨ state.world.job.status.startTime ≠ none := by
  refine run.historyInvariant (fun _ current => current.world.job.status = .empty ∨
    current.world.job.status.startTime ≠ none) (Or.inl fresh) ?_
  intro past current action reached known _
  have stepped := step_stepped current action
  rcases (job_step (run_consistent reached) stepped).status_stored (worker_step stepped) with
    same | ⟨after, stored⟩
  · rwa [same]
  · right
    rcases known with empty | started
    · obtain ⟨claimed, concluded⟩ := stored.concluded
      rw [stored.status]
      exact (first_status distinct unselected workers wanted
        (reached.restrict (run_unstored reached empty).2) empty stored.current concluded).1
    · obtain ⟨time, start⟩ := Option.ne_none_iff_exists'.mp started
      rw [StatusStored.startTime_kept stored start]
      simp

/-- A completion time is stored beside a start time that is not later. -/
theorem StatusStored.started_first (fresh : mxjob.status = .empty)
    (run : Run step (EndsLate mxjob) (State.initial mxjob pods services nextUID) past state)
    {after : MXJob} (stored : StatusStored state next after) {completed : Time}
    (isCompleted : next.world.job.status.completionTime = some completed) :
    ∃ started, next.world.job.status.startTime = some started ∧ started ≤ completed := by
  obtain ⟨claimed, concluded⟩ := stored.concluded
  have unfinished := stored.reconcilable.unfinished
  rw [stored.current] at unfinished
  have incomplete : state.world.job.status.completionTime.isSome = false := by
    have sound := (run_statusHistory fresh run).sound _ List.mem_cons_self
    rw [← Bool.not_eq_true, sound.completed, (check_of_unfinished unfinished).1]
    exact Bool.false_ne_true
  rw [stored.status] at isCompleted
  have done : AllSucceeded state.world.job claimed := by
    have set := concluded.completionTime.mp (by rw [isCompleted]; rfl)
    rw [incomplete] at set
    simpa using set
  -- a first status is not yet completed, so the stored one has a start time
  rcases run_started distinct unselected workers wanted fresh run with empty | started
  · exact absurd done (first_status distinct unselected workers wanted
      (run.restrict (run_unstored run empty).2) empty stored.current concluded).2
  obtain ⟨time, start⟩ := Option.ne_none_iff_exists'.mp started
  refine ⟨time, StatusStored.startTime_kept stored start, ?_⟩
  have timed := sync_timed stored.issued
  rw [stored.current] at timed
  rcases timed.completion with same | ⟨now, read, set⟩
  · rw [← same, isCompleted] at incomplete
    cases incomplete
  · rw [set] at isCompleted
    rw [← Option.some.inj isCompleted]
    have times := run_timesKnown fresh (fun _ _ late => late.2.1) run
    exact times.later now read time (stored.current ▸ start)

end Unstored

/-- A completed job has started: with the clock going forward and no pod of the
job ending before a status is stored, every stored completion time comes with a
start time that is not later, and a stored start time never changes. -/
theorem completed_has_started {replicas : Int32} (fresh : mxjob.status = .empty)
    (distinct : Distinct (State.initial mxjob pods services nextUID).world)
    (unselected : ∀ pod ∈ pods, selects mxjob pod.labels = false)
    (workers : replicasOf mxjob .worker = some replicas) (wanted : 0 < replicas.toInt)
    (run : Run step (EndsLate mxjob) (State.initial mxjob pods services nextUID) past state) :
    (∀ version ∈ state.world.versions, ∀ completed,
      version.status.completionTime = some completed →
        ∃ started, version.status.startTime = some started ∧ started ≤ completed) ∧
      ∀ earlier ∈ past, ∀ time, earlier.world.job.status.startTime = some time →
        state.world.job.status.startTime = some time := by
  refine ⟨?_, run_startTime run⟩
  refine run.historyInvariant (fun _ current => ∀ version ∈ current.world.versions, ∀ completed,
    version.status.completionTime = some completed →
      ∃ started, version.status.startTime = some started ∧ started ≤ completed) ?_ ?_
  · intro version member completed stored
    rw [List.mem_singleton.mp member] at stored
    change mxjob.status.completionTime = some completed at stored
    rw [fresh] at stored
    cases stored
  · intro past current action reached known permitted
    have stepped := step_stepped current action
    have jobStep := job_step (run_consistent reached) stepped
    intro version member completed isCompleted
    rcases jobStep.mem_versions member with rfl | older
    · rcases jobStep.status_stored (worker_step stepped) with same | ⟨after, stored⟩
      · rw [same] at isCompleted ⊢
        exact known _ List.mem_cons_self completed isCompleted
      · exact StatusStored.started_first distinct unselected workers wanted fresh reached stored
          isCompleted
    · exact known version older completed isCompleted

end Runs

/-- The worker of `sampleJob` is done after the first Sync has stored. -/
def doneAfterStart : List Action :=
  firstSync ++ .move (.podPhase 4 .succeeded) :: quietSync

theorem run_doneAfterStart : Run step (EndsLate sampleJob) sampleStart
    (Run.passed step [] sampleStart doneAfterStart) (doneAfterStart.foldl step sampleStart) :=
  Run.start.extend (by decide +kernel)

theorem completed_has_started_doneAfterStart :
    (doneAfterStart.foldl step sampleStart).world.job.status.completionTime.isSome = true ∧
      ∀ version ∈ (doneAfterStart.foldl step sampleStart).world.versions, ∀ completed,
        version.status.completionTime = some completed →
          ∃ started, version.status.startTime = some started ∧ started ≤ completed :=
  ⟨by decide +kernel, (completed_has_started (by rfl) (distinct_empty _ _ _) (by simp)
    (by rfl : replicasOf sampleJob .worker = some 1) (by decide) run_doneAfterStart).1⟩

/-- The update of the first Sync fails, and the worker is done before the next
one. -/
def conflictedStart : List Action :=
  firstSync.dropLast ++ .work (.error .internalError) :: .move (.podPhase 4 .succeeded) :: quietSync

/-- A completion time is stored without a start time, though the clock goes
forward and nobody edits the job. -/
theorem completed_without_start :
    Run step (fun state action => keepsSpec action = true ∧ ClockForward state action) sampleStart
      (Run.passed step [] sampleStart conflictedStart) (conflictedStart.foldl step sampleStart) ∧
    (conflictedStart.foldl step sampleStart).world.job.status.completionTime.isSome = true ∧
      (conflictedStart.foldl step sampleStart).world.job.status.startTime = none :=
  ⟨Run.start.extend (by decide +kernel), by decide +kernel, by decide +kernel⟩

end MXNetOperator.Property
