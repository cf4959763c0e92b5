import Mathlib.Data.List.Perm.Subperm
import MXNetOperator.Cluster.Growth

/-!
Contract: a termination that fails half-way cannot flip a success.

A Sync that finds all workers succeeded may fail while it deletes pods, or when
it stores the status, and so may the Syncs after it.  What they cannot lose are
the succeeded workers: while these stay under their labels, every later Sync
counts exactly them, whatever has become of the other pods, and stores Succeeded.
-/

namespace MXNetOperator.Property

open MXNetOperator.Kube MXNetOperator.Api MXNetOperator.Interaction MXNetOperator.Mx
open MXNetOperator.Cluster

/-- A worker pod in phase Succeeded. -/
def doneWorker (mxjob : MXJob) (pod : Pod) : Bool :=
  carries mxjob .worker pod && pod.phase == .succeeded

/-- A worker pod of the job. -/
def ownWorker (mxjob : MXJob) (pod : Pod) : Bool :=
  carries mxjob .worker pod && pod.controlledBy mxjob.uid

/-- Succeeded worker pods neither disappear, nor change phase, nor lose the
labels by which they are workers of the job. -/
def KeepsDone (mxjob : MXJob) (state : State) (action : Action) : Prop :=
  ∀ pod ∈ state.world.pods, doneWorker mxjob pod = true →
    ∃ later ∈ (step state action).world.pods, later.uid = pod.uid ∧ doneWorker mxjob later = true

/-- Nobody edits the specification, and succeeded workers stay what they are. -/
structure Steadfast (mxjob : MXJob) (state : State) (action : Action) : Prop where
  spec : keepsSpec action = true
  done : KeepsDone mxjob state action

instance (mxjob : MXJob) (state : State) (action : Action) :
    Decidable (KeepsDone mxjob state action) :=
  inferInstanceAs (Decidable (∀ pod ∈ state.world.pods, _ → _))

instance (mxjob : MXJob) (state : State) (action : Action) :
    Decidable (Steadfast mxjob state action) :=
  decidable_of_iff (keepsSpec action = true ∧ KeepsDone mxjob state action)
    ⟨fun ⟨spec, done⟩ => ⟨spec, done⟩, fun ⟨spec, done⟩ => ⟨spec, done⟩⟩

/-- The job has no more worker pods than worker replicas. -/
def WorkersWithin (mxjob : MXJob) (replicas : Int32) (state : State) : Prop :=
  (state.world.pods.countP (ownWorker mxjob) : Int) ≤ max replicas.toInt 0

instance (mxjob : MXJob) (replicas : Int32) (state : State) :
    Decidable (WorkersWithin mxjob replicas state) :=
  inferInstanceAs (Decidable (_ ≤ _))

/-- The Sync under way has claimed as many succeeded workers as the job has
worker replicas; with that its verdict is Succeeded. -/
def SeesSuccess (state : State) : Prop :=
  ∃ claimed, SyncClaims state.worker.input.object claimed state.worker.trace ∧
    AllSucceeded state.worker.input.object claimed

/-! ### Succeeded workers stay -/

section Done

variable {mxjob : MXJob} {pods : List Pod} {services : List Service} {nextUID : UID}
  {past : List State} {state : State} {action : Action}

theorem run_done
    (run : Run step (Steadfast mxjob) (State.initial mxjob pods services nextUID) past state) :
    ∀ earlier ∈ past, ∀ pod ∈ earlier.world.pods, doneWorker mxjob pod = true →
      ∃ later ∈ state.world.pods, later.uid = pod.uid ∧ doneWorker mxjob later = true := by
  refine run.historyInvariant (fun past current =>
    ∀ earlier ∈ past, ∀ pod ∈ earlier.world.pods, doneWorker mxjob pod = true →
      ∃ later ∈ current.world.pods, later.uid = pod.uid ∧ doneWorker mxjob later = true)
    (by simp) ?_
  intro past current action reached known permitted earlier isEarlier pod member done
  rcases List.mem_cons.mp isEarlier with rfl | older
  · exact permitted.done pod member done
  · obtain ⟨found, isFound, uid, isDone⟩ := known earlier older pod member done
    obtain ⟨later, isLater, same, stillDone⟩ := permitted.done found isFound isDone
    exact ⟨later, isLater, same.trans uid, stillDone⟩

end Done

/-! ### Workers a Sync counts as succeeded -/

/-- This pod is a succeeded worker of the job. -/
def Holds (mxjob : MXJob) (pods : List Pod) (uid : UID) : Prop :=
  ∃ pod ∈ pods, pod.uid = uid ∧ doneWorker mxjob pod = true ∧ pod.controlledBy mxjob.uid = true

/-- The succeeded workers among the claimed pods. -/
def doneUids (claimed : List Pod) : List UID :=
  ((filterPodsForMXReplicaType claimed .worker).filter fun pod =>
    PodPhase.succeeded == pod.phase).map fun pod => pod.uid

theorem length_doneUids (claimed : List Pod) : (doneUids claimed).length =
    filterPods (filterPodsForMXReplicaType claimed .worker) .succeeded := by
  rw [doneUids, List.length_map, filterPods, List.countP_eq_length_filter]

theorem mem_doneUids {claimed : List Pod} {uid : UID} : uid ∈ doneUids claimed ↔
    ∃ pod ∈ claimed, pod.uid = uid ∧ (mxReplicaSelector .worker).isMatch pod.labels = true ∧
      pod.phase = .succeeded := by
  simp only [doneUids, filterPodsForMXReplicaType, List.mem_map, List.mem_filter, beq_iff_eq]
  constructor
  · rintro ⟨pod, ⟨⟨member, typed⟩, phase⟩, same⟩
    exact ⟨pod, member, same, typed, phase.symm⟩
  · rintro ⟨pod, member, same, typed, phase⟩
    exact ⟨pod, ⟨⟨member, typed⟩, phase.symm⟩, same⟩

section Counted

variable {mxjob : MXJob} {pods claimed : List Pod} {services : List Service} {nextUID : UID}
  {past : List State} {state : State} {replicas : Int32}

/-- What a Sync counts as succeeded workers is there, and under the job's control. -/
theorem run_counted (distinct : Distinct (State.initial mxjob pods services nextUID).world)
    (run : Run step (Steadfast mxjob) (State.initial mxjob pods services nextUID) past state)
    (listed : Listed state.worker.input.object claimed state.worker.trace) :
    (doneUids claimed).Nodup ∧ ∀ uid ∈ doneUids claimed, Holds mxjob state.world.pods uid := by
  have consistent := run_consistent run
  have same := consistent.identity _ consistent.worker
  obtain ⟨listed, found, claims⟩ := listed
  obtain ⟨earlier, isEarlier, rfl⟩ := run_listing rfl run listed found
  obtain ⟨before, reached⟩ := run.reaches_of_mem earlier isEarlier
  refine ⟨?_, fun uid member => ?_⟩
  · have uids := (run_distinct distinct reached).uids
    exact uids.sublist
      ((List.filter_sublist.trans (List.filter_sublist.trans claims.upper)).map _)
  · obtain ⟨pod, isClaimed, rfl, typed, phase⟩ := mem_doneUids.mp member
    have isListed := claims.upper.subset isClaimed
    obtain ⟨selected, owned⟩ := claims.members pod isClaimed
    rw [same.selects_eq] at selected
    obtain ⟨later, isLater, uid, done⟩ := run_done run earlier isEarlier pod isListed
      (by simp [doneWorker, carries, selected, typed, phase])
    have guarded := (run_custody distinct.objects run).2.guarded
      (earlier.world.pods.map Pod.toObjectMeta) ⟨lists earlier.world.pods, found, rfl⟩
    refine ⟨later, isLater, uid, done, guarded.claimed pod.toObjectMeta
      (List.mem_map_of_mem isListed) selected ?_ later.toObjectMeta (List.mem_map_of_mem isLater) uid⟩
    rw [← same.uid]
    refine owned.imp_right fun adopted => ?_
    rw [HasAdopted, ← same.newControllerRef_eq]
    exact adopted.2.2

/-- What a Sync counts it has listed with labels of the job. -/
theorem run_selected (distinct : Distinct (State.initial mxjob pods services nextUID).world)
    (run : Run step (Steadfast mxjob) (State.initial mxjob pods services nextUID) past state)
    (listing : Listed state.worker.input.object claimed state.worker.trace) :
    ∀ listed, lists listed ∈ state.worker.trace → ∀ uid ∈ doneUids claimed,
      ∃ pod ∈ listed, pod.uid = uid ∧ selects mxjob pod.labels = true := by
  have consistent := run_consistent run
  have same := consistent.identity _ consistent.worker
  obtain ⟨listed, found, claims⟩ := listing
  intro other isOther uid member
  obtain ⟨pod, isClaimed, rfl, _, _⟩ := mem_doneUids.mp member
  -- the Sync has listed the pods once
  have one := (run_custody distinct.objects run).2.once (listed.map Pod.toObjectMeta)
    (other.map Pod.toObjectMeta) ⟨lists listed, found, rfl⟩ ⟨lists other, isOther, rfl⟩
  have isListed := List.mem_map_of_mem (f := Pod.toObjectMeta) (claims.upper.subset isClaimed)
  rw [one] at isListed
  obtain ⟨shown, isShown, sameMeta⟩ := List.mem_map.mp isListed
  refine ⟨shown, isShown, by rw [sameMeta], ?_⟩
  rw [sameMeta, ← same.selects_eq]
  exact (claims.members pod isClaimed).1

theorem holds_le {uids : List UID} (nodup : uids.Nodup)
    (held : ∀ uid ∈ uids, Holds mxjob state.world.pods uid) :
    uids.length ≤ state.world.pods.countP (ownWorker mxjob) := by
  have included : uids.Subperm ((state.world.pods.filter (ownWorker mxjob)).map
      fun pod => pod.uid) := by
    refine nodup.subperm fun uid member => ?_
    obtain ⟨pod, isPod, same, done, controlled⟩ := held uid member
    simp only [doneWorker, Bool.and_eq_true] at done
    exact List.mem_map.mpr ⟨pod, List.mem_filter.mpr ⟨isPod, by simp [ownWorker, done, controlled]⟩,
      same⟩
  rw [List.countP_eq_length_filter]
  simpa using included.length_le

theorem allSucceeded_iff {object : MXJob} (given : replicasOf object .worker = some replicas)
    (bound : ((doneUids claimed).length : Int) ≤ max replicas.toInt 0) :
    AllSucceeded object claimed ↔ ((doneUids claimed).length : Int) = replicas.toInt := by
  rw [length_doneUids] at bound ⊢
  rw [← expected_eq_zero bound, AllSucceeded]
  constructor
  · rintro ⟨count, found, done⟩
    obtain rfl := Option.some.inj (given.symm.trans found)
    exact done
  · exact fun done => ⟨replicas, given, done⟩

end Counted

/-! ### From the first success on -/

/-- These workers are as many as the replicas and have all succeeded; the Sync
under way has claimed them already, or finds them when it lists. -/
structure Secured (mxjob : MXJob) (replicas : Int32) (uids : List UID) (state : State) : Prop where
  nodup : uids.Nodup
  enough : (uids.length : Int) = replicas.toInt
  held : ∀ uid ∈ uids, Holds mxjob state.world.pods uid
  seen : SeesSuccess state ∨ ∀ listed, lists listed ∈ state.worker.trace →
    ∀ uid ∈ uids, Holds mxjob listed uid
  /-- The Sync has listed them with labels of the job, so it releases none. -/
  selected : ∀ listed, lists listed ∈ state.worker.trace →
    ∀ uid ∈ uids, ∃ pod ∈ listed, pod.uid = uid ∧ selects mxjob pod.labels = true

section Secured

variable {mxjob : MXJob} {pods : List Pod} {services : List Service} {nextUID : UID}
  {past : List State} {state : State} {replicas : Int32} {uids : List UID} {action : Action}

theorem run_replicas (given : replicasOf mxjob .worker = some replicas)
    (run : Run step (Steadfast mxjob) (State.initial mxjob pods services nextUID) past state) :
    replicasOf state.worker.input.object .worker = some replicas := by
  rw [replicasOf, run_spec (fun _ _ permitted => permitted.spec) run _ (run_consistent run).worker]
  exact given

theorem SyncClaims.listed {object : MXJob} {claimed : List Pod} {trace : List Call}
    (claims : SyncClaims object claimed trace) : Listed object claimed trace := by
  obtain ⟨readings, _, rfl, _, listing, back, rfl, returned⟩ := claims
  exact (getPodsForMXJob_listed returned).mono (by simp)

theorem SeesSuccess.secured (distinct : Distinct (State.initial mxjob pods services nextUID).world)
    (given : replicasOf mxjob .worker = some replicas)
    (run : Run step (Steadfast mxjob) (State.initial mxjob pods services nextUID) past state)
    (within : WorkersWithin mxjob replicas state) (sees : SeesSuccess state) :
    ∃ uids, Secured mxjob replicas uids state := by
  obtain ⟨claimed, claims, succeeded⟩ := id sees
  have listing := SyncClaims.listed claims
  obtain ⟨nodup, held⟩ := run_counted distinct run listing
  have few := holds_le nodup held
  have bound : ((doneUids claimed).length : Int) ≤ max replicas.toInt 0 :=
    Int.le_trans (Int.ofNat_le.mpr few) within
  exact ⟨doneUids claimed, nodup, (allSucceeded_iff (run_replicas given run) bound).mp succeeded,
    held, Or.inl sees, run_selected distinct run listing⟩

/-- A secured worker stays under the job's control: a Sync releases only what it
has listed with other labels. -/
theorem Secured.controlled (secured : Secured mxjob replicas uids state)
    (distinct : Distinct (State.initial mxjob pods services nextUID).world)
    (run : Run step (Steadfast mxjob) (State.initial mxjob pods services nextUID) past state)
    {pod later : Pod} (member : pod ∈ state.world.pods) (known : pod.uid ∈ uids)
    (controlled : pod.controlledBy mxjob.uid = true)
    (isLater : later ∈ (step state action).world.pods) (sameUid : later.uid = pod.uid) :
    later.controlledBy mxjob.uid = true := by
  have consistent := run_consistent run
  have same := consistent.identity _ consistent.worker
  have apart := run_distinct distinct run
  rcases (pod_change apart (step_stepped state action)).origin isLater with
    ⟨before, isBefore, evolves⟩ | fresh
  · obtain rfl := apart.eq_of_uid isBefore member (evolves.uid.symm.trans sameUid)
    rcases evolves.owners with kept | ⟨patch, issued, patched, accepted, owners⟩
    · rw [controlledBy_of_owners kept]
      exact controlled
    · obtain ⟨listed, found, listedPod, isListed, _, cause⟩ := sync_patchPod issued
      rw [same.selects_eq, same.newControllerRef_eq, same.uid] at cause
      rcases cause with ⟨_, _, rfl⟩ | ⟨_, refused, rfl⟩
      · exact adopted_controlled accepted owners
      · obtain ⟨shown, isShown, shownUid, selected⟩ := secured.selected listed found _ known
        obtain ⟨earlier, isEarlier, rfl⟩ := run_listing rfl run listed found
        obtain ⟨_, reached⟩ := run.reaches_of_mem earlier isEarlier
        rw [(run_distinct distinct reached).eq_of_uid isShown isListed (shownUid.trans patched),
          refused] at selected
        cases selected
  · exact absurd (sameUid.symm.trans fresh) (Nat.ne_of_lt (apart.below pod member))

/-- The step lemma: nothing takes the succeeded workers away. -/
theorem Secured.turn (secured : Secured mxjob replicas uids state)
    (distinct : Distinct (State.initial mxjob pods services nextUID).world)
    (run : Run step (Steadfast mxjob) (State.initial mxjob pods services nextUID) past state)
    (permitted : Steadfast mxjob state action) :
    Secured mxjob replicas uids (step state action) := by
  refine ⟨secured.nodup, secured.enough, fun uid member => ?_, ?_, ?_⟩
  · obtain ⟨pod, isPod, rfl, done, controlled⟩ := secured.held uid member
    obtain ⟨later, isLater, uid, stillDone⟩ := permitted.done pod isPod done
    exact ⟨later, isLater, uid, stillDone,
      secured.controlled distinct run isPod member controlled isLater uid⟩
  · cases worker_step (step_stepped state action) with
    | rested worker =>
        unfold SeesSuccess
        rw [worker]
        exact secured.seen
    | reset trace => simp [trace]
    | called outcome call working issued pending reply input trace world =>
        rcases secured.seen with ⟨claimed, claims, succeeded⟩ | found
        · refine Or.inl ⟨claimed, ?_, input.symm ▸ succeeded⟩
          rw [input, trace]
          exact claims.append
        · refine Or.inr fun listed member => ?_
          rw [trace] at member
          rcases List.mem_append.mp member with earlier | last
          · exact found listed earlier
          · obtain ⟨rfl, _⟩ := serve_lists reply (List.mem_singleton.mp last).symm
            exact secured.held
  · cases worker_step (step_stepped state action) with
    | rested worker =>
        rw [worker]
        exact secured.selected
    | reset trace => simp [trace]
    | called outcome call working issued pending reply input trace world =>
        intro listed member
        rw [trace] at member
        rcases List.mem_append.mp member with earlier | last
        · exact secured.selected listed earlier
        · obtain ⟨rfl, _⟩ := serve_lists reply (List.mem_singleton.mp last).symm
          intro uid isSecured
          obtain ⟨pod, isPod, same, done, _⟩ := secured.held uid isSecured
          simp only [doneWorker, carries, Bool.and_eq_true] at done
          exact ⟨pod, isPod, same, done.1.1⟩

theorem run_secured (distinct : Distinct (State.initial mxjob pods services nextUID).world)
    (given : replicasOf mxjob .worker = some replicas)
    (run : Run step (Steadfast mxjob) (State.initial mxjob pods services nextUID) past state) :
    (∀ current ∈ state :: past, WorkersWithin mxjob replicas current) →
      ∀ earlier ∈ state :: past, SeesSuccess earlier → ∃ uids, Secured mxjob replicas uids state := by
  refine run.historyInvariant (fun past current =>
    (∀ state ∈ current :: past, WorkersWithin mxjob replicas state) →
      ∀ earlier ∈ current :: past, SeesSuccess earlier →
        ∃ uids, Secured mxjob replicas uids current) ?_ ?_
  · intro within earlier member sees
    obtain rfl := List.mem_singleton.mp member
    exact sees.secured distinct given .start (within _ member)
  · intro past current action reached known permitted within earlier member sees
    rcases List.mem_cons.mp member with rfl | before
    · exact sees.secured distinct given (reached.step action permitted) (within _ member)
    · obtain ⟨uids, secured⟩ :=
        known (fun state member => within state (List.mem_cons_of_mem _ member)) earlier before sees
      exact ⟨uids, secured.turn distinct reached permitted⟩

/-- Whatever a Sync claims afterwards, it counts exactly the secured workers. -/
theorem Secured.succeeds (secured : Secured mxjob replicas uids state)
    (distinct : Distinct (State.initial mxjob pods services nextUID).world)
    (given : replicasOf mxjob .worker = some replicas)
    (run : Run step (Steadfast mxjob) (State.initial mxjob pods services nextUID) past state)
    (within : WorkersWithin mxjob replicas state) {claimed : List Pod}
    (claims : SyncClaims state.worker.input.object claimed state.worker.trace) :
    AllSucceeded state.worker.input.object claimed := by
  have consistent := run_consistent run
  have same := consistent.identity _ consistent.worker
  rcases secured.seen with ⟨known, knownClaims, succeeded⟩ | found
  · rw [claims.unique knownClaims]
    exact succeeded
  · have listed := SyncClaims.listed claims
    obtain ⟨nodup, held⟩ := run_counted distinct run listed
    have few := holds_le nodup held
    obtain ⟨listed, isListed, sandwich⟩ := listed
    have included : uids.Subperm (doneUids claimed) := by
      refine secured.nodup.subperm fun uid member => ?_
      obtain ⟨pod, isPod, uid, done, controlled⟩ := found listed isListed uid member
      simp only [doneWorker, carries, Bool.and_eq_true, beq_iff_eq] at done
      refine mem_doneUids.mpr ⟨pod, sandwich.lower.subset (List.mem_filter.mpr ⟨isPod, ?_⟩), uid,
        done.1.2, done.2⟩
      rw [same.manages_eq, manages, controlled, done.1.1]
      rfl
    have many := included.length_le
    have enough := secured.enough
    have within : (state.world.pods.countP (ownWorker mxjob) : Int) ≤ max replicas.toInt 0 := within
    refine (allSucceeded_iff (run_replicas given run) ?_).mpr ?_ <;> omega

end Secured

/-- A half-done termination cannot flip a success.  In a run in which succeeded
worker pods stay and the job never has more workers than replicas, once a Sync
has seen all workers succeed, every status that a Sync stores from then on has
Succeeded true and Failed not true. -/
theorem success_stays {mxjob : MXJob} {pods : List Pod} {services : List Service} {nextUID : UID}
    {replicas : Int32} {past : List State} {state : State}
    (distinct : Distinct (State.initial mxjob pods services nextUID).world)
    (given : replicasOf mxjob .worker = some replicas)
    (run : Run step (Steadfast mxjob) (State.initial mxjob pods services nextUID) past state)
    (within : ∀ current ∈ state :: past, WorkersWithin mxjob replicas current)
    {earlier : State} (before : earlier ∈ state :: past) (sees : SeesSuccess earlier)
    {after : MXJob}
    (stores : (sync state.worker.input).Issues state.worker.trace (.updateMXJob after)) :
    checkCondition after.status .succeeded = true ∧
      checkCondition after.status .failed = false := by
  obtain ⟨reconcilable, claimed, concluded, claims⟩ := sync_update stores
  obtain ⟨uids, secured⟩ := run_secured distinct given run within earlier before sees
  have succeeded := secured.succeeds distinct given run (within state List.mem_cons_self) claims
  refine ⟨(concluded.succeeded reconcilable.unfinished).mpr succeeded, ?_⟩
  rw [← Bool.not_eq_true, concluded.failed reconcilable.unfinished]
  exact fun failed => failed.2 succeeded

/-! ### A success that is kept and one that is lost -/

/-- The Sync is about to store a status with this condition. -/
def storesAs (type : MXJobConditionType) (state : State) : Bool :=
  match state.worker.pending with
  | some (.updateMXJob after) => checkCondition after.status type
  | _ => false

theorem storesAs_pending {type : MXJobConditionType} {state : State}
    (stores : storesAs type state = true) : ∃ after,
      state.worker.pending = some (.updateMXJob after) ∧ checkCondition after.status type = true := by
  unfold storesAs at stores
  split at stores
  · rename_i after pending
    exact ⟨after, pending, stores⟩
  · cases stores

theorem seesSuccess_of_stores {state : State} (stores : storesAs .succeeded state = true) :
    SeesSuccess state := by
  obtain ⟨after, pending, succeeded⟩ := storesAs_pending stores
  obtain ⟨reconcilable, claimed, concluded, claims⟩ :=
    sync_update (Thread.issues_of_pending pending)
  exact ⟨claimed, claims, (concluded.succeeded reconcilable.unfinished).mp succeeded⟩

/-- The worker succeeds.  The first Sync after that fails at its second deletion,
the second when it stores the status. -/
def halfDone : List Action :=
  firstSync ++ .move (.podPhase 4 .succeeded) :: .deliver 0 false ::
    calls (List.replicate 9 "") ++ .work (.error .unknown) :: .deliver 0 false ::
    calls (List.replicate 8 "")

/-- The scheduler that was being deleted is gone, and a third Sync is about to
store its status. -/
def retriedSuccess : List Action :=
  halfDone ++ .work (.error .unknown) ::
    .move (.podRemove 1) :: .deliver 0 false :: calls (List.replicate 6 "")

theorem run_retriedSuccess : Run step (Steadfast sampleJob) sampleStart
    (Run.passed step [] sampleStart retriedSuccess) (retriedSuccess.foldl step sampleStart) :=
  Run.start.extend (by decide +kernel)

theorem success_stays_retriedSuccess : ∃ after,
    (retriedSuccess.foldl step sampleStart).worker.pending = some (.updateMXJob after) ∧
      checkCondition after.status .succeeded = true ∧
      checkCondition after.status .failed = false := by
  obtain ⟨after, pending, _⟩ := storesAs_pending
    (by decide +kernel : storesAs .succeeded (retriedSuccess.foldl step sampleStart) = true)
  have seen : SeesSuccess (halfDone.foldl step sampleStart) :=
    seesSuccess_of_stores (by decide +kernel)
  refine ⟨after, pending, success_stays (distinct_empty sampleJob [] 1) rfl run_retriedSuccess
    (by decide +kernel) (List.mem_cons_of_mem _ (Run.mem_passed halfDone _ _)) seen
    (Thread.issues_of_pending pending)⟩

/-- The operator has deleted the pod of this name. -/
def deletedByOperator (log : List Call) (name : String) : Bool :=
  log.any fun call =>
    match call with
    | ⟨.deletePod other, none⟩ => other == name
    | _ => false

/-- Nobody but the operator deletes succeeded workers: such a pod disappears only
to complete a deletion by the operator.  Nor does anybody change their phase or
the specification. -/
def sparesDone (mxjob : MXJob) (state : State) : Action → Bool
  | .move (.podPhase uid _) =>
      state.world.pods.all fun pod => !(pod.uid == uid && doneWorker mxjob pod)
  | .move (.podDelete uid _) =>
      state.world.pods.all fun pod => !(pod.uid == uid && doneWorker mxjob pod)
  | .move (.podRemove uid) =>
      state.world.pods.all fun pod => !(pod.uid == uid && doneWorker mxjob pod) ||
        (pod.deletionTimestamp.isSome && deletedByOperator state.log pod.name)
  | .move (.editSpec _) => false
  | _ => true

/-- The scheduler fails.  The first Sync after that deletes the running worker
and fails to store its verdict; the worker ends well while it is being deleted,
and the second Sync is about to store Succeeded. -/
def shutDown : List Action :=
  firstSync ++ .move (.podPhase 1 .failed) :: .deliver 0 false ::
    calls (List.replicate 11 "") ++ .work (.error .unknown) ::
    .move (.podPhase 4 .succeeded) :: .deliver 0 false :: calls (List.replicate 6 "")

/-- The second Sync fails to store it as well, and the deletion of the worker
completes before the third. -/
def flippedSuccess : List Action :=
  shutDown ++ .work (.error .unknown) ::
    .move (.podRemove 4) :: .deliver 0 false :: calls (List.replicate 7 "")

/-- The worker succeeds, but no Sync gets to store it.  Then its labels are
edited, and the next Sync releases it and finds no worker. -/
def relabelledSuccess : List Action :=
  halfDone ++ .work (.error .unknown) ::
    .move (.podRelabel 4 ∅) :: .deliver 0 false :: calls (List.replicate 8 "")

/-- In this run of `sampleJob` a Sync sees the success, and a later one stores a
failure. -/
structure Flips (actions : List Action) : Prop where
  run : Run step (fun state action => sparesDone sampleJob state action = true) sampleStart
    (Run.passed step [] sampleStart actions) (actions.foldl step sampleStart)
  within : ∀ current ∈ actions.foldl step sampleStart :: Run.passed step [] sampleStart actions,
    WorkersWithin sampleJob 1 current
  seen : ∃ earlier ∈ Run.passed step [] sampleStart actions, SeesSuccess earlier
  failed : checkCondition (actions.foldl step sampleStart).world.job.status .failed = true
  lost : checkCondition (actions.foldl step sampleStart).world.job.status .succeeded = false

/-- A success is flipped by a deletion the operator itself has requested, and by
an edit of the labels. -/
theorem success_flipped : Flips flippedSuccess ∧ Flips relabelledSuccess :=
  ⟨⟨Run.start.extend (by decide +kernel), by decide +kernel,
      ⟨_, Run.mem_passed shutDown _ _, seesSuccess_of_stores (by decide +kernel)⟩,
      by decide +kernel, by decide +kernel⟩,
    Run.start.extend (by decide +kernel), by decide +kernel,
    ⟨_, Run.mem_passed halfDone _ _, seesSuccess_of_stores (by decide +kernel)⟩,
    by decide +kernel, by decide +kernel⟩

end MXNetOperator.Property
