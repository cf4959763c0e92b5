import Mathlib.Data.List.Perm.Subperm
import MXNetOperator.Cluster.Objects

/-!
Contract: clusters in which only the operator makes pods with the job's labels.

Owns the assumption `Setting` and what follows from it in every run: the pods
the job's selector accepts are the ones its controller reference marks, so a
listing claims exactly those, every such pod that a Sync has not listed was
created by that Sync, and no type has more pods than its replica count.
-/

namespace MXNetOperator.Cluster

open MXNetOperator.Kube MXNetOperator.Api MXNetOperator.Interaction MXNetOperator.Mx

/-- Nobody but the operator changes the labels of a pod, or creates a pod with
labels that the job's selector accepts. -/
def undisturbed (mxjob : MXJob) : Action → Bool
  | .move (.podRelabel _ _) => false
  | .move (.podCreate pod) => !selects mxjob pod.labels
  | _ => true

theorem undisturbed_keepsLabels {mxjob : MXJob} {action : Action}
    (calm : undisturbed mxjob action = true) : keepsLabels action = true := by
  unfold undisturbed at calm
  unfold keepsLabels
  split
  · cases calm
  · rfl

/-- The starting point of such a run. -/
structure Setting (mxjob : MXJob) (pods : List Pod) (services : List Service) (nextUID : UID)
    (allowed : State → Action → Prop) : Prop where
  calm : ∀ state action, allowed state action → undisturbed mxjob action = true
  distinct : Distinct (State.initial mxjob pods services nextUID).world
  unselected : ∀ pod ∈ pods, selects mxjob pod.labels = false

theorem Setting.labels {mxjob : MXJob} {pods : List Pod} {services : List Service} {nextUID : UID}
    {allowed : State → Action → Prop} (setting : Setting mxjob pods services nextUID allowed)
    (state : State) (action : Action) (permitted : allowed state action) :
    keepsLabels action = true :=
  undisturbed_keepsLabels (setting.calm state action permitted)

/-- An empty cluster is such a starting point. -/
theorem Setting.empty {mxjob : MXJob} {services : List Service} {nextUID : UID}
    {allowed : State → Action → Prop}
    (calm : ∀ state action, allowed state action → undisturbed mxjob action = true) :
    Setting mxjob [] services nextUID allowed where
  calm := calm
  distinct := distinct_empty mxjob services nextUID
  unselected := by simp

/-- Every pod the job's selector accepts is controlled by the job. -/
def Owned (mxjob : MXJob) (pods : List Pod) : Prop :=
  ∀ pod ∈ pods, selects mxjob pod.labels = true → pod.controlledBy mxjob.uid = true

section Run

variable {mxjob : MXJob} {pods : List Pod} {services : List Service} {nextUID : UID}
  {allowed : State → Action → Prop} {past : List State} {state next : State} {action : Action}

/-- A pod the operator creates is controlled by the job. -/
theorem IsNewPod.controlled {rtype : MXReplicaType} {request : PodRequest} {ns name : String}
    {uid : UID} (isNew : IsNewPod mxjob rtype request) :
    (createdPod ns name uid request).controlledBy mxjob.uid = true := by
  have owners : (createdPod ns name uid request).ownerReferences = [newControllerRef mxjob] :=
    isNew.owned
  simp [ObjectMeta.controlledBy, getControllerOf, owners, newControllerRef]

/-- No patch touches a pod the selector accepts: an accepted one is neither an
orphan nor to be released. -/
theorem not_repatched {pod after : Pod} (same : SameObject mxjob state.worker.input.object)
    (listings : ∀ listed, lists listed ∈ state.worker.trace → Owned mxjob listed ∧
      ∀ listedPod ∈ listed, listedPod.uid = pod.uid → SamePod listedPod pod)
    (selected : selects mxjob pod.labels = true) : ¬ Repatched state pod after := by
  rintro ⟨patch, issued, sameUid, _, _⟩
  obtain ⟨listed, found, listedPod, isListed, _, cause⟩ := sync_patchPod issued
  obtain ⟨owned, samePods⟩ := listings listed found
  rw [same.selects_eq, same.newControllerRef_eq, same.uid] at cause
  rcases cause with ⟨orphan, accepted, rfl⟩ | ⟨_, refused, rfl⟩
  · have controlled := owned listedPod isListed accepted
    rw [ObjectMeta.controlledBy, orphan.1] at controlled
    cases controlled
  · rw [(samePods listedPod isListed sameUid.symm).labels] at selected
    rw [selected] at refused
    cases refused

theorem Owned.step (owned : Owned mxjob state.world.pods)
    (same : SameObject mxjob state.worker.input.object)
    (listings : ∀ listed, lists listed ∈ state.worker.trace → Owned mxjob listed ∧
      ∀ listedPod ∈ listed, ∀ pod ∈ state.world.pods, pod.uid = listedPod.uid →
        SamePod listedPod pod)
    (calm : undisturbed mxjob action = true) (change : PodChange state action next) :
    Owned mxjob next.world.pods := by
  intro later member selected
  cases change with
  | edited edit evolves pods uids =>
      rw [pods] at member
      obtain ⟨pod, isPod, rfl⟩ := List.mem_map.mp member
      have evolved := evolves pod isPod
      rw [(evolved.samePod (undisturbed_keepsLabels calm)).labels] at selected
      rcases evolved.owners with kept | repatched
      · rw [controlledBy_of_owners kept]
        exact owned pod isPod selected
      · refine absurd repatched (not_repatched same (fun listed found => ?_) selected)
        obtain ⟨ownedThen, samePods⟩ := listings listed found
        exact ⟨ownedThen, fun listedPod isListed sameUid =>
          samePods listedPod isListed pod isPod sameUid.symm⟩
  | removed keep pods uids =>
      rw [pods] at member
      exact owned later (List.mem_filter.mp member).1 selected
  | created outcome request reply working issued trace free pods uids =>
      rw [pods] at member
      rcases List.mem_append.mp member with old | new
      · exact owned later old selected
      · obtain ⟨_, _, _, rtype, _, isNew, _⟩ := sync_createPod issued
        rw [List.mem_singleton.mp new]
        exact IsNewPod.controlled (same.isNewPod isNew)
  | foreign pod stored moving copy free pods uids =>
      rw [pods] at member
      rcases List.mem_append.mp member with old | new
      · exact owned later old selected
      · subst moving
        rw [List.mem_singleton.mp new, copy] at selected
        exact absurd selected (by simpa [undisturbed] using calm)

/-- In every state of a run, labels and controller references agree. -/
theorem run_owned (setting : Setting mxjob pods services nextUID allowed)
    (run : Run step allowed (State.initial mxjob pods services nextUID) past state) :
    Owned mxjob state.world.pods ∧ ∀ earlier ∈ past, Owned mxjob earlier.world.pods := by
  refine run.historyInvariant (fun past current => Owned mxjob current.world.pods ∧
    ∀ earlier ∈ past, Owned mxjob earlier.world.pods) ⟨?_, by simp⟩ ?_
  · intro pod member selected
    rw [setting.unselected pod member] at selected
    cases selected
  · intro past current action reached known permitted
    have consistent := run_consistent reached
    refine ⟨known.1.step (consistent.identity _ consistent.worker) (fun listed found => ?_)
      (setting.calm current action permitted)
      (pod_change (run_distinct setting.distinct reached) (step_stepped current action)), ?_⟩
    · obtain ⟨earlier, isEarlier, rfl⟩ := run_listing rfl reached listed found
      exact ⟨known.2 earlier isEarlier, fun listedPod isListed =>
        (run_samePod setting.labels setting.distinct reached earlier isEarlier listedPod isListed).2⟩
    · intro earlier member
      rcases List.mem_cons.mp member with rfl | older
      · exact known.1
      · exact known.2 earlier older

end Run

/-! ### What a Sync claims -/

/-- The pods the job manages. -/
def ownPods (mxjob : MXJob) (pods : List Pod) : List Pod :=
  pods.filter fun pod => manages mxjob pod.toObjectMeta

/-- Whether the labels are those of a pod of the job and of this type. -/
def carries (mxjob : MXJob) (rtype : MXReplicaType) (pod : Pod) : Bool :=
  selects mxjob pod.labels && (mxReplicaSelector rtype).isMatch pod.labels

theorem Owned.filter_ownPods {mxjob : MXJob} {pods : List Pod} (owned : Owned mxjob pods)
    (rtype : MXReplicaType) :
    filterPodsForMXReplicaType (ownPods mxjob pods) rtype =
      pods.filter (carries mxjob rtype) := by
  rw [filterPodsForMXReplicaType, ownPods, List.filter_filter]
  refine List.filter_congr fun pod member => ?_
  cases selected : selects mxjob pod.labels with
  | false => simp [manages, carries, selected]
  | true => simp [manages, carries, selected, owned pod member selected]

theorem Owned.length_ownPods {mxjob : MXJob} {pods : List Pod} (owned : Owned mxjob pods)
    (rtype : MXReplicaType) :
    (filterPodsForMXReplicaType (ownPods mxjob pods) rtype).length =
      pods.countP (carries mxjob rtype) := by
  rw [owned.filter_ownPods, List.countP_eq_length_filter]

section Typed

variable {mxjob : MXJob} {pods : List Pod} {services : List Service} {nextUID : UID}
  {allowed : State → Action → Prop} {past : List State} {state : State}

/-- Every pod the job's selector accepts is of some replica type. -/
theorem run_typed (setting : Setting mxjob pods services nextUID allowed)
    (run : Run step allowed (State.initial mxjob pods services nextUID) past state) :
    ∀ pod ∈ state.world.pods, selects mxjob pod.labels = true →
      ∃ rtype, carries mxjob rtype pod = true := by
  refine run.historyInvariant (fun _ current => ∀ pod ∈ current.world.pods,
    selects mxjob pod.labels = true → ∃ rtype, carries mxjob rtype pod = true) ?_ ?_
  · intro pod member selected
    rw [setting.unselected pod member] at selected
    cases selected
  · intro past current action reached known permitted later member selected
    have calm := setting.calm current action permitted
    have consistent := run_consistent reached
    have same := consistent.identity _ consistent.worker
    cases pod_change (run_distinct setting.distinct reached) (step_stepped current action) with
    | edited edit evolves pods uids =>
        rw [pods] at member
        obtain ⟨pod, isPod, rfl⟩ := List.mem_map.mp member
        have labels := ((evolves pod isPod).samePod (undisturbed_keepsLabels calm)).labels
        rw [labels] at selected
        simpa only [carries, labels] using known pod isPod selected
    | removed keep pods uids =>
        rw [pods] at member
        exact known later (List.mem_filter.mp member).1 selected
    | created outcome request reply working issued trace free pods uids =>
        rw [pods] at member
        rcases List.mem_append.mp member with old | new
        · exact known later old selected
        · obtain ⟨_, _, _, rtype, _, isNew, _⟩ := sync_createPod issued
          refine ⟨rtype, ?_⟩
          rw [carries, selected, List.mem_singleton.mp new]
          exact (carriesLabels_iff.mp (same.isNewPod isNew).labelled).1
    | foreign pod stored moving copy free pods uids =>
        rw [pods] at member
        rcases List.mem_append.mp member with old | new
        · exact known later old selected
        · rw [moving] at calm
          rw [List.mem_singleton.mp new, copy] at selected
          exact absurd selected (by simpa [undisturbed] using calm)

end Typed

section Claim

variable {mxjob : MXJob} {pods claimed : List Pod} {services : List Service} {nextUID : UID}
  {allowed : State → Action → Prop} {past : List State} {state : State}

/-- What a Sync has claimed are the managed pods of its listing. -/
theorem run_claimed (setting : Setting mxjob pods services nextUID allowed)
    (run : Run step allowed (State.initial mxjob pods services nextUID) past state)
    (listed : Listed state.worker.input.object claimed state.worker.trace) :
    ∃ earlier ∈ past, lists earlier.world.pods ∈ state.worker.trace ∧
      claimed = ownPods mxjob earlier.world.pods := by
  obtain ⟨all, found, claims⟩ := listed
  obtain ⟨earlier, isEarlier, rfl⟩ := run_listing rfl run all found
  have consistent := run_consistent run
  have same := consistent.identity _ consistent.worker
  refine ⟨earlier, isEarlier, found, ?_⟩
  have exactly := claims.eq_managed fun pod member selected _ => by
    rw [same.selects_eq] at selected
    rw [same.uid]
    exact (run_owned setting run).2 earlier isEarlier pod member selected
  rw [ownPods]
  simpa only [same.manages_eq] using exactly

/-- A pod of this type that is not in the listing. -/
def unlisted (mxjob : MXJob) (rtype : MXReplicaType) (listed : List Pod) (pod : Pod) : Bool :=
  carries mxjob rtype pod && !listed.any fun other => other.uid == pod.uid

theorem unlisted_congr {rtype : MXReplicaType} {listed : List Pod} {pod later : Pod}
    (uid : later.uid = pod.uid) (labels : later.labels = pod.labels) :
    unlisted mxjob rtype listed later = unlisted mxjob rtype listed pod := by
  rw [unlisted, unlisted, carries, carries, uid, labels]

theorem unlisted_step {listed : List Pod} {rtype : MXReplicaType} {action : Action}
    {next : State} {more : List Call}
    (accounted : state.world.pods.countP (unlisted mxjob rtype listed) ≤
      createCount rtype state.worker.trace)
    (calm : undisturbed mxjob action = true) (change : PodChange state action next)
    (grown : next.worker.trace = state.worker.trace ++ more) :
    next.world.pods.countP (unlisted mxjob rtype listed) ≤
      createCount rtype next.worker.trace := by
  have monotone : createCount rtype state.worker.trace ≤ createCount rtype next.worker.trace := by
    rw [grown, createCount_append]
    exact Nat.le_add_right _ _
  cases change with
  | edited edit evolves pods uids =>
      have unmoved : (state.world.pods.map edit).countP (unlisted mxjob rtype listed) =
          state.world.pods.countP (unlisted mxjob rtype listed) := by
        rw [List.countP_map]
        refine List.countP_congr fun pod member => ?_
        have evolved := evolves pod member
        have same : unlisted mxjob rtype listed (edit pod) = unlisted mxjob rtype listed pod :=
          unlisted_congr evolved.uid (evolved.samePod (undisturbed_keepsLabels calm)).labels
        rw [Function.comp_apply, same]
      rw [pods, unmoved]
      exact Nat.le_trans accounted monotone
  | removed keep pods uids =>
      rw [pods]
      exact Nat.le_trans (List.filter_sublist.countP_le) (Nat.le_trans accounted monotone)
  | created outcome request reply working issued trace free pods uids =>
      obtain ⟨_, _, _, own, _, isNew, _⟩ := sync_createPod issued
      have counted : createCount rtype [(⟨.createPod request, reply⟩ : Call)] =
          if rtype = own then 1 else 0 := by
        simp [createCount, isNew.createsType_iff]
      rw [pods, trace, createCount_append, counted, List.countP_append]
      refine Nat.add_le_add accounted ?_
      rw [List.countP_singleton]
      split
      · rename_i isUnlisted
        simp only [unlisted, carries, Bool.and_eq_true] at isUnlisted
        rw [if_pos (isNew.labelled.type_eq isUnlisted.1.2)]
      · exact Nat.zero_le _
  | foreign pod stored moving copy free pods uids =>
      subst moving
      have refused : unlisted mxjob rtype listed stored = false := by
        rw [copy]
        have unselected : selects mxjob pod.labels = false := by simpa [undisturbed] using calm
        simp [unlisted, carries, unselected]
      rw [pods, List.countP_append, List.countP_singleton, refused]
      exact Nat.le_trans accounted monotone

/-- Every pod of the job that a Sync has not listed was created by it. -/
theorem run_unlisted (setting : Setting mxjob pods services nextUID allowed)
    (run : Run step allowed (State.initial mxjob pods services nextUID) past state)
    (rtype : MXReplicaType) : ∀ listed, lists listed ∈ state.worker.trace →
      state.world.pods.countP (unlisted mxjob rtype listed) ≤
        createCount rtype state.worker.trace := by
  refine run_sinceListing (fun _ listed current =>
    current.world.pods.countP (unlisted mxjob rtype listed) ≤
      createCount rtype current.worker.trace) rfl ?_ ?_ run
  · intro past current outcome next _ _ _ world _ _
    have none : current.world.pods.countP (unlisted mxjob rtype current.world.pods) = 0 := by
      rw [List.countP_eq_zero]
      intro pod member isUnlisted
      simp only [unlisted, Bool.and_eq_true, Bool.not_eq_true', List.any_eq_false] at isUnlisted
      exact isUnlisted.2 pod member (by simp)
    rw [world, none]
    exact Nat.zero_le _
  · intro past current action listed more reached permitted _ accounted grown _
    exact unlisted_step accounted (setting.calm current action permitted)
      (pod_change (run_distinct setting.distinct reached) (step_stepped current action)) grown

end Claim

/-! ### No more pods than replicas -/

section Bound

variable {mxjob : MXJob} {pods : List Pod} {services : List Service} {nextUID : UID}
  {rtype : MXReplicaType} {replicas : Int32} {past : List State} {state : State}

/-- The pods of a type are among the listed ones or among the unlisted ones. -/
theorem countP_carries_le {world : World} {listed : List Pod} (distinct : Distinct world)
    (same : ∀ pod ∈ listed, ∀ later ∈ world.pods, later.uid = pod.uid → SamePod pod later) :
    world.pods.countP (carries mxjob rtype) ≤
      listed.countP (carries mxjob rtype) +
        world.pods.countP (unlisted mxjob rtype listed) := by
  let known := fun pod : Pod => listed.any fun other => other.uid == pod.uid
  have split := List.countP_eq_countP_filter_add world.pods (carries mxjob rtype) known
  have rest : (world.pods.filter fun pod => !known pod).countP (carries mxjob rtype) =
      world.pods.countP (unlisted mxjob rtype listed) := by
    rw [List.countP_filter]
    rfl
  have included : (world.pods.filter known).countP (carries mxjob rtype) ≤
      listed.countP (carries mxjob rtype) := by
    have uids : (((world.pods.filter known).filter (carries mxjob rtype)).map
        fun pod => pod.uid).Subperm
          ((listed.filter (carries mxjob rtype)).map fun pod => pod.uid) := by
      refine List.Nodup.subperm ?_ ?_
      · exact distinct.uids.sublist
          ((List.filter_sublist.trans List.filter_sublist).map _)
      · intro uid member
        obtain ⟨later, isLater, rfl⟩ := List.mem_map.mp member
        obtain ⟨isKnown, typed⟩ := List.mem_filter.mp isLater
        obtain ⟨isLater, found⟩ := List.mem_filter.mp isKnown
        obtain ⟨pod, isPod, sameUid⟩ := List.any_eq_true.mp found
        have sameUid : pod.uid = later.uid := by simpa using sameUid
        refine List.mem_map.mpr ⟨pod, List.mem_filter.mpr ⟨isPod, ?_⟩, sameUid⟩
        rw [carries, (same pod isPod later isLater sameUid.symm).labels] at typed
        exact typed
    rw [List.countP_eq_length_filter, List.countP_eq_length_filter]
    simpa only [List.length_map] using uids.length_le
  omega

/-- The step lemma: a Sync creates a pod only while the type is short of pods. -/
theorem count_step {action : Action} {next : State}
    (bound : (state.world.pods.countP (carries mxjob rtype) : Int) ≤ max replicas.toInt 0)
    (calm : undisturbed mxjob action = true) (change : PodChange state action next)
    (room : ∀ request, (sync state.worker.input).Issues state.worker.trace (.createPod request) →
      (mxReplicaSelector rtype).isMatch request.labels = true →
        (state.world.pods.countP (carries mxjob rtype) : Int) < max replicas.toInt 0) :
    (next.world.pods.countP (carries mxjob rtype) : Int) ≤ max replicas.toInt 0 := by
  cases change with
  | edited edit evolves pods uids =>
      have unmoved : (state.world.pods.map edit).countP (carries mxjob rtype) =
          state.world.pods.countP (carries mxjob rtype) := by
        rw [List.countP_map]
        refine List.countP_congr fun pod member => ?_
        have same := (evolves pod member).samePod (undisturbed_keepsLabels calm)
        rw [Function.comp_apply, carries, carries, same.labels]
      rw [pods, unmoved]
      exact bound
  | removed keep pods uids =>
      have fewer : (state.world.pods.filter keep).countP (carries mxjob rtype) ≤
          state.world.pods.countP (carries mxjob rtype) := List.filter_sublist.countP_le
      rw [pods]
      omega
  | created outcome request reply working issued trace free pods uids =>
      rw [pods, List.countP_append, List.countP_singleton]
      split
      · rename_i typed
        simp only [carries, Bool.and_eq_true] at typed
        have short := room request issued typed.2
        omega
      · simpa using bound
  | foreign pod stored moving copy free pods uids =>
      subst moving
      have refused : carries mxjob rtype stored = false := by
        have unselected : selects mxjob pod.labels = false := by simpa [undisturbed] using calm
        simp [carries, copy, unselected]
      rw [pods, List.countP_append, List.countP_singleton, refused]
      simpa using bound

/-- In every state of a run, no type has more pods than its replica count. -/
theorem run_count {allowed : State → Action → Prop}
    (setting : Setting mxjob pods services nextUID allowed)
    (unedited : ∀ current action, allowed current action → keepsSpec action = true)
    (given : replicasOf mxjob rtype = some replicas)
    (run : Run step allowed (State.initial mxjob pods services nextUID) past state) :
    (state.world.pods.countP (carries mxjob rtype) : Int) ≤ max replicas.toInt 0 ∧
      ∀ earlier ∈ past,
        (earlier.world.pods.countP (carries mxjob rtype) : Int) ≤ max replicas.toInt 0 := by
  refine run.historyInvariant (fun past current =>
    (current.world.pods.countP (carries mxjob rtype) : Int) ≤ max replicas.toInt 0 ∧
      ∀ earlier ∈ past,
        (earlier.world.pods.countP (carries mxjob rtype) : Int) ≤ max replicas.toInt 0)
    ⟨?_, by simp⟩ ?_
  · have none : (State.initial mxjob pods services nextUID).world.pods.countP
        (carries mxjob rtype) = 0 := by
      rw [List.countP_eq_zero]
      intro pod member typed
      simp [carries, setting.unselected pod member] at typed
    rw [none]
    omega
  · intro past current action reached known permitted
    have distinct := run_distinct setting.distinct reached
    have consistent := run_consistent reached
    refine ⟨count_step known.1 (setting.calm current action permitted)
      (pod_change distinct (step_stepped current action)) ?_, ?_⟩
    · intro request issued typed
      obtain ⟨_, _, claimed, own, listed, isNew, below⟩ := sync_createPod issued
      obtain rfl := isNew.labelled.type_eq typed
      obtain ⟨earlier, isEarlier, found, rfl⟩ := run_claimed setting reached listed
      have owned := (run_owned setting reached).2 earlier isEarlier
      -- the listing was within bounds, and so is what the Sync makes of it
      have within : Bounded (ownPods mxjob earlier.world.pods) rtype replicas := by
        rw [Bounded, owned.length_ownPods]
        exact known.2 earlier isEarlier
      have sameReplicas : replicasOf current.worker.input.object rtype = some replicas := by
        rw [replicasOf, run_spec unedited reached _ consistent.worker]
        exact given
      have room : _ + (neededPods current.worker.input.object _ rtype replicas : Int) ≤ _ :=
        within.neededPods_le
      have total : current.world.pods.countP (carries mxjob rtype) ≤ _ :=
        countP_carries_le distinct fun pod isPod =>
          (run_samePod setting.labels setting.distinct reached earlier isEarlier pod isPod).2
      rw [podsNeeded, sameReplicas, Option.elim_some] at below
      rw [owned.length_ownPods] at room
      have accounted := run_unlisted setting reached rtype earlier.world.pods found
      omega
    · intro earlier member
      rcases List.mem_cons.mp member with rfl | older
      · exact known.1
      · exact known.2 earlier older

end Bound

end MXNetOperator.Cluster
