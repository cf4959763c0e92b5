import MXNetOperator.Mx.Settled
import MXNetOperator.Cluster.Fleet
import MXNetOperator.Cluster.History

/-!
Contract: what a Sync makes of the pods it listed, when nobody else touches pods.

Owns:
- `GrownBy`: the pods are those listed, up to their owners, followed by those
  created since;
- `run_grown`: so it is as long as the Sync deletes nothing and its creations
  take effect;
- `GrownBy.ownPods_eq`, `GrownBy.replenished`: which of them the job manages
  then, and how they count.
-/

namespace MXNetOperator.Cluster

open MXNetOperator.Kube MXNetOperator.Api MXNetOperator.Interaction MXNetOperator.Mx

/-- Only the operator touches pods. -/
def leavesPods : Action → Bool
  | .move _ => false
  | _ => true

/-- A pod as the operator creates it. -/
structure FreshPod (mxjob : MXJob) (pod : Pod) : Prop where
  managed : manages mxjob pod.toObjectMeta = true
  live : pod.deletionTimestamp = none
  pending : pod.phase = .pending

theorem IsNewPod.freshPod {mxjob : MXJob} {rtype : MXReplicaType} {request : PodRequest}
    {ns name : String} {uid : UID} (isNew : IsNewPod mxjob rtype request) :
    FreshPod mxjob (createdPod ns name uid request) where
  managed := by
    rw [manages, IsNewPod.controlled isNew, Bool.true_and]
    exact (carriesLabels_iff.mp isNew.labelled).2
  live := rfl
  pending := rfl

/-- The pods are the listed ones, with at most their owners edited, and those
created since.  A selected pod that cannot be claimed has not been edited. -/
structure GrownBy (mxjob : MXJob) (listed : List Pod) (state : State) (edit : Pod → Pod)
    (created : List Pod) : Prop where
  pods : state.world.pods = listed.map edit ++ created
  kept : ∀ pod ∈ listed, ∃ owners, edit pod = { pod with ownerReferences := owners }
  passed : ∀ pod ∈ listed, selects mxjob pod.labels = true →
    claimable mxjob pod.toObjectMeta = false → edit pod = pod
  fresh : ∀ pod ∈ created, FreshPod mxjob pod
  counts : ∀ rtype, created.countP (fun pod => (mxReplicaSelector rtype).isMatch pod.labels) =
    createCount rtype state.worker.trace

theorem patchPodMeta_other {name : String} {patch : OwnerPatch} {pod : Pod}
    (other : pod.name ≠ name) : patchPodMeta name patch pod = pod := by
  simp [patchPodMeta, patchMeta, other]

theorem patchPodMeta_owners (name : String) (patch : OwnerPatch) (pod : Pod) :
    ∃ owners, patchPodMeta name patch pod = { pod with ownerReferences := owners } := by
  unfold patchPodMeta patchMeta
  split
  · exact ⟨_, rfl⟩
  · exact ⟨pod.ownerReferences, rfl⟩

theorem listing_pod {call : Call} {objects : List ObjectMeta}
    (shown : ClaimKind.pod.listing call = some objects) :
    ∃ listed, call = lists listed ∧ objects = listed.map Pod.toObjectMeta := by
  obtain ⟨request, reply⟩ := call
  cases request with
  | listPods =>
      cases reply with
      | ok listed => exact ⟨listed, rfl, (Option.some.inj shown).symm⟩
      | error => cases shown
  | _ => cases shown

/-- What the operator patches among the selected objects, it may claim. -/
theorem ClaimPatch.claimable {mxjob : MXJob} {object : ObjectMeta} {patch : OwnerPatch}
    (claim : ClaimPatch mxjob object patch) (selected : selects mxjob object.labels = true) :
    claimable mxjob object = true := by
  cases claim with
  | adopt orphan live => simp [Mx.claimable, orphan, live]
  | release _ refused =>
      rw [selected] at refused
      exact absurd refused (by simp)

theorem SameObject.claimable_eq {first second : MXJob} (same : SameObject first second)
    (object : ObjectMeta) : claimable second object = claimable first object := by
  rw [claimable, claimable, same.uid]

section Step

variable {mxjob : MXJob} {listed created : List Pod} {edit : Pod → Pod} {state next : State}

theorem GrownBy.same (grown : GrownBy mxjob listed state edit created)
    (pods : next.world.pods = state.world.pods)
    (counts : ∀ rtype, createCount rtype next.worker.trace =
      createCount rtype state.worker.trace) : GrownBy mxjob listed next edit created :=
  ⟨pods.trans grown.pods, grown.kept, grown.passed, grown.fresh,
    fun rtype => (grown.counts rtype).trans (counts rtype).symm⟩

theorem GrownBy.edit_name (grown : GrownBy mxjob listed state edit created) {pod : Pod}
    (member : pod ∈ listed) : (edit pod).name = pod.name := by
  obtain ⟨owners, edited⟩ := grown.kept pod member
  rw [edited]

/-- Patching a listed pod edits that pod alone. -/
theorem GrownBy.patched (grown : GrownBy mxjob listed state edit created)
    (distinct : Distinct state.world) {object : Pod} {patch : OwnerPatch} (member : object ∈ listed)
    (mayClaim : selects mxjob object.labels = true → claimable mxjob object.toObjectMeta = true)
    (pods : next.world.pods = state.world.pods.map (patchPodMeta object.name patch))
    (counts : ∀ rtype, createCount rtype next.worker.trace =
      createCount rtype state.worker.trace) :
    GrownBy mxjob listed next (fun pod => patchPodMeta object.name patch (edit pod)) created := by
  have names := distinct.names
  rw [grown.pods, List.map_append, List.nodup_append] at names
  have renamed : (listed.map edit).map (fun pod => pod.name) = listed.map fun pod => pod.name := by
    rw [List.map_map]
    exact List.map_congr_left fun pod isListed => grown.edit_name isListed
  have apart : ∀ pod ∈ created, patchPodMeta object.name patch pod = pod := by
    intro pod isCreated
    refine patchPodMeta_other fun same => ?_
    refine names.2.2 object.name ?_ pod.name (List.mem_map_of_mem isCreated) same.symm
    rw [renamed]
    exact List.mem_map_of_mem member
  refine ⟨?_, ?_, ?_, grown.fresh, fun rtype => (grown.counts rtype).trans (counts rtype).symm⟩
  · rw [pods, grown.pods, List.map_append, List.map_map, List.map_congr_left apart, List.map_id']
    rfl
  · intro pod isListed
    obtain ⟨owners, edited⟩ := grown.kept pod isListed
    obtain ⟨later, patched⟩ := patchPodMeta_owners object.name patch (edit pod)
    exact ⟨later, by rw [patched, edited]⟩
  · intro pod isListed selected unclaimable
    show patchPodMeta object.name patch (edit pod) = pod
    rw [grown.passed pod isListed selected unclaimable]
    refine patchPodMeta_other fun same => ?_
    have isObject : pod = object :=
      List.inj_on_of_nodup_map (renamed ▸ names.1) isListed member same
    subst isObject
    rw [mayClaim selected] at unclaimable
    exact absurd unclaimable (by simp)

theorem GrownBy.added (grown : GrownBy mxjob listed state edit created) {rtype : MXReplicaType}
    {request : PodRequest} {ns name : String} {uid : UID} {reply : Option ApiError}
    (isNew : IsNewPod mxjob rtype request)
    (pods : next.world.pods = state.world.pods ++ [createdPod ns name uid request])
    (trace : next.worker.trace = state.worker.trace ++ [⟨.createPod request, reply⟩]) :
    GrownBy mxjob listed next edit (created ++ [createdPod ns name uid request]) where
  pods := by rw [pods, grown.pods, List.append_assoc]
  kept := grown.kept
  passed := grown.passed
  fresh := by
    intro pod member
    rcases List.mem_append.mp member with earlier | last
    · exact grown.fresh pod earlier
    · rw [List.mem_singleton.mp last]
      exact IsNewPod.freshPod isNew
  counts := by
    intro other
    rw [List.countP_append, grown.counts, trace, createCount_append]
    rfl

/-- The step lemma: one call of a Sync that deletes nothing. -/
theorem GrownBy.called (grown : GrownBy mxjob listed state edit created) {outcome : Outcome}
    {call : Call} (distinct : Distinct state.world) (custody : Custody .pod mxjob state)
    (same : SameObject mxjob state.worker.input.object)
    (found : lists listed ∈ state.worker.trace)
    (issued : (sync state.worker.input).Issues state.worker.trace call.request)
    (trace : next.worker.trace = state.worker.trace ++ [call])
    (world : next.world = (serve outcome call.request state.world).2)
    (applied : ∀ request, call.request = .createPod request → next.world = state.world.addPod
      (createdPod state.world.job.ns outcome.name state.world.nextUID request))
    (spared : ∀ name, call.request ≠ .deletePod name) :
    ∃ edit created, GrownBy mxjob listed next edit created := by
  obtain ⟨request, answer⟩ := call
  by_cases creates : ∃ pod, request = .createPod pod
  · obtain ⟨pod, rfl⟩ := creates
    obtain ⟨_, _, _, rtype, _, isNew, _⟩ := sync_createPod issued
    exact ⟨edit, _, grown.added (same.isNewPod isNew) (by rw [applied pod rfl]; rfl) trace⟩
  · have counts (rtype : MXReplicaType) : createCount rtype next.worker.trace =
        createCount rtype state.worker.trace := by
      have none : createCount rtype [(⟨request, answer⟩ : Call)] = 0 := by
        cases request with
        | createPod pod => exact absurd ⟨pod, rfl⟩ creates
        | _ => rfl
      rw [trace, createCount_append, none, Nat.add_zero]
    have effect := serve_pods outcome request state.world
    rw [← world] at effect
    generalize after : next.world = nextWorld at effect
    cases effect with
    | untouched pods => exact ⟨edit, created, grown.same (by rw [after, pods]) counts⟩
    | patched name patch pod =>
        have patching : (sync state.worker.input).Issues state.worker.trace
            (ClaimKind.pod.patchRequest name patch) := issued
        obtain ⟨objects, hasListed, object, isListed, rfl, claim⟩ := sync_patch patching
        obtain rfl := custody.once objects (listed.map Pod.toObjectMeta) hasListed
          ⟨lists listed, found, rfl⟩
        obtain ⟨target, isTarget, rfl⟩ := List.mem_map.mp isListed
        refine ⟨_, created, grown.patched distinct isTarget ?_ (by rw [after]) counts⟩
        intro selected
        rw [← same.claimable_eq]
        exact ClaimPatch.claimable claim ((same.selects_eq _).trans selected)
    | created pod => exact absurd ⟨pod, rfl⟩ creates
    | deleted name => exact absurd rfl (spared name)

end Step

/-! ### Runs -/

section Run

variable {mxjob : MXJob} {pods : List Pod} {services : List Service} {nextUID : UID}
  {allowed : State → Action → Prop} {past : List State} {state : State}

theorem run_custody {kind : ClaimKind}
    (distinct : DistinctObjects kind (State.initial mxjob pods services nextUID).world)
    (run : Run step allowed (State.initial mxjob pods services nextUID) past state) :
    DistinctObjects kind state.world ∧ Custody kind mxjob state := by
  refine run.historyInvariant (fun _ current =>
    DistinctObjects kind current.world ∧ Custody kind mxjob current)
    ⟨distinct, custody_idle rfl⟩ ?_
  rintro past current action reached ⟨apart, custody⟩ _
  have consistent := run_consistent reached
  have stepped := step_stepped current action
  exact ⟨(object_change apart stepped).distinct,
    custody.step apart (consistent.identity _ consistent.worker) stepped⟩

/-- A step that is not a call of the worker leaves the pods alone. -/
theorem rested_pods {next : State} {action : Action} (stepped : Stepped state action next)
    (leaves : leavesPods action = true) (rested : next.worker.trace = state.worker.trace) :
    next.world.pods = state.world.pods := by
  cases stepped with
  | idle => rfl
  | deliver => rfl
  | work outcome worker call issued pending reply input trace =>
      rw [trace] at rested
      exact absurd rested (by simp)
  | finalize index outcome thread next call found issued =>
      exact (finalizer_unchanged issued (serve_pods outcome call.request state.world)).1
  | restart => rfl
  | move move => cases leaves

/-- The pods of a Sync that deletes nothing and whose creations are all granted:
by what was granted a creation can be told to have taken effect. -/
theorem run_grown {granted : Call → Prop}
    (leaves : ∀ current action, allowed current action → leavesPods action = true)
    (applied : ∀ current outcome request, allowed current (.work outcome) →
      current.worker.pending = some (.createPod request) →
      granted ⟨.createPod request, (serve outcome (.createPod request) current.world).1⟩ →
        (serve outcome (.createPod request) current.world).2 = current.world.addPod
          (createdPod current.world.job.ns outcome.name current.world.nextUID request))
    (distinct : Distinct (State.initial mxjob pods services nextUID).world)
    (run : Run step allowed (State.initial mxjob pods services nextUID) past state) :
    ∀ listed, lists listed ∈ state.worker.trace →
      (∀ call ∈ state.worker.trace, granted call) →
      (∀ call ∈ state.worker.trace, ∀ name, call.request ≠ .deletePod name) →
      ∃ edit created, GrownBy mxjob listed state edit created := by
  refine run_sinceListing (fun _ listed current =>
    (∀ call ∈ current.worker.trace, granted call) →
      (∀ call ∈ current.worker.trace, ∀ name, call.request ≠ .deletePod name) →
      ∃ edit created, GrownBy mxjob listed current edit created) rfl ?_ ?_ run
  · intro past current outcome next reached permitted pending world input trace _ _
    have clock := sync_listPods (Thread.issues_of_pending pending)
    refine ⟨id, [], by simp [world], fun pod _ => ⟨pod.ownerReferences, rfl⟩,
      fun _ _ _ _ => rfl, by simp, fun rtype => ?_⟩
    rw [trace, createCount_append, createCount_eq_zero ?_]
    · rfl
    · rintro ⟨request, answer⟩ member
      cases clock _ member
      rfl
  · intro past current action listed more reached permitted found known grows input accepted spared
    have stepped := step_stepped current action
    cases worker_step stepped with
    | rested worker =>
        obtain ⟨edit, created, grown⟩ := known (worker ▸ accepted) (worker ▸ spared)
        exact ⟨edit, created, grown.same
          (rested_pods stepped (leaves current action permitted) (by rw [worker]))
          fun rtype => by rw [worker]⟩
    | reset trace =>
        rw [trace] at grows
        rw [(List.append_eq_nil_iff.mp grows.symm).1] at found
        cases found
    | called outcome call working issued pending reply _ trace world =>
        subst working
        have consistent := run_consistent reached
        obtain ⟨apart, custody⟩ := run_custody distinct.objects reached
        rw [trace] at accepted spared
        have isLast : call ∈ current.worker.trace ++ [call] := by simp
        obtain ⟨edit, created, grown⟩ :=
          known (fun call member => accepted call (List.mem_append_left _ member))
            (fun call member => spared call (List.mem_append_left _ member))
        refine grown.called apart.pods custody (consistent.identity _ consistent.worker) found
          issued trace world ?_ (spared call isLast)
        intro request creates
        obtain ⟨_, answer⟩ := call
        cases creates
        rw [world]
        exact applied current outcome request permitted pending
          (reply ▸ accepted ⟨.createPod request, answer⟩ isLast)

end Run

/-! ### The pods managed afterwards -/

section Managed

variable {mxjob : MXJob} {listed created claimed : List Pod} {edit : Pod → Pod} {state : State}

/-- What the Sync claimed, as `claimListed_exact` gives it. -/
def willClaim (mxjob : MXJob) (pod : Pod) : Bool :=
  claimable mxjob pod.toObjectMeta && selects mxjob pod.labels

theorem GrownBy.manages_edit (grown : GrownBy mxjob listed state edit created)
    (adopted : ∀ pod ∈ listed, willClaim mxjob pod = true →
      (edit pod).controlledBy mxjob.uid = true) {pod : Pod} (member : pod ∈ listed) :
    manages mxjob (edit pod).toObjectMeta = willClaim mxjob pod := by
  obtain ⟨owners, edited⟩ := grown.kept pod member
  have labels : (edit pod).labels = pod.labels := by rw [edited]
  cases selected : selects mxjob pod.labels with
  | false => simp [manages, willClaim, labels, selected]
  | true =>
      cases mayClaim : claimable mxjob pod.toObjectMeta with
      | false =>
          have uncontrolled : pod.controlledBy mxjob.uid = false := by
            simpa using (Bool.or_eq_false_iff.mp mayClaim).1
          simp [manages, willClaim, grown.passed pod member selected mayClaim, mayClaim, uncontrolled]
      | true =>
          have controlled := adopted pod member (by rw [willClaim, mayClaim, selected]; rfl)
          simp [manages, willClaim, labels, selected, mayClaim, controlled]

theorem GrownBy.ownPods_eq (grown : GrownBy mxjob listed state edit created)
    (adopted : ∀ pod ∈ listed, willClaim mxjob pod = true →
      (edit pod).controlledBy mxjob.uid = true) :
    ownPods mxjob state.world.pods = (listed.filter (willClaim mxjob)).map edit ++ created := by
  rw [ownPods, grown.pods, List.filter_append, List.filter_map,
    List.filter_eq_self.mpr fun pod member => (grown.fresh pod member).managed]
  congr 2
  exact List.filter_congr fun pod member => grown.manages_edit adopted member

/-- No pod is left that the next Sync would have to adopt. -/
theorem GrownBy.noOrphan (grown : GrownBy mxjob listed state edit created)
    (adopted : ∀ pod ∈ listed, willClaim mxjob pod = true →
      (edit pod).controlledBy mxjob.uid = true) :
    ∀ pod ∈ state.world.pods, selects mxjob pod.labels = true →
      claimable mxjob pod.toObjectMeta = true → pod.controlledBy mxjob.uid = true := by
  intro pod member selected mayClaim
  rw [grown.pods] at member
  rcases List.mem_append.mp member with old | new
  · obtain ⟨before, isListed, rfl⟩ := List.mem_map.mp old
    obtain ⟨owners, edited⟩ := grown.kept before isListed
    have labels : (edit before).labels = before.labels := by rw [edited]
    refine adopted before isListed ?_
    rw [willClaim, ← labels, selected, Bool.and_true]
    by_contra unclaimable
    have unclaimable : claimable mxjob before.toObjectMeta = false := by simpa using unclaimable
    rw [grown.passed before isListed (labels ▸ selected) unclaimable, unclaimable] at mayClaim
    cases mayClaim
  · have managed := (grown.fresh pod new).managed
    rw [manages, Bool.and_eq_true] at managed
    exact managed.1

/-- Editing owners changes no count. -/
theorem GrownBy.countP_edit (grown : GrownBy mxjob listed state edit created) {kept : List Pod}
    (included : kept ⊆ listed) {counted : Pod → Bool}
    (blind : ∀ pod owners, counted { pod with ownerReferences := owners } = counted pod) :
    (kept.map edit).countP counted = kept.countP counted := by
  rw [List.countP_map]
  refine List.countP_congr fun pod member => ?_
  obtain ⟨owners, edited⟩ := grown.kept pod (included member)
  rw [Function.comp_apply, edited, blind]

theorem GrownBy.replenished {job : MXJob} (grown : GrownBy mxjob listed state edit created)
    (included : claimed ⊆ listed) (rtype : MXReplicaType)
    (counts : createCount rtype state.worker.trace = podsNeeded job claimed rtype) :
    Replenished job claimed (claimed.map edit ++ created) rtype := by
  have typed := (grown.counts rtype).trans counts
  have phase (phase : PodPhase) (final : phase ≠ .pending) :
      filterPods (filterPodsForMXReplicaType (claimed.map edit ++ created) rtype) phase =
        filterPods (filterPodsForMXReplicaType claimed rtype) phase := by
    have none : created.countP (fun pod => phase == pod.phase &&
        (mxReplicaSelector rtype).isMatch pod.labels) = 0 := by
      refine List.countP_eq_zero.mpr fun pod member => ?_
      simp [(grown.fresh pod member).pending, final]
    simp only [filterPods, filterPodsForMXReplicaType, List.countP_filter, List.countP_append,
      none, Nat.add_zero]
    exact grown.countP_edit included fun _ _ => rfl
  refine ⟨?_, ?_, ?_⟩
  · simp only [filterPodsForMXReplicaType, ← List.countP_eq_length_filter, List.countP_append]
    rw [typed, grown.countP_edit included fun _ _ => rfl]
  · simp only [filterActivePods, filterPodsForMXReplicaType, ← List.countP_eq_length_filter,
      List.countP_filter, List.countP_append]
    rw [grown.countP_edit included fun _ _ => rfl, ← typed]
    congr 1
    refine List.countP_congr fun pod member => ?_
    simp [isPodActive, (grown.fresh pod member).pending, (grown.fresh pod member).live]
  · rw [getStatus, getStatus, phase .succeeded (by simp), phase .failed (by simp)]

end Managed

end MXNetOperator.Cluster
