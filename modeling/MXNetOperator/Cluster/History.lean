import MXNetOperator.Cluster.Owned

/-!
Contract: the pods a job has had under its control.

Nobody edits labels here, but others may make pods with the job's labels, and
the operator adopts those without a controller.  Owns:
- `run_held`: a pod the job controls stays under its control;
- `run_adopted`: a pod that a Sync has claimed was under the job's control;
- `run_created`: so was every pod a Sync created, if its creations took effect.
-/

namespace MXNetOperator.Cluster

open MXNetOperator.Kube MXNetOperator.Api MXNetOperator.Interaction MXNetOperator.Mx

/-- The same pod later on, still under the job's control if it was. -/
structure Held (mxjob : MXJob) (pod later : Pod) : Prop extends SamePod pod later where
  controlled : selects mxjob pod.labels = true → pod.controlledBy mxjob.uid = true →
    later.controlledBy mxjob.uid = true

theorem Held.refl (mxjob : MXJob) (pod : Pod) : Held mxjob pod pod :=
  ⟨SamePod.refl pod, fun _ => id⟩

theorem Held.trans {mxjob : MXJob} {pod middle later : Pod} (left : Held mxjob pod middle)
    (right : Held mxjob middle later) : Held mxjob pod later :=
  ⟨left.toSamePod.trans right.toSamePod, fun selected before =>
    right.controlled (left.labels ▸ selected) (left.controlled selected before)⟩

/-- Some state of the history has this pod, of this type and controlled by the
job. -/
def Possessed (mxjob : MXJob) (rtype : MXReplicaType) (history : List State) (uid : UID) : Prop :=
  ∃ earlier ∈ history, ∃ pod ∈ earlier.world.pods, pod.uid = uid ∧
    carries mxjob rtype pod = true ∧ pod.controlledBy mxjob.uid = true

theorem Possessed.mono {mxjob : MXJob} {rtype : MXReplicaType} {history longer : List State}
    {uid : UID} (possessed : Possessed mxjob rtype history uid) (included : history ⊆ longer) :
    Possessed mxjob rtype longer uid := by
  obtain ⟨earlier, isEarlier, found⟩ := possessed
  exact ⟨earlier, included isEarlier, found⟩

section Run

variable {mxjob : MXJob} {pods : List Pod} {services : List Service} {nextUID : UID}
  {allowed : State → Action → Prop} {past : List State} {state : State}

theorem Evolves.held {action : Action} {pod later : Pod} (evolves : Evolves state action pod later)
    (same : SameObject mxjob state.worker.input.object)
    (listings : ∀ listed, lists listed ∈ state.worker.trace → ∀ listedPod ∈ listed,
      pod.uid = listedPod.uid → SamePod listedPod pod)
    (unlabelled : keepsLabels action = true) : Held mxjob pod later := by
  refine ⟨evolves.samePod unlabelled, fun selected before => ?_⟩
  rcases evolves.owners with kept | ⟨patch, issued, sameUid, accepted, owners⟩
  · rw [controlledBy_of_owners kept]
    exact before
  · obtain ⟨listed, found, listedPod, isListed, _, cause⟩ := sync_patchPod issued
    rw [same.selects_eq, same.newControllerRef_eq, same.uid] at cause
    rcases cause with ⟨_, _, rfl⟩ | ⟨_, refused, rfl⟩
    · exact adopted_controlled accepted owners
    · -- only pods outside the selector are released
      rw [← (listings listed found listedPod isListed sameUid).labels, selected] at refused
      cases refused

/-- A pod under the job's control stays there as long as it exists. -/
theorem run_held
    (unlabelled : ∀ current action, allowed current action → keepsLabels action = true)
    (distinct : Distinct (State.initial mxjob pods services nextUID).world)
    (run : Run step allowed (State.initial mxjob pods services nextUID) past state) :
    ∀ earlier ∈ past, ∀ pod ∈ earlier.world.pods, pod.uid < state.world.nextUID ∧
      ∀ later ∈ state.world.pods, later.uid = pod.uid → Held mxjob pod later := by
  refine run_evolves (Held.refl mxjob) Held.trans ?_ distinct run
  intro past current action pod later reached permitted member evolves
  have consistent := run_consistent reached
  refine evolves.held (consistent.identity _ consistent.worker) ?_
    (unlabelled current action permitted)
  intro listed found listedPod isListed sameUid
  obtain ⟨earlier, isEarlier, rfl⟩ := run_listing rfl reached listed found
  exact (run_samePod unlabelled distinct reached earlier isEarlier listedPod isListed).2 pod member
    sameUid

/-- A pod that a Sync has listed and adopted was under the job's control. -/
theorem run_adopted
    (unlabelled : ∀ current action, allowed current action → keepsLabels action = true)
    (distinct : Distinct (State.initial mxjob pods services nextUID).world)
    (run : Run step allowed (State.initial mxjob pods services nextUID) past state)
    (rtype : MXReplicaType) :
    ∀ listed, lists listed ∈ state.worker.trace → ∀ pod ∈ listed,
      carries mxjob rtype pod = true →
      (⟨.patchPod pod.name (.adopt (newControllerRef mxjob) pod.uid), none⟩ : Call) ∈
        state.worker.trace → Possessed mxjob rtype (state :: past) pod.uid := by
  refine run_sinceListing (fun past listed current => ∀ pod ∈ listed,
    carries mxjob rtype pod = true →
    (⟨.patchPod pod.name (.adopt (newControllerRef mxjob) pod.uid), none⟩ : Call) ∈
      current.worker.trace → Possessed mxjob rtype (current :: past) pod.uid) rfl ?_ ?_ run
  · intro past current outcome next reached permitted pending world input trace pod member typed
      patched
    -- nothing is patched before the listing
    rw [trace] at patched
    rcases List.mem_append.mp patched with before | last
    · have clock := sync_listPods (Thread.issues_of_pending pending) _ before
      cases clock
    · cases List.mem_singleton.mp last
  · intro past current action listed more reached permitted found known grown input pod member
      typed patched
    have earlier : (⟨.patchPod pod.name (.adopt (newControllerRef mxjob) pod.uid), none⟩ : Call) ∈
        current.worker.trace → Possessed mxjob rtype (step current action :: current :: past)
          pod.uid := fun before =>
      (known pod member typed before).mono (List.subset_cons_self _ _)
    cases worker_step (step_stepped current action) with
    | rested worker => exact earlier (worker ▸ patched)
    | reset trace => simp [trace] at patched
    | called outcome call working issued pending reply _ trace world =>
        rw [trace] at patched
        rcases List.mem_append.mp patched with before | last
        · exact earlier before
        · subst working
          rw [← List.mem_singleton.mp last] at reply world
          obtain ⟨target, isTarget, named, sameUid, accepted, effect⟩ :=
            serve_patchPod reply.symm
          have sameUid : target.uid = pod.uid := sameUid
          have isPatched : patchPodMeta pod.name (.adopt (newControllerRef mxjob) pod.uid) target ∈
              (step current (.work outcome)).world.pods := by
            rw [world, effect]
            exact List.mem_map_of_mem isTarget
          obtain ⟨listing, isListing, rfl⟩ := run_listing rfl reached listed found
          have same := (run_samePod unlabelled distinct reached listing isListing pod member).2
            target isTarget sameUid
          refine ⟨_, List.mem_cons_self, _, isPatched, ?_, ?_, adopted_controlled accepted ?_⟩
          · simp [patchPodMeta, patchMeta, named, sameUid]
          · rw [carries, ← same.labels] at typed
            simpa [carries, patchPodMeta, patchMeta, named] using typed
          · simp [patchPodMeta, patchMeta, named]

/-- The pod the Sync under way is about to create. -/
def creating (worker : Thread sync) : Option PodRequest :=
  match worker.pending with
  | some (.createPod request) => some request
  | _ => none

def timesOut (reply : Option ApiError) : Bool :=
  reply.any fun error => error.reason == .timeout

/-- When the creation of a pod is answered with a Timeout, the pod came into
being all the same. -/
def CreationsEffective (state : State) : Action → Prop
  | .work outcome => ∀ request ∈ creating state.worker,
      timesOut (serve outcome (.createPod request) state.world).1 = true →
        (serve outcome (.createPod request) state.world).2.pods.length =
          state.world.pods.length + 1
  | _ => True

instance (state : State) : (action : Action) → Decidable (CreationsEffective state action)
  | .work _ => inferInstanceAs (Decidable (∀ request ∈ creating state.worker, _ → _))
  | .deliver _ _ => inferInstanceAs (Decidable True)
  | .finalize _ _ => inferInstanceAs (Decidable True)
  | .restart => inferInstanceAs (Decidable True)
  | .move _ => inferInstanceAs (Decidable True)

theorem CreationsEffective.addPod {outcome : Outcome} {request : PodRequest}
    (effective : CreationsEffective state (.work outcome))
    (pending : state.worker.pending = some (.createPod request))
    (accepted : acceptedCreate
      ⟨.createPod request, (serve outcome (.createPod request) state.world).1⟩) :
    (serve outcome (.createPod request) state.world).2 = state.world.addPod
      (createdPod state.world.job.ns outcome.name state.world.nextUID request) := by
  have about : creating state.worker = some request := by simp [creating, pending]
  rcases serve_createPod outcome request state.world with ⟨same, failed⟩ | effect
  · rcases accepted with unfailed | ⟨error, timeout, reason⟩
    · exact absurd unfailed failed
    · have longer := effective request about (by rw [timeout]; simp [timesOut, reason])
      rw [same] at longer
      omega
  · exact effect

/-- The uids of the pods of a type that a Sync has created so far: newer than
the listed ones, and once under the job's control. -/
structure CreatedBy (mxjob : MXJob) (rtype : MXReplicaType) (past : List State)
    (listed : List Pod) (state : State) (created : List UID) : Prop where
  nodup : created.Nodup
  count : created.length = createCount rtype state.worker.trace
  below : ∀ uid ∈ created, uid < state.world.nextUID
  newer : ∀ uid ∈ created, ∀ pod ∈ listed, pod.uid < uid
  possessed : ∀ uid ∈ created, Possessed mxjob rtype (state :: past) uid

theorem CreatedBy.keep {rtype : MXReplicaType} {listed : List Pod} {created : List UID}
    {next : State} (known : CreatedBy mxjob rtype past listed state created)
    (uids : state.world.nextUID ≤ next.world.nextUID)
    (count : createCount rtype next.worker.trace = createCount rtype state.worker.trace) :
    CreatedBy mxjob rtype (state :: past) listed next created where
  nodup := known.nodup
  count := known.count.trans count.symm
  below := fun uid member => Nat.lt_of_lt_of_le (known.below uid member) uids
  newer := known.newer
  possessed := fun uid member => (known.possessed uid member).mono (List.subset_cons_self _ _)

theorem CreatedBy.add {rtype : MXReplicaType} {listed : List Pod} {created : List UID}
    {next : State} {pod : Pod} (known : CreatedBy mxjob rtype past listed state created)
    (uid : pod.uid = state.world.nextUID) (typed : carries mxjob rtype pod = true)
    (controlled : pod.controlledBy mxjob.uid = true)
    (older : ∀ other ∈ listed, other.uid < state.world.nextUID)
    (world : next.world = state.world.addPod pod)
    (count : createCount rtype next.worker.trace = createCount rtype state.worker.trace + 1) :
    CreatedBy mxjob rtype (state :: past) listed next (state.world.nextUID :: created) where
  nodup := by
    refine List.nodup_cons.mpr ⟨fun member => ?_, known.nodup⟩
    exact Nat.lt_irrefl _ (known.below _ member)
  count := by rw [List.length_cons, known.count, count]
  below := by
    have grown : next.world.nextUID = state.world.nextUID + 1 := by rw [world]; rfl
    intro other member
    rw [grown]
    rcases List.mem_cons.mp member with rfl | earlier
    · exact Nat.lt_succ_self _
    · exact Nat.lt_succ_of_lt (known.below other earlier)
  newer := by
    intro other member
    rcases List.mem_cons.mp member with rfl | earlier
    · exact older
    · exact known.newer other earlier
  possessed := by
    intro other member
    rcases List.mem_cons.mp member with rfl | earlier
    · refine ⟨next, List.mem_cons_self, pod, ?_, uid, typed, controlled⟩
      rw [world]
      exact List.mem_append_right _ (List.mem_singleton.mpr rfl)
    · exact (known.possessed other earlier).mono (List.subset_cons_self _ _)

/-- The step lemma for one call of a Sync. -/
theorem CreatedBy.called {rtype : MXReplicaType} {listed : List Pod} {created : List UID}
    {next : State} {outcome : Outcome} {call : Call}
    (known : CreatedBy mxjob rtype past listed state created)
    (same : SameObject mxjob state.worker.input.object)
    (older : ∀ other ∈ listed, other.uid < state.world.nextUID)
    (effective : CreationsEffective state (.work outcome))
    (issued : (sync state.worker.input).Issues state.worker.trace call.request)
    (pending : state.worker.pending = some call.request)
    (reply : call.reply = (serve outcome call.request state.world).1)
    (trace : next.worker.trace = state.worker.trace ++ [call])
    (world : next.world = (serve outcome call.request state.world).2)
    (uids : state.world.nextUID ≤ next.world.nextUID) (accepted : acceptedCreate call) :
    ∃ created, CreatedBy mxjob rtype (state :: past) listed next created := by
  have counted : createCount rtype next.worker.trace =
      createCount rtype state.worker.trace + (createsType rtype call).toNat := by
    rw [trace, createCount_append]
    congr 1
  cases creates : createsType rtype call with
  | false =>
      rw [creates] at counted
      exact ⟨created, known.keep uids counted⟩
  | true =>
      rw [creates] at counted
      obtain ⟨request, answer⟩ := call
      cases request with
      | createPod request =>
          obtain ⟨_, _, _, own, _, isNew, _⟩ := sync_createPod issued
          have isNew := same.isNewPod isNew
          obtain rfl : rtype = own := isNew.labelled.type_eq creates
          refine ⟨_, known.add rfl ?_ (IsNewPod.controlled isNew) older
            (world.trans (effective.addPod pending (reply ▸ accepted))) counted⟩
          rw [carries, Bool.and_comm, Bool.and_eq_true]
          exact carriesLabels_iff.mp isNew.labelled
      | _ => cases creates

theorem run_created
    (unlabelled : ∀ current action, allowed current action → keepsLabels action = true)
    (effective : ∀ current action, allowed current action → CreationsEffective current action)
    (distinct : Distinct (State.initial mxjob pods services nextUID).world)
    (run : Run step allowed (State.initial mxjob pods services nextUID) past state)
    (rtype : MXReplicaType) :
    ∀ listed, lists listed ∈ state.worker.trace →
      (∀ call ∈ state.worker.trace, acceptedCreate call) →
      ∃ created, CreatedBy mxjob rtype past listed state created := by
  refine run_sinceListing (fun past listed current =>
    (∀ call ∈ current.worker.trace, acceptedCreate call) →
      ∃ created, CreatedBy mxjob rtype past listed current created) rfl ?_ ?_ run
  · intro past current outcome next reached permitted pending world input trace _
    have clock := sync_listPods (Thread.issues_of_pending pending)
    refine ⟨[], List.nodup_nil, ?_, by simp, by simp, by simp⟩
    rw [trace, createCount_append, createCount_eq_zero ?_]
    · rfl
    · rintro ⟨request, answer⟩ member
      cases clock _ member
      rfl
  · intro past current action listed more reached permitted found known grown input accepted
    have uids := (pod_change (run_distinct distinct reached)
      (step_stepped current action)).nextUID_le
    cases worker_step (step_stepped current action) with
    | rested worker =>
        obtain ⟨created, isCreated⟩ := known (worker ▸ accepted)
        exact ⟨created, isCreated.keep uids (by rw [worker])⟩
    | reset trace =>
        rw [trace] at grown
        rw [(List.append_eq_nil_iff.mp grown.symm).1] at found
        cases found
    | called outcome call working issued pending reply _ trace world =>
        subst working
        have consistent := run_consistent reached
        rw [trace] at accepted
        obtain ⟨created, isCreated⟩ := known fun call member =>
          accepted call (List.mem_append_left _ member)
        obtain ⟨listing, isListing, rfl⟩ := run_listing rfl reached listed found
        exact isCreated.called (consistent.identity _ consistent.worker)
          (fun other member =>
            (run_samePod unlabelled distinct reached listing isListing other member).1)
          (effective current _ permitted) issued pending reply trace world uids
          (accepted call (List.mem_append_right _ (List.mem_singleton.mpr rfl)))

end Run

end MXNetOperator.Cluster
