import MXNetOperator.Cluster.Solo
import MXNetOperator.Cluster.Growth

/-!
Contract: a Sync that returned without error leaves nothing to do.

The first Sync may find any status and any pods; it may initialize, finish or
terminate the job.  If it returns without error, the next Sync of the stored job
creates and deletes no pod, stores no status and calls no webhook, whatever its
own calls are answered.  So the operator's own status writes cannot keep it busy.
-/

namespace MXNetOperator.Property

open MXNetOperator.Kube MXNetOperator.Api MXNetOperator.Interaction MXNetOperator.Mx
open MXNetOperator.Cluster

/-- The server reports a pod as missing only if it is. -/
def truthful (state : State) (outcome : Outcome) : Bool :=
  match state.worker.pending with
  | some (.patchPod name patch) =>
      !(reportsMissing ⟨.patchPod name patch, (serve outcome (.patchPod name patch) state.world).1⟩
        && (state.world.findPod name).isSome)
  | _ => true

/-- One Sync on its own: creations that timed out took effect. -/
def Alone (state : State) : Action → Prop
  | .work outcome => CreationsEffective state (.work outcome) ∧ truthful state outcome = true
  | _ => False

instance (state : State) : (action : Action) → Decidable (Alone state action)
  | .work _ => inferInstanceAs (Decidable (_ ∧ _))
  | .deliver _ _ => inferInstanceAs (Decidable False)
  | .finalize _ _ => inferInstanceAs (Decidable False)
  | .restart => inferInstanceAs (Decidable False)
  | .move _ => inferInstanceAs (Decidable False)

theorem Alone.works {state : State} {action : Action} (alone : Alone state action) :
    works action = true := by
  cases action with
  | work => rfl
  | _ => exact alone.elim

/-! ### What the first Sync leaves behind -/

section First

variable {mxjob : MXJob} {pods : List Pod} {services : List Service} {nextUID : UID}
  {past : List State} {state : State}

/-- A Sync on its own, together with the step that starts it. -/
def Begun (state : State) (action : Action) : Prop :=
  Alone state action ∨ action = .deliver 0 false

theorem Begun.leavesPods {action : Action} (begun : Begun state action) :
    leavesPods action = true := by
  rcases begun with alone | rfl
  · cases action with
    | work => rfl
    | _ => exact alone.elim
  · rfl

/-- An accepted creation has taken effect. -/
theorem Begun.applied {outcome : Outcome} {request : PodRequest}
    (begun : Begun state (.work outcome))
    (pending : state.worker.pending = some (.createPod request))
    (accepted : acceptedCreate
      ⟨.createPod request, (serve outcome (.createPod request) state.world).1⟩) :
    (serve outcome (.createPod request) state.world).2 = state.world.addPod
      (Cluster.createdPod state.world.job.ns outcome.name state.world.nextUID request) := by
  rcases begun with alone | delivery
  · exact alone.1.addPod pending accepted
  · cases delivery

theorem missing_reported {call : Call} (missing : reportsMissing call = true)
    (serves : servesListing call.request = true) :
    ∃ name patch, call.request = .patchPod name patch := by
  obtain ⟨request, reply⟩ := call
  cases request with
  | patchPod name patch => exact ⟨name, patch, rfl⟩
  | patchService => cases serves
  | _ => cases missing

/-- A listed pod is still there when the Sync claims it. -/
theorem GrownBy.present {listed created : List Pod} {edit : Pod → Pod}
    (grown : GrownBy mxjob listed state edit created) {pod : Pod} (member : pod ∈ listed) :
    (state.world.findPod pod.name).isSome = true := by
  rw [World.findPod, List.find?_isSome]
  refine ⟨edit pod, ?_, by simp [grown.edit_name member]⟩
  rw [grown.pods]
  exact List.mem_append_left _ (List.mem_map_of_mem member)

/-- No patch of a listed pod is answered with NotFound. -/
theorem run_found (distinct : Distinct (State.initial mxjob pods services nextUID).world)
    (run : Run step Begun (State.initial mxjob pods services nextUID) past state) :
    (∀ call ∈ state.worker.trace, acceptedCreate call) →
      (∀ call ∈ state.worker.trace, ∀ name, call.request ≠ .deletePod name) →
      ∀ call ∈ state.worker.trace, servesListing call.request = true →
        reportsMissing call = false := by
  refine run.historyInvariant (fun _ current =>
    (∀ call ∈ current.worker.trace, acceptedCreate call) →
      (∀ call ∈ current.worker.trace, ∀ name, call.request ≠ .deletePod name) →
      ∀ call ∈ current.worker.trace, servesListing call.request = true →
        reportsMissing call = false) (by simp [State.initial, Thread.start]) ?_
  intro past current action reached known permitted accepted spared
  cases worker_step (step_stepped current action) with
  | rested worker =>
      rw [worker] at accepted spared ⊢
      exact known accepted spared
  | reset trace => simp [trace]
  | called outcome call working issued pending reply _ trace world =>
      subst working
      rw [trace] at accepted spared ⊢
      have acceptedBefore : ∀ call ∈ current.worker.trace, acceptedCreate call :=
        fun call member => accepted call (List.mem_append_left _ member)
      have sparedBefore : ∀ call ∈ current.worker.trace, ∀ name,
          call.request ≠ .deletePod name :=
        fun call member => spared call (List.mem_append_left _ member)
      intro later member serves
      rcases List.mem_append.mp member with earlier | last
      · exact known acceptedBefore sparedBefore later earlier serves
      · obtain rfl := List.mem_singleton.mp last
        by_contra reported
        have missing : reportsMissing later = true := by simpa using reported
        obtain ⟨name, patch, asked⟩ := missing_reported missing serves
        obtain ⟨request, answer⟩ := later
        obtain rfl : request = .patchPod name patch := asked
        have patching : (sync current.worker.input).Issues current.worker.trace
            (ClaimKind.pod.patchRequest name patch) := issued
        obtain ⟨objects, ⟨listing, isListing, shown⟩, object, isObject, rfl, _⟩ :=
          sync_patch patching
        obtain ⟨listed, rfl, rfl⟩ := listing_pod shown
        obtain ⟨pod, isPod, rfl⟩ := List.mem_map.mp isObject
        obtain ⟨edit, created, grown⟩ := run_grown (fun _ _ begun => begun.leavesPods)
          (fun _ _ _ begun => begun.applied) distinct reached listed isListing acceptedBefore
          sparedBefore
        have honest : truthful current outcome = true := by
          rcases permitted with alone | delivery
          · exact alone.2
          · cases delivery
        simp only [truthful, pending, ← reply, missing, GrownBy.present grown isPod] at honest
        cases honest

/-- The pods a Sync has claimed are under the job's control from then on. -/
theorem run_controls {listed claimed created : List Pod} {edit : Pod → Pod}
    (distinct : Distinct (State.initial mxjob pods services nextUID).world)
    (run : Run step Begun (State.initial mxjob pods services nextUID) past state)
    (grown : GrownBy mxjob listed state edit created) (found : lists listed ∈ state.worker.trace)
    (claims : Claimed .pod Pod.toObjectMeta mxjob listed claimed state.worker.trace) :
    ∀ pod ∈ claimed, (edit pod).controlledBy mxjob.uid = true := by
  intro pod member
  have isListed := claims.upper.subset member
  obtain ⟨selected, owned⟩ := claims.members pod member
  have guarded := (run_custody distinct.objects run).2.guarded (listed.map Pod.toObjectMeta)
    ⟨lists listed, found, rfl⟩
  obtain ⟨owners, edited⟩ := grown.kept pod isListed
  refine guarded.claimed pod.toObjectMeta (List.mem_map_of_mem isListed) selected
    (owned.imp_right fun adopted => adopted.2.2) (edit pod).toObjectMeta ?_ (by rw [edited])
  refine List.mem_map_of_mem ?_
  rw [grown.pods]
  exact List.mem_append_left _ (List.mem_map_of_mem isListed)

theorem run_begun (run : Run step Alone (beginSync mxjob pods services nextUID) past state) :
    Run step Begun (State.initial mxjob pods services nextUID)
      (past ++ [State.initial mxjob pods services nextUID]) state :=
  (run.mono fun _ _ => Or.inl).prepend (Or.inr rfl)

/-- A Sync that returned has claimed exactly what it may claim and selects. -/
theorem claims_exact {claimed : List Pod} {trace : List Call} (live : mxjob.deletionTimestamp = none)
    (claims : SyncClaims mxjob claimed trace)
    (found : ∀ call ∈ trace, servesListing call.request = true → reportsMissing call = false) :
    ∃ listed, lists listed ∈ trace ∧ claimed = listed.filter (willClaim mxjob) := by
  obtain ⟨readings, _, rfl, _, listing, back, rfl, returned⟩ := claims
  have serves : ∀ call ∈ listing, servesListing call.request = true :=
    returned.forall_request (fun request => servesListing request = true)
      fun _ _ issued => getPodsForMXJob_serves issued
  obtain ⟨reply, listed, claiming, rfl, decoded, exactly⟩ := claimListed_exact returned live
    fun call member => found call (by simp [member]) (serves call member)
  obtain rfl : reply = .ok listed := decoded
  exact ⟨listed, by simp [lists], exactly⟩

/-- Without a verdict, the status is settled for the pods the job manages, and no
pod is left for it to adopt. -/
theorem run_settled (live : mxjob.deletionTimestamp = none)
    (distinct : Distinct (State.initial mxjob pods services nextUID).world)
    (run : Run step Alone (beginSync mxjob pods services nextUID) past state)
    {job after : MXJob} {claimed : List Pod} {front : List Call}
    (undecided : isJobFinished mxjob.status = false) (created : CreatedAs mxjob job)
    (conclusion : Conclusion job claimed after front)
    (claims : SyncClaims mxjob claimed state.worker.trace)
    (trace : state.worker.trace = front ++ if job.status = after.status then [] else
      [(⟨.updateMXJob after, none⟩ : Call)])
    (unfinished : isJobFinished after.status = false) :
    Settled after (ownPods mxjob state.world.pods) ∧
      ∀ pod ∈ state.world.pods, selects mxjob pod.labels = true →
        claimable mxjob pod.toObjectMeta = true → pod.controlledBy mxjob.uid = true := by
  have begun := run_begun run
  have calls : ∀ call ∈ state.worker.trace, call ∈ front ∨
      call = (⟨.updateMXJob after, none⟩ : Call) := by
    intro call member
    rw [trace] at member
    rcases List.mem_append.mp member with earlier | last
    · exact Or.inl earlier
    · split at last
      · cases last
      · exact Or.inr (List.mem_singleton.mp last)
  have accepted : ∀ call ∈ state.worker.trace, acceptedCreate call := by
    intro call member
    rcases calls call member with earlier | rfl
    · exact conclusion.evaluation.accepted call earlier
    · trivial
  have spared : ∀ call ∈ state.worker.trace, ∀ name, call.request ≠ .deletePod name := by
    intro call member name
    rcases calls call member with earlier | rfl
    · exact conclusion.undeleted unfinished call earlier name
    · simp
  obtain ⟨listed, found, rfl⟩ := claims_exact live claims (run_found distinct begun accepted spared)
  obtain ⟨edit, fresh, grown⟩ := run_grown (fun _ _ begun => begun.leavesPods)
    (fun _ _ _ begun => begun.applied) distinct begun listed found accepted spared
  have adopted : ∀ pod ∈ listed, willClaim mxjob pod = true →
      (edit pod).controlledBy mxjob.uid = true := by
    intro pod member claimed
    obtain ⟨again, isAgain, isClaimed⟩ := conclusion.evaluation.listed.of_meta
      created.samePass.statusOnly.meta_eq.symm
    have included : front ⊆ state.worker.trace := by
      rw [trace]
      exact List.subset_append_left _ _
    obtain rfl : again = listed := by
      rw [run_lists (fun _ _ alone => alone.works) rfl run (included isAgain),
        run_lists (fun _ _ alone => alone.works) rfl run found]
    exact run_controls distinct begun grown found (isClaimed.mono included) pod
      (List.mem_filter.mpr ⟨member, claimed⟩)
  refine ⟨?_, grown.noOrphan adopted⟩
  rw [grown.ownPods_eq adopted]
  refine conclusion.settled (created.isJobFinished_eq.trans undecided) unfinished fun rtype => ?_
  refine grown.replenished (List.filter_subset_self _) rtype ?_
  rw [trace, createCount_append, conclusion.evaluation.counts]
  split <;> rfl

/-- What a Sync leaves behind when it returns without error: a finished job, or a
status that is settled. -/
theorem run_leaves (live : mxjob.deletionTimestamp = none)
    (distinct : Distinct (State.initial mxjob pods services nextUID).world)
    (run : Run step Alone (beginSync mxjob pods services nextUID) past state)
    (returned : state.worker.result = some ()) :
    isJobFinished state.world.job.status = true ∨
      (Settled state.world.job (ownPods mxjob state.world.pods) ∧
        ∀ pod ∈ state.world.pods, selects mxjob pod.labels = true →
          claimable mxjob pod.toObjectMeta = true → pod.controlledBy mxjob.uid = true) := by
  have input : state.worker.input = ⟨mxjob, false⟩ := run_input (fun _ _ alone => alone.works) run
  have ended := Thread.returns_of_result returned
  rw [input] at ended
  cases undecided : isJobFinished mxjob.status with
  | true =>
      -- the Sync of a finished job stores nothing
      left
      rw [run_unstored (fun _ _ alone => alone.works) run]
      · exact undecided
      · intro call member job stores
        obtain ⟨front, _, _, issued⟩ := ended.issues_of_mem member
        rw [stores] at issued
        have unfinished := (sync_update issued).1.unfinished
        rw [undecided] at unfinished
        cases unfinished
  | false =>
      obtain ⟨claimed, job, after, front, created, conclusion, claims, trace⟩ :=
        sync_completes ⟨rfl, live, undecided⟩ ended
      have alike : Alike after state.world.job ∧
          isJobFinished state.world.job.status = isJobFinished after.status := by
        by_cases same : job.status = after.status
        · rw [if_pos same, List.append_nil] at trace
          rw [run_unstored (fun _ _ alone => alone.works) run (trace ▸ conclusion.unstored)]
          exact ⟨(created.alike.trans (.of_status conclusion.statusOnly.spec_eq same.symm)).symm,
            by rw [← same]; exact created.isJobFinished_eq.symm⟩
        · rw [if_neg same] at trace
          obtain ⟨status, spec⟩ :=
            run_stored (fun _ _ alone => serial_of_works alone.works) rfl run front trace
          exact ⟨.of_status spec status, by rw [status]⟩
      cases unfinished : isJobFinished after.status with
      | true => exact Or.inl (alike.2.trans unfinished)
      | false =>
          obtain ⟨settled, noOrphan⟩ :=
            run_settled live distinct run undecided created conclusion claims trace unfinished
          exact Or.inr ⟨settled.of_alike alike.1, noOrphan⟩

end First

/-! ### The second Sync -/

/-- If a Sync of a job not pending deletion returns without error, the next Sync
of the stored job creates no pod, deletes none, stores no status and calls no
webhook. -/
theorem second_sync_quiet (mxjob : MXJob) (pods : List Pod) (services : List Service)
    (nextUID : UID) (live : mxjob.deletionTimestamp = none)
    (distinct : Distinct (State.initial mxjob pods services nextUID).world) {past later : List State}
    {middle state : State} (run : Run step Alone (beginSync mxjob pods services nextUID) past middle)
    (returned : middle.worker.result = some ())
    (again : Run step (fun _ action => works action = true) (step middle (.deliver 0 false)) later
      state) :
    (∀ call ∈ state.worker.trace, disturbs call.request = false) ∧
      ∀ request, state.worker.pending = some request → disturbs request = false := by
  rw [deliver_newest (Thread.stopped_of_result returned)] at again
  have input : state.worker.input = ⟨middle.world.job, false⟩ :=
    run_input (fun _ _ only => only) again
  have consistent := run_consistent (run_begun run)
  have same : SameObject mxjob middle.world.job := consistent.toVersioned.current_of_mem
  have quiet : ∀ front ⊆ state.worker.trace, ∀ request,
      (sync state.worker.input).Issues front request → disturbs request = false := by
    intro front included request issued
    rw [input] at issued
    refine settled_quiet issued fun reconcilable job claimed created listed => ?_
    rcases run_leaves live distinct run returned with finished | ⟨settled, noOrphan⟩
    · have unfinished : isJobFinished middle.world.job.status = false := reconcilable.unfinished
      rw [finished] at unfinished
      cases unfinished
    · obtain ⟨found, isFound, claims⟩ := listed
      obtain rfl := run_lists (fun _ _ only => only) rfl again (included isFound)
      have managed := claims.eq_managed fun pod member selected mayClaim => by
        rw [same.uid]
        exact noOrphan pod member (same.selects_eq _ ▸ selected) (same.claimable_eq _ ▸ mayClaim)
      have own : claimed = ownPods mxjob middle.world.pods := by
        rw [managed]
        exact List.filter_congr fun pod _ => same.manages_eq pod.toObjectMeta
      rw [own]
      exact settled.of_alike created.alike
  refine ⟨fun call member => ?_, fun request pending =>
    quiet _ (List.Subset.refl _) request (Thread.issues_of_pending pending)⟩
  obtain ⟨front, back, split, issued⟩ := state.worker.onPath.issues_of_mem member
  refine quiet front ?_ call.request issued
  rw [split]
  exact List.subset_append_left _ _

/-- The sample job after its first Sync. -/
def sampleSynced : State := firstSync.foldl step sampleStart

theorem run_firstSync : Run step Alone (beginSync sampleJob [] [] 1)
    (Run.passed step [] (beginSync sampleJob [] [] 1) firstSync.tail) sampleSynced :=
  Run.start.extend (by decide +kernel)

theorem run_secondSync : Run step (fun _ action => works action = true)
    (step sampleSynced (.deliver 0 false))
    (Run.passed step [] (step sampleSynced (.deliver 0 false)) quietSync.tail)
    (quietSync.foldl step sampleSynced) :=
  Run.start.extend (by decide +kernel)

/-- The first Sync of the sample job creates its pods, notifies and stores the
status; the second runs to its end without any such call. -/
theorem second_sync_quiet_sampleJob :
    (sampleSynced.worker.trace.any fun call => disturbs call.request) = true ∧
      sampleSynced.worker.result = some () ∧
      (quietSync.foldl step sampleSynced).worker.result = some () ∧
      ∀ call ∈ (quietSync.foldl step sampleSynced).worker.trace, disturbs call.request = false :=
  ⟨by decide +kernel, by decide +kernel, by decide +kernel,
    (second_sync_quiet sampleJob [] [] 1 rfl (distinct_empty sampleJob [] 1) run_firstSync
      (by decide +kernel) run_secondSync).1⟩

end MXNetOperator.Property
