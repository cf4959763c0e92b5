import MXNetOperator.Mx.Initial
import MXNetOperator.Cluster.Solo
import MXNetOperator.Cluster.Growth

/-!
Contract: failed Syncs leave no mark on what a new job becomes.

Any number of Syncs of a new job may fail at any of their calls, after any of
their creations took effect; none of them stores a status.  The first Sync that
meets no error then leaves the same pods, service, counters and conditions as if
it had been the first.  The reason is that each of these is a function of the
specification: half-created pods are claimed and topped up, and a service made
before is found by its labels.
-/

namespace MXNetOperator.Property

open MXNetOperator.Kube MXNetOperator.Api MXNetOperator.Interaction MXNetOperator.Mx
open MXNetOperator.Cluster

/-! ### Runs of failing Syncs -/

/-- The worker has not come to the end of a Sync without error. -/
def Unreturned (state : State) : Prop :=
  state.worker.result = none ∨ state.worker.input.deleted = true

instance (state : State) : Decidable (Unreturned state) :=
  inferInstanceAs (Decidable (_ ∨ _))

/-- A failing update is not carried out. -/
def discards (state : State) (outcome : Outcome) : Bool :=
  match state.worker.pending with
  | some (.updateMXJob _) => outcome.failure.isNone || !outcome.applied
  | _ => true

/-- Syncs of the newest version follow one another as long as they fail, and
nothing else happens.  Their calls may fail in any way. -/
def Retrying (state : State) : Action → Prop
  | .deliver age deleted => (age = 0 ∧ deleted = false) ∧ Unreturned state
  | .work outcome => discards state outcome = true
  | _ => False

instance (state : State) : (action : Action) → Decidable (Retrying state action)
  | .deliver _ _ => inferInstanceAs (Decidable (_ ∧ _))
  | .work _ => inferInstanceAs (Decidable (_ = true))
  | .finalize _ _ => inferInstanceAs (Decidable False)
  | .restart => inferInstanceAs (Decidable False)
  | .move _ => inferInstanceAs (Decidable False)

theorem Retrying.serial {state : State} {action : Action} (permitted : Retrying state action) :
    serial action = true := by
  cases action with
  | deliver => rfl
  | work => rfl
  | _ => exact permitted.elim

theorem serve_discards {outcome : Outcome} {mxjob : MXJob} {world : World}
    (kept : (outcome.failure.isNone || !outcome.applied) = true) :
    (serve outcome (.updateMXJob mxjob) world).1 = none ∨
      (serve outcome (.updateMXJob mxjob) world).2 = world := by
  simp only [serve, Outcome.write]
  split
  · exact Or.inr rfl
  · exact Or.inl rfl
  · rename_i failed
    right
    have ignored : outcome.applied = false := by simpa [failed] using kept
    rw [ignored]
    rfl

section Original

variable {mxjob : MXJob} {nextUID : UID} {past : List State} {state : State}

/-- Every Sync works on the original job, and the server holds it until a Sync
returns without error. -/
theorem run_original (run : Run step Retrying (State.initial mxjob [] [] nextUID) past state) :
    state.worker.input.object = mxjob ∧ (Unreturned state → state.world.job = mxjob) := by
  refine run.invariant (fun current => current.worker.input.object = mxjob ∧
    (Unreturned current → current.world.job = mxjob)) ⟨rfl, fun _ => rfl⟩ ?_
  rintro current action ⟨input, original⟩ permitted
  have stepped := serial_step permitted.serial current
  generalize step current action = next at stepped ⊢
  cases stepped with
  | idle => exact ⟨input, original⟩
  | delivered age deleted version found =>
      obtain ⟨⟨rfl, rfl⟩, unreturned⟩ := permitted
      obtain rfl : current.world.job = version := by simpa [World.versions] using found
      exact ⟨original unreturned, fun _ => original unreturned⟩
  | called outcome call called =>
      refine ⟨by rw [called.input, input], fun unreturned => ?_⟩
      have before := original (Or.inl (Thread.result_of_pending called.pending))
      by_cases updates : ∃ after, call.request = .updateMXJob after
      · obtain ⟨after, asked⟩ := updates
        obtain ⟨request, reply⟩ := call
        obtain rfl : request = .updateMXJob after := asked
        have kept : (outcome.failure.isNone || !outcome.applied) = true := by
          simpa [Retrying, discards, called.pending] using permitted
        rcases serve_discards kept with accepted | ignored
        · -- an accepted update ends the Sync without error
          obtain rfl : reply = none := called.reply.trans accepted
          have ends := next.worker.onPath
          rw [called.trace] at ends
          have returned : next.worker.result = some () := by
            rw [Thread.result, sync_ends ends]
          have reconcilable := (sync_update called.issued).1
          rcases unreturned with running | deleted
          · rw [returned] at running
            cases running
          · rw [called.input, reconcilable.present] at deleted
            cases deleted
        · rw [called.world, ignored, before]
      · have effect := serve_job outcome call.request current.world
        rw [called.world, ← before]
        generalize (serve outcome call.request current.world).2 = after at effect ⊢
        generalize call.request = request at effect updates
        cases effect with
        | untouched job => exact job
        | stored mxjob => exact absurd ⟨mxjob, rfl⟩ updates

end Original

/-! ### The pods of a new job -/

section Pods

variable {mxjob : MXJob} {replicas : MXReplicaType → Int32} {nextUID : UID} {past : List State}
  {state : State}

/-- A new job: no status yet, replica counts given, and at least one worker. -/
structure NewJob (mxjob : MXJob) (replicas : MXReplicaType → Int32) : Prop where
  empty : mxjob.status = .empty
  given : ∀ rtype, replicasOf mxjob rtype = some (replicas rtype)
  nonneg : ∀ rtype, 0 ≤ replicas rtype
  worker : 0 < replicas .worker

theorem NewJob.scheduler (new : NewJob mxjob replicas) :
    ∃ spec, mxjob.spec.mxReplicaSpecs.scheduler = some spec := by
  obtain ⟨spec, present, _⟩ := Option.bind_eq_some_iff.mp (new.given .scheduler)
  exact ⟨spec, present⟩

theorem FreshPod.active {pod : Pod} (fresh : FreshPod mxjob pod) : isPodActive pod = true := by
  simp [isPodActive, fresh.live, fresh.pending]

/-- A new job with active pods has no verdict. -/
theorem NewJob.undecided (new : NewJob mxjob replicas) {claimed : List Pod}
    (active : ∀ pod ∈ claimed, isPodActive pod = true) : ¬ Decided mxjob claimed := by
  have fresh : checkCondition mxjob.status .initialized = false := by
    rw [new.empty]
    rfl
  exact undecided_of_active fresh (new.given .worker) new.worker active

/-- A Sync patches none of the pods it manages. -/
theorem managed_unpatched {object : MXJob} {pod : ObjectMeta} {patch : OwnerPatch}
    (managed : manages object pod = true) : ¬ ClaimPatch object pod patch := by
  rw [manages, Bool.and_eq_true] at managed
  intro claim
  cases claim with
  | adopt orphan =>
      have controlled := managed.1
      simp [ObjectMeta.controlledBy, orphan] at controlled
  | release owned refused =>
      rw [managed.2] at refused
      cases refused

/-- The step lemma: with nothing but fresh pods listed, a call makes fresh pods
at most. -/
theorem fresh_called {next : State} {outcome : Outcome} {call : Call} (new : NewJob mxjob replicas)
    (called : Called state outcome call next) (input : state.worker.input.object = mxjob)
    (listings : ∀ listed, lists listed ∈ state.worker.trace → ∀ pod ∈ listed, FreshPod mxjob pod)
    (fresh : ∀ pod ∈ state.world.pods, FreshPod mxjob pod) :
    ∀ pod ∈ next.world.pods, FreshPod mxjob pod := by
  obtain ⟨issued, _, _, _, _, world⟩ := called
  have effect := serve_pods outcome call.request state.world
  rw [world]
  generalize (serve outcome call.request state.world).2 = after at effect ⊢
  generalize call.request = request at effect issued
  cases effect with
  | untouched pods =>
      rw [pods]
      exact fresh
  | patched name patch =>
      have patching : (sync state.worker.input).Issues state.worker.trace
          (ClaimKind.pod.patchRequest name patch) := issued
      obtain ⟨objects, ⟨listing, isListing, shown⟩, object, isObject, rfl, claim⟩ :=
        sync_patch patching
      obtain ⟨listed, rfl, rfl⟩ := listing_pod shown
      obtain ⟨pod, isPod, rfl⟩ := List.mem_map.mp isObject
      rw [input] at claim
      exact absurd claim (managed_unpatched (listings listed isListing pod isPod).managed)
  | created request =>
      obtain ⟨_, _, _, rtype, _, isNew, _⟩ := sync_createPod issued
      rw [input] at isNew
      intro pod member
      rcases List.mem_append.mp member with earlier | last
      · exact fresh pod earlier
      · rw [List.mem_singleton.mp last]
        exact IsNewPod.freshPod isNew
  | deleted name =>
      obtain ⟨_, claimed, evaluation, _, decided⟩ := sync_deletePod issued
      rw [input] at evaluation decided
      obtain ⟨listed, isListing, claims⟩ := evaluation.listed
      refine absurd decided (new.undecided fun pod member => ?_)
      exact FreshPod.active (listings listed isListing pod (claims.upper.subset member))

/-- All pods there ever are have been created by the operator and not touched since. -/
theorem run_fresh (new : NewJob mxjob replicas)
    (run : Run step Retrying (State.initial mxjob [] [] nextUID) past state) :
    (∀ pod ∈ state.world.pods, FreshPod mxjob pod) ∧
      ∀ earlier ∈ past, ∀ pod ∈ earlier.world.pods, FreshPod mxjob pod := by
  refine run.historyInvariant (fun past current =>
    (∀ pod ∈ current.world.pods, FreshPod mxjob pod) ∧
      ∀ earlier ∈ past, ∀ pod ∈ earlier.world.pods, FreshPod mxjob pod)
    ⟨by simp [State.initial], by simp⟩ ?_
  rintro past current action reached ⟨fresh, before⟩ permitted
  refine ⟨?_, by simpa using ⟨fresh, before⟩⟩
  have stepped := serial_step permitted.serial current
  generalize step current action = next at stepped ⊢
  cases stepped with
  | idle => exact fresh
  | delivered => exact fresh
  | called outcome call called =>
      refine fresh_called new called (run_original reached).1 ?_ fresh
      intro listed found
      obtain ⟨earlier, isEarlier, rfl⟩ := run_listing rfl reached listed found
      exact before earlier isEarlier

end Pods

/-! ### The service of a new job -/

section Services

variable {mxjob : MXJob} {nextUID : UID} {past : List State} {state : State}

/-- The service as the operator creates it. -/
structure OwnService (mxjob : MXJob) (service : Service) : Prop where
  name : service.name = serviceName mxjob .scheduler
  labels : service.labels = genLabels mxjob (some .scheduler)

/-- The call shows that there is a service. -/
def showsService : Call → Bool
  | ⟨.listServices, .ok services⟩ => !services.isEmpty
  | ⟨.createService _, none⟩ => true
  | _ => false

theorem service_called {next : State} {outcome : Outcome} {call : Call}
    (called : Called state outcome call next) (input : state.worker.input.object = mxjob)
    (own : ∀ service ∈ state.world.services, OwnService mxjob service) :
    (∀ service ∈ next.world.services, OwnService mxjob service) ∧
      (state.world.services ≠ [] → next.world.services ≠ []) := by
  obtain ⟨issued, _, _, _, _, world⟩ := called
  have effect := serve_services outcome call.request state.world
  rw [world]
  generalize (serve outcome call.request state.world).2 = after at effect ⊢
  generalize call.request = request at effect issued
  cases effect with
  | untouched services =>
      rw [services]
      exact ⟨own, id⟩
  | patched name patch service found =>
      refine ⟨fun later member => ?_, by simp⟩
      obtain ⟨before, isBefore, rfl⟩ := List.mem_map.mp member
      have kept := own before isBefore
      unfold patchServiceMeta patchMeta
      split
      · exact ⟨kept.name, kept.labels⟩
      · exact ⟨kept.name, kept.labels⟩
  | created service =>
      obtain ⟨spec, rfl⟩ := sync_createService issued
      rw [input]
      refine ⟨fun later member => ?_, by simp [World.addService]⟩
      rcases List.mem_append.mp member with earlier | last
      · exact own later earlier
      · rw [List.mem_singleton.mp last]
        exact ⟨rfl, rfl⟩

theorem shown_service {next : State} {outcome : Outcome} {call : Call}
    (called : Called state outcome call next) (shows : showsService call = true) :
    next.world.services ≠ [] := by
  obtain ⟨_, _, reply, _, _, world⟩ := called
  obtain ⟨request, answer⟩ := call
  rw [world]
  cases request with
  | listServices =>
      cases answer with
      | ok services =>
          have listing : ClaimKind.service.listing ⟨.listServices, .ok services⟩ =
              some (services.map Service.toObjectMeta) := rfl
          obtain ⟨same, unchanged⟩ := serve_listing listing reply
          rw [unchanged]
          intro none
          simp [World.objects, none] at same
          simp [showsService, same] at shows
      | error => cases shows
  | createService service =>
      cases answer with
      | none =>
          rw [serve_createService reply.symm]
          simp [World.addService]
      | some => cases shows
  | _ => cases shows

theorem run_services (run : Run step Retrying (State.initial mxjob [] [] nextUID) past state) :
    (∀ service ∈ state.world.services, OwnService mxjob service) ∧
      ((∃ call ∈ state.worker.trace, showsService call = true) → state.world.services ≠ []) := by
  refine run.historyInvariant (fun _ current =>
    (∀ service ∈ current.world.services, OwnService mxjob service) ∧
      ((∃ call ∈ current.worker.trace, showsService call = true) →
        current.world.services ≠ []))
    ⟨by simp [State.initial], by simp [State.initial, Thread.start]⟩ ?_
  rintro past current action reached ⟨own, shown⟩ permitted
  have stepped := serial_step permitted.serial current
  generalize step current action = next at stepped ⊢
  cases stepped with
  | idle => exact ⟨own, shown⟩
  | delivered => exact ⟨own, by simp [Thread.start]⟩
  | called outcome call called =>
      obtain ⟨still, kept⟩ := service_called called (run_original reached).1 own
      refine ⟨still, ?_⟩
      rintro ⟨later, member, shows⟩
      rw [called.trace] at member
      rcases List.mem_append.mp member with earlier | last
      · exact kept (shown ⟨later, earlier, shows⟩)
      · obtain rfl := List.mem_singleton.mp last
        exact shown_service called shows

/-- The services are told apart by name, and the operator knows one name only. -/
theorem services_le_one (distinct : DistinctObjects .service state.world)
    (own : ∀ service ∈ state.world.services, OwnService mxjob service) :
    state.world.services.length ≤ 1 := by
  have names := distinct.names
  cases services : state.world.services with
  | nil => simp
  | cons first rest =>
      cases rest with
      | nil => simp
      | cons second rest =>
          have isFirst := own first (by simp [services])
          have isSecond := own second (by simp [services])
          simp [World.objects, services, isFirst.name, isSecond.name] at names

/-- A reconciliation with a scheduler has seen its service. -/
theorem ServiceDone.shows {spec : MXReplicaSpec} {trace : List Call}
    (done : ServiceDone mxjob spec trace) : ∃ call ∈ trace, showsService call = true := by
  obtain ⟨listed, services, found, claims, created, _⟩ := done
  cases services with
  | nil => exact ⟨_, created rfl, rfl⟩
  | cons service rest =>
      refine ⟨_, found, ?_⟩
      have listed : service ∈ listed := claims.upper.subset (by simp)
      cases listed <;> rfl

theorem run_service (run : Run step Retrying (State.initial mxjob [] [] nextUID) past state)
    (shown : ∃ call ∈ state.worker.trace, showsService call = true) :
    state.world.services.countP (fun service =>
      (⟨genLabels mxjob (some .scheduler)⟩ : Selector).isMatch service.labels) = 1 := by
  obtain ⟨own, nonempty⟩ := run_services run
  have distinct : DistinctObjects .service (State.initial mxjob [] [] nextUID).world :=
    ⟨List.nodup_nil, List.nodup_nil, by simp [World.objects, State.initial]⟩
  have all : state.world.services.countP (fun service =>
      (⟨genLabels mxjob (some .scheduler)⟩ : Selector).isMatch service.labels) =
      state.world.services.length := by
    refine List.countP_eq_length.mpr fun service member => ?_
    rw [(own service member).labels]
    exact Selector.isMatch_self _
  have atMost := services_le_one (run_custody distinct run).1 own
  have atLeast := List.length_pos_iff.mpr (nonempty shown)
  omega

end Services

/-! ### What becomes of the job -/

/-- What is compared between two ways to bring a job up. -/
@[ext] structure Summary where
  pods : MXReplicaType → Nat
  schedulerServices : Nat
  counters : MXReplicaType → Option MXReplicaStatus
  conditions : List (MXJobConditionType × ConditionStatus)
  started : Bool

def summary (mxjob : MXJob) (world : World) : Summary where
  pods := fun rtype => (filterPodsForMXReplicaType world.pods rtype).length
  schedulerServices := world.services.countP fun service =>
    (⟨genLabels mxjob (some .scheduler)⟩ : Selector).isMatch service.labels
  counters := getMXReplicaStatus world.job
  conditions := conditionStates world.job.status
  started := world.job.status.startTime.isSome

/-- What the specification asks for. -/
def wanted (replicas : MXReplicaType → Int32) : Summary where
  pods := fun rtype => (replicas rtype).toInt.toNat
  schedulerServices := 1
  counters := fun rtype => some ⟨replicas rtype, 0, 0, 0⟩
  conditions := [(.created, .isTrue), (.running, .isTrue), (.initialized, .isTrue)]
  started := true

section Outcome

variable {mxjob : MXJob} {replicas : MXReplicaType → Int32} {nextUID : UID} {past : List State}
  {state : State}

/-- A short type is topped up to its replica count. -/
theorem podsNeeded_fills {job : MXJob} {claimed : List Pod} {rtype : MXReplicaType}
    {count : Int32} (given : replicasOf job rtype = some count)
    (fresh : checkCondition job.status .initialized = false)
    (within : ((filterPodsForMXReplicaType claimed rtype).length : Int) ≤ count.toInt) :
    (filterPodsForMXReplicaType claimed rtype).length + podsNeeded job claimed rtype =
      count.toInt.toNat := by
  have bounded : Bounded claimed rtype count := Int.le_trans within (Int.le_max_left _ _)
  rw [podsNeeded, given, Option.elim_some, neededPods]
  split
  · rw [bounded.podDiff_toInt]
    omega
  · rename_i enough
    have full := bounded.podDiff_pos.not.mp fun short => enough ⟨short, fresh⟩
    omega

theorem created_of_success {outcome : Outcome} {request : PodRequest} {world : World}
    (accepted : failedCall ⟨.createPod request, (serve outcome (.createPod request) world).1⟩ =
      false) :
    (serve outcome (.createPod request) world).2 =
      world.addPod (Cluster.createdPod world.job.ns outcome.name world.nextUID request) := by
  rcases serve_createPod outcome request world with ⟨_, failed⟩ | effect
  · cases reply : (serve outcome (.createPod request) world).1 with
    | none => exact absurd reply failed
    | some error =>
        rw [reply] at accepted
        cases accepted
  · exact effect

theorem Retrying.calm {action : Action} (permitted : Retrying state action) :
    undisturbed mxjob action = true := by
  cases action with
  | deliver => rfl
  | work => rfl
  | _ => exact permitted.elim

theorem Retrying.keepsSpec {action : Action} (permitted : Retrying state action) :
    keepsSpec action = true := by
  cases action with
  | move => exact permitted.elim
  | _ => rfl

theorem Retrying.leavesPods {action : Action} (permitted : Retrying state action) :
    leavesPods action = true := by
  cases action with
  | move => exact permitted.elim
  | _ => rfl

theorem retry_setting : Setting mxjob [] [] nextUID Retrying :=
  Setting.empty fun _ _ permitted => permitted.calm

/-- The pods a Sync of a new job has claimed are all those it listed. -/
theorem run_claims (new : NewJob mxjob replicas)
    (run : Run step Retrying (State.initial mxjob [] [] nextUID) past state) {claimed : List Pod}
    (listed : Listed mxjob claimed state.worker.trace) :
    lists claimed ∈ state.worker.trace ∧ (∀ pod ∈ claimed, FreshPod mxjob pod) ∧
      ∀ rtype, ((filterPodsForMXReplicaType claimed rtype).length : Int) ≤
        (replicas rtype).toInt := by
  rw [← (run_original run).1] at listed
  obtain ⟨earlier, isEarlier, found, rfl⟩ := run_claimed retry_setting run listed
  have fresh := (run_fresh new run).2 earlier isEarlier
  have all : ownPods mxjob earlier.world.pods = earlier.world.pods :=
    List.filter_eq_self.mpr fun pod member => (fresh pod member).managed
  refine ⟨all.symm ▸ found, all.symm ▸ fresh, fun rtype => ?_⟩
  have bound := (run_count retry_setting (fun _ _ permitted => permitted.keepsSpec)
    (new.given rtype) run).2 earlier isEarlier
  have nonneg := Int32.le_iff_toInt_le.mp (new.nonneg rtype)
  rw [((run_owned retry_setting run).2 earlier isEarlier).length_ownPods]
  rw [Int32.toInt_zero] at nonneg
  omega

/-- The Sync that meets no error leaves what the specification asks for. -/
theorem run_wanted (new : NewJob mxjob replicas) (live : mxjob.deletionTimestamp = none)
    (run : Run step Retrying (State.initial mxjob [] [] nextUID) past state)
    (synced : state.worker.input.deleted = false) (returned : state.worker.result = some ())
    (errorFree : ∀ call ∈ state.worker.trace, failedCall call = false) :
    summary mxjob state.world = wanted replicas := by
  have input : state.worker.input = ⟨mxjob, false⟩ := by
    rw [← (run_original run).1, ← synced]
  have ended := Thread.returns_of_result returned
  rw [input] at ended
  have undecided : isJobFinished mxjob.status = false := by
    rw [new.empty]
    rfl
  obtain ⟨claimed, job, after, front, created, conclusion, _, trace⟩ :=
    sync_completes ⟨rfl, live, undecided⟩ ended
  have included : front ⊆ state.worker.trace := by
    rw [trace]
    exact List.subset_append_left _ _
  obtain ⟨found, fresh, within⟩ := run_claims new run
    ((conclusion.evaluation.listed.of_meta created.samePass.statusOnly.meta_eq.symm).mono included)
  have initial : InitialStatus replicas after := conclusion.initial created new.empty new.given
    new.worker (fun pod member => FreshPod.active (fresh pod member)) within
  -- the status has changed, so it was stored
  have changed : job.status ≠ after.status := by
    intro same
    have states := created.initial new.empty
    rw [same, initial.conditions] at states
    cases states
  rw [if_neg changed] at trace
  obtain ⟨status, _⟩ := run_stored (fun _ _ permitted => permitted.serial) rfl run front trace
  have spared : ∀ call ∈ state.worker.trace, ∀ name, call.request ≠ .deletePod name := by
    intro call member name
    rw [trace] at member
    rcases List.mem_append.mp member with earlier | last
    · exact conclusion.undeleted initial.unfinished call earlier name
    · rw [List.mem_singleton.mp last]
      simp
  obtain ⟨edit, made, grown⟩ := run_grown (fun _ _ permitted => permitted.leavesPods)
    (fun _ _ _ _ _ => created_of_success) retry_setting.distinct run claimed found errorFree spared
  ext1
  · funext rtype
    have counts : createCount rtype state.worker.trace = podsNeeded job claimed rtype := by
      rw [trace, createCount_append, conclusion.evaluation.counts]
      rfl
    show (filterPodsForMXReplicaType state.world.pods rtype).length = _
    rw [grown.pods, (grown.replenished (List.Subset.refl claimed) rtype counts).total]
    exact podsNeeded_fills ((created.samePass.statusOnly.replicasOf_eq rtype).trans
      (new.given rtype)) (checkCondition_eq_false (by simp [created.initial new.empty]))
      (within rtype)
  · obtain ⟨spec, present⟩ := new.scheduler
    rw [← created.samePass.statusOnly.spec_eq] at present
    obtain ⟨call, member, shows⟩ :=
      ServiceDone.shows (conclusion.evaluation.service spec present)
    exact run_service run ⟨call, included member, shows⟩
  · funext rtype
    refine Eq.trans ?_ (initial.counters rtype)
    cases rtype <;> simp only [summary, getMXReplicaStatus, status]
  · show conditionStates state.world.job.status = _
    rw [status, initial.conditions]
    rfl
  · show state.world.job.status.startTime.isSome = true
    rw [status, Option.isSome_iff_ne_none]
    exact initial.started

/-- A job pending deletion is not reconciled at all. -/
theorem run_deleting (deleting : mxjob.deletionTimestamp ≠ none)
    (run : Run step Retrying (State.initial mxjob [] [] nextUID) past state) :
    state.world = (State.initial mxjob [] [] nextUID).world := by
  refine run.historyInvariant (fun _ current =>
    current.world = (State.initial mxjob [] [] nextUID).world) rfl ?_
  intro past current action reached known permitted
  have stepped := serial_step permitted.serial current
  generalize step current action = next at stepped ⊢
  cases stepped with
  | idle => exact known
  | delivered => exact known
  | called outcome call called =>
      rw [called.world, ← known]
      have issued := called.issued
      by_cases reading : call.request = .now
      · rw [reading]
        rfl
      by_cases spawning : ∃ object index, call.request = .spawnFinalizer object index
      · obtain ⟨object, index, asked⟩ := spawning
        rw [asked]
        rfl
      obtain ⟨reconcilable, _⟩ := sync_reconciles issued reading fun object index asked =>
        spawning ⟨object, index, asked⟩
      have live := reconcilable.live
      rw [(run_original reached).1] at live
      exact absurd live deleting

end Outcome

/-! ### Convergence -/

/-- A single Sync none of whose calls is made to fail. -/
def Untroubled (_ : State) : Action → Prop
  | .work outcome => outcome.failure = none
  | _ => False

instance (state : State) : (action : Action) → Decidable (Untroubled state action)
  | .work _ => inferInstanceAs (Decidable (_ = _))
  | .deliver _ _ => inferInstanceAs (Decidable False)
  | .finalize _ _ => inferInstanceAs (Decidable False)
  | .restart => inferInstanceAs (Decidable False)
  | .move _ => inferInstanceAs (Decidable False)

theorem Untroubled.works {state : State} {action : Action} (untroubled : Untroubled state action) :
    works action = true := by
  cases action with
  | work => rfl
  | _ => exact untroubled.elim

theorem Untroubled.retrying {state : State} {action : Action}
    (untroubled : Untroubled state action) : Retrying state action := by
  cases action with
  | work outcome =>
      have none : outcome.failure = none := untroubled
      simp only [Retrying, discards, none]
      split <;> rfl
  | _ => exact untroubled.elim

/-- Retries converge.  However many Syncs of a new job failed, at whatever calls
and with whatever half-done work, the first one without error leaves the job as
a single Sync without error would have left it: with one scheduler service and
its start time set, unless the job is pending deletion and not reconciled. -/
theorem retries_converge {mxjob : MXJob} {replicas : MXReplicaType → Int32} {nextUID : UID}
    {past before : List State} {state single : State} (new : NewJob mxjob replicas)
    (run : Run step Retrying (State.initial mxjob [] [] nextUID) past state)
    (synced : state.worker.input.deleted = false) (returned : state.worker.result = some ())
    (errorFree : ∀ call ∈ state.worker.trace, failedCall call = false)
    (once : Run step Untroubled (beginSync mxjob [] [] nextUID) before single)
    (ended : single.worker.result = some ())
    (faultless : ∀ call ∈ single.worker.trace, failedCall call = false) :
    summary mxjob state.world = summary mxjob single.world ∧
      (mxjob.deletionTimestamp = none → (summary mxjob state.world).schedulerServices = 1 ∧
        (summary mxjob state.world).started = true) := by
  have begins : Retrying (State.initial mxjob [] [] nextUID) (.deliver 0 false) :=
    ⟨⟨rfl, rfl⟩, Or.inr rfl⟩
  have alsoRetrying : Run step Retrying (State.initial mxjob [] [] nextUID)
      (before ++ [State.initial mxjob [] [] nextUID]) single :=
    (once.mono fun _ _ untroubled => untroubled.retrying).prepend begins
  by_cases live : mxjob.deletionTimestamp = none
  · have input := run_input (fun _ _ untroubled => untroubled.works) once
    have outcome := run_wanted new live run synced returned errorFree
    have same := run_wanted new live alsoRetrying (by rw [input]; rfl) ended faultless
    exact ⟨outcome.trans same.symm, fun _ => by simp [outcome, wanted]⟩
  · refine ⟨?_, fun pending => absurd pending live⟩
    rw [run_deleting live run, run_deleting live alsoRetrying]

/-- The first Sync fails at the server pod, which is created all the same; the
second adopts the service and makes the worker. -/
def retriedSync : List Action :=
  .deliver 0 false :: calls ["", "", "", "scheduler-1", "", "", "", ""] ++
    .work { Outcome.success "server-1" with failure := some ⟨.serverTimeout, "slow"⟩ } ::
    .deliver 0 false :: calls ["", "", "", "", "", "", "", "", "worker-1", "", "", "", ""]

theorem sampleJob_new : NewJob sampleJob fun _ => 1 :=
  ⟨rfl, fun rtype => by cases rtype <;> rfl, by decide, by decide⟩

theorem run_retriedSync : Run step Retrying sampleStart
    (Run.passed step [] sampleStart retriedSync) (retriedSync.foldl step sampleStart) :=
  Run.start.extend (by decide +kernel)

theorem run_singleSync : Run step Untroubled (beginSync sampleJob [] [] 1)
    (Run.passed step [] (beginSync sampleJob [] [] 1) firstSync.tail)
    (firstSync.tail.foldl step (beginSync sampleJob [] [] 1)) :=
  Run.start.extend (by decide +kernel)

theorem retries_converge_retriedSync :
    ((retriedSync.foldl step sampleStart).log.any failedCall = true ∧
      (retriedSync.foldl step sampleStart).worker.result = some ()) ∧
    summary sampleJob (retriedSync.foldl step sampleStart).world =
      summary sampleJob (firstSync.tail.foldl step (beginSync sampleJob [] [] 1)).world :=
  ⟨by decide +kernel,
    (retries_converge sampleJob_new run_retriedSync rfl (by decide +kernel) (by decide +kernel)
      run_singleSync (by decide +kernel) (by decide +kernel)).1⟩

end MXNetOperator.Property
