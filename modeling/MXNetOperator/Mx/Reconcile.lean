import MXNetOperator.Mx.Listing
import MXNetOperator.Mx.Terminate
import MXNetOperator.Mx.Verdict

/-!
Contract: `reconcileMXJobs`, cut at its comments into listing, the replica
passes, initialization, termination and the status update.

The part up to the passes is `evaluate`: it fixes the verdict.  The
specifications say what each part returns and which requests it can make, in
terms of `replicaPasses`.
-/

namespace MXNetOperator.Mx

open MXNetOperator.Kube MXNetOperator.Api MXNetOperator.Interaction

/-! ### Source functions -/

/-- The scheduler block: its pods, then its service. -/
def reconcileScheduler (mxjob : MXJob) (pods : List Pod) : Go MXJob :=
  match mxjob.spec.mxReplicaSpecs.scheduler with
  | none => pure mxjob
  | some spec => do
      let mxjob ← reconcilePods mxjob pods .scheduler spec
      let services ← getServicesForMXJob mxjob
      reconcileServices mxjob services .scheduler spec
      pure mxjob

/-- The server and the worker block. -/
def reconcileReplica (mxjob : MXJob) (pods : List Pod) (rtype : MXReplicaType) : Go MXJob :=
  match mxjob.spec.mxReplicaSpecs.get rtype with
  | none => pure mxjob
  | some spec => reconcilePods mxjob pods rtype spec

def reconcileReplicas (mxjob : MXJob) (pods : List Pod) : Go MXJob := do
  let mxjob ← reconcileScheduler mxjob pods
  let mxjob ← reconcileReplica mxjob pods .server
  reconcileReplica mxjob pods .worker

/-- `updateMXJobConditions` for the Initialized condition. -/
def withInitialized (now : Nat → Time) (mxjob : MXJob) : MXJob :=
  { mxjob with
    status := updateMXJobConditions (now 0) (now 1) mxjob.status .initialized reasonInitialized
      ("MXJob " ++ mxjob.name ++ " is initialized.") }

/-- The initialized condition and the start webhook, once all sub-resources
are created. -/
def markInitialized (mxjob : MXJob) : Go MXJob :=
  if checkCondition mxjob.status .initialized then
    pure mxjob
  else do
    let now ← ask .now
    let _ ← ask (.callHookAsync (withInitialized now mxjob) true)
    pure (withInitialized now mxjob)

/-- Termination and the finish webhook of a finished job. -/
def finishJob (mxjob : MXJob) (pods : List Pod) : Go MXJob :=
  if isJobFinished mxjob.status then do
    let mxjob ← terminateMXJob mxjob pods
    let _ ← ask (.callHookAsync mxjob false)
    pure mxjob
  else
    pure mxjob

/-- The update, left out when the status did not change. -/
def storeStatus (oldStatus : MXJobStatus) (mxjob : MXJob) : Go MXJob :=
  if oldStatus = mxjob.status then
    pure mxjob
  else do
    let reply ← ask (.updateMXJob mxjob)
    failOn ((reply : Option ApiError).map GoError.status)
    pure mxjob

/-- `reconcileMXJobs` up to the verdict. -/
def evaluate (mxjob : MXJob) : Go (List Pod × MXJob) := do
  let pods ← getPodsForMXJob mxjob
  let mxjob ← reconcileReplicas mxjob pods
  pure (pods, mxjob)

/-- The job is passed by pointer in the source; here the changed job is the
result. -/
def reconcileMXJobs (mxjob : MXJob) : Go MXJob := do
  let oldStatus := mxjob.status
  let (pods, mxjob) ← evaluate mxjob
  let mxjob ← markInitialized mxjob
  let mxjob ← finishJob mxjob pods
  storeStatus oldStatus mxjob

/-! ### Requests by purpose -/

/-- Requests of the replica passes. -/
def servesReplicas : Request → Bool
  | .now => true
  | .rangeMap _ => true
  | .listServices => true
  | .getMXJob _ => true
  | .patchService _ _ => true
  | .createPod _ => true
  | .createService _ => true
  | _ => false

/-- Requests of a listing. -/
def servesListing : Request → Bool
  | .listPods => true
  | .getMXJob _ => true
  | .patchPod _ _ => true
  | _ => false

theorem ClaimRequest.servesListing {mxjob : MXJob} {object : ObjectMeta} {isMatch : Bool}
    {request : Request} (claim : ClaimRequest .pod mxjob object isMatch request) :
    servesListing request = true := by
  rcases claim with rfl | ⟨_, _, rfl⟩ | ⟨_, _, rfl⟩ <;> rfl

theorem getPodsForMXJob_serves {mxjob : MXJob} {trace : List Call} {request : Request}
    (issued : (getPodsForMXJob mxjob).Issues trace request) : servesListing request = true := by
  rcases claimListed_issues issued with ⟨_, rfl⟩ | ⟨_, _, _, _, _, object, _, claim⟩
  · rfl
  · exact claim.servesListing

theorem getServicesForMXJob_serves {mxjob : MXJob} {trace : List Call} {request : Request}
    (issued : (getServicesForMXJob mxjob).Issues trace request) :
    servesReplicas request = true ∧ ∀ pod, request ≠ .createPod pod := by
  rcases claimListed_issues issued with ⟨_, rfl⟩ | ⟨_, _, _, _, _, object, _, claim⟩
  · exact ⟨rfl, by simp⟩
  · rcases claim with rfl | ⟨_, _, rfl⟩ | ⟨_, _, rfl⟩ <;>
      exact ⟨rfl, by simp [ClaimKind.patchRequest]⟩

/-! ### The pass of one type -/

section Replica

variable {mxjob after : MXJob} {pods : List Pod} {rtype : MXReplicaType} {trace : List Call}
  {request : Request}

/-- A type with a specification also gives its replica count. -/
def GivesReplicas (mxjob : MXJob) (rtype : MXReplicaType) : Prop :=
  ∀ spec, mxjob.spec.mxReplicaSpecs.get rtype = some spec → ∃ replicas, spec.replicas = some replicas

/-- The exchanges of a completed pass. -/
structure PassDone (mxjob : MXJob) (pods : List Pod) (rtype : MXReplicaType)
    (trace : List Call) : Prop where
  counts : ∀ other, createCount other trace =
    if other = rtype then podsNeeded mxjob pods rtype else 0
  accepted : ∀ call ∈ trace, acceptedCreate call
  given : GivesReplicas mxjob rtype

/-- A request of a pass under way: at most the needed pods have been asked for,
and a creation asks for one that is still needed. -/
structure PassRequest (mxjob : MXJob) (pods : List Pod) (rtype : MXReplicaType)
    (trace : List Call) (request : Request) : Prop where
  counts : ∀ other, createCount other trace ≤
    if other = rtype then podsNeeded mxjob pods rtype else 0
  serves : servesReplicas request = true
  creation : ∀ pod, request = .createPod pod → IsNewPod mxjob rtype pod ∧
    createCount rtype trace < podsNeeded mxjob pods rtype

theorem passDone_skipped (absent : mxjob.spec.mxReplicaSpecs.get rtype = none) :
    PassDone mxjob pods rtype [] where
  counts := by
    intro other
    simp [createCount, podsNeeded, replicasOf, absent]
  accepted := by simp
  given := by
    intro spec present
    rw [absent] at present
    cases present

theorem replicasOf_eq_some {spec : MXReplicaSpec} {replicas : Int32}
    (present : mxjob.spec.mxReplicaSpecs.get rtype = some spec)
    (given : spec.replicas = some replicas) : replicasOf mxjob rtype = some replicas := by
  rw [replicasOf, present, Option.bind_some, given]

/-- `reconcilePods` on the type's own specification. -/
theorem reconcilePods_pass {spec : MXReplicaSpec}
    (present : mxjob.spec.mxReplicaSpecs.get rtype = some spec)
    (returned : (reconcilePods mxjob pods rtype spec).Returns trace after) :
    ∃ now, after = passFor now mxjob pods rtype ∧ PassDone mxjob pods rtype trace := by
  obtain ⟨replicas, now, creating, given, rfl, created, rfl⟩ := reconcilePods_returns returned
  have counted := replicasOf_eq_some present given
  refine ⟨now, by simp only [passFor, counted], ?_, ?_, ?_⟩
  · intro other
    rw [createCount_append]
    change createCount other creating + 0 = _
    rw [created.counts other, podsNeeded, counted]
    rfl
  · intro call member
    rcases List.mem_append.mp member with earlier | last
    · exact created.accepted call earlier
    · rw [List.mem_singleton.mp last]
      trivial
  · intro other same
    rw [present] at same
    cases same
    exact ⟨replicas, given⟩

theorem reconcilePods_request {spec : MXReplicaSpec}
    (present : mxjob.spec.mxReplicaSpecs.get rtype = some spec)
    (issued : (reconcilePods mxjob pods rtype spec).Issues trace request) :
    PassRequest mxjob pods rtype trace request := by
  obtain ⟨replicas, given, _, shape⟩ := reconcilePods_issues issued
  have needed : podsNeeded mxjob pods rtype = neededPods mxjob pods rtype replicas := by
    rw [podsNeeded, replicasOf_eq_some present given]
    rfl
  rcases shape with ⟨busy, counts, asked⟩ | ⟨rfl, created⟩
  · have below : createCount rtype trace < podsNeeded mxjob pods rtype := by
      have bound := counts rtype
      rw [if_pos rfl] at bound
      omega
    refine ⟨fun other => ?_, ?_, ?_⟩
    · refine Nat.le_trans (counts other) ?_
      split
      · omega
      · exact Nat.le_refl 0
    · rcases asked with ⟨env, rfl⟩ | ⟨pod, _, rfl⟩ <;> rfl
    · rintro pod rfl
      rcases asked with ⟨env, impossible⟩ | ⟨created, isNew, same⟩
      · cases impossible
      · cases same
        exact ⟨isNew, below⟩
  · refine ⟨fun other => ?_, rfl, by simp⟩
    rw [created.counts other, needed]

theorem reconcileReplica_returns
    (returned : (reconcileReplica mxjob pods rtype).Returns trace after) :
    ∃ now, after = passFor now mxjob pods rtype ∧ PassDone mxjob pods rtype trace := by
  unfold reconcileReplica at returned
  split at returned
  · rename_i absent
    obtain ⟨rfl, rfl⟩ := Program.returns_pure.mp returned
    refine ⟨fun _ => 0, ?_, passDone_skipped absent⟩
    simp [passFor, replicasOf, absent]
  · rename_i spec present
    exact reconcilePods_pass present returned

theorem reconcileReplica_issues (issued : (reconcileReplica mxjob pods rtype).Issues trace request) :
    PassRequest mxjob pods rtype trace request := by
  unfold reconcileReplica at issued
  split at issued
  · exact absurd issued Program.issues_pure
  · rename_i spec present
    exact reconcilePods_request present issued

end Replica

/-! ### The scheduler and its service -/

section Scheduler

variable {mxjob after : MXJob} {pods : List Pod} {trace : List Call} {request : Request}

/-- The service of the scheduler has been looked for and, if none was claimed,
created. -/
def ServiceDone (mxjob : MXJob) (spec : MXReplicaSpec) (trace : List Call) : Prop :=
  ∃ listed services, (⟨.listServices, .ok listed⟩ : Call) ∈ trace ∧
    Claimed .service Service.toObjectMeta mxjob listed services trace ∧
    (services = [] →
      (⟨.createService (newService mxjob .scheduler spec), none⟩ : Call) ∈ trace) ∧
    (services ≠ [] → ∀ call ∈ trace, ∀ service, call.request ≠ .createService service)

/-- A service is created only if none was claimed. -/
def ServiceRequested (mxjob : MXJob) (trace : List Call) (request : Request) : Prop :=
  ∀ service, request = .createService service → ∃ spec listed,
    mxjob.spec.mxReplicaSpecs.scheduler = some spec ∧
      service = newService mxjob .scheduler spec ∧
      (⟨.listServices, .ok listed⟩ : Call) ∈ trace ∧
      Claimed .service Service.toObjectMeta mxjob listed [] trace

theorem ServiceDone.mono {spec : MXReplicaSpec} {larger : List Call}
    (done : ServiceDone mxjob spec trace) (included : trace ⊆ larger)
    (rest : ∀ call ∈ larger, call ∈ trace ∨
      ∀ service, call.request ≠ .createService service) : ServiceDone mxjob spec larger := by
  obtain ⟨listed, services, found, claims, created, untouched⟩ := done
  refine ⟨listed, services, included found, claims.mono included,
    fun none => included (created none), fun some call member => ?_⟩
  rcases rest call member with earlier | other
  · exact untouched some call earlier
  · exact other

theorem newService_of_meta {first second : MXJob} {spec : MXReplicaSpec}
    (same : first.toObjectMeta = second.toObjectMeta) :
    newService first .scheduler spec = newService second .scheduler spec := by
  simp only [newService, serviceName, genLabels, same]

/-- Only a service creation is one: every other request of the passes is not. -/
theorem reconcilePods_createsNoService {rtype : MXReplicaType} {spec : MXReplicaSpec}
    {rest : Go MXJob} (path : (reconcilePods mxjob pods rtype spec).Path trace rest) :
    ∀ call ∈ trace, ∀ service, call.request ≠ .createService service := by
  refine path.forall_request (fun request => ∀ service, request ≠ .createService service)
    fun front request issued service same => ?_
  obtain ⟨replicas, _, _, ⟨_, _, ⟨env, rfl⟩ | ⟨pod, _, rfl⟩⟩ | ⟨rfl, _⟩⟩ :=
    reconcilePods_issues issued <;> cases same

theorem getServicesForMXJob_createsNoService {rest : Go (List Service)}
    (path : (getServicesForMXJob mxjob).Path trace rest) :
    ∀ call ∈ trace, ∀ service, call.request ≠ .createService service := by
  refine path.forall_request (fun request => ∀ service, request ≠ .createService service)
    fun front request issued service same => ?_
  rcases claimListed_issues issued with ⟨_, rfl⟩ | ⟨_, _, _, _, _, object, _, claim⟩
  · cases same
  · rcases claim with rfl | ⟨_, _, rfl⟩ | ⟨_, _, rfl⟩ <;> cases same

theorem getServicesForMXJob_createsNoPod {rest : Go (List Service)}
    (path : (getServicesForMXJob mxjob).Path trace rest) :
    ∀ call ∈ trace, createsPod call = false := by
  intro call member
  obtain ⟨front, _, _, issued⟩ := path.issues_of_mem member
  have other := (getServicesForMXJob_serves issued).2
  obtain ⟨request, reply⟩ := call
  cases request <;> first | rfl | exact absurd rfl (other _)

theorem acceptedCreate_of_not_creates {call : Call} (other : createsPod call = false) :
    acceptedCreate call := by
  obtain ⟨request, reply⟩ := call
  cases request <;> trivial

theorem reconcileScheduler_returns
    (returned : (reconcileScheduler mxjob pods).Returns trace after) :
    ∃ now, after = passFor now mxjob pods .scheduler ∧ PassDone mxjob pods .scheduler trace ∧
      ∀ spec, mxjob.spec.mxReplicaSpecs.scheduler = some spec → ServiceDone mxjob spec trace := by
  unfold reconcileScheduler at returned
  split at returned
  · rename_i absent
    obtain ⟨rfl, rfl⟩ := Program.returns_pure.mp returned
    refine ⟨fun _ => 0, ?_, passDone_skipped absent, ?_⟩
    · simp [passFor, replicasOf, MXReplicaSpecs.get, absent]
    · intro spec present
      rw [absent] at present
      cases present
  · rename_i spec present
    have own : mxjob.spec.mxReplicaSpecs.get .scheduler = some spec := present
    simp only [Program.returns_bind, Program.returns_pure] at returned
    obtain ⟨job, creating, _, rfl, passed, services, listing, _, rfl, looked, _, serving, _, rfl,
      served, rfl, rfl⟩ := returned
    have servingEq := reconcileServices_returns served
    obtain ⟨now, rfl, done⟩ := reconcilePods_pass own passed
    have same : StatusOnly mxjob (passFor now mxjob pods .scheduler) :=
      passFor_samePass.statusOnly
    have noService := reconcilePods_createsNoService passed
    have noneListed := getServicesForMXJob_createsNoService looked
    -- the calls after the pod pass create no pod
    have quiet : ∀ call ∈ listing ++ (serving ++ []), createsPod call = false := by
      intro call member
      rcases List.mem_append.mp member with listed | served
      · exact getServicesForMXJob_createsNoPod looked call listed
      · rw [List.append_nil, servingEq] at served
        split at served
        · rw [List.mem_singleton.mp served]
          rfl
        · cases served
    refine ⟨now, rfl, ⟨fun other => ?_, fun call member => ?_, done.given⟩, ?_⟩
    · rw [createCount_append, done.counts other, createCount_eq_zero quiet, Nat.add_zero]
    · rcases List.mem_append.mp member with earlier | later
      · exact done.accepted call earlier
      · exact acceptedCreate_of_not_creates (quiet call later)
    · intro spec given
      rw [present] at given
      cases given
      obtain ⟨reply, listed, claiming, rfl, decoded, claims⟩ := claimListed_returns looked
      cases decoded
      refine ⟨listed, services, by simp, ?_, ?_, ?_⟩
      · refine (claims.of_meta same.meta_eq.symm).mono ?_
        intro call member
        simp [member]
      · intro none
        subst none
        rw [servingEq, newService_of_meta same.meta_eq]
        simp
      · intro some call member service
        have nothing : serving = [] := by
          rw [servingEq, if_neg]
          simpa using some
        rw [nothing] at member
        rcases List.mem_append.mp member with earlier | later
        · exact noService call earlier service
        · exact noneListed call (by simpa using later) service

theorem reconcileScheduler_issues
    (issued : (reconcileScheduler mxjob pods).Issues trace request) :
    PassRequest mxjob pods .scheduler trace request ∧ ServiceRequested mxjob trace request := by
  unfold reconcileScheduler at issued
  split at issued
  · exact absurd issued Program.issues_pure
  · rename_i spec present
    have own : mxjob.spec.mxReplicaSpecs.get .scheduler = some spec := present
    simp only [Program.issues_bind, Program.issues_pure, and_false, exists_false,
      or_false] at issued
    rcases issued with creating | ⟨job, front, _, rfl, passed, looking |
      ⟨services, listing, _, rfl, looked, serving⟩⟩
    · refine ⟨reconcilePods_request own creating, ?_⟩
      rintro service rfl
      obtain ⟨replicas, _, _, ⟨_, _, ⟨env, impossible⟩ | ⟨pod, _, impossible⟩⟩ |
        ⟨impossible, _⟩⟩ := reconcilePods_issues creating <;> cases impossible
    · obtain ⟨now, rfl, done⟩ := reconcilePods_pass own passed
      obtain ⟨next, path⟩ := looking
      have quiet := getServicesForMXJob_createsNoPod path
      obtain ⟨serves, notPod⟩ := getServicesForMXJob_serves ⟨next, path⟩
      refine ⟨⟨fun other => ?_, serves, fun pod same => absurd same (notPod pod)⟩, ?_⟩
      · rw [createCount_append, done.counts other, createCount_eq_zero quiet, Nat.add_zero]
      · rintro service rfl
        exact absurd rfl (getServicesForMXJob_createsNoService (path.snoc none) _
          (List.mem_append_right _ (List.mem_singleton.mpr rfl)) service)
    · obtain ⟨now, rfl, done⟩ := reconcilePods_pass own passed
      have same : StatusOnly mxjob (passFor now mxjob pods .scheduler) :=
        passFor_samePass.statusOnly
      have quiet := getServicesForMXJob_createsNoPod looked
      obtain ⟨rfl, rfl, rfl⟩ := reconcileServices_issues serving
      rw [newService_of_meta same.meta_eq.symm]
      refine ⟨⟨fun other => ?_, rfl, by simp⟩, ?_⟩
      · rw [createCount_append, done.counts other, List.append_nil, createCount_eq_zero quiet,
          Nat.add_zero]
      · rintro service created
        cases created
        obtain ⟨reply, listed, claiming, rfl, decoded, claims⟩ := claimListed_returns looked
        cases decoded
        refine ⟨spec, listed, present, rfl, by simp, ?_⟩
        refine (claims.of_meta same.meta_eq.symm).mono ?_
        intro call member
        simp [member]

end Scheduler

/-! ### All passes -/

section Passes

variable {mxjob after : MXJob} {pods : List Pod} {trace : List Call} {request : Request}

/-- The exchanges of the completed passes. -/
structure PassesDone (mxjob : MXJob) (pods : List Pod) (trace : List Call) : Prop where
  counts : ∀ rtype, createCount rtype trace = podsNeeded mxjob pods rtype
  accepted : ∀ call ∈ trace, acceptedCreate call
  given : ∀ rtype, GivesReplicas mxjob rtype
  service : ∀ spec, mxjob.spec.mxReplicaSpecs.scheduler = some spec → ServiceDone mxjob spec trace

/-- A request of the passes under way. -/
structure PassesRequest (mxjob : MXJob) (pods : List Pod) (trace : List Call)
    (request : Request) : Prop where
  counts : ∀ rtype, createCount rtype trace ≤ podsNeeded mxjob pods rtype
  serves : servesReplicas request = true
  creation : ∀ pod, request = .createPod pod → ∃ rtype, IsNewPod mxjob rtype pod ∧
    createCount rtype trace < podsNeeded mxjob pods rtype
  service : ServiceRequested mxjob trace request

theorem reconcileReplica_createsNoService {rtype : MXReplicaType} {rest : Go MXJob}
    (path : (reconcileReplica mxjob pods rtype).Path trace rest) :
    ∀ call ∈ trace, ∀ service, call.request ≠ .createService service := by
  unfold reconcileReplica at path
  split at path
  · obtain ⟨rfl, _⟩ := Program.path_done.mp path
    simp
  · exact reconcilePods_createsNoService path

theorem PassDone.of_samePass {before : MXJob} {rtype : MXReplicaType}
    (done : PassDone mxjob pods rtype trace) (same : SamePass before mxjob) :
    PassDone before pods rtype trace where
  counts := by
    intro other
    rw [done.counts other, same.podsNeeded_eq]
  accepted := done.accepted
  given := by
    have given := done.given
    rwa [GivesReplicas, same.statusOnly.spec_eq] at given

theorem PassRequest.of_samePass {before : MXJob} {rtype : MXReplicaType}
    (asked : PassRequest mxjob pods rtype trace request) (same : SamePass before mxjob) :
    PassRequest before pods rtype trace request where
  counts := by
    intro other
    rw [← same.podsNeeded_eq]
    exact asked.counts other
  serves := asked.serves
  creation := by
    intro pod created
    obtain ⟨isNew, below⟩ := asked.creation pod created
    refine ⟨isNew.of_meta same.statusOnly.meta_eq.symm, ?_⟩
    rwa [← same.podsNeeded_eq]

/-- The clock readings of the three passes, by type. -/
def readingOf (scheduler server worker : Nat → Time) : MXReplicaType → Nat → Time
  | .scheduler => scheduler
  | .server => server
  | .worker => worker

/-- The three passes return the pure outcome. -/
theorem reconcileReplicas_returns (returned : (reconcileReplicas mxjob pods).Returns trace after) :
    ∃ now, after = replicaPasses now mxjob pods ∧ PassesDone mxjob pods trace := by
  simp only [reconcileReplicas, Program.returns_bind] at returned
  obtain ⟨_, front, _, rfl, first, _, middle, back, rfl, second, third⟩ := returned
  have secondQuiet := reconcileReplica_createsNoService second
  have thirdQuiet := reconcileReplica_createsNoService third
  obtain ⟨schedulerNow, rfl, schedulerDone, service⟩ := reconcileScheduler_returns first
  obtain ⟨serverNow, rfl, serverPass⟩ := reconcileReplica_returns second
  obtain ⟨workerNow, rfl, workerPass⟩ := reconcileReplica_returns third
  have serverDone : PassDone mxjob pods .server middle := serverPass.of_samePass passFor_samePass
  have workerDone : PassDone mxjob pods .worker back :=
    workerPass.of_samePass (passFor_samePass.trans passFor_samePass)
  refine ⟨readingOf schedulerNow serverNow workerNow, rfl, ?_, ?_, ?_, ?_⟩
  · intro rtype
    rw [createCount_append, createCount_append, schedulerDone.counts, serverDone.counts,
      workerDone.counts]
    cases rtype <;> simp
  · intro call member
    rcases List.mem_append.mp member with earlier | later
    · exact schedulerDone.accepted call earlier
    · rcases List.mem_append.mp later with earlier | later
      · exact serverDone.accepted call earlier
      · exact workerDone.accepted call later
  · intro rtype
    cases rtype
    · exact schedulerDone.given
    · exact serverDone.given
    · exact workerDone.given
  · intro spec present
    refine (service spec present).mono (List.subset_append_left front _) ?_
    intro call member
    rcases List.mem_append.mp member with earlier | later
    · exact Or.inl earlier
    · rcases List.mem_append.mp later with earlier | later
      · exact Or.inr (secondQuiet call earlier)
      · exact Or.inr (thirdQuiet call later)

/-- A request of the server or worker pass, seen from the start of the passes. -/
theorem PassRequest.append_left {rtype : MXReplicaType} {front back : List Call}
    (asked : PassRequest mxjob pods rtype back request)
    (noService : ∀ service, request ≠ .createService service)
    (counted : ∀ other, other ≠ rtype → createCount other front ≤ podsNeeded mxjob pods other)
    (fresh : createCount rtype front = 0) : PassesRequest mxjob pods (front ++ back) request where
  counts := by
    intro other
    have bound := asked.counts other
    rw [createCount_append]
    by_cases same : other = rtype
    · subst same
      rw [if_pos rfl] at bound
      omega
    · rw [if_neg same] at bound
      have earlier := counted other same
      omega
  serves := asked.serves
  creation := by
    intro pod created
    obtain ⟨isNew, below⟩ := asked.creation pod created
    refine ⟨rtype, isNew, ?_⟩
    rw [createCount_append, fresh, Nat.zero_add]
    exact below
  service := fun service created => absurd created (noService service)

theorem reconcileReplicas_issues (issued : (reconcileReplicas mxjob pods).Issues trace request) :
    PassesRequest mxjob pods trace request := by
  simp only [reconcileReplicas, Program.issues_bind] at issued
  rcases issued with first | ⟨_, front, _, rfl, first, second |
    ⟨_, middle, back, rfl, second, third⟩⟩
  · obtain ⟨asked, service⟩ := reconcileScheduler_issues first
    refine ⟨fun rtype => ?_, asked.serves, fun pod created => ⟨_, asked.creation pod created⟩,
      service⟩
    refine Nat.le_trans (asked.counts rtype) ?_
    split
    · rename_i same
      rw [same]
    · exact Nat.zero_le _
  · obtain ⟨_, rfl, schedulerDone, _⟩ := reconcileScheduler_returns first
    have asked := (reconcileReplica_issues second).of_samePass passFor_samePass
    obtain ⟨next, path⟩ := second
    refine asked.append_left ?_ ?_ ?_
    · rintro service rfl
      exact absurd rfl (reconcileReplica_createsNoService (path.snoc none) _
        (List.mem_append_right _ (List.mem_singleton.mpr rfl)) service)
    · intro other _
      rw [schedulerDone.counts other]
      split
      · rename_i same
        rw [same]
      · exact Nat.zero_le _
    · rw [schedulerDone.counts, if_neg (by decide)]
  · obtain ⟨_, rfl, schedulerDone, _⟩ := reconcileScheduler_returns first
    obtain ⟨_, rfl, serverPass⟩ := reconcileReplica_returns second
    have serverDone : PassDone mxjob pods .server middle :=
      serverPass.of_samePass passFor_samePass
    have asked := (reconcileReplica_issues third).of_samePass
      (passFor_samePass.trans passFor_samePass)
    obtain ⟨next, path⟩ := third
    rw [← List.append_assoc]
    refine asked.append_left ?_ ?_ ?_
    · rintro service rfl
      exact absurd rfl (reconcileReplica_createsNoService (path.snoc none) _
        (List.mem_append_right _ (List.mem_singleton.mpr rfl)) service)
    · intro other notWorker
      rw [createCount_append, schedulerDone.counts other, serverDone.counts other]
      cases other <;> simp at notWorker ⊢
    · rw [createCount_append, schedulerDone.counts, serverDone.counts, if_neg (by decide),
        if_neg (by decide)]

end Passes

/-! ### Early ends -/

section Aborts

variable {mxjob before : MXJob} {pods : List Pod} {rtype : MXReplicaType} {trace : List Call}
  {reason : Abort}

/-- A pass dereferences nil: the replica count is missing, or a pod is needed
and its template or environment is. -/
def MissingInput (mxjob : MXJob) (pods : List Pod) (rtype : MXReplicaType) : Prop :=
  ∃ spec, mxjob.spec.mxReplicaSpecs.get rtype = some spec ∧
    (spec.replicas = none ∨ (0 < podsNeeded mxjob pods rtype ∧
      (spec.template = none ∨ genMXConfigEnv mxjob rtype = none)))

/-- Something outside the code stood in the way: a failed call, a live read that
forbids adoption, or a job name that is no label value. -/
def Hindered (mxjob : MXJob) (trace : List Call) : Prop :=
  (∃ call ∈ trace, failedCall call = true ∨ recheckRefused mxjob call = true) ∨
    ∀ selector, labelSelectorAsSelector (genLabels mxjob none) ≠ .ok selector

theorem Hindered.mono {larger : List Call} (hindered : Hindered mxjob trace)
    (included : trace ⊆ larger) : Hindered mxjob larger := by
  rcases hindered with ⟨call, member, cause⟩ | invalid
  · exact Or.inl ⟨call, included member, cause⟩
  · exact Or.inr invalid

theorem Hindered.of_statusOnly (hindered : Hindered mxjob trace)
    (same : StatusOnly before mxjob) : Hindered before trace := by
  rw [same] at hindered
  exact hindered

theorem MissingInput.of_samePass (missing : MissingInput mxjob pods rtype)
    (same : SamePass before mxjob) : MissingInput before pods rtype := by
  obtain ⟨spec, present, cause⟩ := missing
  have sameEnv : genMXConfigEnv mxjob rtype = genMXConfigEnv before rtype := by
    rw [same.statusOnly]
    rfl
  rw [same.podsNeeded_eq, sameEnv] at cause
  rw [same.statusOnly.spec_eq] at present
  exact ⟨spec, present, cause⟩

theorem reconcilePods_hindered {spec : MXReplicaSpec}
    (present : mxjob.spec.mxReplicaSpecs.get rtype = some spec)
    (aborted : (reconcilePods mxjob pods rtype spec).Aborts trace reason) :
    (reason = .panicked ∧ MissingInput mxjob pods rtype) ∨ Hindered mxjob trace := by
  rcases reconcilePods_aborts aborted with ⟨panicked, missing⟩ |
    ⟨replicas, given, panicked, busy, missing⟩ | ⟨call, member, failed⟩
  · exact Or.inl ⟨panicked, spec, present, Or.inl missing⟩
  · refine Or.inl ⟨panicked, spec, present, Or.inr ⟨?_, missing⟩⟩
    rw [podsNeeded, replicasOf_eq_some present given]
    exact busy
  · exact Or.inr (Or.inl ⟨call, member, Or.inl failed⟩)

theorem reconcileReplica_hindered
    (aborted : (reconcileReplica mxjob pods rtype).Aborts trace reason) :
    (reason = .panicked ∧ MissingInput mxjob pods rtype) ∨ Hindered mxjob trace := by
  unfold reconcileReplica at aborted
  split at aborted
  · exact absurd aborted Program.aborts_pure
  · rename_i spec present
    exact reconcilePods_hindered present aborted

theorem claimListed_hindered {Obj : Type} {kind : ClaimKind} {objectOf : Obj → ObjectMeta}
    {request : Request} {listing : request.Reply → Except ApiError (List Obj)}
    (failing : ∀ reply error, listing reply = .error error → failedCall ⟨request, reply⟩ = true)
    (aborted : (claimListed mxjob request listing (claimMatching kind objectOf)).Aborts trace
      reason) : Hindered mxjob trace := by
  rcases claimListed_aborts aborted with invalid | ⟨reply, error, member, failed⟩ | cause
  · exact Or.inr invalid
  · exact Or.inl ⟨_, member, Or.inl (failing reply error failed)⟩
  · exact Or.inl cause

theorem getPodsForMXJob_hindered (aborted : (getPodsForMXJob mxjob).Aborts trace reason) :
    Hindered mxjob trace := by
  refine claimListed_hindered (fun reply error failed => ?_) aborted
  cases failed
  rfl

theorem getServicesForMXJob_hindered (aborted : (getServicesForMXJob mxjob).Aborts trace reason) :
    Hindered mxjob trace := by
  refine claimListed_hindered (fun reply error failed => ?_) aborted
  cases failed
  rfl

theorem reconcileScheduler_hindered
    (aborted : (reconcileScheduler mxjob pods).Aborts trace reason) :
    (reason = .panicked ∧ MissingInput mxjob pods .scheduler) ∨ Hindered mxjob trace := by
  unfold reconcileScheduler at aborted
  split at aborted
  · exact absurd aborted Program.aborts_pure
  · rename_i spec present
    have own : mxjob.spec.mxReplicaSpecs.get .scheduler = some spec := present
    simp only [Program.aborts_bind, Program.aborts_pure, and_false, exists_false,
      or_false] at aborted
    rcases aborted with creating | ⟨_, front, _, rfl, passed, later⟩
    · exact reconcilePods_hindered own creating
    · right
      obtain ⟨now, rfl, _⟩ := reconcilePods_pass own passed
      rcases later with looking | ⟨services, listing, tail, rfl, _, serving⟩
      · have hindered := (getServicesForMXJob_hindered looking).of_statusOnly
          passFor_samePass.statusOnly
        exact hindered.mono (List.subset_append_right front _)
      · obtain ⟨call, member, failed⟩ := reconcileServices_aborts serving
        exact Or.inl ⟨call, by simp [member], Or.inl failed⟩

/-- The passes end early on missing input or when hindered. -/
theorem reconcileReplicas_aborts (aborted : (reconcileReplicas mxjob pods).Aborts trace reason) :
    (reason = .panicked ∧ ∃ rtype, MissingInput mxjob pods rtype) ∨ Hindered mxjob trace := by
  simp only [reconcileReplicas, Program.aborts_bind] at aborted
  rcases aborted with first | ⟨_, front, _, rfl, first, second |
    ⟨_, middle, back, rfl, second, third⟩⟩
  · rcases reconcileScheduler_hindered first with ⟨panicked, missing⟩ | hindered
    · exact Or.inl ⟨panicked, _, missing⟩
    · exact Or.inr hindered
  · obtain ⟨_, rfl, _, _⟩ := reconcileScheduler_returns first
    rcases reconcileReplica_hindered second with ⟨panicked, missing⟩ | hindered
    · exact Or.inl ⟨panicked, _, missing.of_samePass passFor_samePass⟩
    · exact Or.inr ((hindered.of_statusOnly passFor_samePass.statusOnly).mono
        (List.subset_append_right front _))
  · obtain ⟨_, rfl, _, _⟩ := reconcileScheduler_returns first
    obtain ⟨_, rfl, _⟩ := reconcileReplica_returns second
    rcases reconcileReplica_hindered third with ⟨panicked, missing⟩ | hindered
    · exact Or.inl ⟨panicked, _, missing.of_samePass (passFor_samePass.trans passFor_samePass)⟩
    · refine Or.inr ((hindered.of_statusOnly
        (passFor_samePass.trans passFor_samePass).statusOnly).mono ?_)
      exact List.subset_append_of_subset_right front (List.subset_append_right middle back)

end Aborts

end MXNetOperator.Mx
