import MXNetOperator.Mx.Sync

/-!
Contract: the API server as one job and its operator see it.

Owns the stored objects (`World`), the ways in which a call can turn out
(`Outcome`), the answer to each request (`serve`) and what everybody else may
do to the objects (`Move`).

Assumptions on the server, all visible in `serve`:
- a list or a get is live and complete;
- a create, patch, delete or update is atomic; a failing call may or may not
  have taken effect;
- an update is rejected when its resource version is not the current one;
- a patch is rejected when the uid does not match, or when it would add a
  second controller; a create is rejected when the name is taken.

The world holds one job.  Another job created later under the same name is not
represented; to this operator run it would be a different job.
-/

namespace MXNetOperator.Cluster

open MXNetOperator.Kube MXNetOperator.Api MXNetOperator.Interaction MXNetOperator.Mx

/-- Everything outside the memory of a single goroutine.  `job` is the version
stored last, `older` the versions before it, newest first; `inFlight` are the
keys executing in `finalizerGroup`. -/
structure World where
  job : MXJob
  older : List MXJob
  present : Bool
  pods : List Pod
  services : List Service
  nextUID : UID
  inFlight : List String

/-- All versions ever stored, newest first. -/
def World.versions (world : World) : List MXJob :=
  world.job :: world.older

/-- How one call turns out. -/
structure Outcome where
  /-- The error the caller gets, whatever the server did. -/
  failure : Option ApiError
  /-- Whether a failing write took effect all the same. -/
  applied : Bool
  /-- Whether a deleted pod disappears at once instead of terminating. -/
  removes : Bool
  /-- The name the server generates. -/
  name : String
  clock : Nat → Time
  podOrder : (pods : List Pod) → { order : List Pod // order.Perm pods }
  envOrder : (entries : List EnvVar) → Nat → { order : List EnvVar // order.Perm entries }

def notFoundError : ApiError := ⟨.notFound, "not found"⟩
def conflictError : ApiError := ⟨.conflict, "the object has been modified"⟩
def invalidError : ApiError := ⟨.invalid, "invalid"⟩
def alreadyExistsError : ApiError := ⟨.alreadyExists, "already exists"⟩

/-- A read, unless the call fails. -/
def Outcome.read {α : Type} (outcome : Outcome) (value : Except ApiError α) :
    Except ApiError α :=
  match outcome.failure with
  | some error => .error error
  | none => value

/-- A write that the server rejects or carries out. -/
def Outcome.write (outcome : Outcome) (rejection : Option ApiError) (world effect : World) :
    Option ApiError × World :=
  match rejection, outcome.failure with
  | some rejected, failure => (some (failure.getD rejected), world)
  | none, none => (none, effect)
  | none, some error => (some error, if outcome.applied then effect else world)

/-! ### Objects -/

def applyPatch : OwnerPatch → List OwnerReference → List OwnerReference
  | .adopt reference _, references =>
      references.filter (fun other => other.uid != reference.uid) ++ [reference]
  | .release owner _, references => references.filter fun other => other.uid != owner

def patchUID : OwnerPatch → UID
  | .adopt _ uid => uid
  | .release _ uid => uid

/-- Whether the server refuses the patch for this object. -/
def patchRejection (patch : OwnerPatch) (object : Option ObjectMeta) : Option ApiError :=
  match object with
  | none => some notFoundError
  | some object =>
      if object.uid ≠ patchUID patch then
        some conflictError
      else
        match patch with
        | .release _ _ => none
        | .adopt reference _ =>
            if object.ownerReferences.any fun other =>
                other.controller == some true && other.uid != reference.uid then
              some invalidError
            else
              none

/-- The patch applied to the object of this name. -/
def patchMeta (name : String) (patch : OwnerPatch) (object : ObjectMeta) : ObjectMeta :=
  if object.name = name then
    { object with ownerReferences := applyPatch patch object.ownerReferences }
  else
    object

def patchPodMeta (name : String) (patch : OwnerPatch) (pod : Pod) : Pod :=
  { pod with toObjectMeta := patchMeta name patch pod.toObjectMeta }

def patchServiceMeta (name : String) (patch : OwnerPatch) (service : Service) : Service :=
  { service with toObjectMeta := patchMeta name patch service.toObjectMeta }

/-- A pod as the server stores it. -/
def createdPod (ns name : String) (uid : UID) (pod : PodRequest) : Pod where
  name := name
  ns := ns
  uid := uid
  labels := pod.labels
  ownerReferences := pod.ownerReferences
  deletionTimestamp := none
  containers := pod.containers
  phase := .pending

def createdService (ns : String) (uid : UID) (service : ServiceRequest) : Service where
  name := service.name
  ns := ns
  uid := uid
  labels := service.labels
  ownerReferences := service.ownerReferences
  deletionTimestamp := none
  selector := service.selector
  ports := service.ports

/-- Graceful deletion: the pod stays, marked. -/
def terminated (time : Time) (pod : Pod) : Pod :=
  { pod with deletionTimestamp := some (pod.deletionTimestamp.getD time) }

/-! ### Storing the job -/

/-- Store a new version.  The server owns the resource version and the deletion
timestamp; a job pending deletion goes away with its last finalizer. -/
def World.store (world : World) (mxjob : MXJob) : World :=
  { world with
    job := { mxjob with
      resourceVersion := world.job.resourceVersion + 1
      deletionTimestamp := world.job.deletionTimestamp }
    older := world.job :: world.older
    present := !(world.job.deletionTimestamp.isSome && mxjob.finalizers.isEmpty) }

def World.updateRejection (world : World) (mxjob : MXJob) : Option ApiError :=
  if world.present = false then
    some notFoundError
  else if mxjob.resourceVersion ≠ world.job.resourceVersion then
    some conflictError
  else
    none

def World.addPod (world : World) (pod : Pod) : World :=
  { world with pods := world.pods ++ [pod], nextUID := world.nextUID + 1 }

def World.addService (world : World) (service : Service) : World :=
  { world with services := world.services ++ [service], nextUID := world.nextUID + 1 }

def World.findPod (world : World) (name : String) : Option Pod :=
  world.pods.find? fun pod => pod.name == name

def World.findService (world : World) (name : String) : Option Service :=
  world.services.find? fun service => service.name == name

/-- Delete the pod of this name. -/
def World.deletePod (world : World) (outcome : Outcome) (name : String) : World :=
  if outcome.removes then
    { world with pods := world.pods.filter fun pod => pod.name != name }
  else
    { world with pods := world.pods.map fun pod =>
        if pod.name = name then terminated (outcome.clock 0) pod else pod }

/-! ### Answers -/

/-- The answer to a request and the world it leaves behind. -/
def serve (outcome : Outcome) : (request : Request) → World → request.Reply × World
  | .now, world => (outcome.clock, world)
  | .listPods, world => (outcome.read (.ok world.pods), world)
  | .listServices, world => (outcome.read (.ok world.services), world)
  | .getMXJob name, world =>
      (outcome.read (if world.present ∧ world.job.name = name then .ok world.job
        else .error notFoundError), world)
  | .patchPod name patch, world =>
      outcome.write (patchRejection patch ((world.findPod name).map Pod.toObjectMeta)) world
        { world with pods := world.pods.map (patchPodMeta name patch) }
  | .patchService name patch, world =>
      outcome.write
        (patchRejection patch ((world.findService name).map Service.toObjectMeta)) world
        { world with services := world.services.map (patchServiceMeta name patch) }
  | .createPod pod, world =>
      outcome.write (if (world.findPod outcome.name).isSome then some alreadyExistsError else none)
        world (world.addPod (createdPod world.job.ns outcome.name world.nextUID pod))
  | .createService service, world =>
      outcome.write
        (if (world.findService service.name).isSome then some alreadyExistsError else none)
        world (world.addService (createdService world.job.ns world.nextUID service))
  | .deletePod name, world =>
      outcome.write (if (world.findPod name).isSome then none else some notFoundError)
        world (world.deletePod outcome name)
  | .updateMXJob mxjob, world =>
      outcome.write (world.updateRejection mxjob) world (world.store mxjob)
  | .callHookAsync _ _, world => ((), world)
  | .awaitHook, world => ((), world)
  | .spawnFinalizer _ _, world => ((), world)
  | .enterGroup key, world =>
      if key ∈ world.inFlight then (false, world)
      else (true, { world with inFlight := key :: world.inFlight })
  | .leaveGroup key, world => ((), { world with inFlight := world.inFlight.erase key })
  | .schedule pods, world => (outcome.podOrder pods, world)
  | .rangeMap entries, world => (outcome.envOrder entries, world)

/-! ### Everybody else -/

/-- What users, the kubelet and other controllers may do to the objects. -/
inductive Move where
  | podPhase (uid : UID) (phase : PodPhase)
  | podDelete (uid : UID) (time : Time)
  | podRemove (uid : UID)
  | podRelabel (uid : UID) (labels : Labels)
  | podCreate (pod : Pod)
  | serviceCreate (service : Service)
  | serviceRemove (uid : UID)
  | serviceRelabel (uid : UID) (labels : Labels)
  | editSpec (spec : MXJobSpec)
  | editFinalizers (finalizers : List String)
  | deleteJob (time : Time)

/-- Change the pod with this uid. -/
def World.editPod (world : World) (uid : UID) (edit : Pod → Pod) : World :=
  { world with pods := world.pods.map fun pod => if pod.uid = uid then edit pod else pod }

def World.move (world : World) : Move → World
  | .podPhase uid phase => world.editPod uid fun pod => { pod with phase := phase }
  | .podDelete uid time => world.editPod uid (terminated time)
  | .podRemove uid => { world with pods := world.pods.filter fun pod => pod.uid != uid }
  | .podRelabel uid labels => world.editPod uid fun pod => { pod with labels := labels }
  | .podCreate pod =>
      if (world.findPod pod.name).isSome then world
      else world.addPod { pod with uid := world.nextUID }
  | .serviceCreate service =>
      if (world.findService service.name).isSome then world
      else world.addService { service with uid := world.nextUID }
  | .serviceRemove uid =>
      { world with services := world.services.filter fun service => service.uid != uid }
  | .serviceRelabel uid labels =>
      { world with services := world.services.map fun service =>
          if service.uid = uid then { service with labels := labels } else service }
  | .editSpec spec => if world.present then world.store { world.job with spec := spec } else world
  | .editFinalizers finalizers =>
      -- no finalizer can be added to a job pending deletion
      if world.present ∧
          (world.job.deletionTimestamp = none ∨ finalizers ⊆ world.job.finalizers) then
        world.store { world.job with finalizers := finalizers }
      else
        world
  | .deleteJob time =>
      if world.present = false ∨ world.job.deletionTimestamp.isSome then
        world
      else if world.job.finalizers.isEmpty then
        { world with present := false }
      else
        { world with
          job := { world.job with
            resourceVersion := world.job.resourceVersion + 1
            deletionTimestamp := some time }
          older := world.job :: world.older }

/-! ### What a call can do to the objects and to the job -/

section Effects

variable {outcome : Outcome} {request : Request} {world after : World}

/-- A write is carried out or leaves the world alone; without an error it was
carried out. -/
theorem write_cases (outcome : Outcome) (rejection : Option ApiError) (world effect : World) :
    (outcome.write rejection world effect).2 = world ∧
        (outcome.write rejection world effect).1 ≠ none ∨
      rejection = none ∧ (outcome.write rejection world effect).2 = effect := by
  unfold Outcome.write
  cases rejection with
  | some rejected => simp
  | none =>
      cases outcome.failure with
      | none => simp
      | some error => cases outcome.applied <;> simp

/-- What one answer can do to the pods. -/
inductive PodEffect (outcome : Outcome) (world : World) : Request → World → Prop where
  | untouched {request : Request} {after : World} (pods : after.pods = world.pods)
      (uids : world.nextUID ≤ after.nextUID) : PodEffect outcome world request after
  | patched (name : String) (patch : OwnerPatch) (pod : Pod)
      (found : world.findPod name = some pod) (sameUid : pod.uid = patchUID patch)
      (accepted : patchRejection patch (some pod.toObjectMeta) = none) :
      PodEffect outcome world (.patchPod name patch)
        { world with pods := world.pods.map (patchPodMeta name patch) }
  | created (pod : PodRequest) (free : world.findPod outcome.name = none) :
      PodEffect outcome world (.createPod pod)
        (world.addPod (createdPod world.job.ns outcome.name world.nextUID pod))
  | deleted (name : String) : PodEffect outcome world (.deletePod name)
      (world.deletePod outcome name)

theorem PodEffect.of_eq (same : after = world) : PodEffect outcome world request after := by
  subst same
  exact .untouched rfl (Nat.le_refl _)

theorem patchRejection_eq_none {patch : OwnerPatch} {object : Option ObjectMeta}
    (accepted : patchRejection patch object = none) :
    ∃ found, object = some found ∧ found.uid = patchUID patch := by
  cases object with
  | none => cases accepted
  | some found =>
      refine ⟨found, rfl, ?_⟩
      by_contra other
      simp [patchRejection, other] at accepted

/-- Entering the finalizer group touches no object. -/
theorem serve_enterGroup (outcome : Outcome) (world : World) (key : String) : ∃ keys,
    (serve outcome (.enterGroup key) world).2 = { world with inFlight := keys } := by
  by_cases busy : key ∈ world.inFlight
  · exact ⟨world.inFlight, by simp [serve, busy]⟩
  · exact ⟨key :: world.inFlight, by simp [serve, busy]⟩

theorem serve_pods (outcome : Outcome) (request : Request) (world : World) :
    PodEffect outcome world request (serve outcome request world).2 := by
  have kept : ∀ {rejection : Option ApiError} {effect : World}, effect.pods = world.pods →
      world.nextUID ≤ effect.nextUID →
      PodEffect outcome world request (outcome.write rejection world effect).2 := by
    intro rejection effect pods uids
    rcases write_cases outcome rejection world effect with ⟨same, _⟩ | ⟨_, same⟩
    · exact .of_eq same
    · rw [same]
      exact .untouched pods uids
  cases request with
  | patchPod name patch =>
      rcases write_cases outcome (patchRejection patch ((world.findPod name).map Pod.toObjectMeta))
        world { world with pods := world.pods.map (patchPodMeta name patch) } with
        ⟨same, _⟩ | ⟨accepted, effect⟩
      · exact .of_eq same
      · obtain ⟨object, found, sameUid⟩ := patchRejection_eq_none accepted
        obtain ⟨pod, foundPod, rfl⟩ := Option.map_eq_some_iff.mp found
        rw [found] at accepted
        change PodEffect outcome world _ (Outcome.write _ _ _ _).2
        rw [effect]
        exact .patched name patch pod foundPod sameUid accepted
  | createPod pod =>
      rcases write_cases outcome
        (if (world.findPod outcome.name).isSome then some alreadyExistsError else none) world
        (world.addPod (createdPod world.job.ns outcome.name world.nextUID pod)) with
        ⟨same, _⟩ | ⟨accepted, effect⟩
      · exact .of_eq same
      · change PodEffect outcome world _ (Outcome.write _ _ _ _).2
        rw [effect]
        exact .created pod (by simpa using accepted)
  | deletePod name =>
      rcases write_cases outcome
        (if (world.findPod name).isSome then none else some notFoundError) world
        (world.deletePod outcome name) with ⟨same, _⟩ | ⟨_, effect⟩
      · exact .of_eq same
      · change PodEffect outcome world _ (Outcome.write _ _ _ _).2
        rw [effect]
        exact .deleted name
  | patchService name patch => exact kept rfl (Nat.le_refl _)
  | createService service => exact kept rfl (Nat.le_succ _)
  | updateMXJob mxjob => exact kept rfl (Nat.le_refl _)
  | enterGroup key =>
      obtain ⟨keys, same⟩ := serve_enterGroup outcome world key
      rw [same]
      exact .untouched rfl (Nat.le_refl _)
  | leaveGroup key => exact .untouched rfl (Nat.le_refl _)
  | _ => exact .of_eq rfl

/-- What one answer can do to the services. -/
inductive ServiceEffect (world : World) : Request → World → Prop where
  | untouched {request : Request} {after : World} (services : after.services = world.services)
      (uids : world.nextUID ≤ after.nextUID) : ServiceEffect world request after
  | patched (name : String) (patch : OwnerPatch) (service : Service)
      (found : world.findService name = some service) (sameUid : service.uid = patchUID patch)
      (accepted : patchRejection patch (some service.toObjectMeta) = none) :
      ServiceEffect world (.patchService name patch)
        { world with services := world.services.map (patchServiceMeta name patch) }
  | created (service : ServiceRequest) (free : world.findService service.name = none) :
      ServiceEffect world (.createService service)
        (world.addService (createdService world.job.ns world.nextUID service))

theorem ServiceEffect.of_eq (same : after = world) : ServiceEffect world request after := by
  subst same
  exact .untouched rfl (Nat.le_refl _)

theorem serve_services (outcome : Outcome) (request : Request) (world : World) :
    ServiceEffect world request (serve outcome request world).2 := by
  have kept : ∀ {rejection : Option ApiError} {effect : World},
      effect.services = world.services → world.nextUID ≤ effect.nextUID →
      ServiceEffect world request (outcome.write rejection world effect).2 := by
    intro rejection effect services uids
    rcases write_cases outcome rejection world effect with ⟨same, _⟩ | ⟨_, same⟩
    · exact .of_eq same
    · rw [same]
      exact .untouched services uids
  cases request with
  | patchService name patch =>
      rcases write_cases outcome
        (patchRejection patch ((world.findService name).map Service.toObjectMeta)) world
        { world with services := world.services.map (patchServiceMeta name patch) } with
        ⟨same, _⟩ | ⟨accepted, effect⟩
      · exact .of_eq same
      · obtain ⟨object, found, sameUid⟩ := patchRejection_eq_none accepted
        obtain ⟨service, isFound, rfl⟩ := Option.map_eq_some_iff.mp found
        rw [found] at accepted
        change ServiceEffect world _ (Outcome.write _ _ _ _).2
        rw [effect]
        exact .patched name patch service isFound sameUid accepted
  | createService service =>
      rcases write_cases outcome
        (if (world.findService service.name).isSome then some alreadyExistsError else none) world
        (world.addService (createdService world.job.ns world.nextUID service)) with
        ⟨same, _⟩ | ⟨accepted, effect⟩
      · exact .of_eq same
      · change ServiceEffect world _ (Outcome.write _ _ _ _).2
        rw [effect]
        exact .created service (by simpa using accepted)
  | patchPod name patch => exact kept rfl (Nat.le_refl _)
  | createPod pod => exact kept rfl (Nat.le_succ _)
  | deletePod name =>
      refine kept ?_ ?_ <;>
        · unfold World.deletePod
          split <;> rfl
  | updateMXJob mxjob => exact kept rfl (Nat.le_refl _)
  | enterGroup key =>
      obtain ⟨keys, same⟩ := serve_enterGroup outcome world key
      rw [same]
      exact .untouched rfl (Nat.le_refl _)
  | leaveGroup key => exact .untouched rfl (Nat.le_refl _)
  | _ => exact .of_eq rfl

/-- What one answer can do to the stored job. -/
inductive JobEffect (world : World) : Request → World → Prop where
  | untouched {request : Request} {after : World} (job : after.job = world.job)
      (older : after.older = world.older) (present : after.present = world.present) :
      JobEffect world request after
  | stored (mxjob : MXJob) (present : world.present = true)
      (current : mxjob.resourceVersion = world.job.resourceVersion) :
      JobEffect world (.updateMXJob mxjob) (world.store mxjob)

theorem JobEffect.of_eq (same : after = world) : JobEffect world request after := by
  subst same
  exact .untouched rfl rfl rfl

theorem serve_job (outcome : Outcome) (request : Request) (world : World) :
    JobEffect world request (serve outcome request world).2 := by
  have kept : ∀ {rejection : Option ApiError} {effect : World}, effect.job = world.job →
      effect.older = world.older → effect.present = world.present →
      JobEffect world request (outcome.write rejection world effect).2 := by
    intro rejection effect job older present
    rcases write_cases outcome rejection world effect with ⟨same, _⟩ | ⟨_, same⟩
    · exact .of_eq same
    · rw [same]
      exact .untouched job older present
  cases request with
  | patchPod name patch => exact kept rfl rfl rfl
  | patchService name patch => exact kept rfl rfl rfl
  | createPod pod => exact kept rfl rfl rfl
  | createService service => exact kept rfl rfl rfl
  | deletePod name =>
      refine kept ?_ ?_ ?_ <;>
        · unfold World.deletePod
          split <;> rfl
  | updateMXJob mxjob =>
      rcases write_cases outcome (world.updateRejection mxjob) world (world.store mxjob) with
        ⟨same, _⟩ | ⟨accepted, effect⟩
      · exact .of_eq same
      · change JobEffect world _ (Outcome.write _ _ _ _).2
        rw [effect]
        unfold World.updateRejection at accepted
        split at accepted
        · cases accepted
        · rename_i present
          split at accepted
          · cases accepted
          · rename_i current
            exact .stored mxjob (by simpa using present) (by simpa using current)
  | enterGroup key =>
      obtain ⟨keys, same⟩ := serve_enterGroup outcome world key
      rw [same]
      exact .untouched rfl rfl rfl
  | leaveGroup key => exact .untouched rfl rfl rfl
  | _ => exact .of_eq rfl

/-! ### Replies -/

theorem serve_listPods {listed : List Pod}
    (reply : (serve outcome .listPods world).1 = .ok listed) : listed = world.pods := by
  change outcome.read (.ok world.pods) = _ at reply
  unfold Outcome.read at reply
  split at reply
  · cases reply
  · cases reply
    rfl

/-- A deletion without error was carried out. -/
theorem serve_deletePod {name : String}
    (accepted : (serve outcome (.deletePod name) world).1 = none) :
    (serve outcome (.deletePod name) world).2 = world.deletePod outcome name := by
  rcases write_cases outcome (if (world.findPod name).isSome then none else some notFoundError)
    world (world.deletePod outcome name) with ⟨_, failed⟩ | ⟨_, effect⟩
  · exact absurd accepted failed
  · exact effect

/-- So was an update of the job. -/
theorem serve_updateMXJob {mxjob : MXJob}
    (accepted : (serve outcome (.updateMXJob mxjob) world).1 = none) :
    (serve outcome (.updateMXJob mxjob) world).2 = world.store mxjob := by
  rcases write_cases outcome (world.updateRejection mxjob) world (world.store mxjob) with
    ⟨_, failed⟩ | ⟨_, effect⟩
  · exact absurd accepted failed
  · exact effect

theorem serve_createService {service : ServiceRequest}
    (accepted : (serve outcome (.createService service) world).1 = none) :
    (serve outcome (.createService service) world).2 =
      world.addService (createdService world.job.ns world.nextUID service) := by
  rcases write_cases outcome
    (if (world.findService service.name).isSome then some alreadyExistsError else none) world
    (world.addService (createdService world.job.ns world.nextUID service)) with
    ⟨_, failed⟩ | ⟨_, effect⟩
  · exact absurd accepted failed
  · exact effect

/-- A patch answered without error was applied to a pod it fits. -/
theorem serve_patchPod {name : String} {patch : OwnerPatch}
    (applied : (serve outcome (.patchPod name patch) world).1 = none) :
    ∃ pod ∈ world.pods, pod.name = name ∧ pod.uid = patchUID patch ∧
      patchRejection patch (some pod.toObjectMeta) = none ∧
      (serve outcome (.patchPod name patch) world).2.pods =
        world.pods.map (patchPodMeta name patch) := by
  rcases write_cases outcome (patchRejection patch ((world.findPod name).map Pod.toObjectMeta))
    world { world with pods := world.pods.map (patchPodMeta name patch) } with
    ⟨_, refused⟩ | ⟨accepted, effect⟩
  · exact absurd applied refused
  · obtain ⟨object, found, sameUid⟩ := patchRejection_eq_none accepted
    obtain ⟨pod, foundPod, rfl⟩ := Option.map_eq_some_iff.mp found
    rw [found] at accepted
    refine ⟨pod, List.mem_of_find?_eq_some foundPod, ?_, sameUid, accepted, ?_⟩
    · simpa using List.find?_some foundPod
    · change (Outcome.write _ _ _ _).2.pods = _
      rw [effect]

/-- A creation has its effect or leaves the world alone; without an error it had
its effect. -/
theorem serve_createPod (outcome : Outcome) (pod : PodRequest) (world : World) :
    ((serve outcome (.createPod pod) world).2 = world ∧
        (serve outcome (.createPod pod) world).1 ≠ none) ∨
      (serve outcome (.createPod pod) world).2 =
        world.addPod (createdPod world.job.ns outcome.name world.nextUID pod) :=
  (write_cases outcome _ world _).imp_right And.right

end Effects

end MXNetOperator.Cluster
