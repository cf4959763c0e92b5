import MXNetOperator.Cluster.System

/-!
Contract: the pods that `createNewPod` submits.

Two code paths have to agree on each of their parts.  The environment tells a
pod where the scheduler is, and `reconcileServices` puts it there; the labels
are written by `createNewPod` and read back by the job's selector and by
`filterPodsForMXReplicaType`.
-/

namespace MXNetOperator.Property

open MXNetOperator.Kube MXNetOperator.Api MXNetOperator.Interaction MXNetOperator.Mx
  MXNetOperator.Cluster

/-! ### Environment lists -/

/-- The value a container sees under a name: the last entry wins. -/
def effectiveValue (env : List EnvVar) (name : String) : Option String :=
  env.reverse.findSome? fun entry => if entry.name = name then some entry.value else none

section Environment

variable {own added : List EnvVar} {name value : String}

theorem effectiveValue_append :
    effectiveValue (own ++ added) name =
      (effectiveValue added name).or (effectiveValue own name) := by
  simp [effectiveValue, List.findSome?_append]

theorem effectiveValue_eq_none (absent : name ∉ own.map EnvVar.name) :
    effectiveValue own name = none := by
  rw [effectiveValue, List.findSome?_eq_none_iff]
  intro entry member
  have other : entry.name ≠ name := fun same =>
    absent (List.mem_map.mpr ⟨entry, List.mem_reverse.mp member, same⟩)
  simp [other]

theorem effectiveValue_of_mem (unique : (added.map EnvVar.name).Nodup)
    (member : ⟨name, value⟩ ∈ added) : effectiveValue added name = some value := by
  induction added with
  | nil => cases member
  | cons head tail inductionHypothesis =>
      rw [List.map_cons, List.nodup_cons] at unique
      change effectiveValue ([head] ++ tail) name = some value
      rw [effectiveValue_append]
      rcases List.mem_cons.mp member with rfl | later
      · rw [effectiveValue_eq_none unique.1]
        simp [effectiveValue]
      · rw [inductionHypothesis unique.2 later]
        rfl

/-- Whatever the order in which a map is appended to a list of variables, its
entries take effect. -/
theorem effectiveValue_appended {env : Labels} (order : added.Perm (envVars env))
    (present : env.lookup name = some value) : effectiveValue (own ++ added) name = some value := by
  have names : (envVars env).map EnvVar.name = env.keys := by
    simp [envVars, AList.keys, List.keys]
  have unique : (added.map EnvVar.name).Nodup := by
    rw [(order.map EnvVar.name).nodup_iff, names]
    exact env.keys_nodup
  have member : ⟨name, value⟩ ∈ added :=
    order.mem_iff.mpr (List.mem_map.mpr ⟨⟨name, value⟩, AList.mem_lookup_iff.mp present, rfl⟩)
  rw [effectiveValue_append, effectiveValue_of_mem unique member]
  rfl

theorem exists_of_forall₂ {Left Right : Type} {related : Left → Right → Prop} {lefts : List Left}
    {rights : List Right} (pairs : List.Forall₂ related lefts rights) {right : Right}
    (member : right ∈ rights) : ∃ left ∈ lefts, related left right := by
  induction pairs with
  | nil => cases member
  | cons here _ inductionHypothesis =>
      rcases List.mem_cons.mp member with rfl | later
      · exact ⟨_, List.mem_cons_self, here⟩
      · obtain ⟨left, found, holds⟩ := inductionHypothesis later
        exact ⟨left, List.mem_cons_of_mem _ found, holds⟩

end Environment

/-! ### The environment of a new pod -/

section Created

variable {mxjob later : MXJob} {rtype other : MXReplicaType} {spec : MXReplicaSpec}
  {scheduler server worker : MXReplicaSpec} {pod : PodRequest} {trace : List Call}

/-- What the environment map says about the cluster. -/
structure Describes (mxjob : MXJob) (rtype : MXReplicaType) (port servers workers : Int32)
    (env : Labels) : Prop where
  uri : env.lookup "DMLC_PS_ROOT_URI" = some (serviceName mxjob .scheduler)
  port : env.lookup "DMLC_PS_ROOT_PORT" = some (formatInt port)
  servers : env.lookup "DMLC_NUM_SERVER" = some (formatInt servers)
  workers : env.lookup "DMLC_NUM_WORKER" = some (formatInt workers)
  role : env.lookup "DMLC_ROLE" = some rtype.toString

theorem genMXConfigEnv_describes {env : Labels}
    (hasScheduler : mxjob.spec.mxReplicaSpecs.scheduler = some scheduler)
    (hasServer : mxjob.spec.mxReplicaSpecs.server = some server)
    (hasWorker : mxjob.spec.mxReplicaSpecs.worker = some worker)
    (built : genMXConfigEnv mxjob rtype = some env) :
    ∃ servers workers, server.replicas = some servers ∧ worker.replicas = some workers ∧
      Describes mxjob rtype (scheduler.psRootPort.getD defaultPsRootPort) servers workers env := by
  simp only [genMXConfigEnv, hasScheduler, hasServer, hasWorker, Option.bind_eq_bind,
    Option.bind_some, Option.bind_eq_some_iff] at built
  obtain ⟨servers, serversGiven, workers, workersGiven, own, _, built⟩ := built
  refine ⟨servers, workers, serversGiven, workersGiven, ?_⟩
  split at built <;> cases built <;> constructor <;>
    simp only [ne_eq, String.reduceEq, not_false_eq_true, AList.lookup_insert_ne,
      AList.lookup_insert]

/-- The pod `createNewPod` submits, with the order of its environment map. -/
theorem createNewPod_pod (built : (createNewPod mxjob rtype spec).Issues trace (.createPod pod)) :
    ∃ template env order, spec.template = some template ∧ genMXConfigEnv mxjob rtype = some env ∧
      pod = newPod mxjob rtype template (envVars env) order := by
  rw [createNewPod_eq] at built
  simp only [Program.issues_bind, issues_deref, returns_deref, issues_ask, returns_ask,
    Program.issues_pure, and_false, exists_false, or_false, false_or] at built
  obtain ⟨template, _, _, rfl, ⟨rfl, hasTemplate⟩, env, _, _, rfl, ⟨rfl, hasEnv⟩,
    ⟨_, impossible⟩ | ⟨order, _, _, rfl, rfl, _, same⟩⟩ := built
  · cases impossible
  · cases same
    exact ⟨template, env, order, hasTemplate, hasEnv, rfl⟩

/-- What a container of a pod knows about its cluster. -/
structure Agrees (service : ServiceRequest) (servers workers : Int32) (pod : PodRequest)
    (env : List EnvVar) : Prop where
  uri : effectiveValue env "DMLC_PS_ROOT_URI" = some service.name
  port : ∃ port, service.ports.map ServicePort.port = [port] ∧
    effectiveValue env "DMLC_PS_ROOT_PORT" = some (formatInt port)
  servers : effectiveValue env "DMLC_NUM_SERVER" = some (formatInt servers)
  workers : effectiveValue env "DMLC_NUM_WORKER" = some (formatInt workers)
  role : effectiveValue env "DMLC_ROLE" = pod.labels.lookup mxLabelReplicaType

/-- The variables that have the same value in all pods of a job. -/
def clusterVariables : List String :=
  ["DMLC_PS_ROOT_URI", "DMLC_PS_ROOT_PORT", "DMLC_NUM_SERVER", "DMLC_NUM_WORKER"]

theorem Agrees.same_variables {service : ServiceRequest} {servers workers : Int32}
    {left right : PodRequest} {env otherEnv : List EnvVar}
    (first : Agrees service servers workers left env)
    (second : Agrees service servers workers right otherEnv) :
    ∀ name ∈ clusterVariables, effectiveValue env name = effectiveValue otherEnv name := by
  have ports : effectiveValue env "DMLC_PS_ROOT_PORT" =
      effectiveValue otherEnv "DMLC_PS_ROOT_PORT" := by
    obtain ⟨port, only, value⟩ := first.port
    obtain ⟨port', only', value'⟩ := second.port
    rw [only] at only'
    cases only'
    rw [value, value']
  simp only [clusterVariables, List.mem_cons, List.not_mem_nil, or_false]
  rintro name (rfl | rfl | rfl | rfl)
  · rw [first.uri, second.uri]
  · exact ports
  · rw [first.servers, second.servers]
  · rw [first.workers, second.workers]

theorem newPod_agrees {template : PodTemplateSpec} {env : Labels}
    {order : Nat → { order : List EnvVar // order.Perm (envVars env) }} {servers workers : Int32}
    (describes : Describes mxjob rtype (scheduler.psRootPort.getD defaultPsRootPort) servers workers
      env) {index : Nat} {own : Container} :
    Agrees (newService mxjob .scheduler scheduler) servers workers
      (newPod mxjob rtype template (envVars env) order) (own.env ++ (order index).1) where
  uri := effectiveValue_appended (order index).2 describes.uri
  port := ⟨_, rfl, effectiveValue_appended (order index).2 describes.port⟩
  servers := effectiveValue_appended (order index).2 describes.servers
  workers := effectiveValue_appended (order index).2 describes.workers
  role := by
    rw [effectiveValue_appended (order index).2 describes.role]
    have carried := (carriesLabels_iff.mp
      (newPod_isNewPod mxjob rtype template (envVars env) order).labelled).1
    exact (mxReplicaSelector_isMatch.mp carried).symm

/-- Every container of a pod that `createNewPod` builds agrees with the service
that `reconcileServices` creates, and keeps the variables of its template. -/
theorem createNewPod_agrees {services : List Service} {serving : List Call}
    {service : ServiceRequest} (hasScheduler : mxjob.spec.mxReplicaSpecs.scheduler = some scheduler)
    (hasServer : mxjob.spec.mxReplicaSpecs.server = some server)
    (hasWorker : mxjob.spec.mxReplicaSpecs.worker = some worker)
    (served : (reconcileServices mxjob services .scheduler scheduler).Issues serving
      (.createService service))
    (built : (createNewPod mxjob rtype spec).Issues trace (.createPod pod)) :
    ∃ template servers workers, spec.template = some template ∧ server.replicas = some servers ∧
      worker.replicas = some workers ∧
      List.Forall₂ (fun own container => (∃ added, container.env = own.env ++ added) ∧
        Agrees service servers workers pod container.env) template.containers pod.containers := by
  obtain ⟨template, env, order, hasTemplate, hasEnv, rfl⟩ := createNewPod_pod built
  obtain ⟨servers, workers, serversGiven, workersGiven, describes⟩ :=
    genMXConfigEnv_describes hasScheduler hasServer hasWorker hasEnv
  obtain ⟨_, _, same⟩ := reconcileServices_issues served
  cases same
  refine ⟨template, servers, workers, hasTemplate, serversGiven, workersGiven, ?_⟩
  rw [List.forall₂_iff_get]
  refine ⟨by simp [newPod], fun index _ _ => ?_⟩
  simp only [newPod, List.get_eq_getElem, List.getElem_mapIdx]
  exact ⟨⟨_, rfl⟩, newPod_agrees describes⟩

/-- The environment of the pods agrees with the service: in the container of
every new pod the generated variables take effect after the template's own, they
name the service and its port, and all but the role are the same in the pods of
all types; the specification with its templates stays as it was. -/
theorem environment_agreement {otherSpec : MXReplicaSpec} {otherPod : PodRequest}
    {otherTrace : List Call} {services : List Service} {serving : List Call}
    {service : ServiceRequest} (hasScheduler : mxjob.spec.mxReplicaSpecs.scheduler = some scheduler)
    (hasServer : mxjob.spec.mxReplicaSpecs.server = some server)
    (hasWorker : mxjob.spec.mxReplicaSpecs.worker = some worker)
    (served : (reconcileServices mxjob services .scheduler scheduler).Issues serving
      (.createService service))
    (built : (createNewPod mxjob rtype spec).Issues trace (.createPod pod))
    (sameJob : StatusOnly mxjob later)
    (otherBuilt : (createNewPod later other otherSpec).Issues otherTrace (.createPod otherPod)) :
    (∃ template servers workers, spec.template = some template ∧ server.replicas = some servers ∧
      worker.replicas = some workers ∧
      List.Forall₂ (fun own container => (∃ added, container.env = own.env ++ added) ∧
        Agrees service servers workers pod container.env) template.containers pod.containers) ∧
    (∀ container ∈ pod.containers, ∀ otherContainer ∈ otherPod.containers,
      ∀ name ∈ clusterVariables,
        effectiveValue container.env name = effectiveValue otherContainer.env name) ∧
    ∀ passing after, (reconcileMXJobs mxjob).Returns passing after → after.spec = mxjob.spec := by
  have first := createNewPod_agrees hasScheduler hasServer hasWorker served built
  refine ⟨first, ?_, ?_⟩
  · have served' : (reconcileServices later [] .scheduler scheduler).Issues []
        (.createService service) := by
      obtain ⟨rfl, rfl, same⟩ := reconcileServices_issues served
      cases same
      rw [reconcileServices_eq, newService_of_meta sameJob.meta_eq]
      simp [Program.issues_bind]
    obtain ⟨template, servers, workers, _, serversGiven, workersGiven, containers⟩ := first
    obtain ⟨template', servers', workers', _, serversGiven', workersGiven', containers'⟩ :=
      createNewPod_agrees (sameJob.spec_eq ▸ hasScheduler) (sameJob.spec_eq ▸ hasServer)
        (sameJob.spec_eq ▸ hasWorker) served' otherBuilt
    rw [serversGiven] at serversGiven'
    rw [workersGiven] at workersGiven'
    cases serversGiven'
    cases workersGiven'
    intro container member otherContainer otherMember
    obtain ⟨_, _, _, agrees⟩ := exists_of_forall₂ containers member
    obtain ⟨_, _, _, agrees'⟩ := exists_of_forall₂ containers' otherMember
    exact agrees.same_variables agrees'
  · intro passing after returned
    obtain ⟨_, _, conclusion, _⟩ := reconcileMXJobs_returns returned
    exact conclusion.statusOnly.spec_eq

end Created

/-- The pod of `sampleJob` for a type. -/
def sampleRequest (rtype : MXReplicaType) : PodRequest :=
  newPod sampleJob rtype ⟨none, [⟨[]⟩]⟩ (envVars ((genMXConfigEnv sampleJob rtype).getD ∅))
    fun _ => ⟨_, .refl _⟩

theorem sampleRequest_built (rtype : MXReplicaType) : ∃ trace,
    (createNewPod sampleJob rtype (sampleReplica 1)).Issues trace
      (.createPod (sampleRequest rtype)) := by
  have hasEnv : genMXConfigEnv sampleJob rtype = some ((genMXConfigEnv sampleJob rtype).getD ∅) := by
    cases rtype <;> rfl
  exact ⟨_, createNewPod_builds rfl hasEnv fun _ => ⟨_, .refl _⟩⟩

theorem environment_agreement_sampleJob :
    ((sampleRequest .worker).containers.length = 1 ∧
      (sampleRequest .server).containers.length = 1) ∧
    ∀ container ∈ (sampleRequest .worker).containers,
      ∀ otherContainer ∈ (sampleRequest .server).containers, ∀ name ∈ clusterVariables,
        effectiveValue container.env name = effectiveValue otherContainer.env name := by
  obtain ⟨_, worker⟩ := sampleRequest_built .worker
  obtain ⟨_, server⟩ := sampleRequest_built .server
  have served : (reconcileServices sampleJob [] .scheduler (sampleReplica 1)).Issues []
      (.createService (newService sampleJob .scheduler (sampleReplica 1))) := by
    rw [reconcileServices_eq]
    simp [Program.issues_bind]
  exact ⟨⟨rfl, rfl⟩,
    (environment_agreement rfl rfl rfl served worker (StatusOnly.refl sampleJob) server).2.1⟩

section Labelled

variable {mxjob later : MXJob} {rtype : MXReplicaType} {spec : MXReplicaSpec} {pod : PodRequest}
  {trace : List Call}

/-! ### The labels of a new pod -/

/-- A stored pod as the server made it from the request: labels and owner are
copied, the rest is the server's. -/
structure StoredAs (request : PodRequest) (stored : Pod) : Prop where
  labels : stored.labels = request.labels
  owners : stored.ownerReferences = request.ownerReferences

theorem IsNewPod.manages {stored : Pod} (isNew : IsNewPod mxjob rtype pod)
    (copy : StoredAs pod stored) (sameName : later.name = mxjob.name)
    (sameUid : later.uid = mxjob.uid) : manages later stored.toObjectMeta = true := by
  have selected := jobSelector_isMatch.mp (carriesLabels_iff.mp isNew.labelled).2
  have controlled : stored.controlledBy later.uid = true := by
    simp [ObjectMeta.controlledBy, getControllerOf, copy.owners, isNew.owned, newControllerRef,
      sameUid]
  rw [Mx.manages, controlled, Bool.true_and]
  refine jobSelector_isMatch.mpr ?_
  rw [copy.labels, sameName]
  exact selected

/-- The pods of different types in a list are different pods. -/
theorem filterPods_disjoint {left right : MXReplicaType} (different : left ≠ right)
    (pods : List Pod) :
    (filterPodsForMXReplicaType pods left).Disjoint (filterPodsForMXReplicaType pods right) := by
  intro pod isLeft isRight
  have first := mxReplicaSelector_isMatch.mp (List.mem_filter.mp isLeft).2
  have second := mxReplicaSelector_isMatch.mp (List.mem_filter.mp isRight).2
  rw [first] at second
  exact different (MXReplicaType.toString_injective (Option.some.inj second))

/-- A created pod is recognised: listed unchanged it is claimed by its job, in
its own type and in no other, and no job of another name selects it; and the
types split every list of pods in order. -/
theorem created_pod_recognised {stored : Pod} (valid : isValidLabelValue mxjob.name = true)
    (built : (createNewPod mxjob rtype spec).Issues trace (.createPod pod))
    (copy : StoredAs pod stored) (sameName : later.name = mxjob.name)
    (sameUid : later.uid = mxjob.uid) :
    ((getPodsForMXJob later).Returns [⟨.listPods, .ok [stored]⟩] [stored] ∧
      ∀ listed claiming claimed, stored ∈ listed →
        (getPodsForMXJob later).Returns (⟨.listPods, .ok listed⟩ :: claiming) claimed →
          stored ∈ claimed) ∧
    (∀ other pods, stored ∈ pods →
      (stored ∈ filterPodsForMXReplicaType pods other ↔ other = rtype)) ∧
    (∀ stranger : MXJob, stranger.name ≠ mxjob.name → selects stranger stored.labels = false) ∧
    ∀ pods, (∀ other, (filterPodsForMXReplicaType pods other).Sublist pods) ∧
      ∀ left right, left ≠ right →
        (filterPodsForMXReplicaType pods left).Disjoint (filterPodsForMXReplicaType pods right) := by
  obtain ⟨template, env, order, _, _, rfl⟩ := createNewPod_pod built
  have isNew := newPod_isNewPod mxjob rtype template (envVars env) order
  have mine : manages later stored.toObjectMeta = true :=
    IsNewPod.manages isNew copy sameName sameUid
  have carried := carriesLabels_iff.mp isNew.labelled
  rw [← copy.labels] at carried
  refine ⟨⟨?_, ?_⟩, ?_, ?_, fun pods => ⟨fun other => List.filter_sublist, fun left right different =>
    filterPods_disjoint different pods⟩⟩
  · refine claimListed_managed (jobSelector_ok (sameName ▸ valid)) rfl ?_
    simpa using mine
  · intro listed claiming claimed member returned
    obtain ⟨reply, found, rest, same, decoded, claims⟩ := claimListed_returns returned
    cases same
    cases decoded
    exact claims.lower.subset (List.mem_filter.mpr ⟨member, mine⟩)
  · intro other pods member
    rw [filterPodsForMXReplicaType, List.mem_filter]
    constructor
    · rintro ⟨_, selected⟩
      rw [copy.labels] at selected
      exact isNew.labelled.type_eq selected
    · rintro rfl
      exact ⟨member, carried.1⟩
  · intro stranger differs
    by_contra selected
    have wanted := (jobSelector_isMatch.mp (by simpa [selects] using selected)).1
    rw [(jobSelector_isMatch.mp carried.2).1] at wanted
    exact differs (Option.some.inj wanted).symm

end Labelled

theorem created_pod_recognised_worker : ∃ stored : Pod,
    StoredAs (sampleRequest .worker) stored ∧
      (getPodsForMXJob sampleJob).Returns [⟨.listPods, .ok [stored]⟩] [stored] := by
  obtain ⟨_, built⟩ := sampleRequest_built .worker
  have copy : StoredAs (sampleRequest .worker)
      { name := "worker-1", ns := "default", uid := 4, labels := (sampleRequest .worker).labels,
        ownerReferences := (sampleRequest .worker).ownerReferences, deletionTimestamp := none,
        containers := (sampleRequest .worker).containers, phase := .pending } := ⟨rfl, rfl⟩
  have valid : isValidLabelValue sampleJob.name = true := by decide
  exact ⟨_, copy, (created_pod_recognised valid built copy rfl rfl).1.1⟩

end MXNetOperator.Property
