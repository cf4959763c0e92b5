import MXNetOperator.Mx.Request

/-!
Contract: labels, environment and creation of the pods of one replica type.

Owns `genLabels`, `serviceName`, `filterPodsForMXReplicaType`,
`genMXConfigEnv`, `createNewPod` with the pod control below it, and the
concurrent creation of several pods.  Its specifications say which requests a
creation issues, how many of them carry which replica type, and which replies
it treats as success.
-/

namespace MXNetOperator.Mx

open MXNetOperator.Kube MXNetOperator.Api MXNetOperator.Interaction

def mxLabelReplicaType : String := "mx-replica-type"
def mxLabelJobName : String := "mxjob-name"
def mxLabelGroupName : String := "group-name"

def defaultPsRootPort : Int32 := 9091

/-- `genLabels`; `none` is the empty replica type. -/
def genLabels (mxjob : MXJob) (rt : Option MXReplicaType) : Labels :=
  let l := (AList.insert mxLabelJobName mxjob.name
    (AList.insert mxLabelGroupName groupName (∅ : Labels)))
  match rt with
  | none => l
  | some rtype => AList.insert mxLabelReplicaType rtype.toString l

def serviceName (mxjob : MXJob) (rt : MXReplicaType) : String :=
  mxjob.name ++ "-" ++ rt.toString

/-- The selector `filterPodsForMXReplicaType` builds for a replica type. -/
def mxReplicaSelector (rtype : MXReplicaType) : Selector :=
  ⟨AList.insert mxLabelReplicaType rtype.toString (∅ : Labels)⟩

def filterPodsForMXReplicaType (pods : List Pod) (rtype : MXReplicaType) : List Pod :=
  pods.filter fun pod => (mxReplicaSelector rtype).isMatch pod.labels

/-- `strconv.FormatInt(int64(n), 10)`. -/
def formatInt (n : Int32) : String := toString n.toInt

/-- `genMXConfigEnv`; `none` is a nil dereference. -/
def genMXConfigEnv (mxjob : MXJob) (rtype : MXReplicaType) : Option Labels := do
  let scheduler ← mxjob.spec.mxReplicaSpecs.scheduler
  let port := scheduler.psRootPort.getD defaultPsRootPort
  let server ← mxjob.spec.mxReplicaSpecs.server
  let numServer ← server.replicas
  let worker ← mxjob.spec.mxReplicaSpecs.worker
  let numWorker ← worker.replicas
  let own ← mxjob.spec.mxReplicaSpecs.get rtype
  let ret := AList.insert "DMLC_PS_ROOT_URI" (serviceName mxjob .scheduler) (∅ : Labels)
  let ret := AList.insert "DMLC_PS_ROOT_PORT" (formatInt port) ret
  let ret := AList.insert "DMLC_NUM_SERVER" (formatInt numServer) ret
  let ret := AList.insert "DMLC_NUM_WORKER" (formatInt numWorker) ret
  let ret := AList.insert "DMLC_ROLE" rtype.toString ret
  match own.psVerbose with
  | none => some ret
  | some psVerbose => some (AList.insert "PS_VERBOSE" (formatInt psVerbose) ret)

/-- The entries of the environment map as variables. -/
def envVars (env : Labels) : List EnvVar :=
  env.entries.map fun entry => ⟨entry.1, entry.2⟩

/-- `validateControllerRef`; the pod and the service control differ in the
text for a missing `blockOwnerDeletion`. -/
def validateControllerRef (blockMessage : String) (controllerRef : OwnerReference) :
    Option GoError :=
  if controllerRef.apiVersion.isEmpty then
    some (.plain "controllerRef has empty APIVersion")
  else if controllerRef.kind.isEmpty then
    some (.plain "controllerRef has empty Kind")
  else if controllerRef.controller ≠ some true then
    some (.plain "controllerRef.Controller is not set to true")
  else if controllerRef.blockOwnerDeletion ≠ some true then
    some (.plain blockMessage)
  else
    none

/-- `RealPodControl.CreatePodsWithControllerRef`, which passes the API error on
unchanged. -/
def createPodsWithControllerRef (labels : Labels) (containers : List Container)
    (controllerRef : OwnerReference) : Go (Option GoError) :=
  match validateControllerRef "controllerRef.BlockOwnerDeletion is not set" controllerRef with
  | some error => pure (some error)
  | none =>
      if labels.entries.isEmpty then
        pure (some (.plain "unable to create pods, no labels"))
      else do
        let reply ← ask (.createPod ⟨labels, [controllerRef], containers⟩)
        pure ((reply : Option ApiError).map GoError.status)

/-- A Timeout counts as success. -/
def ignoreTimeout : Option GoError → Option GoError
  | none => none
  | some error => if isTimeout error then none else some error

def createNewPod (mxjob : MXJob) (rt : MXReplicaType) (spec : MXReplicaSpec) :
    Go (Option GoError) := do
  let podTemplate ← deref spec.template
  -- the generated labels overwrite those of the template
  let labels := genLabels mxjob (some rt) ∪ podTemplate.labels.getD ∅
  let mxEnv ← deref (genMXConfigEnv mxjob rt)
  let order ← ask (.rangeMap (envVars mxEnv))
  let containers := podTemplate.containers.mapIdx fun index container =>
    { container with env := container.env ++ (order index).1 }
  let error ← createPodsWithControllerRef labels containers (newControllerRef mxjob)
  pure (ignoreTimeout error)

/-- `count` goroutines that each create one pod, in the order in which they
finish; the errors that reach the channel. -/
def createPods (mxjob : MXJob) (rt : MXReplicaType) (spec : MXReplicaSpec) :
    Nat → Go (List GoError)
  | 0 => pure []
  | count + 1 => do
      let error ← createNewPod mxjob rt spec
      let errors ← createPods mxjob rt spec count
      pure (error.toList ++ errors)

/-! ### Labels -/

theorem MXReplicaType.toString_injective {left right : MXReplicaType}
    (same : left.toString = right.toString) : left = right := by
  revert same
  cases left <;> cases right <;> decide

theorem mxReplicaSelector_isMatch {rtype : MXReplicaType} {labels : Labels} :
    (mxReplicaSelector rtype).isMatch labels = true ↔
      labels.lookup mxLabelReplicaType = some rtype.toString := by
  have entries : (mxReplicaSelector rtype).matchLabels.entries =
      [⟨mxLabelReplicaType, rtype.toString⟩] := rfl
  simp [Selector.isMatch, entries]

theorem genLabels_none_entries (mxjob : MXJob) :
    (genLabels mxjob none).entries =
      [⟨mxLabelJobName, mxjob.name⟩, ⟨mxLabelGroupName, groupName⟩] := rfl

theorem genLabels_some_entries (mxjob : MXJob) (rtype : MXReplicaType) :
    (genLabels mxjob (some rtype)).entries =
      [⟨mxLabelReplicaType, rtype.toString⟩, ⟨mxLabelJobName, mxjob.name⟩,
        ⟨mxLabelGroupName, groupName⟩] := rfl

/-- The selector of a job asks for its name and the API group. -/
theorem jobSelector_isMatch {mxjob : MXJob} {labels : Labels} :
    (⟨genLabels mxjob none⟩ : Selector).isMatch labels = true ↔
      labels.lookup mxLabelJobName = some mxjob.name ∧
        labels.lookup mxLabelGroupName = some groupName := by
  simp [Selector.isMatch, genLabels_none_entries]

/-- Labels that contain everything `genLabels` makes for this type. -/
def CarriesLabels (mxjob : MXJob) (rtype : MXReplicaType) (labels : Labels) : Prop :=
  (⟨genLabels mxjob (some rtype)⟩ : Selector).isMatch labels = true

theorem carriesLabels_iff {mxjob : MXJob} {rtype : MXReplicaType} {labels : Labels} :
    CarriesLabels mxjob rtype labels ↔
      (mxReplicaSelector rtype).isMatch labels = true ∧
        (⟨genLabels mxjob none⟩ : Selector).isMatch labels = true := by
  rw [mxReplicaSelector_isMatch, jobSelector_isMatch]
  simp [CarriesLabels, Selector.isMatch, genLabels_some_entries]

theorem carriesLabels_union (mxjob : MXJob) (rtype : MXReplicaType) (base : Labels) :
    CarriesLabels mxjob rtype (genLabels mxjob (some rtype) ∪ base) := by
  unfold CarriesLabels Selector.isMatch
  rw [List.all_eq_true]
  intro entry member
  have found : (genLabels mxjob (some rtype)).lookup entry.1 = some entry.2 :=
    AList.mem_lookup_iff.mpr member
  have present : entry.1 ∈ genLabels mxjob (some rtype) := by
    rw [← AList.lookup_isSome, found]
    rfl
  rw [AList.lookup_union_left present, found]
  simp

theorem CarriesLabels.type_eq {mxjob : MXJob} {rtype other : MXReplicaType} {labels : Labels}
    (carries : CarriesLabels mxjob rtype labels)
    (selected : (mxReplicaSelector other).isMatch labels = true) : other = rtype := by
  have first := mxReplicaSelector_isMatch.mp (carriesLabels_iff.mp carries).1
  have second := mxReplicaSelector_isMatch.mp selected
  rw [first] at second
  exact MXReplicaType.toString_injective (Option.some.inj second).symm

/-! ### Creating pods -/

/-- A pod as `createNewPod` submits it for a replica type: labelled for the job
and the type, and controlled by the job. -/
structure IsNewPod (mxjob : MXJob) (rtype : MXReplicaType) (pod : PodRequest) : Prop where
  labelled : CarriesLabels mxjob rtype pod.labels
  owned : pod.ownerReferences = [newControllerRef mxjob]

/-- The exchange is a pod creation whose pod carries this replica type. -/
def createsType (rtype : MXReplicaType) : Call → Bool
  | ⟨.createPod pod, _⟩ => (mxReplicaSelector rtype).isMatch pod.labels
  | _ => false

/-- The exchange is a pod creation. -/
def createsPod : Call → Bool
  | ⟨.createPod _, _⟩ => true
  | _ => false

/-- The number of creations of a type among the exchanges. -/
def createCount (rtype : MXReplicaType) (trace : List Call) : Nat :=
  trace.countP (createsType rtype)

/-- A reply the operator takes for a created pod: no error, or a Timeout. -/
def acceptedCreate : Call → Prop
  | ⟨.createPod _, reply⟩ =>
      reply = none ∨ ∃ error : ApiError, reply = some error ∧ error.reason = .timeout
  | _ => True

@[simp] theorem createCount_append (rtype : MXReplicaType) (front back : List Call) :
    createCount rtype (front ++ back) = createCount rtype front + createCount rtype back :=
  List.countP_append

theorem createCount_eq_zero {rtype : MXReplicaType} {trace : List Call}
    (absent : ∀ call ∈ trace, createsPod call = false) : createCount rtype trace = 0 := by
  unfold createCount
  rw [List.countP_eq_zero]
  intro call member
  have other := absent call member
  obtain ⟨request, reply⟩ := call
  cases request <;> simp_all [createsType, createsPod]

theorem IsNewPod.createsType_iff {mxjob : MXJob} {rtype other : MXReplicaType}
    {pod : PodRequest} (isNew : IsNewPod mxjob rtype pod) (reply : Option ApiError) :
    createsType other ⟨.createPod pod, reply⟩ = decide (other = rtype) := by
  by_cases same : other = rtype
  · subst same
    simpa [createsType] using (carriesLabels_iff.mp isNew.labelled).1
  · simp only [createsType, same, decide_false]
    by_contra selected
    exact same (isNew.labelled.type_eq (by simpa using selected))

section Creation

variable {mxjob : MXJob} {rtype : MXReplicaType} {spec : MXReplicaSpec} {trace : List Call}

theorem validateControllerRef_new (blockMessage : String) (mxjob : MXJob) :
    validateControllerRef blockMessage (newControllerRef mxjob) = none := by
  have version : schemeGroupVersion.isEmpty = false := by decide
  have kind : kindName.isEmpty = false := by decide
  simp [validateControllerRef, newControllerRef, version, kind]

/-- The pod `createNewPod` submits, given the iteration orders of the
environment map. -/
def newPod (mxjob : MXJob) (rtype : MXReplicaType) (template : PodTemplateSpec)
    (env : List EnvVar) (order : Nat → { order : List EnvVar // order.Perm env }) :
    PodRequest where
  labels := genLabels mxjob (some rtype) ∪ template.labels.getD ∅
  ownerReferences := [newControllerRef mxjob]
  containers := template.containers.mapIdx fun index container =>
    { container with env := container.env ++ (order index).1 }

theorem newPod_isNewPod (mxjob : MXJob) (rtype : MXReplicaType) (template : PodTemplateSpec)
    (env : List EnvVar) (order : Nat → { order : List EnvVar // order.Perm env }) :
    IsNewPod mxjob rtype (newPod mxjob rtype template env order) :=
  ⟨carriesLabels_union mxjob rtype _, rfl⟩

private theorem newPod_labels_nonempty (mxjob : MXJob) (rtype : MXReplicaType)
    (base : Labels) : (genLabels mxjob (some rtype) ∪ base).entries.isEmpty = false := by
  have present : mxLabelJobName ∈ genLabels mxjob (some rtype) ∪ base := by
    rw [AList.mem_union]
    exact Or.inl (by simp [AList.mem_keys, AList.keys, genLabels_some_entries, List.keys])
  cases entries : (genLabels mxjob (some rtype) ∪ base).entries with
  | nil => simp [AList.mem_keys, AList.keys, entries] at present
  | cons head tail => rfl

/-- `createNewPod` with its guards, which always pass, removed. -/
theorem createNewPod_eq (mxjob : MXJob) (rtype : MXReplicaType) (spec : MXReplicaSpec) :
    createNewPod mxjob rtype spec = (do
      let template ← deref spec.template
      let mxEnv ← deref (genMXConfigEnv mxjob rtype)
      let order ← ask (.rangeMap (envVars mxEnv))
      let reply ← ask (.createPod (newPod mxjob rtype template (envVars mxEnv) order))
      pure (ignoreTimeout ((reply : Option ApiError).map GoError.status))) := by
  unfold createNewPod createPodsWithControllerRef
  simp only [validateControllerRef_new, newPod_labels_nonempty, Bool.false_eq_true, ↓reduceIte]
  rfl

/-- A completed creation asks for the map order, then submits one new pod.  It
succeeds on an accepted reply only. -/
theorem createNewPod_returns {error : Option GoError}
    (returned : (createNewPod mxjob rtype spec).Returns trace error) :
    ∃ env order pod, ∃ reply : Option ApiError,
      trace = [⟨.rangeMap env, order⟩, ⟨.createPod pod, reply⟩] ∧ IsNewPod mxjob rtype pod ∧
        error = ignoreTimeout (reply.map GoError.status) := by
  rw [createNewPod_eq] at returned
  simp only [Program.returns_bind, returns_deref, returns_ask, Program.returns_pure] at returned
  obtain ⟨template, _, _, rfl, ⟨rfl, _⟩, mxEnv, _, _, rfl, ⟨rfl, _⟩, order, _, _, rfl, rfl,
    reply, _, _, rfl, rfl, rfl, rfl⟩ := returned
  exact ⟨envVars mxEnv, order, _, reply, rfl, newPod_isNewPod _ _ _ _ _, rfl⟩

theorem ignoreTimeout_eq_none {reply : Option ApiError} :
    ignoreTimeout (reply.map GoError.status) = none ↔
      reply = none ∨ ∃ error : ApiError, reply = some error ∧ error.reason = .timeout := by
  cases reply with
  | none => simp [ignoreTimeout]
  | some error => simp [ignoreTimeout, isTimeout, reasonForError]

/-- Every order of the environment map leads to a submitted pod. -/
theorem createNewPod_builds {template : PodTemplateSpec} {env : Labels}
    (hasTemplate : spec.template = some template) (hasEnv : genMXConfigEnv mxjob rtype = some env)
    (order : Nat → { order : List EnvVar // order.Perm (envVars env) }) :
    (createNewPod mxjob rtype spec).Issues [⟨.rangeMap (envVars env), order⟩]
      (.createPod (newPod mxjob rtype template (envVars env) order)) := by
  rw [createNewPod_eq, hasTemplate, hasEnv]
  simp only [deref_some, Program.done_bind, Program.issues_bind, issues_ask, returns_ask,
    Program.issues_pure, and_false, exists_false, or_false]
  exact Or.inr ⟨order, _, [], by simp, rfl, rfl, rfl⟩

/-- A creation stops early only on a missing template or a missing replica
specification, before any request. -/
theorem createNewPod_aborts {reason : Abort}
    (aborted : (createNewPod mxjob rtype spec).Aborts trace reason) :
    trace = [] ∧ reason = .panicked ∧
      (spec.template = none ∨ genMXConfigEnv mxjob rtype = none) := by
  rw [createNewPod_eq] at aborted
  simp only [Program.aborts_bind, aborts_deref, returns_deref, aborts_ask, returns_ask,
    Program.aborts_pure, and_false, exists_false, or_false] at aborted
  rcases aborted with ⟨rfl, missing, rfl⟩ | ⟨template, _, _, rfl, ⟨rfl, _⟩, rfl, missing, rfl⟩
  · exact ⟨rfl, rfl, Or.inl missing⟩
  · exact ⟨rfl, rfl, Or.inr missing⟩

/-- A creation that got to its end has found the template and the environment. -/
theorem createNewPod_found {error : Option GoError}
    (returned : (createNewPod mxjob rtype spec).Returns trace error) :
    ¬ (spec.template = none ∨ genMXConfigEnv mxjob rtype = none) := by
  rw [createNewPod_eq] at returned
  simp only [Program.returns_bind, returns_deref] at returned
  obtain ⟨template, _, _, _, ⟨_, hasTemplate⟩, env, _, _, _, ⟨_, hasEnv⟩, _⟩ := returned
  simp [hasTemplate, hasEnv]

theorem createNewPod_issues {request : Request}
    (issued : (createNewPod mxjob rtype spec).Issues trace request) :
    (trace = [] ∧ ∃ env, request = .rangeMap env) ∨
      ∃ env order pod, trace = [⟨.rangeMap env, order⟩] ∧ IsNewPod mxjob rtype pod ∧
        request = .createPod pod := by
  rw [createNewPod_eq] at issued
  simp only [Program.issues_bind, issues_deref, returns_deref, issues_ask, returns_ask,
    Program.issues_pure, and_false, exists_false, or_false, false_or] at issued
  obtain ⟨template, _, _, rfl, ⟨rfl, _⟩, mxEnv, _, _, rfl, ⟨rfl, _⟩,
    ⟨rfl, rfl⟩ | ⟨order, _, _, rfl, rfl, rfl, rfl⟩⟩ := issued
  · exact Or.inl ⟨rfl, _, rfl⟩
  · exact Or.inr ⟨envVars mxEnv, order, _, rfl, newPod_isNewPod _ _ _ _ _, rfl⟩

/-- Exchanges that create a new pod of the type, or only ask for a map order. -/
def CreationCall (mxjob : MXJob) (rtype : MXReplicaType) : Call → Prop
  | ⟨.createPod pod, _⟩ => IsNewPod mxjob rtype pod
  | ⟨.rangeMap _, _⟩ => True
  | _ => False

/-- Which pods are new pods of a job depends on its metadata only. -/
theorem IsNewPod.of_meta {first second : MXJob} {rtype : MXReplicaType} {pod : PodRequest}
    (isNew : IsNewPod first rtype pod) (same : first.toObjectMeta = second.toObjectMeta) :
    IsNewPod second rtype pod where
  labelled := by simpa [CarriesLabels, genLabels, same] using isNew.labelled
  owned := by simpa [newControllerRef, same] using isNew.owned

theorem CreationCall.of_meta {first second : MXJob} {rtype : MXReplicaType} {call : Call}
    (creation : CreationCall first rtype call) (same : first.toObjectMeta = second.toObjectMeta) :
    CreationCall second rtype call := by
  obtain ⟨request, reply⟩ := call
  cases request with
  | createPod pod => exact IsNewPod.of_meta creation same
  | rangeMap env => trivial
  | _ => exact creation.elim

/-- `count` completed creations make `count` requests of their own type and
none of another; without a reported error every reply was accepted. -/
theorem createPods_returns {count : Nat} {errors : List GoError}
    (returned : (createPods mxjob rtype spec count).Returns trace errors) :
    (∀ other, createCount other trace = if other = rtype then count else 0) ∧
      (∀ call ∈ trace, CreationCall mxjob rtype call) ∧
      (errors = [] → ∀ call ∈ trace, acceptedCreate call) ∧
      (errors ≠ [] → ∃ call ∈ trace, failedCall call = true) := by
  induction count generalizing trace errors with
  | zero =>
      obtain ⟨rfl, rfl⟩ := Program.returns_pure.mp returned
      simp [createCount]
  | succ count inductionHypothesis =>
      simp only [createPods, Program.returns_bind, Program.returns_pure] at returned
      obtain ⟨error, front, _, rfl, first, later, middle, _, rfl, rest, rfl, rfl⟩ := returned
      obtain ⟨counts, calls, accepted, failed⟩ := inductionHypothesis rest
      obtain ⟨env, order, pod, reply, rfl, isNew, rfl⟩ := createNewPod_returns first
      refine ⟨?_, ?_, ?_, ?_⟩
      · intro other
        have here : createCount other
            [(⟨.rangeMap env, order⟩ : Call), ⟨.createPod pod, reply⟩] =
              if other = rtype then 1 else 0 := by
          have skipped : createsType other ⟨.rangeMap env, order⟩ = false := rfl
          simp [createCount, List.countP_cons, skipped, isNew.createsType_iff]
        rw [List.append_nil, createCount_append, here, counts other]
        split
        · omega
        · rfl
      · intro call member
        simp only [List.append_nil, List.cons_append, List.nil_append, List.mem_cons] at member
        rcases member with rfl | rfl | older
        · trivial
        · exact isNew
        · exact calls call older
      · intro silent
        obtain ⟨none, later⟩ := List.append_eq_nil_iff.mp silent
        have succeeded := ignoreTimeout_eq_none.mp (Option.toList_eq_nil_iff.mp none)
        intro call member
        simp only [List.append_nil, List.cons_append, List.nil_append, List.mem_cons] at member
        rcases member with rfl | rfl | older
        · trivial
        · exact succeeded
        · exact accepted later call older
      · intro reported
        by_cases laterReported : later = []
        · cases reply with
          | none => simp [laterReported, ignoreTimeout] at reported
          | some failure => exact ⟨⟨.createPod pod, some failure⟩, by simp, rfl⟩
        · obtain ⟨call, member, isFailed⟩ := failed laterReported
          exact ⟨call, by simp [member], isFailed⟩

theorem createPods_aborts {count : Nat} {reason : Abort}
    (aborted : (createPods mxjob rtype spec count).Aborts trace reason) :
    0 < count ∧ reason = .panicked ∧
      (spec.template = none ∨ genMXConfigEnv mxjob rtype = none) := by
  induction count generalizing trace with
  | zero => exact absurd aborted Program.aborts_pure
  | succ count inductionHypothesis =>
      simp only [createPods, Program.aborts_bind, Program.aborts_pure, and_false, exists_false,
        or_false] at aborted
      rcases aborted with first | ⟨_, _, _, _, _, rest⟩
      · exact ⟨Nat.succ_pos count, (createNewPod_aborts first).2⟩
      · exact ⟨Nat.succ_pos count, (inductionHypothesis rest).2⟩

theorem createPods_found {count : Nat} {errors : List GoError} (some : 0 < count)
    (returned : (createPods mxjob rtype spec count).Returns trace errors) :
    ¬ (spec.template = none ∨ genMXConfigEnv mxjob rtype = none) := by
  cases count with
  | zero => exact absurd some (Nat.lt_irrefl 0)
  | succ count =>
      simp only [createPods, Program.returns_bind] at returned
      obtain ⟨_, _, _, _, first, _⟩ := returned
      exact createNewPod_found first

/-- A creation under way has issued fewer than `count` requests of its type. -/
theorem createPods_issues {count : Nat} {request : Request}
    (issued : (createPods mxjob rtype spec count).Issues trace request) :
    (∀ other, createCount other trace ≤ if other = rtype then count - 1 else 0) ∧ 0 < count ∧
      (∀ call ∈ trace, CreationCall mxjob rtype call) ∧
      ((∃ env, request = .rangeMap env) ∨
        ∃ pod, IsNewPod mxjob rtype pod ∧ request = .createPod pod) := by
  induction count generalizing trace with
  | zero => exact absurd issued Program.issues_pure
  | succ count inductionHypothesis =>
      simp only [createPods, Program.issues_bind, Program.issues_pure, and_false, exists_false,
        or_false] at issued
      rcases issued with first | ⟨error, front, back, rfl, first, rest⟩
      · rcases createNewPod_issues first with ⟨rfl, shape⟩ | ⟨env, order, pod, rfl, isNew, rfl⟩
        · refine ⟨?_, Nat.succ_pos count, by simp, Or.inl shape⟩
          intro other
          simp [createCount]
        · refine ⟨?_, Nat.succ_pos count, ?_, Or.inr ⟨pod, isNew, rfl⟩⟩
          · intro other
            have skipped : createsType other ⟨.rangeMap env, order⟩ = false := rfl
            simp [createCount, skipped]
          · intro call member
            rw [List.mem_singleton.mp member]
            trivial
      · obtain ⟨counts, positive, calls, shape⟩ := inductionHypothesis rest
        -- one completed creation in front of the pending ones
        have single : (createPods mxjob rtype spec 1).Returns front (error.toList ++ []) := by
          simp only [createPods, Program.returns_bind, Program.returns_pure]
          exact ⟨error, front, [], by simp, first, [], [], [], rfl, ⟨rfl, rfl⟩, rfl, rfl⟩
        obtain ⟨frontCounts, frontCalls, _, _⟩ := createPods_returns single
        refine ⟨?_, Nat.succ_pos count, ?_, shape⟩
        · intro other
          rw [createCount_append, frontCounts other]
          have tail := counts other
          by_cases sameType : other = rtype
          · rw [if_pos sameType] at tail
            rw [if_pos sameType, if_pos sameType]
            omega
          · rw [if_neg sameType] at tail
            rw [if_neg sameType, if_neg sameType]
            omega
        · intro call member
          rcases List.mem_append.mp member with early | late
          · exact frontCalls call early
          · exact calls call late

end Creation

end MXNetOperator.Mx
