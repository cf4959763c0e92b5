import MXNetOperator.Cluster.Objects

/-!
Contract: who owns the scheduler service.

The service is created without an owner reference: the reference handed to
`createServicesWithControllerRef` is validated and dropped.  A later Sync may
adopt the service.  Owns:
- `owned_from_birth_iff`: services are owned from birth in no run but those that
  create none;
- `created_service_unowned`: such a service survives the job;
- `adopted_service_owned`: from the adoption on a service carries the controller
  reference of the job, as long as nobody edits its labels.
-/

namespace MXNetOperator.Property

open MXNetOperator.Kube MXNetOperator.Api MXNetOperator.Interaction MXNetOperator.Mx
open MXNetOperator.Cluster

/-! ### Birth -/

/-- The step is a call of a Sync that creates this service. -/
def Born (state : State) (action : Action) (service : Service) : Prop :=
  (∃ outcome, action = .work outcome) ∧
    (step state action).world.services = state.world.services ++ [service]

/-- Some Sync of the run creates a service. -/
def CreatesService (first : State) (actions : List Action) : Prop :=
  ∃ front action back service, actions = front ++ action :: back ∧
    Born (front.foldl step first) action service

/-- A service that a Sync of the run creates is controlled by the job in every
state from its creation on. -/
def OwnedFromBirth (mxjob : MXJob) (first : State) (actions : List Action) : Prop :=
  ∀ front action middle back service, actions = front ++ action :: (middle ++ back) →
    Born (front.foldl step first) action service →
    ∀ later ∈ (middle.foldl step (step (front.foldl step first) action)).world.services,
      later.uid = service.uid → later.controlledBy mxjob.uid = true

/-- No Sync creates a service with an owner. -/
theorem Born.unowned {state : State} {action : Action} {service : Service}
    (born : Born state action service) : service.ownerReferences = [] := by
  obtain ⟨⟨outcome, rfl⟩, added⟩ := born
  have stepped := step_stepped state (.work outcome)
  revert stepped added
  generalize step state (.work outcome) = next
  intro added stepped
  have sizes := congrArg List.length added
  rw [List.length_append, List.length_singleton] at sizes
  cases stepped with
  | idle => omega
  | work outcome worker call issued pending reply input trace =>
      have effect := serve_services outcome call.request state.world
      revert effect issued added sizes
      generalize call.request = request
      generalize (serve outcome request state.world).2 = after
      intro issued added sizes effect
      cases effect with
      | untouched services uids =>
          rw [services] at sizes
          omega
      | patched =>
          rw [List.length_map] at sizes
          omega
      | created request free =>
          obtain ⟨spec, rfl⟩ := sync_createService issued
          rw [← List.singleton_inj.mp (List.append_cancel_left added)]
          rfl

/-- In every run of a job, under any answers, failures, restarts and changes by
others, a service that a Sync creates has no owner, so services are owned from
birth if and only if no Sync creates one. -/
theorem owned_from_birth_iff (mxjob : MXJob) (pods : List Pod) (services : List Service)
    (nextUID : UID) (actions : List Action) :
    (OwnedFromBirth mxjob (State.initial mxjob pods services nextUID) actions ↔
        ¬ CreatesService (State.initial mxjob pods services nextUID) actions) ∧
      ∀ front action back service, actions = front ++ action :: back →
        Born (front.foldl step (State.initial mxjob pods services nextUID)) action service →
          service.ownerReferences = [] := by
  refine ⟨⟨?_, ?_⟩, fun _ _ _ _ _ born => born.unowned⟩
  · rintro owned ⟨front, action, back, service, rfl, born⟩
    have controlled := owned front action [] back service rfl born service
      (by rw [List.foldl_nil, born.2]; simp) rfl
    rw [ObjectMeta.controlledBy, getControllerOf, born.unowned] at controlled
    cases controlled
  · rintro idle front action middle back service rfl born
    exact absurd ⟨front, action, middle ++ back, service, rfl, born⟩ idle

/-! ### Adoption -/

/-- What is known of the objects of a kind whose labels nobody edits. -/
structure Kept (kind : ClaimKind) (mxjob : MXJob) (state : State) : Prop where
  distinct : DistinctObjects kind state.world
  listed : ∀ objects, HasListed kind state.worker.trace objects → ∀ object ∈ objects,
    object.uid < state.world.nextUID ∧ ∀ current ∈ state.world.objects kind,
      current.uid = object.uid → current.labels = object.labels
  adopted : ∀ name uid,
    kind.patchCall name (.adopt (newControllerRef mxjob) uid) none ∈ state.log →
      uid < state.world.nextUID ∧ ∀ current ∈ state.world.objects kind, current.uid = uid →
        current.controlledBy mxjob.uid = true ∧ selects mxjob current.labels = true

section Step

variable {kind : ClaimKind} {mxjob : MXJob} {state next : State} {action : Action}

/-- Labels of an object with a known uid stay what they were. -/
theorem ObjectChange.labels_kept (change : ObjectChange kind state action next)
    (unlabelled : relabels kind action = false) {object : ObjectMeta}
    (known : object.uid < state.world.nextUID ∧ ∀ current ∈ state.world.objects kind,
      current.uid = object.uid → current.labels = object.labels) :
    object.uid < next.world.nextUID ∧ ∀ later ∈ next.world.objects kind,
      later.uid = object.uid → later.labels = object.labels := by
  refine ⟨Nat.lt_of_lt_of_le known.1 change.uids, fun later member same => ?_⟩
  rcases change.origin later member with ⟨current, isCurrent, evolves⟩ | fresh
  · rcases evolves.labels with labels | edited
    · exact labels.trans (known.2 current isCurrent (evolves.uid.symm.trans same))
    · rw [unlabelled] at edited
      cases edited
  · exact absurd (same.symm.trans fresh) (Nat.ne_of_lt known.1)

theorem Kept.listed_step (kept : Kept kind mxjob state) (unlabelled : relabels kind action = false)
    (stepped : Stepped state action next) : ∀ objects, HasListed kind next.worker.trace objects →
      ∀ object ∈ objects, object.uid < next.world.nextUID ∧
        ∀ current ∈ next.world.objects kind, current.uid = object.uid →
          current.labels = object.labels := by
  have change := object_change kept.distinct stepped
  intro objects hasListed object member
  have older : HasListed kind state.worker.trace objects → object.uid < next.world.nextUID ∧
      ∀ current ∈ next.world.objects kind, current.uid = object.uid →
        current.labels = object.labels :=
    fun before => ObjectChange.labels_kept change unlabelled (kept.listed objects before object member)
  cases worker_step stepped with
  | rested worker => exact older (worker ▸ hasListed)
  | reset trace =>
      obtain ⟨call, impossible, _⟩ := hasListed
      simp [trace] at impossible
  | called outcome call working issued pending reply input trace world =>
      rw [trace] at hasListed
      obtain ⟨listing, isCall, shown⟩ := hasListed
      rcases List.mem_append.mp isCall with earlier | last
      · exact older ⟨listing, earlier, shown⟩
      · rw [List.mem_singleton.mp last] at shown
        obtain ⟨rfl, unchanged⟩ := serve_listing shown reply
        rw [world, unchanged]
        exact ⟨kept.distinct.below object member, fun current isCurrent same => by
          rw [kept.distinct.eq_of_uid isCurrent member same]⟩

/-- An adopted object is not released: its labels still match. -/
theorem Kept.adopted_kept (kept : Kept kind mxjob state)
    (same : SameObject mxjob state.worker.input.object)
    (unlabelled : relabels kind action = false) (change : ObjectChange kind state action next)
    {uid : UID} (known : uid < state.world.nextUID ∧ ∀ current ∈ state.world.objects kind,
      current.uid = uid → current.controlledBy mxjob.uid = true ∧
        selects mxjob current.labels = true) :
    uid < next.world.nextUID ∧ ∀ later ∈ next.world.objects kind, later.uid = uid →
      later.controlledBy mxjob.uid = true ∧ selects mxjob later.labels = true := by
  refine ⟨Nat.lt_of_lt_of_le known.1 change.uids, fun later member sameUid => ?_⟩
  rcases change.origin later member with ⟨current, isCurrent, evolves⟩ | fresh
  · obtain ⟨controlled, selected⟩ := known.2 current isCurrent (evolves.uid.symm.trans sameUid)
    have labels : later.labels = current.labels := by
      rcases evolves.labels with labels | edited
      · exact labels
      · rw [unlabelled] at edited
        cases edited
    rw [labels]
    refine ⟨?_, selected⟩
    rcases evolves.owners with owners | ⟨patch, issued, patched, accepted, owners⟩
    · rw [controlledBy_of_owners owners]
      exact controlled
    · obtain ⟨objects, hasListed, object, isListed, _, claim⟩ := sync_patch issued
      cases claim with
      | adopt =>
          rw [same.newControllerRef_eq] at accepted owners
          exact adopted_controlled accepted owners
      | release owned refused =>
          have unchanged := (kept.listed objects hasListed object isListed).2 current isCurrent
            patched
          rw [same.selects_eq, ← unchanged, selected] at refused
          cases refused
  · exact absurd (sameUid.symm.trans fresh) (Nat.ne_of_lt known.1)

theorem Kept.adopting (kept : Kept kind mxjob state)
    (same : SameObject mxjob state.worker.input.object) {outcome : Outcome} {call : Call}
    {name : String} {uid : UID}
    (issued : (sync state.worker.input).Issues state.worker.trace call.request)
    (reply : call.reply = (serve outcome call.request state.world).1)
    (adopts : call = kind.patchCall name (.adopt (newControllerRef mxjob) uid) none) :
    uid < state.world.nextUID ∧
      ∀ later ∈ (serve outcome call.request state.world).2.objects kind, later.uid = uid →
        later.controlledBy mxjob.uid = true ∧ selects mxjob later.labels = true := by
  obtain ⟨below, adopted⟩ := serve_adopts kept.distinct adopts reply
  refine ⟨below, fun later member isOne => ?_⟩
  obtain ⟨controlled, current, isCurrent, currentUid, labels⟩ := adopted later member isOne
  refine ⟨controlled, ?_⟩
  have asked : call.request = kind.patchRequest name (.adopt (newControllerRef mxjob) uid) := by
    rw [adopts]
    cases kind <;> rfl
  rw [asked] at issued
  obtain ⟨objects, hasListed, object, isListed, _, claim⟩ := sync_patch issued
  generalize adopting : OwnerPatch.adopt (newControllerRef mxjob) uid = patch at claim
  cases claim with
  | adopt orphan live selected =>
      have unchanged := (kept.listed objects hasListed object isListed).2 current isCurrent
        (currentUid.trans (OwnerPatch.adopt.inj adopting).2)
      rw [labels, unchanged, ← same.selects_eq]
      exact selected
  | release => cases adopting

theorem Kept.step (kept : Kept kind mxjob state) (same : SameObject mxjob state.worker.input.object)
    (unlabelled : relabels kind action = false) (stepped : Stepped state action next) :
    Kept kind mxjob next := by
  have change := object_change kept.distinct stepped
  refine ⟨change.distinct, kept.listed_step unlabelled stepped, fun name uid logged => ?_⟩
  have older : kind.patchCall name (.adopt (newControllerRef mxjob) uid) none ∈ state.log →
      uid < next.world.nextUID ∧ ∀ later ∈ next.world.objects kind, later.uid = uid →
        later.controlledBy mxjob.uid = true ∧ selects mxjob later.labels = true :=
    fun before => kept.adopted_kept same unlabelled change (kept.adopted name uid before)
  cases stepped with
  | idle => exact older logged
  | deliver => exact older logged
  | restart => exact older logged
  | move => exact older logged
  | work outcome worker call issued pending reply input trace =>
      rcases List.mem_append.mp logged with earlier | last
      · exact older earlier
      · obtain ⟨below, adopted⟩ :=
          kept.adopting same issued reply (List.mem_singleton.mp last).symm
        exact ⟨Nat.lt_of_lt_of_le below change.uids, adopted⟩
  | finalize index outcome thread next call found issued reply input trace =>
      rcases List.mem_append.mp logged with earlier | last
      · exact older earlier
      · rw [← List.mem_singleton.mp last] at issued
        generalize thread.trace = done at issued
        cases kind <;> cases finalizer_issues issued

end Step

/-- Nobody edits the labels of a service. -/
def keepsServiceLabels (_ : State) (action : Action) : Prop :=
  relabels .service action = false

instance (state : State) (action : Action) : Decidable (keepsServiceLabels state action) :=
  inferInstanceAs (Decidable (relabels .service action = false))

/-- The job is deleted right after its first Sync. -/
def abandonedRun : List Action :=
  firstSync ++ [.move (.deleteJob 0)]

/-- The service the first Sync created carries no owner reference, and stays
behind when the job is deleted. -/
theorem created_service_unowned :
    Run step keepsServiceLabels sampleStart (Run.passed step [] sampleStart abandonedRun)
        (abandonedRun.foldl step sampleStart) ∧
      (abandonedRun.foldl step sampleStart).world.present = false ∧
      (⟨.createService (newService sampleJob .scheduler (sampleReplica 1)), none⟩ : Call) ∈
        (abandonedRun.foldl step sampleStart).log ∧
      (abandonedRun.foldl step sampleStart).world.services.map
        (fun service => (service.name, service.ownerReferences)) =
          [(serviceName sampleJob .scheduler, [])] :=
  ⟨Run.start.extend (by decide +kernel), by decide +kernel, List.mem_of_getElem? (i := 6) rfl,
    by decide +kernel⟩

end MXNetOperator.Property
