import MXNetOperator.Cluster.Pods
import MXNetOperator.Mx.Patch

/-!
Contract: identity and ownership of pods and services alike.

Claiming, adoption and release treat the two kinds of objects in the same way;
so does this module.  Owns:
- `ObjectChange`, where the objects of a kind after a step come from;
- what the patches of a job do to a controller reference.
-/

namespace MXNetOperator.Cluster

open MXNetOperator.Kube MXNetOperator.Api MXNetOperator.Interaction MXNetOperator.Mx

/-- The metadata of the stored objects of a kind. -/
def World.objects (world : World) : ClaimKind → List ObjectMeta
  | .pod => world.pods.map Pod.toObjectMeta
  | .service => world.services.map Service.toObjectMeta

/-- Names and uids of a kind are unique, and the next uid is a new one. -/
structure DistinctObjects (kind : ClaimKind) (world : World) : Prop where
  uids : ((world.objects kind).map fun object => object.uid).Nodup
  names : ((world.objects kind).map fun object => object.name).Nodup
  below : ∀ object ∈ world.objects kind, object.uid < world.nextUID

theorem DistinctObjects.eq_of_uid {kind : ClaimKind} {world : World}
    (distinct : DistinctObjects kind world) {first second : ObjectMeta}
    (isFirst : first ∈ world.objects kind) (isSecond : second ∈ world.objects kind)
    (same : first.uid = second.uid) : first = second :=
  List.inj_on_of_nodup_map distinct.uids isFirst isSecond same

theorem DistinctObjects.eq_of_name {kind : ClaimKind} {world : World}
    (distinct : DistinctObjects kind world) {first second : ObjectMeta}
    (isFirst : first ∈ world.objects kind) (isSecond : second ∈ world.objects kind)
    (same : first.name = second.name) : first = second :=
  List.inj_on_of_nodup_map distinct.names isFirst isSecond same

theorem DistinctObjects.pods {world : World} (distinct : DistinctObjects .pod world) :
    Distinct world where
  uids := by simpa only [World.objects, List.map_map, Function.comp_def] using distinct.uids
  names := by simpa only [World.objects, List.map_map, Function.comp_def] using distinct.names
  below := fun _ member => distinct.below _ (List.mem_map_of_mem member)

theorem Distinct.objects {world : World} (distinct : Distinct world) :
    DistinctObjects .pod world where
  uids := by simpa only [World.objects, List.map_map, Function.comp_def] using distinct.uids
  names := by simpa only [World.objects, List.map_map, Function.comp_def] using distinct.names
  below := by
    intro object member
    obtain ⟨pod, isPod, rfl⟩ := List.mem_map.mp member
    exact distinct.below pod isPod

/-! ### Owner references -/

/-- Who controls an object is read off its owner references. -/
theorem controlledBy_of_owners {first second : ObjectMeta} {owner : UID}
    (same : second.ownerReferences = first.ownerReferences) :
    second.controlledBy owner = first.controlledBy owner := by
  rw [ObjectMeta.controlledBy, getControllerOf, same]
  rfl

/-- An object has one controller. -/
theorem controlledBy_unique {object : ObjectMeta} {first second : UID}
    (isFirst : object.controlledBy first = true) (isSecond : object.controlledBy second = true) :
    first = second := by
  unfold ObjectMeta.controlledBy at isFirst isSecond
  cases controller : getControllerOf object with
  | none => simp [controller] at isFirst
  | some reference =>
      simp only [controller, Option.any_some, beq_iff_eq] at isFirst isSecond
      exact isFirst.symm.trans isSecond

/-- The server accepts an adoption only where nobody else is in control. -/
theorem patchRejection_adopt {mxjob : MXJob} {uid : UID} {object : ObjectMeta}
    (accepted : patchRejection (.adopt (newControllerRef mxjob) uid) (some object) = none) :
    ∀ other ∈ object.ownerReferences, other.uid ≠ mxjob.uid → other.controller ≠ some true := by
  intro other member different isController
  have rejected : (object.ownerReferences.any fun reference =>
      reference.controller == some true &&
        reference.uid != (newControllerRef mxjob).uid) = true :=
    List.any_eq_true.mpr ⟨other, member, by simp [isController, newControllerRef, different]⟩
  simp only [patchRejection, rejected, if_true] at accepted
  split at accepted <;> cases accepted

theorem adopted_free {mxjob : MXJob} {uid owner : UID} {object : ObjectMeta}
    (accepted : patchRejection (.adopt (newControllerRef mxjob) uid) (some object) = none)
    (controlled : object.controlledBy owner = true) : owner = mxjob.uid := by
  unfold ObjectMeta.controlledBy at controlled
  obtain ⟨reference, found, isOwner⟩ := (Option.any_eq_true _ _).mp controlled
  by_contra other
  refine patchRejection_adopt accepted reference (List.mem_of_find?_eq_some found) ?_
    (by simpa using List.find?_some found)
  rw [beq_iff_eq.mp isOwner]
  exact other

/-- An accepted adoption puts the object under the job's control. -/
theorem adopted_controlled {mxjob : MXJob} {uid : UID} {object after : ObjectMeta}
    (accepted : patchRejection (.adopt (newControllerRef mxjob) uid) (some object) = none)
    (owners : after.ownerReferences =
      applyPatch (.adopt (newControllerRef mxjob) uid) object.ownerReferences) :
    after.controlledBy mxjob.uid = true := by
  have skipped : (object.ownerReferences.filter fun other =>
      other.uid != (newControllerRef mxjob).uid).find?
        (fun reference => reference.controller == some true) = none := by
    rw [List.find?_eq_none]
    intro other member
    obtain ⟨isOther, different⟩ := List.mem_filter.mp member
    simpa using patchRejection_adopt accepted other isOther
      (by simpa [newControllerRef] using different)
  rw [ObjectMeta.controlledBy, getControllerOf, owners, applyPatch, List.find?_append, skipped]
  simp [newControllerRef]

/-! ### One step -/

/-- The Sync under way patches the owner references of the object. -/
def Reowned (kind : ClaimKind) (state : State) (object after : ObjectMeta) : Prop :=
  ∃ patch, (sync state.worker.input).Issues state.worker.trace
      (kind.patchRequest object.name patch) ∧
    object.uid = patchUID patch ∧ patchRejection patch (some object) = none ∧
    after.ownerReferences = applyPatch patch object.ownerReferences

/-- Somebody edits the labels of an object of this kind. -/
def relabels : ClaimKind → Action → Bool
  | .pod, .move (.podRelabel _ _) => true
  | .service, .move (.serviceRelabel _ _) => true
  | _, _ => false

/-- One object before and after a step. -/
structure ObjectEvolves (kind : ClaimKind) (state : State) (action : Action)
    (object after : ObjectMeta) : Prop where
  uid : after.uid = object.uid
  name : after.name = object.name
  labels : after.labels = object.labels ∨ relabels kind action = true
  owners : after.ownerReferences = object.ownerReferences ∨ Reowned kind state object after

theorem ObjectEvolves.refl (kind : ClaimKind) (state : State) (action : Action)
    (object : ObjectMeta) : ObjectEvolves kind state action object object :=
  ⟨rfl, rfl, Or.inl rfl, Or.inl rfl⟩

/-- Where the objects of a kind come from: each was there before the step, or
has a new uid. -/
structure ObjectChange (kind : ClaimKind) (state : State) (action : Action) (next : State) :
    Prop where
  origin : ∀ later ∈ next.world.objects kind,
    (∃ object ∈ state.world.objects kind, ObjectEvolves kind state action object later) ∨
      later.uid = state.world.nextUID
  uids : state.world.nextUID ≤ next.world.nextUID
  distinct : DistinctObjects kind next.world

section Step

variable {kind : ClaimKind} {state next : State} {action : Action}

theorem ObjectChange.edited {Obj : Type} {metaOf : Obj → ObjectMeta} {items : List Obj}
    (distinct : DistinctObjects kind state.world) (edit : Obj → Obj)
    (before : state.world.objects kind = items.map metaOf)
    (after : next.world.objects kind = (items.map edit).map metaOf)
    (evolves : ∀ item ∈ items,
      ObjectEvolves kind state action (metaOf item) (metaOf (edit item)))
    (uids : state.world.nextUID ≤ next.world.nextUID) : ObjectChange kind state action next := by
  have origin : ∀ later ∈ next.world.objects kind, ∃ object ∈ state.world.objects kind,
      ObjectEvolves kind state action object later := by
    intro later member
    rw [after, List.map_map] at member
    obtain ⟨item, isItem, rfl⟩ := List.mem_map.mp member
    exact ⟨metaOf item, before ▸ List.mem_map_of_mem isItem, evolves item isItem⟩
  have sameUids : (next.world.objects kind).map (fun object => object.uid) =
      (state.world.objects kind).map fun object => object.uid := by
    rw [before, after, List.map_map, List.map_map, List.map_map]
    exact List.map_congr_left fun item member => (evolves item member).uid
  have sameNames : (next.world.objects kind).map (fun object => object.name) =
      (state.world.objects kind).map fun object => object.name := by
    rw [before, after, List.map_map, List.map_map, List.map_map]
    exact List.map_congr_left fun item member => (evolves item member).name
  refine ⟨fun later member => Or.inl (origin later member), uids, sameUids ▸ distinct.uids,
    sameNames ▸ distinct.names, fun later member => ?_⟩
  obtain ⟨object, isObject, evolved⟩ := origin later member
  rw [evolved.uid]
  exact Nat.lt_of_lt_of_le (distinct.below object isObject) uids

theorem ObjectChange.removed (distinct : DistinctObjects kind state.world)
    (fewer : (next.world.objects kind).Sublist (state.world.objects kind))
    (uids : state.world.nextUID ≤ next.world.nextUID) : ObjectChange kind state action next where
  origin := fun later member =>
    Or.inl ⟨later, fewer.subset member, ObjectEvolves.refl kind state action later⟩
  uids := uids
  distinct := ⟨distinct.uids.sublist (fewer.map _), distinct.names.sublist (fewer.map _),
    fun later member => Nat.lt_of_lt_of_le (distinct.below later (fewer.subset member)) uids⟩

theorem ObjectChange.unchanged (distinct : DistinctObjects kind state.world)
    (objects : next.world.objects kind = state.world.objects kind)
    (uids : state.world.nextUID ≤ next.world.nextUID) : ObjectChange kind state action next :=
  .removed distinct (by rw [objects]) uids

theorem ObjectChange.added (distinct : DistinctObjects kind state.world) {object : ObjectMeta}
    (objects : next.world.objects kind = state.world.objects kind ++ [object])
    (uid : object.uid = state.world.nextUID)
    (free : ∀ other ∈ state.world.objects kind, other.name ≠ object.name)
    (uids : next.world.nextUID = state.world.nextUID + 1) :
    ObjectChange kind state action next where
  origin := by
    intro later member
    rw [objects] at member
    rcases List.mem_append.mp member with old | new
    · exact Or.inl ⟨later, old, ObjectEvolves.refl kind state action later⟩
    · exact Or.inr (by rw [List.mem_singleton.mp new, uid])
  uids := uids ▸ Nat.le_succ _
  distinct := by
    refine ⟨?_, ?_, fun later member => ?_⟩
    · rw [objects, List.map_append, List.map_singleton, List.nodup_append_comm,
        List.singleton_append, List.nodup_cons]
      refine ⟨fun member => ?_, distinct.uids⟩
      obtain ⟨other, isOther, same⟩ := List.mem_map.mp member
      exact Nat.ne_of_lt (distinct.below other isOther) (same.trans uid)
    · rw [objects, List.map_append, List.map_singleton, List.nodup_append_comm,
        List.singleton_append, List.nodup_cons]
      refine ⟨fun member => ?_, distinct.names⟩
      obtain ⟨other, isOther, same⟩ := List.mem_map.mp member
      exact free other isOther same
    · rw [objects] at member
      rw [uids]
      rcases List.mem_append.mp member with old | new
      · exact Nat.lt_succ_of_lt (distinct.below later old)
      · rw [List.mem_singleton.mp new, uid]
        exact Nat.lt_succ_self _

/-! #### Pods -/

theorem Evolves.object {pod after : Pod} (evolves : Evolves state action pod after) :
    ObjectEvolves .pod state action pod.toObjectMeta after.toObjectMeta where
  uid := evolves.uid
  name := evolves.name
  labels := by
    rcases evolves.labels with same | ⟨labels, rfl⟩
    · exact Or.inl same
    · exact Or.inr rfl
  owners := evolves.owners

theorem PodChange.objects (distinct : DistinctObjects .pod state.world)
    (change : PodChange state action next) : ObjectChange .pod state action next := by
  have added : ∀ {pod : Pod}, next.world.pods = state.world.pods ++ [pod] →
      pod.uid = state.world.nextUID → state.world.findPod pod.name = none →
      next.world.nextUID = state.world.nextUID + 1 → ObjectChange .pod state action next := by
    intro pod pods uid free uids
    refine .added distinct (by rw [World.objects, pods, List.map_append]; rfl) uid ?_ uids
    intro other isOther same
    obtain ⟨found, isFound, rfl⟩ := List.mem_map.mp isOther
    exact List.find?_eq_none.mp free found isFound (by simpa using same)
  cases change with
  | edited edit evolves pods uids =>
      exact .edited distinct edit rfl (by rw [World.objects, pods])
        (fun pod member => (evolves pod member).object) uids
  | removed keep pods uids =>
      refine .removed distinct ?_ uids
      rw [World.objects, pods]
      exact List.filter_sublist.map _
  | created outcome request reply working issued trace free pods uids =>
      exact added pods rfl free uids
  | foreign pod stored moving copy free pods uids =>
      exact added pods (by rw [copy]) free uids

/-! #### Services -/

theorem service_move (distinct : DistinctObjects .service state.world) (move : Move)
    (world : next.world = state.world.move move) :
    ObjectChange .service state (.move move) next := by
  have kept : next.world.services = state.world.services →
      state.world.nextUID ≤ next.world.nextUID → ObjectChange .service state (.move move) next :=
    fun services uids => .unchanged distinct (by rw [World.objects, services, World.objects]) uids
  cases move with
  | serviceCreate service =>
      simp only [World.move] at world
      split at world
      · exact kept (by rw [world]) (by rw [world])
      · rename_i unused
        have free : state.world.findService service.name = none := by simpa using unused
        refine .added distinct (by rw [world]; simp [World.objects, World.addService]; rfl) rfl ?_
          (by rw [world]; rfl)
        intro other isOther same
        obtain ⟨found, isFound, rfl⟩ := List.mem_map.mp isOther
        exact List.find?_eq_none.mp free found isFound (by simpa using same)
  | serviceRemove uid =>
      refine .removed distinct ?_ (by rw [world]; exact Nat.le_refl _)
      rw [world]
      exact List.filter_sublist.map _
  | serviceRelabel uid labels =>
      have before : state.world.objects .service =
          state.world.services.map Service.toObjectMeta := rfl
      refine .edited distinct _ before (by rw [world]; rfl) (fun service _ => ?_)
        (by rw [world]; exact Nat.le_refl _)
      split
      · exact ⟨rfl, rfl, Or.inr rfl, Or.inl rfl⟩
      · exact ObjectEvolves.refl _ state _ _
  | podCreate pod =>
      simp only [World.move] at world
      split at world
      · exact kept (by rw [world]) (by rw [world])
      · exact kept (by rw [world]; rfl) (by rw [world]; exact Nat.le_succ _)
  | editSpec spec =>
      simp only [World.move] at world
      split at world
      · exact kept (by rw [world]; rfl) (by rw [world]; exact Nat.le_refl _)
      · exact kept (by rw [world]) (by rw [world])
  | editFinalizers finalizers =>
      simp only [World.move] at world
      split at world
      · exact kept (by rw [world]; rfl) (by rw [world]; exact Nat.le_refl _)
      · exact kept (by rw [world]) (by rw [world])
  | deleteJob time =>
      simp only [World.move] at world
      split at world
      · exact kept (by rw [world]) (by rw [world])
      · split at world <;> exact kept (by rw [world]) (by rw [world])
  | _ => exact kept (by rw [world]; rfl) (by rw [world]; exact Nat.le_refl _)

/-- A finalizer goroutine touches no service. -/
theorem finalizer_keepsServices {task : FinalizerTask} {trace : List Call} {request : Request}
    {world after : World} (issued : (finalizer task).Issues trace request)
    (effect : ServiceEffect world request after) :
    after.services = world.services ∧ world.nextUID ≤ after.nextUID := by
  cases effect with
  | untouched services uids => exact ⟨services, uids⟩
  | patched => cases finalizer_issues issued
  | created => cases finalizer_issues issued

theorem service_change (distinct : DistinctObjects .service state.world)
    (stepped : Stepped state action next) : ObjectChange .service state action next := by
  cases stepped with
  | idle => exact .unchanged distinct rfl (Nat.le_refl _)
  | deliver => exact .unchanged distinct rfl (Nat.le_refl _)
  | restart => exact .unchanged distinct rfl (Nat.le_refl _)
  | move move => exact service_move distinct move rfl
  | work outcome worker call issued pending reply input trace =>
      obtain ⟨request, answer⟩ := call
      have effect := serve_services outcome request state.world
      revert effect
      generalize (serve outcome request state.world).2 = after
      intro effect
      cases effect with
      | untouched services uids =>
          exact .unchanged distinct (congrArg (List.map Service.toObjectMeta) services) uids
      | patched name patch found isFound sameUid accepted =>
          refine .edited distinct (patchServiceMeta name patch) rfl rfl (fun service isService => ?_)
            (Nat.le_refl _)
          by_cases same : service.name = name
          · have isOne : service.toObjectMeta = found.toObjectMeta := by
              refine distinct.eq_of_name (List.mem_map_of_mem isService)
                (List.mem_map_of_mem (List.mem_of_find?_eq_some isFound)) ?_
              have named := List.find?_some isFound
              rw [same]
              exact (by simpa using named : found.name = name).symm
            rw [← isOne] at sameUid accepted
            rw [← same] at issued
            simp only [patchServiceMeta, patchMeta, if_pos same]
            exact ⟨rfl, rfl, Or.inl rfl, Or.inr ⟨patch, issued, sameUid, accepted, rfl⟩⟩
          · simp only [patchServiceMeta, patchMeta, if_neg same]
            exact ObjectEvolves.refl _ state _ _
      | created service free =>
          refine .added distinct (List.map_append.trans rfl) rfl ?_ rfl
          · intro other isOther same
            obtain ⟨known, isKnown, rfl⟩ := List.mem_map.mp isOther
            exact List.find?_eq_none.mp free known isKnown (beq_iff_eq.mpr same)
  | finalize index outcome thread next call found issued reply input trace =>
      obtain ⟨services, uids⟩ :=
        finalizer_keepsServices issued (serve_services outcome call.request state.world)
      exact .unchanged distinct (congrArg (List.map Service.toObjectMeta) services) uids

/-- Everything a step can do to the objects of a kind. -/
theorem object_change (distinct : DistinctObjects kind state.world)
    (stepped : Stepped state action next) : ObjectChange kind state action next := by
  cases kind with
  | pod => exact (pod_change distinct.pods stepped).objects distinct
  | service => exact service_change distinct stepped

end Step

/-! ### Replies -/

section Replies

variable {kind : ClaimKind} {outcome : Outcome} {world : World} {call : Call}

/-- A list shows the stored objects and changes nothing. -/
theorem serve_listing {objects : List ObjectMeta} (listed : kind.listing call = some objects)
    (reply : call.reply = (serve outcome call.request world).1) :
    objects = world.objects kind ∧ (serve outcome call.request world).2 = world := by
  have read : ∀ {α : Type} {stored found : α}, outcome.read (.ok stored) = .ok found →
      found = stored := by
    intro α stored found shown
    unfold Outcome.read at shown
    split at shown <;> cases shown
    rfl
  unfold ClaimKind.listing at listed
  split at listed
  · cases listed
    exact ⟨congrArg (List.map Pod.toObjectMeta) (read reply.symm), rfl⟩
  · cases listed
    exact ⟨congrArg (List.map Service.toObjectMeta) (read reply.symm), rfl⟩
  · cases listed

/-- A patch answered without error was applied to an object it fits. -/
theorem serve_patchCall {name : String} {patch : OwnerPatch}
    (same : call = kind.patchCall name patch none)
    (reply : call.reply = (serve outcome call.request world).1) :
    ∃ object ∈ world.objects kind, object.name = name ∧ object.uid = patchUID patch ∧
      patchRejection patch (some object) = none ∧
      (serve outcome call.request world).2.objects kind =
        (world.objects kind).map (patchMeta name patch) := by
  subst same
  cases kind with
  | pod =>
      obtain ⟨pod, member, named, sameUid, accepted, pods⟩ := serve_patchPod reply.symm
      refine ⟨pod.toObjectMeta, List.mem_map_of_mem member, named, sameUid, accepted, ?_⟩
      refine (congrArg (List.map Pod.toObjectMeta) pods).trans ?_
      simp only [World.objects, List.map_map]
      rfl
  | service =>
      rcases write_cases outcome
        (patchRejection patch ((world.findService name).map Service.toObjectMeta)) world
        { world with services := world.services.map (patchServiceMeta name patch) } with
        ⟨_, refused⟩ | ⟨accepted, effect⟩
      · exact absurd reply.symm refused
      · obtain ⟨object, found, sameUid⟩ := patchRejection_eq_none accepted
        obtain ⟨service, isFound, rfl⟩ := Option.map_eq_some_iff.mp found
        rw [found] at accepted
        refine ⟨service.toObjectMeta, List.mem_map_of_mem (List.mem_of_find?_eq_some isFound), ?_,
          sameUid, accepted, ?_⟩
        · simpa using List.find?_some isFound
        · refine (congrArg (fun world => World.objects world .service) effect).trans ?_
          simp only [World.objects, List.map_map]
          rfl

/-- An adoption without error puts the object under the job's control. -/
theorem serve_adopts {mxjob : MXJob} {name : String} {uid : UID}
    (distinct : DistinctObjects kind world)
    (adopts : call = kind.patchCall name (.adopt (newControllerRef mxjob) uid) none)
    (reply : call.reply = (serve outcome call.request world).1) :
    uid < world.nextUID ∧
      ∀ later ∈ (serve outcome call.request world).2.objects kind, later.uid = uid →
        later.controlledBy mxjob.uid = true ∧
          ∃ current ∈ world.objects kind, current.uid = uid ∧ later.labels = current.labels := by
  obtain ⟨found, isFound, named, sameUid, accepted, objects⟩ := serve_patchCall adopts reply
  refine ⟨?_, fun later member isOne => ?_⟩
  · have below := distinct.below found isFound
    rwa [sameUid] at below
  · rw [objects] at member
    obtain ⟨current, isCurrent, rfl⟩ := List.mem_map.mp member
    have currentUid : current.uid = uid := by
      rw [← isOne]
      unfold patchMeta
      split <;> rfl
    obtain rfl : current = found :=
      distinct.eq_of_uid isCurrent isFound (currentUid.trans sameUid.symm)
    rw [patchMeta, if_pos named]
    exact ⟨adopted_controlled accepted rfl, current, isCurrent, currentUid, rfl⟩

end Replies

end MXNetOperator.Cluster
