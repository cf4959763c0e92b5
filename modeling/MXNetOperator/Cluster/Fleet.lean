import MXNetOperator.Cluster.Objects

/-!
Contract: several jobs of one namespace and their operators.

Each job has a transition system of its own; pods, services and the supply of
uids are shared.  A step of one system therefore shows in all of them, and
their calls interleave in any order.

Owns `fleetStep` and `Custody`: what a Sync under way may rely on about the
objects it has listed, whatever the other jobs do.
-/

namespace MXNetOperator.Cluster

open MXNetOperator.Kube MXNetOperator.Api MXNetOperator.Interaction MXNetOperator.Mx

/-- The state of every job, each with the shared objects in its world. -/
abbrev Fleet (ι : Type) := ι → State

/-- The state with the shared objects as in this world. -/
def State.share (state : State) (world : World) : State :=
  { state with
    world := { state.world with
      pods := world.pods
      services := world.services
      nextUID := world.nextUID } }

/-- One system takes a step; the others see what it did to the shared objects. -/
def fleetStep {ι : Type} [DecidableEq ι] (fleet : Fleet ι) (turn : ι × Action) : Fleet ι :=
  fun index =>
    if index = turn.1 then step (fleet index) turn.2
    else (fleet index).share (step (fleet turn.1) turn.2).world

/-- Jobs nobody has worked on yet, in a cluster with these pods and services. -/
def Fleet.initial {ι : Type} (jobs : ι → MXJob) (pods : List Pod) (services : List Service)
    (nextUID : UID) : Fleet ι :=
  fun index => State.initial (jobs index) pods services nextUID

theorem fleetStep_self {ι : Type} [DecidableEq ι] {fleet : Fleet ι} {turn : ι × Action} :
    fleetStep fleet turn turn.1 = step (fleet turn.1) turn.2 :=
  if_pos rfl

theorem fleetStep_other {ι : Type} [DecidableEq ι] {fleet : Fleet ι} {turn : ι × Action}
    {index : ι} (other : index ≠ turn.1) :
    fleetStep fleet turn index = (fleet index).share (step (fleet turn.1) turn.2).world :=
  if_neg other

@[simp] theorem share_objects (state : State) (world : World) (kind : ClaimKind) :
    (state.share world).world.objects kind = world.objects kind := by
  cases kind <;> rfl

theorem DistinctObjects.share {kind : ClaimKind} {world : World}
    (distinct : DistinctObjects kind world) (state : State) :
    DistinctObjects kind (state.share world).world := by
  cases kind <;> exact ⟨distinct.uids, distinct.names, distinct.below⟩

theorem Consistent.share {mxjob : MXJob} {state : State} (consistent : Consistent mxjob state)
    (world : World) : Consistent mxjob (state.share world) :=
  ⟨⟨consistent.ordered, consistent.identity⟩, consistent.worker, consistent.goroutines⟩

/-! ### What a step does to a controller reference -/

section Owners

variable {kind : ClaimKind} {state : State} {action : Action} {object later : ObjectMeta}
  {owner : UID}

/-- A release takes away the references of one owner only. -/
theorem released_controlled {other uid : UID} (controlled : object.controlledBy owner = true)
    (different : other ≠ owner)
    (owners : later.ownerReferences = applyPatch (.release other uid) object.ownerReferences) :
    later.controlledBy owner = true := by
  unfold ObjectMeta.controlledBy getControllerOf at controlled ⊢
  rw [owners, applyPatch]
  generalize object.ownerReferences = references at controlled
  induction references with
  | nil => exact controlled
  | cons reference rest inductionHypothesis =>
      rw [List.find?_cons] at controlled
      rw [List.filter_cons]
      cases controls : reference.controller == some true with
      | true =>
          simp only [controls, Option.any_some, beq_iff_eq] at controlled
          have stays : (reference.uid != other) = true := by
            rw [controlled]
            simpa using different.symm
          rw [if_pos stays, List.find?_cons, controls]
          simpa using controlled
      | false =>
          rw [controls] at controlled
          split
          · rw [List.find?_cons, controls]
            exact inductionHypothesis controlled
          · exact inductionHypothesis controlled

/-- A job does not touch the controller reference of another owner. -/
theorem ObjectEvolves.controlled_other (evolves : ObjectEvolves kind state action object later)
    (controlled : object.controlledBy owner = true)
    (different : state.worker.input.object.uid ≠ owner) : later.controlledBy owner = true := by
  rcases evolves.owners with owners | ⟨patch, issued, _, accepted, owners⟩
  · rw [controlledBy_of_owners owners]
    exact controlled
  · obtain ⟨_, _, _, _, _, claim⟩ := sync_patch issued
    cases claim with
    | adopt => exact absurd (adopted_free accepted controlled).symm different
    | release => exact released_controlled controlled different owners

/-- A job adds no reference to another owner. -/
theorem ObjectEvolves.unreferenced_other (evolves : ObjectEvolves kind state action object later)
    (absent : ∀ reference ∈ object.ownerReferences, reference.uid ≠ owner)
    (different : state.worker.input.object.uid ≠ owner) :
    ∀ reference ∈ later.ownerReferences, reference.uid ≠ owner := by
  rcases evolves.owners with owners | ⟨patch, issued, _, _, owners⟩
  · rw [owners]
    exact absent
  · obtain ⟨_, _, _, _, _, claim⟩ := sync_patch issued
    intro reference member
    rw [owners] at member
    cases claim with
    | adopt =>
        rcases List.mem_append.mp member with kept | added
        · exact absent reference (List.mem_filter.mp kept).1
        · rw [List.mem_singleton.mp added]
          exact different
    | release => exact absent reference (List.mem_filter.mp member).1

end Owners

/-! ### Custody -/

/-- The job has adopted the object. -/
def HasAdopted (kind : ClaimKind) (mxjob : MXJob) (trace : List Call) (object : ObjectMeta) : Prop :=
  kind.patchCall object.name (.adopt (newControllerRef mxjob) object.uid) none ∈ trace

/-- What a Sync may rely on about the objects it has listed: what it claims is
under the job's control; what it is to release is, too, unless the job has let
go of it. -/
structure Guarded (kind : ClaimKind) (mxjob : MXJob) (objects : List ObjectMeta)
    (trace : List Call) (world : World) : Prop where
  unique : (objects.map fun object => object.uid).Nodup
  below : ∀ object ∈ objects, object.uid < world.nextUID
  claimed : ∀ object ∈ objects, selects mxjob object.labels = true →
    (object.controlledBy mxjob.uid = true ∨ HasAdopted kind mxjob trace object) →
      ∀ current ∈ world.objects kind, current.uid = object.uid →
        current.controlledBy mxjob.uid = true
  owned : ∀ object ∈ objects, object.controlledBy mxjob.uid = true →
    ∀ current ∈ world.objects kind, current.uid = object.uid →
      current.controlledBy mxjob.uid = true ∨
        ∀ reference ∈ current.ownerReferences, reference.uid ≠ mxjob.uid

/-- The Sync under way has listed the kind at most once and may rely on it. -/
structure Custody (kind : ClaimKind) (mxjob : MXJob) (state : State) : Prop where
  once : ∀ first second, HasListed kind state.worker.trace first →
    HasListed kind state.worker.trace second → first = second
  guarded : ∀ objects, HasListed kind state.worker.trace objects →
    Guarded kind mxjob objects state.worker.trace state.world

theorem custody_idle {kind : ClaimKind} {mxjob : MXJob} {state : State}
    (idle : state.worker.trace = []) : Custody kind mxjob state := by
  have nothing : ∀ objects, ¬ HasListed kind state.worker.trace objects := by
    rintro objects ⟨call, member, _⟩
    simp [idle] at member
  exact ⟨fun first _ listed => absurd listed (nothing first),
    fun objects listed => absurd listed (nothing objects)⟩

section Custody

variable {kind : ClaimKind} {mxjob : MXJob} {state other next : State} {action : Action}
  {objects : List ObjectMeta} {trace : List Call}

/-- An object with the uid of a listed one was there before the step. -/
theorem Guarded.earlier (guarded : Guarded kind mxjob objects trace state.world)
    (change : ObjectChange kind state action next) {object current : ObjectMeta}
    (member : object ∈ objects) (isCurrent : current ∈ next.world.objects kind)
    (same : current.uid = object.uid) :
    ∃ before ∈ state.world.objects kind, before.uid = object.uid ∧
      ObjectEvolves kind state action before current := by
  rcases change.origin current isCurrent with ⟨before, isBefore, evolves⟩ | fresh
  · exact ⟨before, isBefore, evolves.uid.symm.trans same, evolves⟩
  · exact absurd (same.symm.trans fresh) (Nat.ne_of_lt (guarded.below object member))

/-- A step of another job. -/
theorem Guarded.foreign (guarded : Guarded kind mxjob objects trace state.world)
    (different : state.worker.input.object.uid ≠ mxjob.uid)
    (change : ObjectChange kind state action next) :
    Guarded kind mxjob objects trace next.world where
  unique := guarded.unique
  below := fun object member => Nat.lt_of_lt_of_le (guarded.below object member) change.uids
  claimed := by
    intro object member selected origin current isCurrent same
    obtain ⟨before, isBefore, beforeUid, evolves⟩ := guarded.earlier change member isCurrent same
    exact evolves.controlled_other
      (guarded.claimed object member selected origin before isBefore beforeUid) different
  owned := by
    intro object member controlled current isCurrent same
    obtain ⟨before, isBefore, beforeUid, evolves⟩ := guarded.earlier change member isCurrent same
    rcases guarded.owned object member controlled before isBefore beforeUid with still | absent
    · exact Or.inl (evolves.controlled_other still different)
    · exact Or.inr (evolves.unreferenced_other absent different)

theorem Guarded.of_objects {world after : World} (guarded : Guarded kind mxjob objects trace world)
    (same : after.objects kind = world.objects kind) (uids : after.nextUID = world.nextUID) :
    Guarded kind mxjob objects trace after :=
  ⟨guarded.unique, uids ▸ guarded.below, same ▸ guarded.claimed, same ▸ guarded.owned⟩

/-- The custody of one job survives the steps of another. -/
theorem Custody.share (custody : Custody kind mxjob state)
    (shared : other.world.objects kind = state.world.objects kind)
    (uids : other.world.nextUID = state.world.nextUID)
    (different : other.worker.input.object.uid ≠ mxjob.uid)
    (change : ObjectChange kind other action next) :
    Custody kind mxjob (state.share next.world) where
  once := custody.once
  guarded := fun objects listed =>
    (((custody.guarded objects listed).of_objects shared uids).foreign different change).of_objects
      (share_objects state next.world kind) rfl

/-- Two listed objects with one uid are one. -/
theorem Custody.same (custody : Custody kind mxjob state) {first second : List ObjectMeta}
    (isFirst : HasListed kind state.worker.trace first)
    (isSecond : HasListed kind state.worker.trace second) {object found : ObjectMeta}
    (member : object ∈ first) (isFound : found ∈ second) (same : object.uid = found.uid) :
    object = found := by
  rw [← custody.once first second isFirst isSecond] at isFound
  exact List.inj_on_of_nodup_map (custody.guarded first isFirst).unique member isFound same

/-- The job's own step, seen from the objects listed before it. -/
theorem Custody.own (custody : Custody kind mxjob state)
    (same : SameObject mxjob state.worker.input.object)
    (change : ObjectChange kind state action next)
    (listed : HasListed kind state.worker.trace objects) :
    Guarded kind mxjob objects state.worker.trace next.world := by
  have guarded := custody.guarded objects listed
  refine ⟨guarded.unique, fun object member => ?_, ?_, ?_⟩
  · exact Nat.lt_of_lt_of_le (guarded.below object member) change.uids
  · intro object member selected origin current isCurrent sameUid
    obtain ⟨before, isBefore, beforeUid, evolves⟩ :=
      guarded.earlier change member isCurrent sameUid
    have controlled := guarded.claimed object member selected origin before isBefore beforeUid
    rcases evolves.owners with owners | ⟨patch, issued, patched, accepted, owners⟩
    · rw [controlledBy_of_owners owners]
      exact controlled
    · obtain ⟨found, isListed, source, isSource, _, claim⟩ := sync_patch issued
      cases claim with
      | adopt =>
          rw [same.newControllerRef_eq] at accepted owners
          exact adopted_controlled accepted owners
      | release _ refused =>
          -- only objects outside the selector are released
          obtain rfl := custody.same listed isListed member isSource (beforeUid.symm.trans patched)
          rw [same.selects_eq, selected] at refused
          cases refused
  · intro object member controlled current isCurrent sameUid
    obtain ⟨before, isBefore, beforeUid, evolves⟩ :=
      guarded.earlier change member isCurrent sameUid
    have known := guarded.owned object member controlled before isBefore beforeUid
    rcases evolves.owners with owners | ⟨patch, issued, patched, accepted, owners⟩
    · rw [controlledBy_of_owners owners, owners]
      exact known
    · obtain ⟨found, isListed, source, isSource, _, claim⟩ := sync_patch issued
      cases claim with
      | adopt orphan =>
          -- only orphans are adopted
          obtain rfl := custody.same listed isListed member isSource (beforeUid.symm.trans patched)
          rw [ObjectMeta.controlledBy, orphan] at controlled
          cases controlled
      | release =>
          right
          intro reference remains
          rw [owners, applyPatch, same.uid] at remains
          simpa using (List.mem_filter.mp remains).2

/-- At the listing everything is as just read. -/
theorem guarded_listing (distinct : DistinctObjects kind state.world)
    (unadopted : ∀ object, ¬ HasAdopted kind mxjob trace object) :
    Guarded kind mxjob (state.world.objects kind) trace state.world where
  unique := distinct.uids
  below := distinct.below
  claimed := by
    intro object member _ origin current isCurrent same
    rw [distinct.eq_of_uid isCurrent member same]
    exact origin.resolve_right (unadopted object)
  owned := by
    intro object member controlled current isCurrent same
    rw [distinct.eq_of_uid isCurrent member same]
    exact Or.inl controlled

/-- An adoption without error puts the listed object under control. -/
theorem Guarded.extend (guarded : Guarded kind mxjob objects state.worker.trace next.world)
    {outcome : Outcome} {call : Call} (distinct : DistinctObjects kind state.world)
    (reply : call.reply = (serve outcome call.request state.world).1)
    (world : next.world = (serve outcome call.request state.world).2) :
    Guarded kind mxjob objects (state.worker.trace ++ [call]) next.world where
  unique := guarded.unique
  below := guarded.below
  claimed := by
    intro object member selected origin current isCurrent same
    have older := guarded.claimed object member selected
    rcases origin with controlled | adopted
    · exact older (Or.inl controlled) current isCurrent same
    · rcases List.mem_append.mp adopted with before | last
      · exact older (Or.inr before) current isCurrent same
      · rw [world] at isCurrent
        exact ((serve_adopts distinct (List.mem_singleton.mp last).symm reply).2 current isCurrent
          same).1
  owned := guarded.owned

/-- Nothing is adopted before the kind is listed. -/
theorem unadopted_of_unlisted
    (unlisted : ∀ call ∈ state.worker.trace, kind.listing call = none) (object : ObjectMeta) :
    ¬ HasAdopted kind mxjob state.worker.trace object := by
  intro adopted
  obtain ⟨front, back, split, issued⟩ := state.worker.onPath.issues_of_mem adopted
  have asked : ∀ {name patch reply}, (kind.patchCall name patch reply).request =
      kind.patchRequest name patch := by
    intros
    cases kind <;> rfl
  rw [asked] at issued
  obtain ⟨_, ⟨call, member, listed⟩, _⟩ := sync_patch issued
  rw [unlisted call (by rw [split]; exact List.mem_append_left _ member)] at listed
  cases listed

/-- The job's own step. -/
theorem Custody.step (custody : Custody kind mxjob state)
    (distinct : DistinctObjects kind state.world)
    (same : SameObject mxjob state.worker.input.object) (stepped : Stepped state action next) :
    Custody kind mxjob next := by
  have change := object_change distinct stepped
  cases worker_step stepped with
  | rested worker =>
      refine ⟨worker ▸ custody.once, fun objects listed => ?_⟩
      rw [worker] at listed ⊢
      exact custody.own same change listed
  | reset trace => exact custody_idle trace
  | called outcome call working issued pending reply input trace world =>
      cases shown : kind.listing call with
      | some stored =>
          have unlisted : ∀ earlier ∈ state.worker.trace, kind.listing earlier = none := by
            rw [ClaimKind.listing_request shown] at issued
            exact sync_listing issued
          have only : ∀ objects, HasListed kind next.worker.trace objects →
              objects = state.world.objects kind := by
            rintro objects ⟨listing, member, listed⟩
            rw [trace] at member
            rcases List.mem_append.mp member with before | last
            · rw [unlisted listing before] at listed
              cases listed
            · rw [List.mem_singleton.mp last] at listed
              exact (serve_listing listed reply).1
          have unchanged : next.world = state.world := world.trans (serve_listing shown reply).2
          refine ⟨fun first second isFirst isSecond =>
            (only first isFirst).trans (only second isSecond).symm, fun objects listed => ?_⟩
          rw [only objects listed, unchanged, trace]
          refine guarded_listing distinct fun object adopted => ?_
          rcases List.mem_append.mp adopted with before | last
          · exact unadopted_of_unlisted unlisted object before
          · rw [← List.mem_singleton.mp last] at shown
            cases kind <;> cases shown
      | none =>
          have older : ∀ objects, HasListed kind next.worker.trace objects →
              HasListed kind state.worker.trace objects := by
            rintro objects ⟨listing, member, listed⟩
            rw [trace] at member
            rcases List.mem_append.mp member with before | last
            · exact ⟨listing, before, listed⟩
            · rw [List.mem_singleton.mp last, shown] at listed
              cases listed
          refine ⟨fun first second isFirst isSecond =>
            custody.once first second (older first isFirst) (older second isSecond),
            fun objects listed => ?_⟩
          rw [trace]
          exact (custody.own same change (older objects listed)).extend distinct reply world

end Custody

end MXNetOperator.Cluster
