import MXNetOperator.Cluster.Versions

/-!
Contract: what happens to the pods along a run.

Owns:
- `PodChange`, everything a step can do to the pod list, and `Evolves`, what it
  can do to one pod;
- `Distinct`: uids and names stay unique, and a uid is never used again;
- the rules by which facts about pods are carried along a run: `run_evolves`
  for one pod, `run_sinceListing` for what a Sync under way has listed.
-/

namespace MXNetOperator.Cluster

open MXNetOperator.Kube MXNetOperator.Api MXNetOperator.Interaction MXNetOperator.Mx

/-- Names and uids are unique, and the next uid is a new one. -/
structure Distinct (world : World) : Prop where
  uids : (world.pods.map fun pod => pod.uid).Nodup
  names : (world.pods.map fun pod => pod.name).Nodup
  below : ∀ pod ∈ world.pods, pod.uid < world.nextUID

theorem distinct_empty (mxjob : MXJob) (services : List Service) (nextUID : UID) :
    Distinct (State.initial mxjob [] services nextUID).world :=
  ⟨List.nodup_nil, List.nodup_nil, by simp [State.initial]⟩

theorem Distinct.eq_of_uid {world : World} (distinct : Distinct world) {first second : Pod}
    (isFirst : first ∈ world.pods) (isSecond : second ∈ world.pods)
    (same : first.uid = second.uid) : first = second :=
  List.inj_on_of_nodup_map distinct.uids isFirst isSecond same

theorem Distinct.eq_of_name {world : World} (distinct : Distinct world) {first second : Pod}
    (isFirst : first ∈ world.pods) (isSecond : second ∈ world.pods)
    (same : first.name = second.name) : first = second :=
  List.inj_on_of_nodup_map distinct.names isFirst isSecond same

/-! ### One step -/

/-- The Sync under way patches the owner references of the pod. -/
def Repatched (state : State) (pod after : Pod) : Prop :=
  ∃ patch, (sync state.worker.input).Issues state.worker.trace (.patchPod pod.name patch) ∧
    pod.uid = patchUID patch ∧ patchRejection patch (some pod.toObjectMeta) = none ∧
    after.ownerReferences = applyPatch patch pod.ownerReferences

/-- The pod is deleted, by somebody else or by the Sync under way. -/
def Doomed (state : State) (action : Action) (pod : Pod) : Prop :=
  (∃ time, action = .move (.podDelete pod.uid time)) ∨
    (sync state.worker.input).Issues state.worker.trace (.deletePod pod.name)

/-- One pod before and after a step. -/
structure Evolves (state : State) (action : Action) (pod after : Pod) : Prop where
  uid : after.uid = pod.uid
  name : after.name = pod.name
  labels : after.labels = pod.labels ∨ ∃ labels, action = .move (.podRelabel pod.uid labels)
  owners : after.ownerReferences = pod.ownerReferences ∨ Repatched state pod after
  deleting : pod.deletionTimestamp.isSome = true → after.deletionTimestamp.isSome = true
  doomed : after.deletionTimestamp = pod.deletionTimestamp ∨ Doomed state action pod
  phase : after.phase = pod.phase ∨ action = .move (.podPhase pod.uid after.phase)

theorem Evolves.refl (state : State) (action : Action) (pod : Pod) :
    Evolves state action pod pod :=
  ⟨rfl, rfl, Or.inl rfl, Or.inl rfl, id, Or.inl rfl, Or.inl rfl⟩

/-- Everything a step can do to the pods. -/
inductive PodChange (state : State) (action : Action) (next : State) : Prop where
  | edited (edit : Pod → Pod)
      (evolves : ∀ pod ∈ state.world.pods, Evolves state action pod (edit pod))
      (pods : next.world.pods = state.world.pods.map edit)
      (uids : state.world.nextUID ≤ next.world.nextUID)
  | removed (keep : Pod → Bool) (pods : next.world.pods = state.world.pods.filter keep)
      (uids : state.world.nextUID ≤ next.world.nextUID)
  | created (outcome : Outcome) (request : PodRequest) (reply : Option ApiError)
      (working : action = .work outcome)
      (issued : (sync state.worker.input).Issues state.worker.trace (.createPod request))
      (trace : next.worker.trace = state.worker.trace ++ [⟨.createPod request, reply⟩])
      (free : state.world.findPod outcome.name = none)
      (pods : next.world.pods = state.world.pods ++
        [createdPod state.world.job.ns outcome.name state.world.nextUID request])
      (uids : next.world.nextUID = state.world.nextUID + 1)
  | foreign (pod stored : Pod) (moving : action = .move (.podCreate pod))
      (copy : stored = { pod with uid := state.world.nextUID })
      (free : state.world.findPod stored.name = none)
      (pods : next.world.pods = state.world.pods ++ [stored])
      (uids : next.world.nextUID = state.world.nextUID + 1)

section Step

variable {state next : State} {action : Action}

theorem PodChange.unchanged (pods : next.world.pods = state.world.pods)
    (uids : state.world.nextUID ≤ next.world.nextUID) : PodChange state action next :=
  .edited id (fun pod _ => Evolves.refl state action pod) (by rw [pods, List.map_id]) uids

/-- An edit of the pod with one uid. -/
theorem PodChange.editPod {uid : UID} {edit : Pod → Pod}
    (evolves : ∀ pod : Pod, pod.uid = uid → Evolves state action pod (edit pod))
    (world : next.world = state.world.editPod uid edit) : PodChange state action next := by
  refine .edited (fun pod => if pod.uid = uid then edit pod else pod) ?_ ?_ ?_
  · intro pod _
    by_cases same : pod.uid = uid
    · rw [if_pos same]
      exact evolves pod same
    · rw [if_neg same]
      exact Evolves.refl state action pod
  · rw [world]
    rfl
  · rw [world]
    exact Nat.le_refl _

theorem patchPodMeta_evolves {name : String} {patch : OwnerPatch} {pod : Pod}
    (repatched : pod.name = name → Repatched state pod (patchPodMeta name patch pod)) :
    Evolves state action pod (patchPodMeta name patch pod) := by
  by_cases same : pod.name = name
  · have owners := repatched same
    unfold patchPodMeta patchMeta at owners ⊢
    rw [if_pos same] at owners ⊢
    exact ⟨rfl, rfl, Or.inl rfl, Or.inr owners, id, Or.inl rfl, Or.inl rfl⟩
  · unfold patchPodMeta patchMeta
    rw [if_neg same]
    exact Evolves.refl state action pod

theorem terminated_evolves {pod : Pod} (time : Time) (doomed : Doomed state action pod) :
    Evolves state action pod (terminated time pod) :=
  ⟨rfl, rfl, Or.inl rfl, Or.inl rfl, fun _ => rfl, Or.inr doomed, Or.inl rfl⟩

theorem deletePod_change {outcome : Outcome} {name : String}
    (issued : (sync state.worker.input).Issues state.worker.trace (.deletePod name))
    (world : next.world = state.world.deletePod outcome name) : PodChange state action next := by
  unfold World.deletePod at world
  split at world
  · exact .removed _ (by rw [world]) (by rw [world])
  · refine .edited _ ?_ (by rw [world]) (by rw [world])
    intro pod _
    split
    · rename_i named
      exact terminated_evolves _ (Or.inr (named ▸ issued))
    · exact Evolves.refl state action pod

theorem move_change (move : Move) (world : next.world = state.world.move move) :
    PodChange state (.move move) next := by
  cases move with
  | podPhase uid phase =>
      refine .editPod (fun pod same => ?_) world
      exact ⟨rfl, rfl, Or.inl rfl, Or.inl rfl, id, Or.inl rfl, Or.inr (by rw [same])⟩
  | podDelete uid time =>
      refine .editPod (fun pod same => terminated_evolves time ?_) world
      exact Or.inl ⟨time, by rw [same]⟩
  | podRemove uid => exact .removed _ (by rw [world]; rfl) (by rw [world]; exact Nat.le_refl _)
  | podRelabel uid labels =>
      refine .editPod (fun pod same => ?_) world
      exact ⟨rfl, rfl, Or.inr ⟨labels, by rw [same]⟩, Or.inl rfl, id, Or.inl rfl, Or.inl rfl⟩
  | podCreate pod =>
      simp only [World.move] at world
      split at world
      · exact .unchanged (by rw [world]) (by rw [world])
      · rename_i free
        refine .foreign pod _ rfl rfl (by simpa using free) ?_ ?_ <;> rw [world] <;> rfl
  | serviceCreate service =>
      simp only [World.move] at world
      split at world
      · exact .unchanged (by rw [world]) (by rw [world])
      · exact .unchanged (by rw [world]; rfl) (by rw [world]; exact Nat.le_succ _)
  | editSpec spec =>
      simp only [World.move] at world
      split at world
      · exact .unchanged (by rw [world]; rfl) (by rw [world]; exact Nat.le_refl _)
      · exact .unchanged (by rw [world]) (by rw [world])
  | editFinalizers finalizers =>
      simp only [World.move] at world
      split at world
      · exact .unchanged (by rw [world]; rfl) (by rw [world]; exact Nat.le_refl _)
      · exact .unchanged (by rw [world]) (by rw [world])
  | deleteJob time =>
      simp only [World.move] at world
      split at world
      · exact .unchanged (by rw [world]) (by rw [world])
      · split at world <;>
          exact .unchanged (by rw [world]) (by rw [world])
  | _ => exact .unchanged (by rw [world]; rfl) (by rw [world]; exact Nat.le_refl _)

/-- A finalizer goroutine touches no pod. -/
theorem finalizer_unchanged {task : FinalizerTask} {trace : List Call} {request : Request}
    {outcome : Outcome} {world after : World}
    (issued : (finalizer task).Issues trace request)
    (effect : PodEffect outcome world request after) :
    after.pods = world.pods ∧ world.nextUID ≤ after.nextUID := by
  cases effect with
  | untouched pods uids => exact ⟨pods, uids⟩
  | patched => cases finalizer_issues issued
  | created => cases finalizer_issues issued
  | deleted => cases finalizer_issues issued

theorem pod_change (distinct : Distinct state.world) (stepped : Stepped state action next) :
    PodChange state action next := by
  cases stepped with
  | idle => exact .unchanged rfl (Nat.le_refl _)
  | deliver => exact .unchanged rfl (Nat.le_refl _)
  | restart => exact .unchanged rfl (Nat.le_refl _)
  | move move => exact move_change move rfl
  | work outcome worker call issued pending reply input trace =>
      obtain ⟨request, answer⟩ := call
      have effect := serve_pods outcome request state.world
      revert effect
      generalize (serve outcome request state.world).2 = after
      intro effect
      cases effect with
      | untouched pods uids => exact .unchanged pods uids
      | patched name patch found isFound sameUid accepted =>
          refine .edited _ (fun pod isPod => patchPodMeta_evolves fun same => ?_) rfl
            (Nat.le_refl _)
          have isOne : pod = found := by
            refine distinct.eq_of_name isPod (List.mem_of_find?_eq_some isFound) ?_
            have named := List.find?_some isFound
            rw [same]
            exact (by simpa using named : found.name = name).symm
          subst isOne
          refine ⟨patch, same ▸ issued, sameUid, accepted, ?_⟩
          simp [patchPodMeta, patchMeta, same]
      | created pod free => exact .created outcome pod answer rfl issued trace free rfl rfl
      | deleted name => exact deletePod_change issued rfl
  | finalize index outcome thread next call found issued reply input trace =>
      obtain ⟨pods, uids⟩ := finalizer_unchanged issued (serve_pods outcome call.request state.world)
      exact .unchanged pods uids

end Step

/-! ### Identity -/

section Identity

variable {state next : State} {action : Action} {world after : World}

theorem Distinct.add (distinct : Distinct world) {pod : Pod} (uid : pod.uid = world.nextUID)
    (free : world.findPod pod.name = none) (pods : after.pods = world.pods ++ [pod])
    (uids : after.nextUID = world.nextUID + 1) : Distinct after where
  uids := by
    rw [pods, List.map_append, List.map_singleton, List.nodup_append_comm, List.singleton_append,
      List.nodup_cons]
    refine ⟨fun member => ?_, distinct.uids⟩
    obtain ⟨other, isOther, same⟩ := List.mem_map.mp member
    exact Nat.ne_of_lt (distinct.below other isOther) (same.trans uid)
  names := by
    rw [pods, List.map_append, List.map_singleton, List.nodup_append_comm, List.singleton_append,
      List.nodup_cons]
    refine ⟨fun member => ?_, distinct.names⟩
    obtain ⟨other, isOther, same⟩ := List.mem_map.mp member
    have unused := List.find?_eq_none.mp free other isOther
    exact unused (by simpa using same)
  below := by
    intro other member
    rw [pods] at member
    rw [uids]
    rcases List.mem_append.mp member with old | new
    · exact Nat.lt_succ_of_lt (distinct.below other old)
    · rw [List.mem_singleton.mp new, uid]
      exact Nat.lt_succ_self _

theorem Distinct.step (distinct : Distinct state.world) (change : PodChange state action next) :
    Distinct next.world := by
  cases change with
  | edited edit evolves pods uids =>
      have sameUid : state.world.pods.map (fun pod => (edit pod).uid) =
          state.world.pods.map fun pod => pod.uid :=
        List.map_congr_left fun pod member => (evolves pod member).uid
      have sameName : state.world.pods.map (fun pod => (edit pod).name) =
          state.world.pods.map fun pod => pod.name :=
        List.map_congr_left fun pod member => (evolves pod member).name
      refine ⟨?_, ?_, ?_⟩
      · rw [pods, List.map_map]
        exact sameUid ▸ distinct.uids
      · rw [pods, List.map_map]
        exact sameName ▸ distinct.names
      · intro after member
        rw [pods] at member
        obtain ⟨pod, isPod, rfl⟩ := List.mem_map.mp member
        rw [(evolves pod isPod).uid]
        exact Nat.lt_of_lt_of_le (distinct.below pod isPod) uids
  | removed keep pods uids =>
      refine ⟨?_, ?_, ?_⟩
      · rw [pods]
        exact distinct.uids.sublist (List.filter_sublist.map _)
      · rw [pods]
        exact distinct.names.sublist (List.filter_sublist.map _)
      · intro pod member
        rw [pods] at member
        exact Nat.lt_of_lt_of_le (distinct.below pod (List.mem_filter.mp member).1) uids
  | created outcome request reply working issued trace free pods uids =>
      exact distinct.add rfl free pods uids
  | foreign pod stored moving copy free pods uids =>
      exact distinct.add (by rw [copy]) free pods uids

/-- A pod after a step is a pod before it, or has a new uid. -/
theorem PodChange.origin (change : PodChange state action next) {later : Pod}
    (member : later ∈ next.world.pods) :
    (∃ pod ∈ state.world.pods, Evolves state action pod later) ∨ later.uid = state.world.nextUID := by
  cases change with
  | edited edit evolves pods uids =>
      rw [pods] at member
      obtain ⟨pod, isPod, rfl⟩ := List.mem_map.mp member
      exact Or.inl ⟨pod, isPod, evolves pod isPod⟩
  | removed keep pods uids =>
      rw [pods] at member
      exact Or.inl ⟨later, (List.mem_filter.mp member).1, Evolves.refl state action later⟩
  | created outcome request reply working issued trace free pods uids =>
      rw [pods] at member
      rcases List.mem_append.mp member with old | new
      · exact Or.inl ⟨later, old, Evolves.refl state action later⟩
      · exact Or.inr (by rw [List.mem_singleton.mp new]; rfl)
  | foreign pod stored moving copy free pods uids =>
      rw [pods] at member
      rcases List.mem_append.mp member with old | new
      · exact Or.inl ⟨later, old, Evolves.refl state action later⟩
      · exact Or.inr (by rw [List.mem_singleton.mp new, copy])

theorem PodChange.nextUID_le (change : PodChange state action next) :
    state.world.nextUID ≤ next.world.nextUID := by
  cases change with
  | edited edit evolves pods uids => exact uids
  | removed keep pods uids => exact uids
  | created outcome request reply working issued trace free pods uids =>
      exact uids ▸ Nat.le_succ _
  | foreign pod stored moving copy free pods uids => exact uids ▸ Nat.le_succ _

end Identity

/-! ### Along a run -/

section Run

variable {allowed : State → Action → Prop} {first state : State} {past : List State}

theorem run_distinct (initial : Distinct first.world) (run : Run step allowed first past state) :
    Distinct state.world :=
  run.invariant (fun current => Distinct current.world) initial fun current action distinct _ =>
    distinct.step (pod_change distinct (step_stepped current action))

/-- Rule for one pod: what every permitted step does to a pod relates each pod
of an earlier state to the pod with its uid now. -/
theorem run_evolves {related : Pod → Pod → Prop} (refl : ∀ pod, related pod pod)
    (trans : ∀ {pod middle later}, related pod middle → related middle later → related pod later)
    (evolves : ∀ past current action pod later, Run step allowed first past current →
      allowed current action → pod ∈ current.world.pods → Evolves current action pod later →
        related pod later)
    (initial : Distinct first.world) (run : Run step allowed first past state) :
    ∀ earlier ∈ past, ∀ pod ∈ earlier.world.pods, pod.uid < state.world.nextUID ∧
      ∀ later ∈ state.world.pods, later.uid = pod.uid → related pod later := by
  refine run.historyInvariant (fun past current => ∀ earlier ∈ past, ∀ pod ∈ earlier.world.pods,
    pod.uid < current.world.nextUID ∧
      ∀ later ∈ current.world.pods, later.uid = pod.uid → related pod later) (by simp) ?_
  intro past current action reached known permitted earlier member pod isPod
  have distinct := run_distinct initial reached
  have change := pod_change distinct (step_stepped current action)
  -- what is known of the pod in the state before the step
  have before : pod.uid < current.world.nextUID ∧
      ∀ later ∈ current.world.pods, later.uid = pod.uid → related pod later := by
    rcases List.mem_cons.mp member with rfl | older
    · refine ⟨distinct.below pod isPod, fun later isLater same => ?_⟩
      rw [distinct.eq_of_uid isLater isPod same]
      exact refl pod
    · exact known earlier older pod isPod
  refine ⟨Nat.lt_of_lt_of_le before.1 change.nextUID_le, fun later isLater same => ?_⟩
  rcases change.origin isLater with ⟨middle, isMiddle, step⟩ | fresh
  · exact trans (before.2 middle isMiddle (by rw [← step.uid, same]))
      (evolves past current action middle later reached permitted isMiddle step)
  · exact absurd (same.symm.trans fresh) (Nat.ne_of_lt before.1)

/-- The same pod later on. -/
structure SamePod (pod later : Pod) : Prop where
  name : later.name = pod.name
  labels : later.labels = pod.labels
  deleting : pod.deletionTimestamp.isSome = true → later.deletionTimestamp.isSome = true

theorem SamePod.refl (pod : Pod) : SamePod pod pod := ⟨rfl, rfl, id⟩

theorem SamePod.trans {pod middle later : Pod} (left : SamePod pod middle)
    (right : SamePod middle later) : SamePod pod later :=
  ⟨right.name.trans left.name, right.labels.trans left.labels, fun before =>
    right.deleting (left.deleting before)⟩

/-- Nobody edits the labels of a pod. -/
def keepsLabels : Action → Bool
  | .move (.podRelabel _ _) => false
  | _ => true

theorem Evolves.samePod {state : State} {action : Action} {pod later : Pod}
    (evolves : Evolves state action pod later) (unlabelled : keepsLabels action = true) :
    SamePod pod later := by
  refine ⟨evolves.name, ?_, evolves.deleting⟩
  rcases evolves.labels with same | ⟨labels, rfl⟩
  · exact same
  · cases unlabelled

theorem run_samePod
    (unlabelled : ∀ current action, allowed current action → keepsLabels action = true)
    (initial : Distinct first.world) (run : Run step allowed first past state) :
    ∀ earlier ∈ past, ∀ pod ∈ earlier.world.pods, pod.uid < state.world.nextUID ∧
      ∀ later ∈ state.world.pods, later.uid = pod.uid → SamePod pod later :=
  run_evolves SamePod.refl SamePod.trans
    (fun _ current action _ _ _ permitted _ evolves =>
      evolves.samePod (unlabelled current action permitted)) initial run

end Run

/-! ### What the Sync under way has listed -/

/-- What a step can do to the worker. -/
inductive WorkerStep (state : State) (action : Action) (next : State) : Prop where
  | rested (worker : next.worker = state.worker)
  | reset (trace : next.worker.trace = [])
  | called (outcome : Outcome) (call : Call) (working : action = .work outcome)
      (issued : (sync state.worker.input).Issues state.worker.trace call.request)
      (pending : state.worker.pending = some call.request)
      (reply : call.reply = (serve outcome call.request state.world).1)
      (input : next.worker.input = state.worker.input)
      (trace : next.worker.trace = state.worker.trace ++ [call])
      (world : next.world = (serve outcome call.request state.world).2)

theorem worker_step {state next : State} {action : Action}
    (stepped : Stepped state action next) : WorkerStep state action next := by
  cases stepped with
  | idle => exact .rested rfl
  | deliver => exact .reset rfl
  | restart => exact .reset rfl
  | move => exact .rested rfl
  | work outcome worker call issued pending reply input trace =>
      exact .called outcome call rfl issued pending reply input trace rfl
  | finalize => exact .rested rfl

/-- The update by which the Sync under way changes the stored status. -/
structure StatusStored (state next : State) (after : MXJob) : Prop where
  issued : (sync state.worker.input).Issues state.worker.trace (.updateMXJob after)
  reconcilable : Reconcilable state.worker.input
  current : state.worker.input.object = state.world.job
  concluded : ∃ pods, Concluded state.world.job pods after state.worker.trace
  status : next.world.job.status = after.status

theorem JobStep.status_stored {state next : State} {action : Action}
    (jobStep : JobStep state action next) (worker : WorkerStep state action next) :
    next.world.job.status = state.world.job.status ∨ ∃ after, StatusStored state next after := by
  cases jobStep with
  | kept job older => exact Or.inl (by rw [job])
  | synced outcome after pods reconcilable current concluded present stored reply trace log =>
      right
      refine ⟨after, ?_, reconcilable, current, ⟨pods, concluded⟩, by rw [stored]; rfl⟩
      cases worker with
      | rested worker =>
          rw [worker] at trace
          simp at trace
      | reset empty => simp [empty] at trace
      | called _ call _ issued _ _ _ extended _ =>
          rw [extended, List.append_cancel_left_eq, List.singleton_inj] at trace
          rw [trace] at issued
          exact issued
  | cleared index outcome thread _ current _ _ stored =>
      left
      rw [stored, ← current]
      rfl
  | edited move edited => exact Or.inl edited.status

/-- The exchange lists these pods. -/
def lists (listed : List Pod) : Call := ⟨.listPods, .ok listed⟩

theorem serve_lists {outcome : Outcome} {world : World} {call : Call} {listed : List Pod}
    (reply : call.reply = (serve outcome call.request world).1) (same : call = lists listed) :
    listed = world.pods ∧ (serve outcome call.request world).2 = world := by
  subst same
  exact ⟨serve_listPods reply.symm, rfl⟩

section Listing

variable {allowed : State → Action → Prop} {first state : State} {past : List State}

/-- Rule for facts about what the Sync under way has listed: they hold at the
listing and are kept by every later step of that Sync or beside it. -/
theorem run_sinceListing (holds : List State → List Pod → State → Prop)
    (idle : first.worker.trace = [])
    (listing : ∀ past current outcome next, Run step allowed first past current →
      allowed current (.work outcome) → current.worker.pending = some .listPods →
      next.world = current.world → next.worker.input = current.worker.input →
      next.worker.trace = current.worker.trace ++ [lists current.world.pods] →
        holds (current :: past) current.world.pods next)
    (kept : ∀ past current action listed more, Run step allowed first past current →
      allowed current action → lists listed ∈ current.worker.trace → holds past listed current →
      (step current action).worker.trace = current.worker.trace ++ more →
      (step current action).worker.input = current.worker.input →
        holds (current :: past) listed (step current action))
    (run : Run step allowed first past state) :
    ∀ listed, lists listed ∈ state.worker.trace → holds past listed state := by
  refine run.historyInvariant (fun past current =>
    ∀ listed, lists listed ∈ current.worker.trace → holds past listed current) ?_ ?_
  · simp [idle]
  · intro past current action reached known permitted listed member
    cases worker_step (step_stepped current action) with
    | rested worker =>
        rw [worker] at member
        exact kept past current action listed [] reached permitted member (known listed member)
          (by rw [worker, List.append_nil]) (by rw [worker])
    | reset trace => simp [trace] at member
    | called outcome call working issued pending reply input trace world =>
        rw [trace] at member
        rcases List.mem_append.mp member with earlier | last
        · exact kept past current action listed [call] reached permitted earlier
            (known listed earlier) trace input
        · have same := (List.mem_singleton.mp last).symm
          obtain ⟨rfl, unchanged⟩ := serve_lists reply same
          subst working
          have asked : call.request = .listPods := by rw [same]; rfl
          exact listing past current outcome _ reached permitted (by rw [pending, asked])
            (world.trans unchanged) input (by rw [trace, same])

/-- What the Sync under way has listed were the pods of an earlier state. -/
theorem run_listing (idle : first.worker.trace = []) (run : Run step allowed first past state) :
    ∀ listed, lists listed ∈ state.worker.trace →
      ∃ earlier ∈ past, earlier.world.pods = listed := by
  refine run.historyInvariant (fun past current => ∀ listed,
    lists listed ∈ current.worker.trace → ∃ earlier ∈ past, earlier.world.pods = listed) ?_ ?_
  · simp [idle]
  · intro past current action reached known permitted listed member
    have older : lists listed ∈ current.worker.trace →
        ∃ earlier ∈ current :: past, earlier.world.pods = listed := by
      intro before
      obtain ⟨earlier, isEarlier, pods⟩ := known listed before
      exact ⟨earlier, List.mem_cons_of_mem current isEarlier, pods⟩
    cases worker_step (step_stepped current action) with
    | rested worker => exact older (worker ▸ member)
    | reset trace => simp [trace] at member
    | called outcome call working issued pending reply input trace world =>
        rw [trace] at member
        rcases List.mem_append.mp member with earlier | last
        · exact older earlier
        · obtain ⟨rfl, _⟩ := serve_lists reply (List.mem_singleton.mp last).symm
          exact ⟨current, List.mem_cons_self, rfl⟩

end Listing

end MXNetOperator.Cluster
