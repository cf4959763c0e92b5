import MXNetOperator.Cluster.System
import MXNetOperator.Interaction.ForkJoin

/-!
Contract: `createPods` and `deletePods` stand for goroutines that run side by
side.

The source forks one goroutine for each pod.  For every interleaving of their
calls, of the mutex, of the channel and of the wait group, the outcome at the
join is one that the sequential programs return, with the calls in the order in
which the API server saw them.
-/

namespace MXNetOperator.Property

open MXNetOperator.Kube MXNetOperator.Api MXNetOperator.Interaction MXNetOperator.Mx

/-! ### The forks -/

/-- The goroutines of `reconcilePods` share the counter `active`. -/
def creationFork (mxjob : MXJob) (rtype : MXReplicaType) (spec : MXReplicaSpec) (diff : Nat) :
    Fork Request Request.Reply Abort Int32 GoError where
  size := diff
  call := fun _ => createNewPod mxjob rtype spec
  update := fun _ active => some (active - 1)
  body
    | none => [.finish]
    | some _ => [.lock, .load, .store, .unlock, .send, .finish]
  wellFormed
    | none => .finish
    | some _ => .critical (.send .finish)
  sendsErrors
    | none => rfl
    | some _ => rfl

/-- `RealPodControl.DeletePod`. -/
def deletePod (pod : Pod) : Go (Option GoError) := do
  let reply ← ask (.deletePod pod.name)
  pure ((reply : Option ApiError).map fun error =>
    .plain ("unable to delete pods: " ++ error.message))

/-- The goroutines of `terminateMXJob` share the job. -/
def deletionFork (pods : List Pod) : Fork Request Request.Reply Abort MXJob GoError where
  size := pods.length
  call := fun index => (pods[index]?).elim (pure none) deletePod
  update := fun index mxjob => (pods[index]?).elim (some mxjob) (recordGone mxjob)
  body
    | none => [.lock, .load, .store, .unlock, .finish]
    | some _ => [.send, .lock, .load, .store, .unlock, .finish]
  wellFormed
    | none => .critical .finish
    | some _ => .send (.critical .finish)
  sendsErrors
    | none => rfl
    | some _ => rfl

/-! ### Creation -/

section Creation

variable {mxjob : MXJob} {rtype : MXReplicaType} {spec : MXReplicaSpec} {diff : Nat}

def isCreation (call : Call) : Bool :=
  match call.request with
  | .createPod _ => true
  | _ => false

/-- The goroutines one after the other. -/
theorem createPods_inOrder {order : List Nat} {trace : Nat → List Call}
    {result : Nat → Option GoError}
    (returned : ∀ index ∈ order, (createNewPod mxjob rtype spec).Returns (trace index) (result index)) :
    (createPods mxjob rtype spec order.length).Returns (order.map trace).flatten
      (order.filterMap result) := by
  induction order with
  | nil => exact Program.returns_pure.mpr ⟨rfl, rfl⟩
  | cons first rest inductionHypothesis =>
      have later := inductionHypothesis fun index member =>
        returned index (List.mem_cons_of_mem _ member)
      simp only [List.length_cons, createPods, Program.returns_bind, Program.returns_pure]
      refine ⟨result first, trace first, _, rfl, returned first List.mem_cons_self,
        rest.filterMap result, (rest.map trace).flatten, [], by simp, later, rfl, ?_⟩
      cases error : result first with
      | none => simp [error]
      | some value => simp [error]

theorem foldlM_decrement (stores : List Nat) (active : Int32) :
    stores.foldlM (fun shared _ => some (shared - 1)) active =
      some (active - Int32.ofNat stores.length) := by
  induction stores generalizing active with
  | nil => simp
  | cons _ rest inductionHypothesis =>
      rw [List.foldlM_cons, Option.bind_eq_bind, Option.bind_some, inductionHypothesis,
        List.length_cons, Int32.sub_sub, Int32.ofNat_add, Int32.add_comm]
      rfl

/-- Whatever the interleaving, the goroutines that create pods end as
`createPods` does: `active` has lost one for each error, the channel has exactly
the errors, and the API server saw the creations of the sequential program. -/
theorem creation_linearizable
    {allowed : Fork.State (creationFork mxjob rtype spec diff) →
      Fork.Action Request Request.Reply → Prop}
    {past : List (Fork.State (creationFork mxjob rtype spec diff))} {active : Int32}
    {state : Fork.State (creationFork mxjob rtype spec diff)}
    (run : Run Fork.step allowed (Fork.initial _ active) past state)
    (joined : state.waiting = 0) :
    ∃ trace errors, (createPods mxjob rtype spec diff).Returns trace errors ∧
      errors.Perm state.channel ∧ state.shared = active - Int32.ofNat errors.length ∧
      trace.filter isCreation = (state.log.map Prod.snd).filter isCreation := by
  have sound := Fork.run_sound run
  have returned : ∀ index, index < diff → (createNewPod mxjob rtype spec).Returns
      (state.goroutines index).thread.trace (state.goroutines index).error := by
    intro index bound
    obtain ⟨result, isResult, returns, _⟩ := sound.joined joined bound
    rw [Fork.Goroutine.error, isResult]
    exact returns
  have once : ∀ index, index < diff →
      ((state.goroutines index).thread.trace.filter isCreation).length = 1 := by
    intro index bound
    obtain ⟨env, order, pod, reply, same, _⟩ := createNewPod_returns (returned index bound)
    rw [same]
    rfl
  have perm := sound.order_perm once
  have inOrder := createPods_inOrder fun index member =>
    returned index (List.mem_range.mp (perm.mem_iff.mp member))
  rw [perm.length_eq, List.length_range] at inOrder
  have errors := (perm.filterMap fun index => (state.goroutines index).error).trans
    (sound.channel_perm joined).symm
  refine ⟨_, _, inOrder, errors, ?_, sound.order_trace once⟩
  -- those who stored are those who failed
  have stores := (sound.marks_perm sound.stored.counts joined fun result => by
    cases result with
    | none => exact Nat.zero_le 1
    | some value => exact Nat.le_refl 1).length_eq
  have failures : state.stores.length = state.channel.length := by
    rw [stores, (sound.channel_perm joined).length_eq, List.length_filterMap_eq_countP,
      ← List.countP_eq_length_filter]
    apply List.countP_congr
    intro index _
    cases (state.goroutines index).error with
    | none => simp [creationFork]
    | some value => simp [creationFork]
  have shared := sound.stored.shared
  change state.stores.foldlM (fun shared _ => some (shared - 1)) active = _ at shared
  rw [foldlM_decrement, failures, ← errors.length_eq] at shared
  exact (Option.some.inj shared).symm

/-- Answers of the API server in a cluster with these pods. -/
def sampleReply (pods : List Pod) (outcome : Cluster.Outcome) (request : Request) :
    request.Reply :=
  (Cluster.serve outcome request { Cluster.sampleStart.world with pods := pods }).1

/-- Two goroutines create a worker each; the second one fails first. -/
def twoCreations : List (Fork.Action Request Request.Reply) :=
  [.answer 0 (sampleReply [] (.success "")), .answer 1 (sampleReply [] (.success "")),
    .answer 1 (sampleReply [] (.error .forbidden)),
    .answer 0 (sampleReply [] (.success "worker-1")),
    .returnCall 1, .returnCall 0, .run 1, .run 1, .run 0, .run 1, .run 1, .run 1, .run 1]

def afterCreations : Fork.State (creationFork Cluster.sampleJob .worker (Cluster.sampleReplica 2) 2) :=
  twoCreations.foldl Fork.step (Fork.initial _ 2)

theorem creation_linearizable_twoCreations :
    ∃ trace errors,
      (createPods Cluster.sampleJob .worker (Cluster.sampleReplica 2) 2).Returns trace errors ∧
        errors.length = 1 ∧ afterCreations.shared = 1 := by
  have run : Run Fork.step (fun _ _ => True) (Fork.initial _ 2) _ afterCreations :=
    Run.start.extend (by simp [twoCreations, Run.Permits])
  obtain ⟨trace, errors, returned, perm, shared, _⟩ := creation_linearizable run (by decide +kernel)
  have single : errors.length = 1 := by
    rw [perm.length_eq]
    decide +kernel
  refine ⟨trace, errors, returned, single, ?_⟩
  rw [shared, single]
  rfl

/-- The goroutines that create pods cannot block each other for good: once their
calls have returned, they reach the join. -/
theorem creation_joins
    {allowed : Fork.State (creationFork mxjob rtype spec diff) →
      Fork.Action Request Request.Reply → Prop}
    {past : List (Fork.State (creationFork mxjob rtype spec diff))} {active : Int32}
    {state : Fork.State (creationFork mxjob rtype spec diff)}
    (run : Run Fork.step allowed (Fork.initial _ active) past state)
    (called : ∀ index, index < diff → (state.goroutines index).result.isSome = true) :
    ∃ indices : List Nat, ((indices.map Fork.Action.run).foldl Fork.step state).waiting = 0 := by
  have total : ∀ index shared, (fun _ : Int32 => True) shared →
      ∃ after, (creationFork mxjob rtype spec diff).update index shared = some after ∧
        (fun _ : Int32 => True) after :=
    fun _ shared _ => ⟨shared - 1, rfl, trivial⟩
  obtain ⟨inCall, now⟩ := Fork.run_total run trivial total
  exact Fork.exists_join (Fork.run_sound run) inCall now total called

theorem creation_joins_twoCreations :
    ∃ indices : List Nat,
      ((indices.map Fork.Action.run).foldl Fork.step
        ((twoCreations.take 6).foldl Fork.step (Fork.initial
          (creationFork Cluster.sampleJob .worker (Cluster.sampleReplica 2) 2) 2))).waiting = 0 := by
  have run : Run Fork.step (fun _ _ => True)
      (Fork.initial (creationFork Cluster.sampleJob .worker (Cluster.sampleReplica 2) 2) 2) _
      ((twoCreations.take 6).foldl Fork.step (Fork.initial _ 2)) :=
    Run.start.extend (by simp [twoCreations, Run.Permits])
  exact creation_joins run (by decide +kernel)

end Creation

/-! ### Deletion -/

section Deletion

variable {mxjob after : MXJob} {pods : List Pod}

theorem updateMXReplicaStatuses_comm {left right : MXReplicaType} (different : left ≠ right)
    (mxjob : MXJob) (first second : MXReplicaStatus) :
    updateMXReplicaStatuses (updateMXReplicaStatuses mxjob left first) right second =
      updateMXReplicaStatuses (updateMXReplicaStatuses mxjob right second) left first := by
  cases left <;> cases right <;> first | rfl | exact absurd rfl different

/-- Two pods can be recorded in either order. -/
theorem recordGone_comm (mxjob : MXJob) (first second : Pod) :
    ((recordGone mxjob first).bind fun middle => recordGone middle second) =
      (recordGone mxjob second).bind fun middle => recordGone middle first := by
  unfold recordGone
  cases replicaTypeOf first.labels with
  | none => cases replicaTypeOf second.labels <;> simp
  | some left =>
      cases replicaTypeOf second.labels with
      | none => simp
      | some right =>
          by_cases same : left = right
          · rw [same]
          · have back : right ≠ left := Ne.symm same
            cases ofLeft : getMXReplicaStatus mxjob left with
            | none =>
                cases ofRight : getMXReplicaStatus mxjob right with
                | none => simp [ofLeft, ofRight]
                | some status => simp [ofLeft, ofRight, getMXReplicaStatus_update_other same]
            | some first =>
                cases ofRight : getMXReplicaStatus mxjob right with
                | none => simp [ofLeft, ofRight, getMXReplicaStatus_update_other back]
                | some second =>
                    simp [ofLeft, ofRight, getMXReplicaStatus_update_other same,
                      getMXReplicaStatus_update_other back, updateMXReplicaStatuses_comm same]

theorem recordAll_perm {left right : List Pod} (perm : left.Perm right) (mxjob : MXJob) :
    left.foldlM recordGone mxjob = right.foldlM recordGone mxjob := by
  induction perm generalizing mxjob with
  | nil => rfl
  | cons pod _ inductionHypothesis =>
      simp only [List.foldlM_cons, inductionHypothesis]
  | swap first second rest =>
      have commutes := recordGone_comm mxjob second first
      simp only [List.foldlM_cons, Option.bind_eq_bind]
      rw [← Option.bind_assoc, commutes, Option.bind_assoc]
  | trans _ _ firstHypothesis secondHypothesis =>
      rw [firstHypothesis, secondHypothesis]

/-- The updates of the goroutines are those of their pods. -/
theorem foldlM_update (order : List Nat) (mxjob : MXJob) :
    order.foldlM (fun shared index => (deletionFork pods).update index shared) mxjob =
      (order.filterMap (pods[·]?)).foldlM recordGone mxjob := by
  induction order generalizing mxjob with
  | nil => rfl
  | cons index rest inductionHypothesis =>
      simp only [List.foldlM_cons, List.filterMap_cons, deletionFork]
      cases found : pods[index]? with
      | none => exact inductionHypothesis mxjob
      | some pod =>
          simp only [Option.elim_some, List.foldlM_cons]
          congr 1
          funext middle
          exact inductionHypothesis middle

theorem filterMap_getElem_range (pods : List Pod) :
    (List.range pods.length).filterMap (pods[·]?) = pods := by
  induction pods with
  | nil => rfl
  | cons pod rest inductionHypothesis =>
      rw [List.length_cons, List.range_succ_eq_map, List.filterMap_cons, List.filterMap_map]
      simpa [Function.comp_def] using inductionHypothesis

/-- The goroutines one after the other. -/
theorem deletePods_inOrder {order : List Nat} {trace : Nat → List Call}
    {result : Nat → Option GoError}
    (returned : ∀ index ∈ order, ∃ pod, pods[index]? = some pod ∧
      (deletePod pod).Returns (trace index) (result index))
    (recorded : (order.filterMap (pods[·]?)).foldlM recordGone mxjob = some after) :
    (deletePods mxjob (order.filterMap (pods[·]?))).Returns (order.map trace).flatten
      (after, order.filterMap result) := by
  induction order generalizing mxjob with
  | nil =>
      cases recorded
      exact Program.returns_pure.mpr ⟨rfl, rfl⟩
  | cons index rest inductionHypothesis =>
      obtain ⟨pod, found, deleted⟩ := returned index List.mem_cons_self
      simp only [List.filterMap_cons, found, List.foldlM_cons, Option.bind_eq_bind] at recorded ⊢
      obtain ⟨middle, first, later⟩ := Option.bind_eq_some_iff.mp recorded
      have remaining := inductionHypothesis
        (fun other member => returned other (List.mem_cons_of_mem _ member)) later
      simp only [deletePod, Program.returns_bind, returns_ask, Program.returns_pure] at deleted
      obtain ⟨reply, _, _, isTrace, rfl, rfl, isResult⟩ := deleted
      simp only [deletePods, Program.returns_bind, returns_ask, returns_deref,
        Program.returns_pure]
      refine ⟨reply, _, (rest.map trace).flatten, ?_, rfl, middle, [], _, rfl, ⟨rfl, first⟩, _,
        (rest.map trace).flatten, [], by simp, remaining, rfl, ?_⟩
      · rw [List.map_cons, List.flatten_cons, isTrace]
        rfl
      · rw [isResult]
        cases result index <;> rfl

/-- Whatever the interleaving, the goroutines that delete pods end as
`deletePods` does on some order of the pods: the same calls in the same order,
the same counters, and the same errors. -/
theorem deletion_linearizable
    {allowed : Fork.State (deletionFork pods) → Fork.Action Request Request.Reply → Prop}
    {past : List (Fork.State (deletionFork pods))} {state : Fork.State (deletionFork pods)}
    (run : Run Fork.step allowed (Fork.initial _ mxjob) past state) (joined : state.waiting = 0) :
    ∃ order errors, order.Perm pods ∧
      (deletePods mxjob order).Returns (state.log.map Prod.snd) (state.shared, errors) ∧
      errors.Perm state.channel := by
  have sound := Fork.run_sound run
  have returned : ∀ index, index < pods.length → ∃ pod, pods[index]? = some pod ∧
      (deletePod pod).Returns (state.goroutines index).thread.trace
        (state.goroutines index).error := by
    intro index bound
    obtain ⟨result, isResult, returns, _⟩ := sound.joined joined bound
    have found : pods[index]? = some pods[index] := List.getElem?_eq_getElem bound
    refine ⟨pods[index], found, ?_⟩
    rw [Fork.Goroutine.error, isResult]
    simpa [deletionFork, found] using returns
  have once : ∀ index, index < pods.length →
      ((state.goroutines index).thread.trace.filter fun _ => true).length = 1 := by
    intro index bound
    obtain ⟨pod, _, deleted⟩ := returned index bound
    simp only [deletePod, Program.returns_bind, returns_ask, Program.returns_pure] at deleted
    obtain ⟨reply, _, _, isTrace, rfl, rfl, _⟩ := deleted
    rw [isTrace]
    rfl
  have perm := sound.order_perm once
  have trace := sound.order_trace once
  simp only [List.filter_true] at perm trace
  -- every goroutine stores once, in some order
  have stores := sound.marks_perm sound.stored.counts joined fun result => by
    cases result with
    | none => exact Nat.le_refl 1
    | some value => exact Nat.le_refl 1
  have everybody : ((List.range (deletionFork pods).size).filter fun index =>
      ((deletionFork pods).body (state.goroutines index).error).contains .store) =
        List.range pods.length := by
    apply List.filter_eq_self.mpr
    intro index _
    cases (state.goroutines index).error <;> rfl
  rw [everybody] at stores
  have shared := sound.stored.shared
  rw [foldlM_update, recordAll_perm ((stores.trans perm.symm).filterMap _)] at shared
  have inOrder := deletePods_inOrder (fun index member =>
    returned index (List.mem_range.mp (perm.mem_iff.mp member))) shared
  rw [trace] at inOrder
  refine ⟨_, _, ?_, inOrder, ?_⟩
  · have shuffled := perm.filterMap (pods[·]?)
    rw [show (deletionFork pods).size = pods.length from rfl, filterMap_getElem_range] at shuffled
    exact shuffled
  · exact (perm.filterMap fun index => (state.goroutines index).error).trans
      (sound.channel_perm joined).symm

/-- A worker of the small job. -/
def sampleWorker (name : String) (uid : UID) : Pod :=
  Cluster.createdPod "default" name uid
    ⟨genLabels Cluster.sampleJob (some .worker), [newControllerRef Cluster.sampleJob], []⟩

/-- The small job with counters. -/
def countedJob : MXJob :=
  [.scheduler, .server, .worker].foldl initializeMXReplicaStatuses Cluster.sampleJob

def sampleWorkers : List Pod := [sampleWorker "worker-1" 1, sampleWorker "worker-2" 2]

/-- Two workers are deleted side by side; the first deletion fails. -/
def twoDeletions : List (Fork.Action Request Request.Reply) :=
  [.answer 1 (sampleReply sampleWorkers (.success "")),
    .answer 0 (sampleReply sampleWorkers (.error .forbidden)),
    .returnCall 0, .returnCall 1, .run 1, .run 0, .run 1, .run 0, .run 1, .run 1, .run 1,
    .run 0, .run 0, .run 0, .run 0, .run 0]

def afterDeletions : Fork.State (deletionFork sampleWorkers) :=
  twoDeletions.foldl Fork.step (Fork.initial _ countedJob)

theorem deletion_linearizable_twoDeletions :
    ∃ order errors, order.Perm sampleWorkers ∧
      (deletePods countedJob order).Returns (afterDeletions.log.map Prod.snd)
        (afterDeletions.shared, errors) ∧ errors.length = 1 := by
  have run : Run Fork.step (fun _ _ => True) (Fork.initial _ countedJob) _ afterDeletions :=
    Run.start.extend (by simp [twoDeletions, Run.Permits])
  obtain ⟨order, errors, shuffled, returned, perm⟩ :=
    deletion_linearizable run (by decide +kernel)
  refine ⟨order, errors, shuffled, returned, ?_⟩
  rw [perm.length_eq]
  decide +kernel

theorem deletionCall_never_aborts (index : Nat) (trace : List Call) (reason : Abort) :
    ¬ ((deletionFork pods).call index).Aborts trace reason := by
  show ¬ ((pods[index]?).elim (pure none) deletePod).Aborts trace reason
  cases pods[index]? with
  | none => exact Program.aborts_pure
  | some pod => simp [deletePod]

/-- If every replica type has a status, the goroutines that delete pods never
panic, and they cannot block each other for good: once their calls have returned,
they reach the join. -/
theorem deletion_joins
    {allowed : Fork.State (deletionFork pods) → Fork.Action Request Request.Reply → Prop}
    {past : List (Fork.State (deletionFork pods))} {state : Fork.State (deletionFork pods)}
    (run : Run Fork.step allowed (Fork.initial _ mxjob) past state)
    (statuses : ∀ rtype, getMXReplicaStatus mxjob rtype ≠ none) :
    state.crashed = false ∧
      ((∀ index, index < pods.length → (state.goroutines index).result.isSome = true) →
        ∃ indices : List Nat,
          ((indices.map Fork.Action.run).foldl Fork.step state).waiting = 0) := by
  have total : ∀ index shared, (∀ rtype, getMXReplicaStatus shared rtype ≠ none) →
      ∃ after, (deletionFork pods).update index shared = some after ∧
        ∀ rtype, getMXReplicaStatus after rtype ≠ none := by
    intro index shared present
    cases found : pods[index]? with
    | none => exact ⟨shared, by simp [deletionFork, found], present⟩
    | some pod =>
        cases recorded : recordGone shared pod with
        | none =>
            obtain ⟨rtype, _, missing⟩ := recordGone_eq_none recorded
            exact absurd missing (present rtype)
        | some after =>
            refine ⟨after, by simp [deletionFork, found, recorded], fun rtype => ?_⟩
            rw [(recordGone_eq_some recorded).2 rtype]
            exact fun missing => present rtype (Option.map_eq_none_iff.mp missing)
  obtain ⟨inCall, now⟩ := Fork.run_total run statuses total
  exact ⟨inCall.running_of_safe deletionCall_never_aborts,
    Fork.exists_join (Fork.run_sound run) inCall now total⟩

theorem deletion_joins_twoDeletions :
    ((twoDeletions.take 6).foldl Fork.step (Fork.initial
        (deletionFork sampleWorkers) countedJob)).crashed = false ∧
      ∃ indices : List Nat,
        ((indices.map Fork.Action.run).foldl Fork.step
          ((twoDeletions.take 6).foldl Fork.step (Fork.initial
            (deletionFork sampleWorkers) countedJob))).waiting = 0 := by
  have run : Run Fork.step (fun _ _ => True)
      (Fork.initial (deletionFork sampleWorkers)
        countedJob) _
      ((twoDeletions.take 6).foldl Fork.step (Fork.initial _ countedJob)) :=
    Run.start.extend (by simp [twoDeletions, Run.Permits])
  have statuses : ∀ rtype, getMXReplicaStatus countedJob rtype ≠ none := by
    intro rtype
    cases rtype <;> simp [countedJob, initializeMXReplicaStatuses, getMXReplicaStatus,
      updateMXReplicaStatuses]
  obtain ⟨running, joins⟩ := deletion_joins run statuses
  exact ⟨running, joins (by decide +kernel)⟩

end Deletion

end MXNetOperator.Property
