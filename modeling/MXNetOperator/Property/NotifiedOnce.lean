import MXNetOperator.Cluster.Pods
import MXNetOperator.Property.Repetition

/-!
Contract: when no webhook is called twice.

A webhook is called before the update that records it.  If that update is lost,
the next Sync starts from a version that does not record the call and calls
again.  So does a Sync that is handed an outdated version, and a finalizer
goroutine that gets to execute after the finalizer is gone.  `Prompt` excludes
this, in terms of the answers of the server and of the versions handed out; in
its runs the stored job accounts for every webhook call whose caller is done.
-/

namespace MXNetOperator.Property

open MXNetOperator.Kube MXNetOperator.Api MXNetOperator.Interaction MXNetOperator.Mx
  MXNetOperator.Cluster

/-! ### The condition -/

def storesJob : Call → Bool
  | ⟨.updateMXJob _, _⟩ => true
  | _ => false

/-- The webhook was called, and the update that is to record it is not sent yet. -/
def owes (startOrFinish : Bool) (trace : List Call) : Bool :=
  trace.any (startsHook startOrFinish) && !trace.any storesJob

/-- The server answers a deletion without error, and stores an update. -/
def carriesOut (outcome : Outcome) (world : World) : Request → Bool
  | .deletePod name => Option.isNone (serve outcome (.deletePod name) world).1
  | .updateMXJob mxjob =>
      (world.updateRejection mxjob).isNone && (outcome.failure.isNone || outcome.applied)
  | _ => true

/-- Nobody edits the specification or lists the finalizer twice. -/
def keepsTerms : Move → Bool
  | .editSpec _ => false
  | .editFinalizers finalizers => decide (finalizers.count finalizerFinishWebhook ≤ 1)
  | _ => true

/-- The steps under which no webhook is called twice.

A Sync is handed a live unfinished version only while the stored one is, and one
that is not initialized only while the stored one is not.  A finalizer goroutine
gets to execute on an unfinished version only while the stored one is unfinished
and has the finalizer.  Between a webhook call and the update that records it
the server carries out what it is asked to, and the operator is not restarted. -/
def Prompt (state : State) : Action → Prop
  | .deliver age false => ∀ version ∈ state.world.versions[age]?, isOpen version = true →
      isOpen state.world.job = true ∧ (isInitialized version.status = false →
        isInitialized state.world.job.status = false)
  | .work outcome => owes true state.worker.trace = true ∨ owes false state.worker.trace = true →
      ∀ request ∈ state.worker.pending, carriesOut outcome state.world request = true
  | .finalize index outcome => ∀ thread ∈ state.goroutines[index]?,
      (thread.trace.isEmpty = true → thread.input.key ∉ state.world.inFlight →
        isJobFinished thread.input.object.status = false →
          isJobFinished state.world.job.status = false ∧
            finalizerFinishWebhook ∈ state.world.job.finalizers) ∧
      (owes false thread.trace = true →
        ∀ request ∈ thread.pending, carriesOut outcome state.world request = true)
  | .restart => (owes true state.worker.trace = false ∧ owes false state.worker.trace = false) ∧
      ∀ thread ∈ state.goroutines, owes false thread.trace = false
  | .move move => keepsTerms move = true
  | .deliver _ true => True

instance (state : State) : (action : Action) → Decidable (Prompt state action)
  | .deliver age false =>
      inferInstanceAs (Decidable (∀ version ∈ state.world.versions[age]?, _ → _))
  | .deliver _ true => inferInstanceAs (Decidable True)
  | .work _ => inferInstanceAs (Decidable (_ → _))
  | .finalize index _ => inferInstanceAs (Decidable (∀ thread ∈ state.goroutines[index]?, _ ∧ _))
  | .restart => inferInstanceAs (Decidable (_ ∧ _))
  | .move _ => inferInstanceAs (Decidable (_ = true))

theorem Prompt.keepsSpec {state : State} {action : Action} (prompt : Prompt state action) :
    keepsSpec action = true := by
  unfold Cluster.keepsSpec
  split
  · cases prompt
  · rfl

/-! ### Calls that are owed an update -/

section Owing

variable {kind : Bool} {trace : List Call} {call : Call}

theorem any_startsHook (called : trace.any (startsHook kind) = true) :
    ∃ job, (⟨.callHookAsync job kind, ()⟩ : Call) ∈ trace := by
  obtain ⟨⟨request, reply⟩, member, hook⟩ := List.any_eq_true.mp called
  cases request with
  | callHookAsync job other =>
      obtain rfl : other = kind := by simpa [startsHook] using hook
      exact ⟨job, member⟩
  | _ => cases hook

theorem storesJob_eq_false (other : ∀ job, call.request ≠ .updateMXJob job) :
    storesJob call = false := by
  obtain ⟨request, reply⟩ := call
  cases request with
  | updateMXJob job => exact absurd rfl (other job)
  | _ => rfl

theorem unstored_any (unstored : ∀ call ∈ trace, ∀ job, call.request ≠ .updateMXJob job) :
    trace.any storesJob = false := by
  rw [List.any_eq_false]
  intro call member
  rw [storesJob_eq_false (unstored call member)]
  exact Bool.false_ne_true

theorem owes_append (kept : owes kind trace = true) (other : storesJob call = false) :
    owes kind (trace ++ [call]) = true := by
  simp only [owes, Bool.and_eq_true, Bool.not_eq_true'] at kept ⊢
  simp [kept.1, kept.2, other]

/-- Whoever calls a webhook before any update owes one. -/
theorem owes_called (hook : startsHook kind call = true)
    (unstored : ∀ call ∈ trace, ∀ job, call.request ≠ .updateMXJob job) :
    owes kind (trace ++ [call]) = true := by
  have other : storesJob call = false := by
    obtain ⟨request, reply⟩ := call
    cases request with
    | updateMXJob => cases hook
    | _ => rfl
  simp [owes, hook, other, unstored_any unstored]

end Owing

/-- The status records that the webhook was called. -/
def records : Bool → MXJobStatus → Bool
  | true => isInitialized
  | false => isJobFinished

/-- The operator has removed the finalizer of a job pending deletion. -/
def Released (mxjob : MXJob) : Prop :=
  mxjob.deletionTimestamp.isSome = true ∧ finalizerFinishWebhook ∉ mxjob.finalizers

/-- What is known in a prompt run: the stored job accounts for every webhook
call whose caller has sent its update. -/
structure Accounted (state : State) : Prop where
  started : 0 < hookCount true state.log →
    records true state.world.job.status = true ∨ owes true state.worker.trace = true
  finished : 0 < hookCount false state.log →
    records false state.world.job.status = true ∨ owes false state.worker.trace = true ∨
      (∃ thread ∈ state.goroutines, owes false thread.trace = true) ∨ Released state.world.job
  /-- After the start webhook no deletion has failed. -/
  undenied : state.worker.trace.any (startsHook true) = true →
    ∀ name error, (⟨.deletePod name, some error⟩ : Call) ∉ state.worker.trace
  /-- No Sync reconciles the job beside a finalizer goroutine. -/
  parted : state.goroutines ≠ [] → state.world.job.deletionTimestamp.isSome = true ∧
    (state.worker.input.deleted = true ∨ isOpen state.worker.input.object = false)
  single : state.world.job.finalizers.count finalizerFinishWebhook ≤ 1

section Steps

variable {mxjob : MXJob} {state next : State} {action : Action} {kind : Bool}

/-! ### What a step keeps -/

theorem records_kept (jobStep : JobStep state action next) (worker : WorkerStep state action next)
    (recorded : records kind state.world.job.status = true) :
    records kind next.world.job.status = true := by
  rcases jobStep.status_stored worker with same | ⟨after, stored⟩
  · rwa [same]
  · cases kind with
    | true =>
        obtain ⟨claimed, concluded⟩ := stored.concluded
        rw [stored.status]
        exact concluded.initialized
    | false =>
        have unfinished := stored.reconcilable.unfinished
        rw [stored.current] at unfinished
        rw [records, unfinished] at recorded
        cases recorded

theorem released_kept (jobStep : JobStep state action next)
    (released : Released state.world.job) : Released next.world.job := by
  obtain ⟨deleting, gone⟩ := released
  refine ⟨jobStep.deleting deleting, fun member => ?_⟩
  cases jobStep with
  | kept job older => exact gone (job ▸ member)
  | synced outcome after claimed reconcilable current =>
      rw [← current, reconcilable.live] at deleting
      cases deleting
  | cleared index outcome thread found current notified present stored =>
      rw [stored] at member
      rw [← current] at gone
      exact gone (List.mem_of_mem_eraseIdx member)
  | edited move edited =>
      rcases edited.finalizers with same | ⟨_, unmarked | fewer⟩
      · exact gone (same ▸ member)
      · rw [unmarked] at deleting
        cases deleting
      · exact gone (fewer member)

theorem single_step (single : state.world.job.finalizers.count finalizerFinishWebhook ≤ 1)
    (prompt : Prompt state action) (jobStep : JobStep state action next) :
    next.world.job.finalizers.count finalizerFinishWebhook ≤ 1 := by
  cases jobStep with
  | kept job older => rwa [job]
  | synced outcome after claimed reconcilable current concluded present stored =>
      have same : after.finalizers = state.world.job.finalizers :=
        concluded.statusOnly.finalizers_eq
      rw [stored]
      exact same ▸ single
  | cleared index outcome thread found current notified present stored =>
      rw [stored]
      rw [← current] at single
      exact Nat.le_trans ((List.eraseIdx_sublist _ _).count_le _) single
  | edited move edited =>
      rcases edited.finalizers with same | ⟨moved, _⟩
      · rwa [same]
      · rw [moved] at prompt
        exact of_decide_eq_true prompt

/-! ### Updates that are carried out -/

theorem serve_carriedOut {outcome : Outcome} {world : World} {after : MXJob}
    (carried : carriesOut outcome world (.updateMXJob after) = true) :
    (serve outcome (.updateMXJob after) world).2 = world.store after := by
  simp only [carriesOut, Bool.and_eq_true, Option.isNone_iff_eq_none, Bool.or_eq_true] at carried
  obtain ⟨accepted, effective⟩ := carried
  simp only [serve, Outcome.write, accepted]
  cases failure : outcome.failure with
  | none => rfl
  | some error =>
      rw [failure] at effective
      simp [show outcome.applied = true by simpa using effective]

theorem current_of_carriedOut {outcome : Outcome} {world : World} {after : MXJob}
    (carried : carriesOut outcome world (.updateMXJob after) = true) :
    after.resourceVersion = world.job.resourceVersion := by
  by_contra stale
  cases present : world.present <;>
    simp [carriesOut, World.updateRejection, stale, present] at carried

/-- The update of a Sync records the webhooks it has called. -/
theorem sync_records {event : Event} {trace : List Call} {after : MXJob}
    (issued : (sync event).Issues trace (.updateMXJob after))
    (called : trace.any (startsHook kind) = true) : records kind after.status = true := by
  obtain ⟨_, pods, ⟨job, created, conclusion⟩, _⟩ := sync_update issued
  cases kind with
  | true => exact conclusion.initialized
  | false =>
      obtain ⟨notified, hook⟩ := any_startsHook called
      exact conclusion.finished_of_hook hook

/-- A call of a Sync that owes an update stores it or leaves it owed. -/
theorem owed_work {outcome : Outcome} {call : Call} (owed : owes kind state.worker.trace = true)
    (prompt : Prompt state (.work outcome))
    (issued : (sync state.worker.input).Issues state.worker.trace call.request)
    (pending : state.worker.pending = some call.request) :
    records kind (serve outcome call.request state.world).2.job.status = true ∨
      owes kind (state.worker.trace ++ [call]) = true := by
  have either : owes true state.worker.trace = true ∨ owes false state.worker.trace = true := by
    cases kind with
    | true => exact Or.inl owed
    | false => exact Or.inr owed
  obtain ⟨request, reply⟩ := call
  by_cases update : ∃ after, request = .updateMXJob after
  · left
    obtain ⟨after, rfl⟩ := update
    rw [serve_carriedOut (prompt either _ pending)]
    simp only [owes, Bool.and_eq_true] at owed
    have recorded : records kind after.status = true := sync_records issued owed.1
    exact recorded
  · exact Or.inr (owes_append owed (storesJob_eq_false fun after same => update ⟨after, same⟩))

/-- A goroutine that owes an update executes in the group. -/
theorem isLeading_of_owes {thread : Thread finalizer} (owed : owes false thread.trace = true) :
    isLeading thread = true := by
  simp only [owes, Bool.and_eq_true, Bool.not_eq_true'] at owed
  obtain ⟨called, unstored⟩ := owed
  obtain ⟨job, hook⟩ := any_startsHook called
  have entered : (⟨.enterGroup thread.input.key, true⟩ : Call) ∈ thread.trace := by
    obtain ⟨front, back, split, issued⟩ := thread.onPath.issues_of_mem hook
    rw [split]
    cases finalizer_issues issued with
    | notifying => simp
  refine isLeading_of_entered entered fun call member key same => ?_
  obtain ⟨request, reply⟩ := call
  obtain rfl : request = .leaveGroup key := same
  obtain ⟨front, back, split, issued⟩ := thread.onPath.issues_of_mem member
  cases finalizer_issues issued with
  | leaving _ _ _ stored =>
      obtain ⟨⟨request, reply⟩, isStored, same⟩ := stored
      obtain rfl : request = _ := same
      have absent := List.any_eq_false.mp unstored _
        (split ▸ List.mem_append_left _ isStored)
      exact absent rfl

/-- A goroutine calls the webhook before its update. -/
theorem finalizer_unstored {task : FinalizerTask} {trace : List Call} {call : Call}
    (hook : startsHook kind call = true)
    (issued : (finalizer task).Issues trace call.request) :
    ∀ earlier ∈ trace, ∀ job, earlier.request ≠ .updateMXJob job := by
  obtain ⟨request, reply⟩ := call
  cases finalizer_issues issued with
  | notifying => simp
  | _ => cases hook

/-- A call of a goroutine that owes an update removes the finalizer or leaves
the update owed. -/
theorem owed_finalize {index : Nat} {outcome : Outcome} {thread changed : Thread finalizer}
    {call : Call} (consistent : Consistent mxjob state) (recorded : Recorded state)
    (single : state.world.job.finalizers.count finalizerFinishWebhook ≤ 1)
    (deleting : state.world.job.deletionTimestamp.isSome = true)
    (prompt : Prompt state (.finalize index outcome))
    (found : state.goroutines[index]? = some thread) (owed : owes false thread.trace = true)
    (pending : thread.pending = some call.request)
    (issued : (finalizer thread.input).Issues thread.trace call.request)
    (trace : changed.trace = thread.trace ++ [call]) :
    Released (serve outcome call.request state.world).2.job ∨
      owes false changed.trace = true := by
  obtain ⟨request, reply⟩ := call
  have member := List.mem_of_getElem? found
  by_cases update : ∃ after, request = .updateMXJob after
  · left
    obtain ⟨after, rfl⟩ := update
    have carried := (prompt thread found).2 owed _ pending
    rw [serve_carriedOut carried]
    have same : after = thread.input.cleared := by
      generalize thread.trace = calls at issued
      cases finalizer_issues issued with
      | storing => rfl
    subst same
    have accepted : thread.input.object.resourceVersion = state.world.job.resourceVersion :=
      current_of_carriedOut carried
    have current := consistent.current (consistent.goroutines thread member) accepted
    refine ⟨deleting, fun left => ?_⟩
    have counted := FinalizerTask.count_cleared (recorded.found thread member)
    rw [current] at counted
    have positive : 0 < thread.input.cleared.finalizers.count finalizerFinishWebhook :=
      List.count_pos_iff.mpr left
    omega
  · rw [trace]
    exact Or.inr (owes_append owed (storesJob_eq_false fun after same => update ⟨after, same⟩))

/-! ### Syncs that have ended -/

/-- A Sync that has ended owes nothing. -/
theorem Accounted.settled (accounted : Accounted state)
    (given : ∀ rtype, replicasOf state.worker.input.object rtype ≠ none)
    (stopped : state.worker.stopped = true) : owes kind state.worker.trace = false := by
  by_contra owing
  simp only [owes, Bool.not_eq_false, Bool.and_eq_true, Bool.not_eq_true'] at owing
  obtain ⟨called, unstored⟩ := owing
  obtain ⟨job, hook⟩ := any_startsHook called
  have ended : (sync state.worker.input).Returns state.worker.trace () ∨
      ∃ reason, (sync state.worker.input).Aborts state.worker.trace reason := by
    rcases Thread.ended_of_stopped stopped with ⟨_, returned⟩ | aborted
    · exact Or.inl returned
    · exact Or.inr aborted
  rcases sync_notified ended hook with ⟨⟨request, reply⟩, member, after, same⟩ |
    ⟨rfl, ⟨name, error, failed⟩ | ⟨rtype, absent⟩⟩
  · obtain rfl : request = .updateMXJob after := same
    exact List.any_eq_false.mp unstored _ member rfl
  · exact accounted.undenied called name error failed
  · exact given rtype absent

/-! ### The invariant -/

theorem started_step (accounted : Accounted state)
    (given : ∀ rtype, replicasOf state.worker.input.object rtype ≠ none)
    (prompt : Prompt state action) (stepped : Stepped state action next)
    (kept : records true state.world.job.status = true → records true next.world.job.status = true) :
    0 < hookCount true next.log →
      records true next.world.job.status = true ∨ owes true next.worker.trace = true := by
  intro called
  cases stepped with
  | idle => exact accounted.started called
  | move => exact (accounted.started called).imp_left kept
  | deliver age deleted object stopped found =>
      rcases accounted.started called with recorded | owed
      · exact Or.inl recorded
      · rw [accounted.settled given stopped] at owed
        cases owed
  | restart =>
      rcases accounted.started called with recorded | owed
      · exact Or.inl recorded
      · rw [prompt.1.1] at owed
        cases owed
  | work outcome worker call issued pending reply input trace =>
      rw [hookCount_append] at called
      simp only [trace]
      cases hook : startsHook true call with
      | true => exact Or.inr (owes_called hook (sync_unstored issued))
      | false =>
          rw [hook] at called
          rcases accounted.started called with recorded | owed
          · exact Or.inl (kept recorded)
          · exact owed_work owed prompt issued pending
  | finalize index outcome thread changed call found issued reply input trace =>
      have other : startsHook true call = false := by
        obtain ⟨request, answer⟩ := call
        generalize thread.trace = calls at issued
        cases finalizer_issues issued <;> rfl
      rw [hookCount_append, other] at called
      exact (accounted.started called).imp_left kept

theorem mem_set_of_ne {Item : Type} {items : List Item} {index : Nat} {old new item : Item}
    (found : items[index]? = some old) (member : item ∈ items) :
    item = old ∨ item ∈ items.set index new := by
  obtain ⟨other, inside, rfl⟩ := List.mem_iff_getElem.mp member
  by_cases same : index = other
  · subst same
    rw [List.getElem?_eq_getElem inside] at found
    exact Or.inl (Option.some.inj found)
  · refine Or.inr (List.mem_iff_getElem.mpr ⟨other, by simpa using inside, ?_⟩)
    rw [List.getElem_set_of_ne same]

theorem finished_step (consistent : Consistent mxjob state) (logged : Recorded state)
    (accounted : Accounted state)
    (given : ∀ rtype, replicasOf state.worker.input.object rtype ≠ none)
    (prompt : Prompt state action) (stepped : Stepped state action next)
    (kept : records false state.world.job.status = true →
      records false next.world.job.status = true)
    (released : Released state.world.job → Released next.world.job) :
    0 < hookCount false next.log →
      records false next.world.job.status = true ∨ owes false next.worker.trace = true ∨
        (∃ thread ∈ next.goroutines, owes false thread.trace = true) ∨
        Released next.world.job := by
  intro called
  cases stepped with
  | idle => exact accounted.finished called
  | move =>
      exact (accounted.finished called).imp kept (Or.imp_right (Or.imp_right released))
  | deliver age deleted object stopped found =>
      rcases accounted.finished called with recorded | owed | rest
      · exact Or.inl recorded
      · rw [accounted.settled given stopped] at owed
        cases owed
      · exact Or.inr (Or.inr rest)
  | restart =>
      rcases accounted.finished called with recorded | owed | ⟨thread, member, owed⟩ | gone
      · exact Or.inl recorded
      · rw [prompt.1.2] at owed
        cases owed
      · rw [prompt.2 thread member] at owed
        cases owed
      · exact Or.inr (Or.inr (Or.inr gone))
  | work outcome worker call issued pending reply input trace =>
      rw [hookCount_append] at called
      simp only [trace]
      cases hook : startsHook false call with
      | true => exact Or.inr (Or.inl (owes_called hook (sync_unstored issued)))
      | false =>
          rw [hook] at called
          rcases accounted.finished called with recorded | owed | ⟨thread, member, owed⟩ | gone
          · exact Or.inl (kept recorded)
          · exact (owed_work owed prompt issued pending).imp_right Or.inl
          · exact Or.inr (Or.inr (Or.inl ⟨thread, List.mem_append_left _ member, owed⟩))
          · exact Or.inr (Or.inr (Or.inr (released gone)))
  | finalize index outcome thread changed call found issued reply input trace pending =>
      rw [hookCount_append] at called
      have replaced : changed ∈ state.goroutines.set index changed :=
        List.mem_set (List.getElem?_eq_some_iff.mp found).1 changed
      cases hook : startsHook false call with
      | true =>
          have owed : owes false changed.trace = true :=
            trace ▸ owes_called hook (finalizer_unstored hook issued)
          exact Or.inr (Or.inr (Or.inl ⟨changed, replaced, owed⟩))
      | false =>
          rw [hook] at called
          rcases accounted.finished called with recorded | owed | ⟨other, member, owed⟩ | gone
          · exact Or.inl (kept recorded)
          · exact Or.inr (Or.inl owed)
          · rcases mem_set_of_ne found member with rfl | still
            · have deleting := (accounted.parted (List.ne_nil_of_mem member)).1
              rcases owed_finalize consistent logged accounted.single deleting prompt found owed
                pending issued trace with gone | owed
              · exact Or.inr (Or.inr (Or.inr gone))
              · exact Or.inr (Or.inr (Or.inl ⟨changed, replaced, owed⟩))
            · exact Or.inr (Or.inr (Or.inl ⟨other, still, owed⟩))
          · exact Or.inr (Or.inr (Or.inr (released gone)))

/-- After the start webhook of a Sync its deletions are answered without error. -/
theorem undenied_step (accounted : Accounted state) (prompt : Prompt state action)
    (stepped : Stepped state action next) :
    next.worker.trace.any (startsHook true) = true →
      ∀ name error, (⟨.deletePod name, some error⟩ : Call) ∉ next.worker.trace := by
  intro called name error failed
  cases stepped with
  | idle => exact accounted.undenied called name error failed
  | move => exact accounted.undenied called name error failed
  | finalize => exact accounted.undenied called name error failed
  | deliver => cases called
  | restart => cases called
  | work outcome worker call issued pending reply input trace =>
      simp only [trace] at called failed
      cases earlier : state.worker.trace.any (startsHook true) with
      | true =>
          rcases List.mem_append.mp failed with old | new
          · exact accounted.undenied earlier name error old
          · obtain rfl := List.mem_singleton.mp new
            have owed : owes true state.worker.trace = true := by
              rw [owes, earlier, unstored_any (sync_unstored issued)]
              rfl
            have carried := prompt (Or.inl owed) _ pending
            rw [carriesOut, ← reply] at carried
            cases carried
      | false =>
          -- the start webhook is called right now, before any deletion
          have hook : startsHook true call = true := by simpa [earlier] using called
          obtain ⟨request, answer⟩ := call
          cases request with
          | callHookAsync job kind =>
              obtain rfl : kind = true := by simpa [startsHook] using hook
              obtain ⟨_, _, _, quiet⟩ := sync_startHook issued
              rcases List.mem_append.mp failed with old | new
              · cases quiet _ old
              · cases List.mem_singleton.mp new
          | _ => cases hook

theorem parted_step (accounted : Accounted state) (prompt : Prompt state action)
    (deleting : ∀ version ∈ state.world.versions, version.deletionTimestamp.isSome = true →
      state.world.job.deletionTimestamp.isSome = true)
    (consistent : Consistent mxjob state) (stepped : Stepped state action next) :
    next.goroutines ≠ [] → next.world.job.deletionTimestamp.isSome = true ∧
      (next.worker.input.deleted = true ∨ isOpen next.worker.input.object = false) := by
  intro some
  have kept := (job_step consistent stepped).deleting
  cases stepped with
  | idle => exact accounted.parted some
  | move => exact ⟨kept (accounted.parted some).1, (accounted.parted some).2⟩
  | restart => exact absurd rfl some
  | finalize index outcome thread changed call found =>
      have before := accounted.parted (List.ne_nil_of_mem (List.mem_of_getElem? found))
      exact ⟨kept before.1, before.2⟩
  | deliver age deleted object stopped found =>
      have marked := (accounted.parted some).1
      refine ⟨marked, ?_⟩
      cases deleted with
      | true => exact Or.inl rfl
      | false =>
          right
          by_contra shut
          have opened : isOpen object = true := Bool.not_eq_false _ ▸ shut
          have live := (prompt object found opened).1
          rw [isOpen, Bool.and_eq_true, Option.isNone_iff_eq_none] at live
          rw [live.1] at marked
          cases marked
  | work outcome worker call issued pending reply input trace =>
      simp only [input]
      by_cases before : state.goroutines = []
      · -- the Sync has just started the first goroutine
        obtain ⟨request, answer⟩ := call
        cases request with
        | spawnFinalizer object index =>
            obtain ⟨_, _, _, marked, _⟩ := sync_spawn issued
            refine ⟨kept (deleting _ consistent.worker marked), Or.inr ?_⟩
            simp [isOpen, Option.isSome_iff_ne_none.mp marked]
        | _ => exact absurd (by simpa [spawned] using before) some
      · exact ⟨kept (accounted.parted before).1, (accounted.parted before).2⟩

/-- No goroutine executes while the key is free, so none owes an update. -/
theorem Exclusive.none_owes (exclusive : Exclusive mxjob state)
    (free : groupKey mxjob ∉ state.world.inFlight) :
    ∀ thread ∈ state.goroutines, owes false thread.trace = false := by
  intro thread member
  by_contra owing
  have leading := isLeading_of_owes (Bool.not_eq_false _ ▸ owing)
  have counted : 0 < state.goroutines.countP isLeading :=
    List.countP_pos_iff.mpr ⟨thread, member, leading⟩
  rw [Exclusive, decide_eq_false free] at exclusive
  exact absurd counted (Nat.not_lt.mpr exclusive)

/-- A Sync that called the finish webhook reconciles the job. -/
theorem isOpen_of_owes (owed : owes false state.worker.trace = true) :
    state.worker.input.deleted = false ∧ isOpen state.worker.input.object = true := by
  simp only [owes, Bool.and_eq_true] at owed
  obtain ⟨job, hook⟩ := any_startsHook owed.1
  obtain ⟨_, _, _, issued⟩ := state.worker.onPath.issues_of_mem hook
  have reconcilable := (sync_finishHook issued).1
  exact ⟨reconcilable.present, isOpen_of_reconcilable reconcilable⟩

/-- Beside a finalizer goroutine the Sync owes no update for the finish webhook. -/
theorem Accounted.worker_settled (accounted : Accounted state) (some : state.goroutines ≠ []) :
    owes false state.worker.trace = false := by
  by_contra owing
  obtain ⟨present, opened⟩ := isOpen_of_owes (Bool.not_eq_false _ ▸ owing)
  rcases (accounted.parted some).2 with deleted | shut
  · rw [present] at deleted
    cases deleted
  · rw [opened] at shut
    cases shut

theorem Accounted.unstarted (accounted : Accounted state)
    (fresh : isInitialized state.world.job.status = false)
    (settled : owes true state.worker.trace = false) : hookCount true state.log = 0 := by
  by_contra called
  rcases accounted.started (Nat.pos_of_ne_zero called) with recorded | owed
  · rw [records, fresh] at recorded
    cases recorded
  · rw [settled] at owed
    cases owed

theorem Accounted.unfinished (accounted : Accounted state)
    (ongoing : isJobFinished state.world.job.status = false)
    (settled : owes false state.worker.trace = false)
    (even : ∀ thread ∈ state.goroutines, owes false thread.trace = false)
    (unreleased : ¬Released state.world.job) : hookCount false state.log = 0 := by
  by_contra called
  rcases accounted.finished (Nat.pos_of_ne_zero called) with
    recorded | owed | ⟨thread, member, owed⟩ | released
  · rw [records, ongoing] at recorded
    cases recorded
  · rw [settled] at owed
    cases owed
  · rw [even thread member] at owed
    cases owed
  · exact unreleased released

/-- What is accounted for makes a prompt step an orderly one. -/
theorem Accounted.orderly (accounted : Accounted state) (consistent : Consistent mxjob state)
    (exclusive : Exclusive mxjob state)
    (given : ∀ rtype, replicasOf state.worker.input.object rtype ≠ none)
    (prompt : Prompt state action) : Orderly state action := by
  cases action with
  | work => trivial
  | restart => trivial
  | move => trivial
  | deliver age deleted =>
      cases deleted with
      | true => trivial
      | false =>
          intro stopped version found opened
          obtain ⟨live, informed⟩ := prompt version found opened
          simp only [isOpen, Bool.and_eq_true, Option.isNone_iff_eq_none,
            Bool.not_eq_true'] at live
          have unmarked : ¬state.world.job.deletionTimestamp.isSome = true := by simp [live.1]
          have alone : state.goroutines = [] := by
            by_contra some
            exact unmarked (accounted.parted some).1
          refine ⟨fun fresh => ?_, ?_, by rw [alone]; rfl⟩
          · exact accounted.unstarted (informed fresh) (accounted.settled given stopped)
          · refine accounted.unfinished live.2 (accounted.settled given stopped) ?_
              fun released => unmarked released.1
            simp [alone]
  | finalize index outcome =>
      intro thread found entering free unfinished
      obtain ⟨ongoing, present⟩ := (prompt thread found).1 entering free unfinished
      have some : state.goroutines ≠ [] := List.ne_nil_of_mem (List.mem_of_getElem? found)
      refine ⟨?_, ?_⟩
      · exact accounted.unfinished ongoing (accounted.worker_settled some)
          (exclusive.none_owes (groupKey_eq consistent found ▸ free))
          fun released => released.2 present
      · rcases (accounted.parted some).2 with deleted | shut <;> simp [mayFinish, *]

end Steps

section Runs

variable {mxjob : MXJob} {pods : List Pod} {services : List Service} {nextUID : UID}
  {past : List State} {state : State}

/-- Every version gives the replica counts, so no Sync panics in its termination. -/
theorem run_given (given : ∀ rtype, replicasOf mxjob rtype ≠ none)
    (run : Run step Prompt (State.initial mxjob pods services nextUID) past state) :
    ∀ rtype, replicasOf state.worker.input.object rtype ≠ none := by
  intro rtype
  rw [replicasOf, run_spec (fun _ _ prompt => prompt.keepsSpec) run _ (run_consistent run).worker]
  exact given rtype

theorem run_accounted (single : mxjob.finalizers.count finalizerFinishWebhook ≤ 1)
    (given : ∀ rtype, replicasOf mxjob rtype ≠ none)
    (run : Run step Prompt (State.initial mxjob pods services nextUID) past state) :
    Accounted state := by
  refine run.historyInvariant (fun _ current => Accounted current) ?_ ?_
  · -- nothing has been called and no goroutine has been started
    exact ⟨nofun, nofun, nofun, fun some => absurd rfl some, single⟩
  · intro past current action reached accounted prompt
    have stepped := step_stepped current action
    have consistent := run_consistent reached
    have jobStep := job_step consistent stepped
    have counts := run_given given reached
    have kept := fun kind => @records_kept _ _ _ kind jobStep (worker_step stepped)
    exact ⟨started_step accounted counts prompt stepped (kept true),
      finished_step consistent (run_recorded reached) accounted counts prompt stepped
        (kept false) (released_kept jobStep),
      undenied_step accounted prompt stepped,
      parted_step accounted prompt (run_deleting reached) consistent stepped,
      single_step accounted.single prompt jobStep⟩

/-- A prompt run is orderly. -/
theorem run_orderly (single : mxjob.finalizers.count finalizerFinishWebhook ≤ 1)
    (given : ∀ rtype, replicasOf mxjob rtype ≠ none)
    (run : Run step Prompt (State.initial mxjob pods services nextUID) past state) :
    Run step Orderly (State.initial mxjob pods services nextUID) past state := by
  refine run.historyInvariant (fun past current =>
    Run step Orderly (State.initial mxjob pods services nextUID) past current) .start ?_
  intro past current action reached orderly prompt
  exact orderly.step action ((run_accounted single given reached).orderly
    (run_consistent reached) (run_exclusive reached) (run_given given reached) prompt)

/-- At most one notification of each kind, in every prompt run of a job that
gives its replica counts and has the finalizer at most once. -/
theorem notified_at_most_once (single : mxjob.finalizers.count finalizerFinishWebhook ≤ 1)
    (given : ∀ rtype, replicasOf mxjob rtype ≠ none)
    (run : Run step Prompt (State.initial mxjob pods services nextUID) past state) :
    hookCount true state.log ≤ 1 ∧ hookCount false state.log ≤ 1 :=
  orderly_bound (run_orderly single given run)

end Runs

/-- The job with the finalizer is deleted and two Syncs each start a finalizer
goroutine.  The second goroutine finds the group taken. -/
def sharedFinalizer : List Action :=
  firstSync ++ .move (.deleteJob 7) :: .deliver 0 false :: .work (.success "") ::
    .deliver 0 false :: .work (.success "") :: .finalize 0 (.success "") ::
    List.replicate 5 (.finalize 1 (.success "")) ++ List.replicate 4 (.finalize 0 (.success ""))

theorem run_sharedFinalizer : Run step Prompt finalizedStart
    (Run.passed step [] finalizedStart sharedFinalizer)
    (sharedFinalizer.foldl step finalizedStart) :=
  Run.start.extend (by decide +kernel)

theorem notified_at_most_once_sharedFinalizer :
    hookCount false (sharedFinalizer.foldl step finalizedStart).log = 1 ∧
      hookCount true (sharedFinalizer.foldl step finalizedStart).log ≤ 1 ∧
      hookCount false (sharedFinalizer.foldl step finalizedStart).log ≤ 1 :=
  ⟨by decide +kernel, notified_at_most_once (by decide)
    (fun rtype => by cases rtype <;> exact (by decide)) run_sharedFinalizer⟩

/-- The update of the first Sync of `sampleJob` fails; the next Sync has no
error. -/
def lostStart : List Action :=
  firstSync.take 16 ++ .work (.error .internalError) :: quietSync

/-- The worker of `sampleJob` succeeds, and the update with the verdict fails at
first. -/
def lostFinish : List Action :=
  firstSync ++ .move (.podPhase 4 .succeeded) :: quietSync.take 12 ++
    .work (.error .internalError) :: quietSync

/-- Each webhook is called twice when the update after it fails. -/
theorem notified_twice :
    hookCount true (lostStart.foldl step sampleStart).log = 2 ∧
      hookCount false (lostFinish.foldl step sampleStart).log = 2 := by
  refine ⟨?_, ?_⟩ <;> decide +kernel

end MXNetOperator.Property
