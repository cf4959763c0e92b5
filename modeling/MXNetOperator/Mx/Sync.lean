import Mathlib.Data.List.Perm.Basic
import MXNetOperator.Mx.Conclusion

/-!
Contract: the entry points of the operator, `Sync` and the finalizer goroutine.

Owns both programs and, for each request they issue, what it presupposes of
the event that was handed in and of the exchanges so far.  This is the only
interface the transition system uses.
-/

namespace MXNetOperator.Mx

open MXNetOperator.Kube MXNetOperator.Api MXNetOperator.Interaction

/-! ### Source functions -/

/-- `sdk.Event` for an `MXJob`. -/
structure Event where
  object : MXJob
  deleted : Bool

/-- `updateMXJobConditions` for the Created condition. -/
def withCreated (now : Nat → Time) (mxjob : MXJob) : MXJob :=
  { mxjob with
    status := updateMXJobConditions (now 0) (now 1) mxjob.status .created reasonCreated
      ("MXJob " ++ mxjob.name ++ " is created.") }

/-- The created condition, added when first met. -/
def markCreated (mxjob : MXJob) : Go MXJob :=
  if checkCondition mxjob.status .created then
    pure mxjob
  else do
    let now ← ask .now
    pure (withCreated now mxjob)

/-- The loop of `handleMXJobFinalizers`: the last index of the finalizer. -/
def indexFound (finalizers : List String) : Option Nat :=
  finalizers.zipIdx.foldl
    (fun found entry => if entry.1 = finalizerFinishWebhook then some entry.2 else found) none

def handleMXJobFinalizers (mxjob : MXJob) : Go Unit :=
  match indexFound mxjob.finalizers with
  | none => pure ()
  | some index => do
      let _ ← ask (.spawnFinalizer mxjob index)
      pure ()

/-- `Sync`, once the job is known not to be pending deletion. -/
def syncPresent (mxjob : MXJob) : Go Unit := do
  let mxjob ← markCreated mxjob
  if isJobFinished mxjob.status then
    -- a finished job is not terminated again
    pure ()
  else do
    let _ ← reconcileMXJobs mxjob
    pure ()

def sync (event : Event) : Go Unit :=
  if event.deleted then
    pure ()
  else if event.object.deletionTimestamp.isSome then
    handleMXJobFinalizers event.object
  else
    syncPresent event.object

/-- What the goroutine of `handleMXJobFinalizers` was started with. -/
structure FinalizerTask where
  object : MXJob
  index : Nat

/-- The finish webhook of the finalizer path, waited for. -/
def callFinishHook (mxjob : MXJob) : Go Unit :=
  if isJobFinished mxjob.status then
    -- a finished job has been notified already
    pure ()
  else do
    let _ ← ask (.callHookAsync mxjob false)
    let _ ← ask .awaitHook
    pure ()

/-- The job without the finalizer. -/
def FinalizerTask.cleared (task : FinalizerTask) : MXJob :=
  { task.object with finalizers := task.object.finalizers.eraseIdx task.index }

/-- `mxjob.Namespace+"/"+mxjob.Name`. -/
def FinalizerTask.key (task : FinalizerTask) : String :=
  task.object.ns ++ "/" ++ task.object.name

/-- The goroutine of `handleMXJobFinalizers` under `finalizerGroup.Do`; a
goroutine that finds the key busy waits and does nothing. -/
def finalizer (task : FinalizerTask) : Go Unit := do
  let leads ← ask (.enterGroup task.key)
  match (leads : Bool) with
  | false => pure ()
  | true => do
      callFinishHook task.object
      -- the error of the update is only logged
      let _ ← ask (.updateMXJob task.cleared)
      let _ ← ask (.leaveGroup task.key)
      pure ()

/-! ### The created condition -/

theorem isJobFinished_setCondition {status : MXJobStatus} {condition : MXJobCondition}
    (notSucceeded : condition.type ≠ .succeeded) (notFailed : condition.type ≠ .failed) :
    isJobFinished (setCondition status condition) = isJobFinished status := by
  have appended : ∀ entry : MXJobCondition, entry.type = condition.type →
      isJobFinished { status with
        conditions := filterOutCondition status.conditions condition.type ++ [entry] } =
      isJobFinished status := by
    intro entry sameType
    simp only [isJobFinished, filterOutCondition, List.any_append, List.any_filter,
      List.any_cons, List.any_nil, sameType, Bool.or_false]
    have skipped : (((condition.type == .succeeded || condition.type == .failed) &&
        entry.status == .isTrue)) = false := by
      simp [notSucceeded, notFailed]
    rw [skipped, Bool.or_false]
    congr 1
    funext other
    by_cases same : other.type = condition.type
    · simp [same, notSucceeded, notFailed]
    · simp [same]
  unfold setCondition
  split
  · exact appended condition rfl
  · split
    · rfl
    · split
      · exact appended _ rfl
      · exact appended condition rfl

/-- What `markCreated` does to the job. -/
inductive CreatedAs (mxjob : MXJob) : MXJob → Prop where
  | already (created : checkCondition mxjob.status .created = true) : CreatedAs mxjob mxjob
  | now (fresh : checkCondition mxjob.status .created = false) (now : Nat → Time) :
      CreatedAs mxjob (withCreated now mxjob)

namespace CreatedAs

variable {mxjob job : MXJob}

theorem check (created : CreatedAs mxjob job) {type : MXJobConditionType}
    (other : type ≠ .created) :
    checkCondition job.status type = checkCondition mxjob.status type := by
  cases created with
  | already => rfl
  | now fresh now => exact checkCondition_update_other other

theorem samePass (created : CreatedAs mxjob job) : SamePass mxjob job := by
  refine ⟨?_, created.check (by decide)⟩
  cases created <;> rfl

theorem unique (created : CreatedAs mxjob job) (unique : UniqueConditions mxjob.status) :
    UniqueConditions job.status := by
  cases created with
  | already => exact unique
  | now fresh now => exact updateMXJobConditions_unique unique

theorem isJobFinished_eq (created : CreatedAs mxjob job) :
    isJobFinished job.status = isJobFinished mxjob.status := by
  cases created with
  | already => rfl
  | now fresh now =>
      refine isJobFinished_setCondition ?_ ?_
      · exact (by decide : MXJobConditionType.created ≠ .succeeded)
      · exact (by decide : MXJobConditionType.created ≠ .failed)

theorem completionTime (created : CreatedAs mxjob job) :
    job.status.completionTime = mxjob.status.completionTime := by
  cases created with
  | already => rfl
  | now fresh now => exact updateMXJobConditions_completionTime

end CreatedAs

/-! ### Requests of Sync -/

section Requests

variable {event : Event} {mxjob job after : MXJob} {pods : List Pod} {trace : List Call}
  {request : Request}

theorem markCreated_returns (returned : (markCreated mxjob).Returns trace job) :
    CreatedAs mxjob job ∧ ∀ call ∈ trace, call.request = .now := by
  unfold markCreated at returned
  split at returned
  · rename_i created
    obtain ⟨rfl, rfl⟩ := Program.returns_pure.mp returned
    exact ⟨.already created, by simp⟩
  · rename_i fresh
    simp only [Program.returns_bind, returns_ask, Program.returns_pure] at returned
    obtain ⟨now, _, _, rfl, rfl, rfl, rfl⟩ := returned
    exact ⟨.now (by simpa using fresh) now, by simp⟩

theorem markCreated_issues (issued : (markCreated mxjob).Issues trace request) :
    trace = [] ∧ request = .now := by
  unfold markCreated at issued
  split at issued
  · exact absurd issued Program.issues_pure
  · simp only [Program.issues_bind, issues_ask, Program.issues_pure, and_false, exists_false,
      or_false] at issued
    exact issued

theorem markCreated_runs (mxjob : MXJob) :
    ∃ readings job, (markCreated mxjob).Returns readings job := by
  unfold markCreated
  split
  · exact ⟨[], mxjob, Program.returns_pure.mpr ⟨rfl, rfl⟩⟩
  · exact ⟨[⟨.now, fun _ => (0 : Time)⟩], _, .step _ (.stop _)⟩

@[simp] theorem aborts_markCreated {reason : Abort} :
    ¬ (markCreated mxjob).Aborts trace reason := by
  unfold markCreated
  split <;> simp [Program.aborts_bind]

/-- A job that Sync reconciles. -/
structure Reconcilable (event : Event) : Prop where
  present : event.deleted = false
  live : event.object.deletionTimestamp = none
  unfinished : isJobFinished event.object.status = false

/-- What a request of Sync presupposes. -/
inductive SyncRequest (event : Event) : List Call → Request → Prop where
  | finalizing (index : Nat) (present : event.deleted = false)
      (deleting : event.object.deletionTimestamp.isSome = true)
      (found : indexFound event.object.finalizers = some index) :
      SyncRequest event [] (.spawnFinalizer event.object index)
  | reading : SyncRequest event [] .now
  | reconciling {request : Request} (reconcilable : Reconcilable event)
      (readings trace : List Call) (clock : ∀ call ∈ readings, call.request = .now) (job : MXJob)
      (created : CreatedAs event.object job)
      (issued : (reconcileMXJobs job).Issues trace request) :
      SyncRequest event (readings ++ trace) request

theorem sync_issues (issued : (sync event).Issues trace request) :
    SyncRequest event trace request := by
  unfold sync at issued
  split at issued
  · exact absurd issued Program.issues_pure
  · rename_i present
    split at issued
    · rename_i deleting
      unfold handleMXJobFinalizers at issued
      split at issued
      · exact absurd issued Program.issues_pure
      · rename_i index found
        simp only [Program.issues_bind, issues_ask, Program.issues_pure, and_false, exists_false,
          or_false] at issued
        obtain ⟨rfl, rfl⟩ := issued
        exact .finalizing index (by simpa using present) deleting found
    · rename_i live
      simp only [syncPresent, Program.issues_bind] at issued
      rcases issued with reading | ⟨job, readings, back, rfl, marked, issued⟩
      · obtain ⟨rfl, rfl⟩ := markCreated_issues reading
        exact .reading
      · obtain ⟨created, clock⟩ := markCreated_returns marked
        split at issued
        · exact absurd issued Program.issues_pure
        · rename_i unfinished
          simp only [Program.issues_bind, Program.issues_pure, and_false, exists_false,
            or_false] at issued
          refine .reconciling ⟨by simpa using present, by simpa using live, ?_⟩ readings back clock
            job created issued
          rw [← created.isJobFinished_eq]
          simpa using unfinished

/-- A request of Sync other than a clock reading or the start of a finalizer
comes from the reconciliation. -/
theorem sync_reconciles (issued : (sync event).Issues trace request) (notNow : request ≠ .now)
    (notSpawn : ∀ object index, request ≠ .spawnFinalizer object index) :
    Reconcilable event ∧ ∃ readings back job, trace = readings ++ back ∧
      (∀ call ∈ readings, call.request = .now) ∧ CreatedAs event.object job ∧
      ReconcileRequest job back request := by
  cases sync_issues issued with
  | finalizing index => exact absurd rfl (notSpawn _ index)
  | reading => exact absurd rfl notNow
  | reconciling reconcilable readings back clock job created inner =>
      exact ⟨reconcilable, readings, back, job, rfl, clock, created, reconcileMXJobs_issues inner⟩

/-- The pods are listed before anything else is asked. -/
theorem sync_listPods (issued : (sync event).Issues trace .listPods) :
    ∀ call ∈ trace, call.request = .now := by
  obtain ⟨_, readings, back, job, rfl, clock, _, asked⟩ := sync_reconciles issued (by simp) (by simp)
  cases asked with
  | evaluating inner =>
      rcases evaluate_issues inner with looking | ⟨pods, _, passing⟩
      · rcases claimListed_issues looking with ⟨rfl, _⟩ | ⟨_, _, _, _, _, object, _, claim⟩
        · simpa using clock
        · rcases claim with same | ⟨_, _, same⟩ | ⟨_, _, same⟩ <;> cases same
      · cases passing.serves
  | terminating pods marked evaluation now marks finished shape =>
      rcases shape with same | ⟨pod, _, same⟩ <;> cases same

/-- Patches adopt or release a listed pod. -/
theorem sync_patchPod {name : String} {patch : OwnerPatch}
    (issued : (sync event).Issues trace (.patchPod name patch)) :
    ∃ listed, (⟨.listPods, .ok listed⟩ : Call) ∈ trace ∧ ∃ pod ∈ listed, name = pod.name ∧
      (((getControllerOf pod.toObjectMeta = none ∧ pod.deletionTimestamp = none) ∧
          selects event.object pod.labels = true ∧
          patch = .adopt (newControllerRef event.object) pod.uid) ∨
        (pod.controlledBy event.object.uid = true ∧ selects event.object pod.labels = false ∧
          patch = .release event.object.uid pod.uid)) := by
  obtain ⟨_, readings, back, job, rfl, clock, created, asked⟩ :=
    sync_reconciles issued (by simp) (by simp)
  have sameMeta := created.samePass.statusOnly.meta_eq.symm
  cases asked with
  | evaluating inner =>
      rcases evaluate_issues inner with looking | ⟨pods, _, passing⟩
      · rcases claimListed_issues looking with ⟨_, same⟩ |
          ⟨reply, listed, claiming, rfl, decoded, pod, member, claim⟩
        · cases same
        · cases decoded
          refine ⟨listed, by simp, pod, member, ?_⟩
          rcases claim with same | ⟨orphan, selected, same⟩ | ⟨owned, mismatch, same⟩
          · cases same
          · cases same
            refine ⟨rfl, Or.inl ⟨orphan, ?_, ?_⟩⟩
            · simpa [selects, genLabels, sameMeta] using selected
            · simp [newControllerRef, sameMeta]
          · cases same
            refine ⟨rfl, Or.inr ⟨?_, ?_, ?_⟩⟩
            · simpa [sameMeta] using owned
            · simpa [selects, genLabels, sameMeta] using mismatch
            · simp [sameMeta]
      · cases passing.serves
  | terminating pods marked evaluation now marks finished shape =>
      rcases shape with same | ⟨pod, _, same⟩ <;> cases same

/-- A pod is created for a type that the live list shows to be short of pods,
before the evaluation is over. -/
theorem sync_createPod {pod : PodRequest} (issued : (sync event).Issues trace (.createPod pod)) :
    Reconcilable event ∧ (∀ call ∈ trace, servesEvaluation call.request = true) ∧
      ∃ pods rtype, Listed event.object pods trace ∧ IsNewPod event.object rtype pod ∧
        createCount rtype trace < podsNeeded event.object pods rtype := by
  obtain ⟨reconcilable, readings, back, job, rfl, clock, created, asked⟩ :=
    sync_reconciles issued (by simp) (by simp)
  have same := created.samePass
  refine ⟨reconcilable, ?_⟩
  cases asked with
  | evaluating inner =>
      refine ⟨fun call member => ?_, ?_⟩
      · rcases List.mem_append.mp member with earlier | later
        · rw [clock call earlier]
          rfl
        · obtain ⟨_, path⟩ := inner
          exact evaluate_silent path call later
      rcases evaluate_issues inner with looking | ⟨pods, listed, passing⟩
      · cases getPodsForMXJob_serves looking
      · obtain ⟨rtype, isNew, below⟩ := passing.creation pod rfl
        have noPod : ∀ call ∈ readings, createsPod call = false := by
          rintro ⟨request, reply⟩ member
          cases clock _ member
          rfl
        refine ⟨pods, rtype, (listed.of_meta same.statusOnly.meta_eq.symm).mono
          (List.subset_append_right readings back), isNew.of_meta same.statusOnly.meta_eq.symm, ?_⟩
        rw [createCount_append, createCount_eq_zero noPod, Nat.zero_add, ← same.podsNeeded_eq]
        exact below
  | terminating pods marked evaluation now marks finished shape =>
      rcases shape with same | ⟨pod, _, same⟩ <;> cases same

/-- An unfinished status has no True verdict, in the first entry or behind it. -/
theorem visible_of_unfinished {status : MXJobStatus} {type : MXJobConditionType}
    (unfinished : isJobFinished status = false) (verdict : type = .succeeded ∨ type = .failed) :
    Visible status type := by
  intro condition member typed isTrue
  simp only [isJobFinished, List.any_eq_false] at unfinished
  refine absurd ?_ (unfinished condition member)
  rcases verdict with rfl | rfl <;> simp [typed, isTrue]

theorem check_of_finished {status : MXJobStatus} (succeeded : Visible status .succeeded)
    (failed : Visible status .failed) (finished : isJobFinished status = true) :
    checkCondition status .succeeded = true ∨ checkCondition status .failed = true := by
  simp only [isJobFinished, List.any_eq_true, Bool.and_eq_true, Bool.or_eq_true,
    beq_iff_eq] at finished
  obtain ⟨condition, member, typed | typed, isTrue⟩ := finished
  · exact Or.inl (succeeded condition member typed isTrue)
  · exact Or.inr (failed condition member typed isTrue)

theorem isJobFinished_of_check {status : MXJobStatus} {type : MXJobConditionType}
    (verdict : type = .succeeded ∨ type = .failed) (holds : checkCondition status type = true) :
    isJobFinished status = true := by
  simp only [checkCondition, getCondition, Option.any_eq_true] at holds
  obtain ⟨condition, found, isTrue⟩ := holds
  simp only [isJobFinished, List.any_eq_true]
  refine ⟨condition, List.mem_of_find?_eq_some found, ?_⟩
  have sameType := List.find?_some found
  simp only [beq_iff_eq] at sameType
  rcases verdict with rfl | rfl <;> simp [sameType, isTrue]

theorem check_of_unfinished {status : MXJobStatus} (unfinished : isJobFinished status = false) :
    checkCondition status .succeeded = false ∧ checkCondition status .failed = false := by
  refine ⟨?_, ?_⟩
  · by_contra holds
    rw [isJobFinished_of_check (Or.inl rfl) (by simpa using holds)] at unfinished
    cases unfinished
  · by_contra holds
    rw [isJobFinished_of_check (Or.inr rfl) (by simpa using holds)] at unfinished
    cases unfinished

/-- The listed pods decide the job: all workers succeeded, or a pod is lost. -/
def Decided (mxjob : MXJob) (pods : List Pod) : Prop :=
  AllSucceeded mxjob pods ∨ ∃ rtype, Lost mxjob pods rtype

instance (mxjob : MXJob) (pods : List Pod) : Decidable (Decided mxjob pods) :=
  decidable_of_iff (AllSucceeded mxjob pods ∨ Lost mxjob pods .scheduler ∨
    Lost mxjob pods .server ∨ Lost mxjob pods .worker) (or_congr_right exists_replicaType.symm)

/-- The job is finished exactly if the pods decide it. -/
theorem finished_iff_decided {now : MXReplicaType → Nat → Time} {marked : MXJob}
    (unfinished : isJobFinished mxjob.status = false)
    (marks : MarkedAs (replicaPasses now mxjob pods) marked) :
    isJobFinished marked.status = true ↔ Decided mxjob pods := by
  have shown : ∀ {type}, type = .succeeded ∨ type = .failed → Visible marked.status type :=
    fun verdict => marks.visible (replicaPasses_visible (visible_of_unfinished unfinished verdict))
  obtain ⟨noSuccess, noFailure⟩ := check_of_unfinished unfinished
  have verdict : checkCondition marked.status .succeeded = true ∨
      checkCondition marked.status .failed = true ↔ Decided mxjob pods := by
    rw [marks.check (by decide), marks.check (by decide), replicaPasses_succeeded,
      replicaPasses_failed, noSuccess, noFailure]
    simp only [Bool.false_eq_true, false_or, and_true, Decided]
    tauto
  rw [← verdict]
  constructor
  · exact check_of_finished (shown (Or.inl rfl)) (shown (Or.inr rfl))
  · rintro (succeeded | failed)
    · exact isJobFinished_of_check (Or.inl rfl) succeeded
    · exact isJobFinished_of_check (Or.inr rfl) failed

theorem CreatedAs.decided_iff (created : CreatedAs mxjob job) :
    Decided job pods ↔ Decided mxjob pods := by
  simp only [Decided, created.samePass.allSucceeded_iff, created.samePass.lost_iff]

/-- A pod is deleted only once the job is decided, and only if it was active in
the list. -/
theorem sync_deletePod {name : String} (issued : (sync event).Issues trace (.deletePod name)) :
    Reconcilable event ∧ ∃ pods, Evaluation event.object pods trace ∧
      (∃ pod ∈ filterActivePods pods, name = pod.name) ∧ Decided event.object pods := by
  obtain ⟨reconcilable, readings, back, job, rfl, clock, created, asked⟩ :=
    sync_reconciles issued (by simp) (by simp)
  refine ⟨reconcilable, ?_⟩
  cases asked with
  | evaluating inner => cases evaluate_serves inner
  | terminating pods marked evaluation now marks finished shape =>
      refine ⟨pods, (evaluation.of_samePass created.samePass).prepend clock, ?_, ?_⟩
      · rcases shape with same | ⟨pod, member, same⟩
        · cases same
        · cases same
          exact ⟨pod, member, rfl⟩
      · rw [← created.decided_iff, ← finished_iff_decided _ marks]
        · exact finished
        · rw [created.isJobFinished_eq, reconcilable.unfinished]

/-- The start webhook is called right after the evaluation, for a job that was
not yet initialized. -/
theorem sync_startHook (issued : (sync event).Issues trace (.callHookAsync after true)) :
    Reconcilable event ∧ checkCondition event.object.status .initialized = false ∧
      StatusOnly event.object after ∧
      ∀ call ∈ trace, servesEvaluation call.request = true := by
  obtain ⟨reconcilable, readings, back, job, rfl, clock, created, asked⟩ :=
    sync_reconciles issued (by simp) (by simp)
  refine ⟨reconcilable, ?_⟩
  cases asked with
  | evaluating inner => cases evaluate_serves inner
  | starting pods evaluation fresh quiet passes now =>
      refine ⟨created.samePass.initialized ▸ fresh, ?_, fun call member => ?_⟩
      · exact (created.samePass.statusOnly.trans replicaPasses_samePass.statusOnly).trans rfl
      · rcases List.mem_append.mp member with earlier | later
        · rw [clock call earlier]
          rfl
        · exact quiet call later
  | terminating pods marked evaluation now marks finished shape =>
      rcases shape with same | ⟨pod, _, same⟩ <;> cases same

/-- The finish webhook is called once per Sync, with a finished status. -/
theorem sync_finishHook (issued : (sync event).Issues trace (.callHookAsync after false)) :
    Reconcilable event ∧ isJobFinished after.status = true ∧ StatusOnly event.object after ∧
      ∀ call ∈ trace, ∀ other, call.request ≠ .callHookAsync other false := by
  obtain ⟨reconcilable, readings, back, job, rfl, clock, created, asked⟩ :=
    sync_reconciles issued (by simp) (by simp)
  refine ⟨reconcilable, ?_⟩
  cases asked with
  | evaluating inner => cases evaluate_serves inner
  | terminating pods marked evaluation now marks finished shape =>
      rcases shape with same | ⟨pod, _, same⟩ <;> cases same
  | notifying pods marked after evaluation now marks finished finishes silent =>
      refine ⟨?_, ?_, fun call member other => ?_⟩
      · rw [finishes.frame.isJobFinished_eq, finished]
      · exact ((created.samePass.statusOnly.trans replicaPasses_samePass.statusOnly).trans
          marks.statusOnly).trans finishes.frame.statusOnly
      · rcases List.mem_append.mp member with earlier | later
        · rw [clock call earlier]
          simp
        · exact silent call later other

end Requests

/-! ### The update of Sync -/

/-- What has happened when Sync gets to its update. -/
def Concluded (mxjob : MXJob) (pods : List Pod) (after : MXJob) (trace : List Call) : Prop :=
  ∃ job, CreatedAs mxjob job ∧ Conclusion job pods after trace

theorem Conclusion.prepend {mxjob after : MXJob} {pods : List Pod} {trace readings : List Call}
    (conclusion : Conclusion mxjob pods after trace)
    (clock : ∀ call ∈ readings, call.request = .now) :
    Conclusion mxjob pods after (readings ++ trace) where
  evaluation := conclusion.evaluation.prepend clock
  outcome := conclusion.outcome
  started := by
    intro fresh
    obtain ⟨job, same, hook⟩ := conclusion.started fresh
    exact ⟨job, same, List.mem_append_right _ hook⟩
  stopped := by
    intro finished
    obtain ⟨deleted, hook⟩ := conclusion.stopped finished
    exact ⟨fun pod member => List.mem_append_right _ (deleted pod member),
      List.mem_append_right _ hook⟩
  spared := by
    intro unfinished call member
    rcases List.mem_append.mp member with reading | later
    · rw [clock call reading]
      rfl
    · exact conclusion.spared unfinished call later
  unstored := by
    intro call member job
    rcases List.mem_append.mp member with reading | later
    · rw [clock call reading]
      simp
    · exact conclusion.unstored call later job

/-- The pods a Sync claimed, after it read the clock. -/
def SyncClaims (mxjob : MXJob) (pods : List Pod) (trace : List Call) : Prop :=
  ∃ readings back, trace = readings ++ back ∧ (∀ call ∈ readings, call.request = .now) ∧
    Claims mxjob pods back

theorem SyncClaims.append {mxjob : MXJob} {pods : List Pod} {trace back : List Call}
    (claims : SyncClaims mxjob pods trace) : SyncClaims mxjob pods (trace ++ back) := by
  obtain ⟨readings, middle, rfl, clock, claimed⟩ := claims
  exact ⟨readings, middle ++ back, by simp, clock, claimed.append⟩

/-- The listing is the first call that is no clock reading. -/
theorem SyncClaims.unique {mxjob : MXJob} {pods other : List Pod} {trace : List Call}
    (claims : SyncClaims mxjob pods trace) (again : SyncClaims mxjob other trace) :
    pods = other := by
  have listing : ∀ {readings back : List Call} {found : List Pod},
      (∀ call ∈ readings, call.request = .now) → Claims mxjob found back →
      (readings ++ back).dropWhile (fun call => decide (call.request = .now)) = back := by
    intro readings back found clock claimed
    rw [List.dropWhile_append_of_pos fun call member => by simpa using clock call member]
    obtain ⟨first, rest, rfl, returned⟩ := claimed
    obtain ⟨reply, _, claiming, rfl, _⟩ := claimListed_returns returned
    rfl
  obtain ⟨readings, back, rfl, clock, claimed⟩ := claims
  obtain ⟨readings', back', same, clock', claimed'⟩ := again
  have first := listing clock claimed
  rw [same, listing clock' claimed'] at first
  subst first
  exact claimed.unique claimed'

/-- What a Sync claims does not depend on the condition it adds. -/
theorem Claims.of_created {mxjob job : MXJob} {pods : List Pod} {trace : List Call}
    (claims : Claims job pods trace) (created : CreatedAs mxjob job) : Claims mxjob pods trace := by
  obtain ⟨listing, back, rfl, returned⟩ := claims
  refine ⟨listing, back, rfl, ?_⟩
  rwa [created.samePass.statusOnly, getPodsForMXJob_withStatus] at returned

theorem sync_update {event : Event} {after : MXJob} {trace : List Call}
    (issued : (sync event).Issues trace (.updateMXJob after)) :
    Reconcilable event ∧ ∃ pods, Concluded event.object pods after trace ∧
      SyncClaims event.object pods trace := by
  obtain ⟨reconcilable, readings, back, job, rfl, clock, created, asked⟩ :=
    sync_reconciles issued (by simp) (by simp)
  refine ⟨reconcilable, ?_⟩
  cases asked with
  | evaluating inner => cases evaluate_serves inner
  | terminating pods marked evaluation now marks finished shape =>
      rcases shape with same | ⟨pod, _, same⟩ <;> cases same
  | storing pods after claims conclusion changed =>
      exact ⟨pods, ⟨job, created, conclusion.prepend clock⟩, readings, back, rfl, clock,
        claims.of_created created⟩

/-- A Sync that ends without error has reconciled the job and, where this
changed the status, stored it. -/
theorem sync_completes {event : Event} {trace : List Call} {result : Unit}
    (reconcilable : Reconcilable event) (returned : (sync event).Returns trace result) :
    ∃ pods job after front, CreatedAs event.object job ∧ Conclusion job pods after front ∧
      SyncClaims event.object pods trace ∧
      trace = front ++ if job.status = after.status then [] else
        [(⟨.updateMXJob after, none⟩ : Call)] := by
  have live : ¬ event.object.deletionTimestamp.isSome = true := by simp [reconcilable.live]
  rw [sync, reconcilable.present, if_neg Bool.false_ne_true, if_neg live] at returned
  simp only [syncPresent, Program.returns_bind] at returned
  obtain ⟨job, readings, back, rfl, marked, returned⟩ := returned
  obtain ⟨created, clock⟩ := markCreated_returns marked
  rw [created.isJobFinished_eq, reconcilable.unfinished, if_neg Bool.false_ne_true] at returned
  simp only [Program.returns_bind, Program.returns_pure] at returned
  obtain ⟨after, middle, _, rfl, reconciled, rfl, _⟩ := returned
  obtain ⟨pods, front, conclusion, claims, rfl⟩ := reconcileMXJobs_returns reconciled
  refine ⟨pods, job, after, readings ++ front, created, conclusion.prepend clock, ?_, by simp⟩
  exact ⟨readings, _, rfl, clock, (claims.of_created created).append⟩

/-- After the update Sync asks for nothing more. -/
theorem sync_unstored {event : Event} {request : Request} {trace : List Call}
    (issued : (sync event).Issues trace request) :
    ∀ call ∈ trace, ∀ job, call.request ≠ .updateMXJob job := by
  cases sync_issues issued with
  | finalizing => simp
  | reading => simp
  | reconciling reconcilable readings back clock job created inner =>
      intro call member other
      rcases List.mem_append.mp member with earlier | later
      · rw [clock call earlier]
        simp
      · exact reconcileMXJobs_unstored inner call later other

/-- A Sync fails where its reconciliation fails. -/
theorem sync_aborts {event : Event} {trace : List Call} {reason : Abort}
    (aborted : (sync event).Aborts trace reason) :
    Reconcilable event ∧ ∃ readings back job, trace = readings ++ back ∧
      (∀ call ∈ readings, call.request = .now) ∧ CreatedAs event.object job ∧
      (reconcileMXJobs job).Aborts back reason := by
  unfold sync at aborted
  split at aborted
  · exact absurd aborted Program.aborts_pure
  · rename_i present
    split at aborted
    · unfold handleMXJobFinalizers at aborted
      split at aborted <;> simp [Program.aborts_bind] at aborted
    · rename_i live
      simp only [syncPresent, Program.aborts_bind, aborts_markCreated, false_or] at aborted
      obtain ⟨job, readings, back, rfl, marked, aborted⟩ := aborted
      obtain ⟨created, clock⟩ := markCreated_returns marked
      split at aborted
      · exact absurd aborted Program.aborts_pure
      · rename_i unfinished
        simp only [Program.aborts_bind, Program.aborts_pure, and_false, exists_false,
          or_false] at aborted
        refine ⟨⟨by simpa using present, by simpa using live, ?_⟩, readings, back, job, rfl, clock,
          created, aborted⟩
        rw [← created.isJobFinished_eq]
        simpa using unfinished

/-- Every way in which the reconciliation of a live unfinished job fails is one
in which its Sync fails. -/
theorem sync_aborts_of_reconcile {event : Event} {job : MXJob} {readings back : List Call}
    {reason : Abort} (reconcilable : Reconcilable event)
    (marked : (markCreated event.object).Returns readings job)
    (aborted : (reconcileMXJobs job).Aborts back reason) :
    (sync event).Aborts (readings ++ back) reason := by
  have live : ¬ event.object.deletionTimestamp.isSome = true := by simp [reconcilable.live]
  have unfinished : ¬ isJobFinished job.status = true := by
    rw [(markCreated_returns marked).1.isJobFinished_eq, reconcilable.unfinished]
    exact Bool.false_ne_true
  rw [sync, reconcilable.present, if_neg Bool.false_ne_true, if_neg live]
  refine Program.aborts_bind.mpr (Or.inr ⟨job, readings, back, rfl, marked, ?_⟩)
  rw [if_neg unfinished]
  exact Program.aborts_bind.mpr (Or.inl aborted)

/-- A Sync that has ended after a webhook call has sent its update or, if it was
the start webhook, failed in the termination. -/
theorem sync_notified {event : Event} {trace : List Call} {job : MXJob} {kind : Bool}
    (ended : (sync event).Returns trace () ∨ ∃ reason, (sync event).Aborts trace reason)
    (hook : (⟨.callHookAsync job kind, ()⟩ : Call) ∈ trace) :
    (∃ call ∈ trace, ∃ after, call.request = .updateMXJob after) ∨
      (kind = true ∧ ((∃ name error, (⟨.deletePod name, some error⟩ : Call) ∈ trace) ∨
        ∃ rtype, replicasOf event.object rtype = none)) := by
  rcases ended with returned | ⟨reason, aborted⟩
  · left
    obtain ⟨front, back, _, issued⟩ := returned.issues_of_mem hook
    -- the webhook was called for a status that the reconciliation has changed
    have fresh : Reconcilable event ∧
        (kind = true → checkCondition event.object.status .initialized = false) := by
      cases kind with
      | true => exact ⟨(sync_startHook issued).1, fun _ => (sync_startHook issued).2.1⟩
      | false => exact ⟨(sync_finishHook issued).1, fun impossible => by cases impossible⟩
    obtain ⟨pods, created, after, done, marks, conclusion, _, rfl⟩ := sync_completes fresh.1 returned
    have changed : created.status ≠ after.status := by
      intro same
      rw [if_pos same, List.append_nil] at hook
      cases kind with
      | true =>
          have initialized := conclusion.initialized
          rw [← same, marks.check (by decide), fresh.2 rfl] at initialized
          cases initialized
      | false =>
          have finished := conclusion.finished_of_hook hook
          rw [← same, marks.isJobFinished_eq, fresh.1.unfinished] at finished
          cases finished
    rw [if_neg changed]
    exact ⟨_, List.mem_append_right _ (List.mem_singleton.mpr rfl), after, rfl⟩
  · obtain ⟨_, readings, back, created, rfl, clock, marks, aborted⟩ := sync_aborts aborted
    have later : (⟨.callHookAsync job kind, ()⟩ : Call) ∈ back := by
      rcases List.mem_append.mp hook with earlier | later
      · cases clock _ earlier
      · exact later
    rcases reconcileMXJobs_aborts_notified aborted later with ⟨call, member, stores⟩ |
      ⟨started, ⟨name, error, member⟩ | ⟨rtype, absent⟩⟩
    · exact Or.inl ⟨call, List.mem_append_right _ member, stores⟩
    · exact Or.inr ⟨started, Or.inl ⟨name, error, List.mem_append_right _ member⟩⟩
    · rw [marks.samePass.statusOnly.replicasOf_eq] at absent
      exact Or.inr ⟨started, Or.inr ⟨rtype, absent⟩⟩

/-- The loop of `handleMXJobFinalizers` stops at an index of the finalizer. -/
theorem indexFound_eq_some {finalizers : List String} {index : Nat}
    (found : indexFound finalizers = some index) :
    finalizers[index]? = some finalizerFinishWebhook := by
  have scanned : ∀ (entries : List (String × Nat)) (start : Option Nat),
      entries.foldl (fun found entry =>
        if entry.1 = finalizerFinishWebhook then some entry.2 else found) start = some index →
      start = some index ∨ (finalizerFinishWebhook, index) ∈ entries := by
    intro entries
    induction entries with
    | nil => exact fun start last => Or.inl last
    | cons entry rest inductionHypothesis =>
        intro start last
        rcases inductionHypothesis _ last with here | later
        · dsimp only at here
          split at here
          · rename_i same
            cases here
            exact Or.inr (same ▸ List.mem_cons_self)
          · exact Or.inl here
        · exact Or.inr (List.mem_cons_of_mem _ later)
  rcases scanned _ _ found with impossible | member
  · cases impossible
  · exact List.mem_zipIdx_iff_getElem?.mp member

/-- A task removes one occurrence of the finalizer. -/
theorem FinalizerTask.count_cleared {task : FinalizerTask}
    (found : indexFound task.object.finalizers = some task.index) :
    task.object.finalizers.count finalizerFinishWebhook =
      task.cleared.finalizers.count finalizerFinishWebhook + 1 := by
  obtain ⟨inside, same⟩ := List.getElem?_eq_some_iff.mp (indexFound_eq_some found)
  have split := (List.getElem_cons_eraseIdx_perm inside).count_eq finalizerFinishWebhook
  rw [← split, same, List.count_cons_self]
  rfl

/-- Once its update is accepted, a Sync has come to its end. -/
theorem sync_ends {event : Event} {front : List Call} {after : MXJob} {rest : Go Unit}
    (path : (sync event).Path (front ++ [(⟨.updateMXJob after, none⟩ : Call)]) rest) :
    rest = .done () := by
  cases rest with
  | done => rfl
  | call request next =>
      have unstored := sync_unstored ⟨next, path⟩ (⟨.updateMXJob after, none⟩ : Call) (by simp) after
      exact absurd rfl unstored
  | abort reason =>
      obtain ⟨_, readings, back, job, split, clock, _, aborted⟩ := sync_aborts path
      have stored : (⟨.updateMXJob after, none⟩ : Call) ∈ readings ++ back := by simp [← split]
      rcases List.mem_append.mp stored with reading | later
      · cases clock _ reading
      · exact absurd later (reconcileMXJobs_aborts_unstored aborted)

theorem sync_createService {event : Event} {trace : List Call} {service : ServiceRequest}
    (issued : (sync event).Issues trace (.createService service)) :
    ∃ spec, service = newService event.object .scheduler spec := by
  obtain ⟨_, readings, back, job, rfl, _, created, asked⟩ :=
    sync_reconciles issued (by simp) (by simp)
  cases asked with
  | evaluating inner =>
      rcases evaluate_issues inner with looking | ⟨pods, _, passing⟩
      · cases getPodsForMXJob_serves looking
      · obtain ⟨spec, _, _, rfl, _⟩ := passing.service service rfl
        exact ⟨spec, newService_of_meta created.samePass.statusOnly.meta_eq.symm⟩
  | terminating pods marked evaluation now marks finished shape =>
      rcases shape with same | ⟨pod, _, same⟩ <;> cases same

namespace Concluded

variable {mxjob after : MXJob} {pods : List Pod} {trace : List Call}

theorem evaluation (concluded : Concluded mxjob pods after trace) :
    Evaluation mxjob pods trace := by
  obtain ⟨job, created, conclusion⟩ := concluded
  exact conclusion.evaluation.of_samePass created.samePass

theorem statusOnly (concluded : Concluded mxjob pods after trace) : StatusOnly mxjob after := by
  obtain ⟨job, created, conclusion⟩ := concluded
  exact created.samePass.statusOnly.trans conclusion.statusOnly

theorem initialized (concluded : Concluded mxjob pods after trace) :
    checkCondition after.status .initialized = true := by
  obtain ⟨job, created, conclusion⟩ := concluded
  exact conclusion.initialized

theorem unique (concluded : Concluded mxjob pods after trace)
    (unique : UniqueConditions mxjob.status) : UniqueConditions after.status := by
  obtain ⟨job, created, conclusion⟩ := concluded
  exact conclusion.unique (created.unique unique)

theorem succeeded (concluded : Concluded mxjob pods after trace)
    (unfinished : isJobFinished mxjob.status = false) :
    checkCondition after.status .succeeded = true ↔ AllSucceeded mxjob pods := by
  obtain ⟨job, created, conclusion⟩ := concluded
  rw [conclusion.succeeded, created.check (by decide), (check_of_unfinished unfinished).1,
    created.samePass.allSucceeded_iff]
  simp

theorem failed (concluded : Concluded mxjob pods after trace)
    (unfinished : isJobFinished mxjob.status = false) :
    checkCondition after.status .failed = true ↔
      (∃ rtype, Lost mxjob pods rtype) ∧ ¬ AllSucceeded mxjob pods := by
  obtain ⟨job, created, conclusion⟩ := concluded
  rw [conclusion.failed, created.check (by decide), created.check (by decide),
    (check_of_unfinished unfinished).1, (check_of_unfinished unfinished).2,
    created.samePass.allSucceeded_iff]
  simp [created.samePass.lost_iff]

theorem completionTime (concluded : Concluded mxjob pods after trace) :
    after.status.completionTime.isSome = true ↔
      mxjob.status.completionTime.isSome = true ∨ AllSucceeded mxjob pods := by
  obtain ⟨job, created, conclusion⟩ := concluded
  rw [conclusion.completionTime, created.completionTime, created.samePass.allSucceeded_iff]

theorem started (concluded : Concluded mxjob pods after trace)
    (fresh : checkCondition mxjob.status .initialized = false) :
    ∃ job, StatusOnly mxjob job ∧ (⟨.callHookAsync job true, ()⟩ : Call) ∈ trace := by
  obtain ⟨job, created, conclusion⟩ := concluded
  obtain ⟨notified, same, hook⟩ := conclusion.started (created.samePass.initialized.trans fresh)
  exact ⟨notified, created.samePass.statusOnly.trans same, hook⟩

theorem stopped (concluded : Concluded mxjob pods after trace)
    (finished : isJobFinished after.status = true) :
    (∀ pod ∈ filterActivePods pods, (⟨.deletePod pod.name, none⟩ : Call) ∈ trace) ∧
      (⟨.callHookAsync after false, ()⟩ : Call) ∈ trace := by
  obtain ⟨job, created, conclusion⟩ := concluded
  exact conclusion.stopped finished

end Concluded

/-! ### Requests of the finalizer goroutine -/

/-- What a request of the finalizer goroutine presupposes. -/
inductive FinalizerRequest (task : FinalizerTask) : List Call → Request → Prop where
  | entering : FinalizerRequest task [] (.enterGroup task.key)
  | notifying (unfinished : isJobFinished task.object.status = false) :
      FinalizerRequest task [⟨.enterGroup task.key, true⟩] (.callHookAsync task.object false)
  | waiting (trace : List Call) : FinalizerRequest task trace .awaitHook
  | storing (trace : List Call) (notified : isJobFinished task.object.status = false →
      (⟨.callHookAsync task.object false, ()⟩ : Call) ∈ trace)
      (unstored : ∀ call ∈ trace, ∀ job, call.request ≠ .updateMXJob job) :
      FinalizerRequest task trace (.updateMXJob task.cleared)
  | leaving (trace : List Call) (entered : (⟨.enterGroup task.key, true⟩ : Call) ∈ trace)
      (inside : ∀ call ∈ trace, ∀ key, call.request ≠ .leaveGroup key)
      (stored : ∃ call ∈ trace, call.request = .updateMXJob task.cleared) :
      FinalizerRequest task trace (.leaveGroup task.key)

theorem callFinishHook_returns {mxjob : MXJob} {trace : List Call} {result : Unit}
    (returned : (callFinishHook mxjob).Returns trace result) :
    (isJobFinished mxjob.status = false →
      (⟨.callHookAsync mxjob false, ()⟩ : Call) ∈ trace) ∧
      (∀ call ∈ trace, ∀ job, call.request ≠ .updateMXJob job) ∧
      ∀ call ∈ trace, ∀ key, call.request ≠ .leaveGroup key := by
  unfold callFinishHook at returned
  split at returned
  · rename_i finished
    obtain ⟨rfl, _⟩ := Program.returns_pure.mp returned
    simp [finished]
  · simp only [Program.returns_bind, returns_ask, Program.returns_pure] at returned
    obtain ⟨_, _, _, rfl, rfl, _, _, _, rfl, rfl, rfl, _⟩ := returned
    exact ⟨fun _ => List.mem_append_left _ (List.mem_singleton.mpr rfl), by simp, by simp⟩

theorem finalizer_issues {task : FinalizerTask} {trace : List Call} {request : Request}
    (issued : (finalizer task).Issues trace request) : FinalizerRequest task trace request := by
  simp only [finalizer, Program.issues_bind, issues_ask, returns_ask] at issued
  rcases issued with ⟨rfl, rfl⟩ | ⟨leads, _, back, rfl, rfl, issued⟩
  · exact .entering
  · cases leads with
    | false => exact absurd issued Program.issues_pure
    | true =>
        simp only [Program.issues_bind, issues_ask, returns_ask, Program.issues_pure, and_false,
          exists_false, or_false] at issued
        rcases issued with hooking | ⟨_, hooked, _, rfl, returned, later⟩
        · unfold callFinishHook at hooking
          split at hooking
          · exact absurd hooking Program.issues_pure
          · rename_i unfinished
            simp only [Program.issues_bind, issues_ask, returns_ask, Program.issues_pure,
              and_false, exists_false, or_false] at hooking
            rcases hooking with ⟨rfl, rfl⟩ | ⟨_, _, _, rfl, rfl, rfl, rfl⟩
            · exact .notifying (by simpa using unfinished)
            · exact .waiting _
        · obtain ⟨notified, unstored, inside⟩ := callFinishHook_returns returned
          rcases later with ⟨rfl, rfl⟩ | ⟨_, _, _, rfl, rfl, rfl, rfl⟩
          · refine .storing _ (fun unfinished => ?_) ?_
            · simp [notified unfinished]
            · intro call member
              rcases List.mem_append.mp member with first | later
              · rw [List.mem_singleton.mp first]
                simp
              · exact unstored call (by simpa using later)
          · refine .leaving _ (List.mem_append_left _ (List.mem_singleton.mpr rfl)) ?_ ?_
            swap
            · exact ⟨_, List.mem_append_right _ (List.mem_append_right _
                (List.mem_append_left _ (List.mem_singleton.mpr rfl))), rfl⟩
            intro call member
            rcases List.mem_append.mp member with first | later
            · rw [List.mem_singleton.mp first]
              simp
            · rcases List.mem_append.mp later with hooking | storing
              · exact inside call hooking
              · rw [List.append_nil] at storing
                rw [List.mem_singleton.mp storing]
                simp

end MXNetOperator.Mx
