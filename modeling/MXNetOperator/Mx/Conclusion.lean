import MXNetOperator.Mx.Reconcile

/-!
Contract: specification of `reconcileMXJobs`.

Owns the description of a reconciliation from the outside: what has happened
when it gets to the update (`Conclusion`), and what each request it issues
presupposes (`reconcileMXJobs_issues` and its corollaries).  All facts are
about the exchanges of one reconciliation, for arbitrary replies.
-/

namespace MXNetOperator.Mx

open MXNetOperator.Kube MXNetOperator.Api MXNetOperator.Interaction

/-! ### Evaluation -/

section Evaluation

variable {mxjob after : MXJob} {pods : List Pod} {trace : List Call} {request : Request}

/-- The pods were listed live and claimed. -/
def Listed (mxjob : MXJob) (pods : List Pod) (trace : List Call) : Prop :=
  ∃ listed, (⟨.listPods, .ok listed⟩ : Call) ∈ trace ∧
    Claimed .pod Pod.toObjectMeta mxjob listed pods trace

theorem Listed.mono {larger : List Call} (listed : Listed mxjob pods trace)
    (included : trace ⊆ larger) : Listed mxjob pods larger := by
  obtain ⟨all, found, claims⟩ := listed
  exact ⟨all, included found, claims.mono included⟩

theorem Listed.of_meta {other : MXJob} (listed : Listed mxjob pods trace)
    (same : mxjob.toObjectMeta = other.toObjectMeta) : Listed other pods trace := by
  obtain ⟨all, found, claims⟩ := listed
  exact ⟨all, found, claims.of_meta same⟩

theorem servesListing_createsNoPod {call : Call} (serves : servesListing call.request = true) :
    createsPod call = false := by
  obtain ⟨request, reply⟩ := call
  cases request <;> first | rfl | cases serves

theorem getPodsForMXJob_createsNoPod {rest : Go (List Pod)}
    (path : (getPodsForMXJob mxjob).Path trace rest) :
    ∀ call ∈ trace, createsPod call = false := by
  intro call member
  refine servesListing_createsNoPod (path.forall_request (servesListing · = true) ?_ call member)
  exact fun front request issued => getPodsForMXJob_serves issued

theorem getPodsForMXJob_listed (returned : (getPodsForMXJob mxjob).Returns trace pods) :
    Listed mxjob pods trace := by
  obtain ⟨reply, listed, claiming, rfl, decoded, claims⟩ := claimListed_returns returned
  cases decoded
  exact ⟨listed, List.mem_cons_self, claims.mono (List.subset_cons_self _ claiming)⟩

/-- The trace starts with a completed listing that claimed these pods. -/
def Claims (mxjob : MXJob) (pods : List Pod) (trace : List Call) : Prop :=
  ∃ listing back, trace = listing ++ back ∧ (getPodsForMXJob mxjob).Returns listing pods

theorem Claims.append {back : List Call} (claims : Claims mxjob pods trace) :
    Claims mxjob pods (trace ++ back) := by
  obtain ⟨listing, rest, rfl, returned⟩ := claims
  exact ⟨listing, rest ++ back, by simp, returned⟩

theorem Claims.unique {other : List Pod} (claims : Claims mxjob pods trace)
    (again : Claims mxjob other trace) : pods = other := by
  obtain ⟨listing, rest, rfl, returned⟩ := claims
  obtain ⟨listing', rest', same, returned'⟩ := again
  exact returned.unique returned' same

/-- A job that claims pods has a name its selector accepts. -/
theorem Claims.valid (claims : Claims mxjob pods trace) :
    ∃ selector, labelSelectorAsSelector (genLabels mxjob none) = .ok selector := by
  obtain ⟨listing, _, _, returned⟩ := claims
  unfold getPodsForMXJob claimListed at returned
  split at returned
  · exact absurd returned Program.returns_abort
  · rename_i selector valid
    exact ⟨selector, valid⟩

/-- The exchanges of a completed evaluation. -/
structure Evaluation (mxjob : MXJob) (pods : List Pod) (trace : List Call) : Prop where
  listed : Listed mxjob pods trace
  counts : ∀ rtype, createCount rtype trace = podsNeeded mxjob pods rtype
  accepted : ∀ call ∈ trace, acceptedCreate call
  given : ∀ rtype, GivesReplicas mxjob rtype
  service : ∀ spec, mxjob.spec.mxReplicaSpecs.scheduler = some spec → ServiceDone mxjob spec trace

/-- Requests of an evaluation. -/
def servesEvaluation (request : Request) : Bool :=
  servesListing request || servesReplicas request

theorem evaluate_returns (returned : (evaluate mxjob).Returns trace (pods, after)) :
    (∃ now, after = replicaPasses now mxjob pods) ∧ Evaluation mxjob pods trace ∧
      Claims mxjob pods trace := by
  simp only [evaluate, Program.returns_bind, Program.returns_pure, Prod.mk.injEq] at returned
  obtain ⟨_, listing, _, rfl, looked, _, passing, _, rfl, passed, rfl, rfl, rfl⟩ := returned
  obtain ⟨now, rfl, done⟩ := reconcileReplicas_returns passed
  have quiet := getPodsForMXJob_createsNoPod looked
  rw [List.append_nil]
  refine ⟨⟨now, rfl⟩, ⟨(getPodsForMXJob_listed looked).mono (List.subset_append_left listing _),
    ?_, ?_, done.given, ?_⟩, ⟨listing, passing, rfl, looked⟩⟩
  · intro rtype
    rw [createCount_append, createCount_eq_zero quiet, done.counts, Nat.zero_add]
  · intro call member
    rcases List.mem_append.mp member with earlier | later
    · exact acceptedCreate_of_not_creates (quiet call earlier)
    · exact done.accepted call later
  · intro spec present
    refine (done.service spec present).mono (List.subset_append_right listing _) ?_
    intro call member
    rcases List.mem_append.mp member with earlier | later
    · right
      intro service same
      obtain ⟨_, _, _, issued⟩ := looked.issues_of_mem earlier
      have serves := getPodsForMXJob_serves issued
      rw [same] at serves
      cases serves
    · exact Or.inl later

/-- A request of an evaluation belongs to the listing or to the passes. -/
theorem evaluate_issues (issued : (evaluate mxjob).Issues trace request) :
    (getPodsForMXJob mxjob).Issues trace request ∨
      ∃ pods, Listed mxjob pods trace ∧ PassesRequest mxjob pods trace request := by
  simp only [evaluate, Program.issues_bind, Program.issues_pure, and_false, exists_false,
    or_false] at issued
  rcases issued with looking | ⟨pods, listing, passing, rfl, looked, passing⟩
  · exact Or.inl looking
  · right
    have quiet := getPodsForMXJob_createsNoPod looked
    have asked := reconcileReplicas_issues passing
    refine ⟨pods, (getPodsForMXJob_listed looked).mono (List.subset_append_left listing _),
      fun rtype => ?_, asked.serves, fun pod created => ?_, fun service created => ?_⟩
    · rw [createCount_append, createCount_eq_zero quiet, Nat.zero_add]
      exact asked.counts rtype
    · obtain ⟨rtype, isNew, below⟩ := asked.creation pod created
      refine ⟨rtype, isNew, ?_⟩
      rwa [createCount_append, createCount_eq_zero quiet, Nat.zero_add]
    · obtain ⟨spec, listed, present, same, found, claims⟩ := asked.service service created
      exact ⟨spec, listed, present, same, List.mem_append_right _ found,
        claims.mono (List.subset_append_right listing _)⟩

theorem evaluate_serves (issued : (evaluate mxjob).Issues trace request) :
    servesEvaluation request = true := by
  rcases evaluate_issues issued with looking | ⟨pods, _, asked⟩
  · simp [servesEvaluation, getPodsForMXJob_serves looking]
  · simp [servesEvaluation, asked.serves]

end Evaluation

/-! ### Initialization, termination, update -/

section Closing

variable {mxjob after : MXJob} {pods : List Pod} {trace : List Call} {request : Request}

/-- Requests after the evaluation, the update aside. -/
def servesClosing : Request → Bool
  | .now => true
  | .callHookAsync _ _ => true
  | .schedule _ => true
  | .deletePod _ => true
  | _ => false

/-- What `markInitialized` does to the job. -/
inductive MarkedAs (evaluated : MXJob) : MXJob → Prop where
  | already (initialized : checkCondition evaluated.status .initialized = true) :
      MarkedAs evaluated evaluated
  | now (fresh : checkCondition evaluated.status .initialized = false) (now : Nat → Time) :
      MarkedAs evaluated (withInitialized now evaluated)

theorem markInitialized_returns (returned : (markInitialized mxjob).Returns trace after) :
    MarkedAs mxjob after ∧ (∀ call ∈ trace, servesClosing call.request = true) ∧
      (checkCondition mxjob.status .initialized = false →
        (⟨.callHookAsync after true, ()⟩ : Call) ∈ trace) ∧
      ∀ call ∈ trace, ∀ job, call.request ≠ .callHookAsync job false := by
  unfold markInitialized at returned
  split at returned
  · rename_i initialized
    obtain ⟨rfl, rfl⟩ := Program.returns_pure.mp returned
    exact ⟨.already initialized, by simp, by simp [initialized], by simp⟩
  · rename_i fresh
    simp only [Program.returns_bind, returns_ask, Program.returns_pure] at returned
    obtain ⟨now, _, _, rfl, rfl, _, _, _, rfl, rfl, rfl, rfl⟩ := returned
    refine ⟨.now (by simpa using fresh) now, by simp [servesClosing], fun _ => ?_, by simp⟩
    exact List.mem_append_right _ (List.mem_append_left _ (List.mem_singleton.mpr rfl))

theorem markInitialized_issues (issued : (markInitialized mxjob).Issues trace request) :
    checkCondition mxjob.status .initialized = false ∧
      (∀ call ∈ trace, call.request = .now) ∧
      (request = .now ∨ ∃ now, request = .callHookAsync (withInitialized now mxjob) true) := by
  unfold markInitialized at issued
  split at issued
  · exact absurd issued Program.issues_pure
  · rename_i fresh
    simp only [Program.issues_bind, issues_ask, returns_ask, Program.issues_pure, and_false,
      exists_false, or_false] at issued
    refine ⟨by simpa using fresh, ?_⟩
    rcases issued with ⟨rfl, rfl⟩ | ⟨now, _, _, rfl, rfl, rfl, rfl⟩
    · exact ⟨by simp, Or.inl rfl⟩
    · exact ⟨by simp, Or.inr ⟨now, rfl⟩⟩

@[simp] theorem aborts_markInitialized {reason : Abort} :
    ¬ (markInitialized mxjob).Aborts trace reason := by
  unfold markInitialized
  split <;> simp [Program.aborts_bind]

/-- What `finishJob` does to the job. -/
inductive FinishedAs (pods : List Pod) (marked : MXJob) : MXJob → Prop where
  | running (unfinished : isJobFinished marked.status = false) : FinishedAs pods marked marked
  | finished {after : MXJob} (finished : isJobFinished marked.status = true)
      (frame : CountersOnly marked after)
      (counters : ∀ rtype, getMXReplicaStatus after rtype =
        (getMXReplicaStatus marked rtype).map fun status =>
          moveToGone status (filterPodsForMXReplicaType (filterActivePods pods) rtype).length) :
      FinishedAs pods marked after

theorem CountersOnly.isJobFinished_eq {before after : MXJob} (frame : CountersOnly before after) :
    isJobFinished after.status = isJobFinished before.status := by
  rw [frame]
  rfl

theorem FinishedAs.frame {marked : MXJob} (finishes : FinishedAs pods marked after) :
    CountersOnly marked after := by
  cases finishes with
  | running => exact CountersOnly.refl _
  | finished _ frame => exact frame

theorem terminateMXJob_closes (issued : (terminateMXJob mxjob pods).Issues trace request) :
    servesClosing request = true ∧ ∀ job kind, request ≠ .callHookAsync job kind := by
  rcases terminateMXJob_issues issued with rfl | ⟨pod, _, rfl⟩ <;>
    exact ⟨rfl, by simp⟩

theorem finishJob_returns (returned : (finishJob mxjob pods).Returns trace after) :
    FinishedAs pods mxjob after ∧ (∀ call ∈ trace, servesClosing call.request = true) ∧
      (isJobFinished after.status = true →
        (∀ pod ∈ filterActivePods pods, (⟨.deletePod pod.name, none⟩ : Call) ∈ trace) ∧
          (⟨.callHookAsync after false, ()⟩ : Call) ∈ trace) := by
  unfold finishJob at returned
  split at returned
  · rename_i isFinished
    simp only [Program.returns_bind, returns_ask, Program.returns_pure] at returned
    obtain ⟨_, deleting, _, rfl, terminated, _, _, _, rfl, rfl, rfl, rfl⟩ := returned
    obtain ⟨frame, counters, deleted⟩ := terminateMXJob_returns terminated
    refine ⟨.finished isFinished frame counters, ?_, fun _ => ⟨?_, ?_⟩⟩
    · intro call member
      rcases List.mem_append.mp member with earlier | last
      · exact terminated.forall_request (servesClosing · = true)
          (fun _ _ issued => (terminateMXJob_closes issued).1) call earlier
      · rw [List.append_nil] at last
        rw [List.mem_singleton.mp last]
        rfl
    · intro pod member
      exact List.mem_append_left _ (deleted pod member)
    · exact List.mem_append_right _ (List.mem_append_left _ (List.mem_singleton.mpr rfl))
  · rename_i unfinished
    obtain ⟨rfl, rfl⟩ := Program.returns_pure.mp returned
    have running : isJobFinished mxjob.status = false := by simpa using unfinished
    exact ⟨.running running, by simp, by simp [running]⟩

/-- The requests of `finishJob`: deletions of active pods, and the finish
webhook once all of them are deleted. -/
theorem finishJob_issues (issued : (finishJob mxjob pods).Issues trace request) :
    isJobFinished mxjob.status = true ∧
      (∀ call ∈ trace, servesClosing call.request = true ∧
        ∀ job kind, call.request ≠ .callHookAsync job kind) ∧
      (request = .schedule (filterActivePods pods) ∨
        (∃ pod ∈ filterActivePods pods, request = .deletePod pod.name) ∨
        ∃ after, FinishedAs pods mxjob after ∧ request = .callHookAsync after false ∧
          ∀ pod ∈ filterActivePods pods, (⟨.deletePod pod.name, none⟩ : Call) ∈ trace) := by
  unfold finishJob at issued
  split at issued
  · rename_i isFinished
    simp only [Program.issues_bind, issues_ask, Program.issues_pure, and_false, exists_false,
      or_false] at issued
    refine ⟨isFinished, ?_⟩
    rcases issued with deleting | ⟨after, deleting, _, rfl, terminated, rfl, rfl⟩
    · obtain ⟨next, path⟩ := deleting
      refine ⟨path.forall_request (fun asked => servesClosing asked = true ∧
        ∀ job kind, asked ≠ .callHookAsync job kind)
          fun _ _ issued => terminateMXJob_closes issued, ?_⟩
      rcases terminateMXJob_issues ⟨next, path⟩ with scheduling | deletion
      · exact Or.inl scheduling
      · exact Or.inr (Or.inl deletion)
    · obtain ⟨frame, counters, deleted⟩ := terminateMXJob_returns terminated
      rw [List.append_nil]
      refine ⟨terminated.forall_request (fun asked => servesClosing asked = true ∧
        ∀ job kind, asked ≠ .callHookAsync job kind)
          fun _ _ issued => terminateMXJob_closes issued, Or.inr (Or.inr ⟨after, ?_, rfl, deleted⟩)⟩
      exact .finished isFinished frame counters
  · exact absurd issued Program.issues_pure

theorem finishJob_closes (issued : (finishJob mxjob pods).Issues trace request) :
    servesClosing request = true := by
  obtain ⟨_, _, rfl | ⟨pod, _, rfl⟩ | ⟨after, _, rfl, _⟩⟩ := finishJob_issues issued <;> rfl

theorem finishJob_aborts {reason : Abort} (aborted : (finishJob mxjob pods).Aborts trace reason) :
    (terminateMXJob mxjob pods).Aborts trace reason := by
  unfold finishJob at aborted
  split at aborted
  · simpa only [Program.aborts_bind, aborts_ask, Program.aborts_pure, and_false, exists_false,
      or_false] using aborted
  · exact absurd aborted Program.aborts_pure

theorem storeStatus_issues {oldStatus : MXJobStatus}
    (issued : (storeStatus oldStatus mxjob).Issues trace request) :
    oldStatus ≠ mxjob.status ∧ trace = [] ∧ request = .updateMXJob mxjob := by
  unfold storeStatus at issued
  split at issued
  · exact absurd issued Program.issues_pure
  · rename_i changed
    simp only [Program.issues_bind, issues_ask, issues_failOn, Program.issues_pure, and_false,
      exists_false, or_false] at issued
    exact ⟨changed, issued⟩

theorem storeStatus_returns {oldStatus : MXJobStatus}
    (returned : (storeStatus oldStatus mxjob).Returns trace after) :
    after = mxjob ∧ trace = if oldStatus = mxjob.status then [] else
      [(⟨.updateMXJob mxjob, none⟩ : Call)] := by
  unfold storeStatus at returned
  split at returned
  · rename_i same
    obtain ⟨rfl, rfl⟩ := Program.returns_pure.mp returned
    rw [if_pos same]
    exact ⟨rfl, rfl⟩
  · rename_i changed
    simp only [Program.returns_bind, returns_ask, returns_failOn, Program.returns_pure] at returned
    obtain ⟨reply, _, _, rfl, rfl, _, _, _, rfl, ⟨rfl, accepted⟩, rfl, rfl⟩ := returned
    rw [if_neg changed]
    cases reply with
    | none => exact ⟨rfl, rfl⟩
    | some error => cases accepted

theorem storeStatus_failed {oldStatus : MXJobStatus} {reason : Abort}
    (aborted : (storeStatus oldStatus mxjob).Aborts trace reason) :
    ∃ error, trace = [(⟨.updateMXJob mxjob, some error⟩ : Call)] := by
  unfold storeStatus at aborted
  split at aborted
  · exact absurd aborted Program.aborts_pure
  · simp only [Program.aborts_bind, aborts_ask, false_or, returns_ask, aborts_failOn,
      Program.aborts_pure, and_false, exists_false, or_false] at aborted
    obtain ⟨reply, _, _, rfl, rfl, rfl, cause, failed, _⟩ := aborted
    cases reply with
    | none => cases failed
    | some error => exact ⟨error, rfl⟩

theorem storeStatus_aborts {oldStatus : MXJobStatus} {reason : Abort}
    (aborted : (storeStatus oldStatus mxjob).Aborts trace reason) :
    ∃ call ∈ trace, failedCall call = true := by
  obtain ⟨error, rfl⟩ := storeStatus_failed aborted
  exact ⟨_, List.mem_cons_self, rfl⟩

end Closing

/-! ### The whole reconciliation -/

section Reconciliation

variable {mxjob after : MXJob} {pods : List Pod} {trace : List Call} {request : Request}

/-- Exchanges that neither create pods or services nor update the job leave the
account of an evaluation as it is. -/
theorem Evaluation.append {back : List Call} (evaluation : Evaluation mxjob pods trace)
    (closing : ∀ call ∈ back, servesClosing call.request = true) :
    Evaluation mxjob pods (trace ++ back) := by
  have noPod : ∀ call ∈ back, createsPod call = false := by
    intro call member
    have closes := closing call member
    obtain ⟨request, reply⟩ := call
    cases request <;> first | rfl | cases closes
  refine ⟨evaluation.listed.mono (List.subset_append_left trace back), fun rtype => ?_, ?_,
    evaluation.given, fun spec present => ?_⟩
  · rw [createCount_append, evaluation.counts, createCount_eq_zero noPod, Nat.add_zero]
  · intro call member
    rcases List.mem_append.mp member with earlier | later
    · exact evaluation.accepted call earlier
    · exact acceptedCreate_of_not_creates (noPod call later)
  · refine (evaluation.service spec present).mono (List.subset_append_left trace back) ?_
    intro call member
    rcases List.mem_append.mp member with earlier | later
    · exact Or.inl earlier
    · right
      intro service same
      have closes := closing call later
      rw [same] at closes
      cases closes

/-- Clock readings before an evaluation change nothing in its account. -/
theorem Evaluation.prepend {readings : List Call} (evaluation : Evaluation mxjob pods trace)
    (clock : ∀ call ∈ readings, call.request = .now) :
    Evaluation mxjob pods (readings ++ trace) := by
  have noPod : ∀ call ∈ readings, createsPod call = false := by
    rintro ⟨request, reply⟩ member
    cases clock _ member
    rfl
  have included : trace ⊆ readings ++ trace := List.subset_append_right readings trace
  refine ⟨evaluation.listed.mono included, fun rtype => ?_, ?_, evaluation.given,
    fun spec present => (evaluation.service spec present).mono included ?_⟩
  · rw [createCount_append, evaluation.counts, createCount_eq_zero noPod, Nat.zero_add]
  · intro call member
    rcases List.mem_append.mp member with earlier | later
    · exact acceptedCreate_of_not_creates (noPod call earlier)
    · exact evaluation.accepted call later
  · intro call member
    rcases List.mem_append.mp member with earlier | later
    · right
      intro service same
      rw [clock call earlier] at same
      cases same
    · exact Or.inl later

/-- The account of an evaluation in terms of the job as it was before its
status changed. -/
theorem Evaluation.of_samePass {before : MXJob} (evaluation : Evaluation mxjob pods trace)
    (same : SamePass before mxjob) : Evaluation before pods trace := by
  have sameMeta := same.statusOnly.meta_eq.symm
  refine ⟨evaluation.listed.of_meta sameMeta, fun rtype => ?_, evaluation.accepted,
    fun rtype => ?_, fun spec present => ?_⟩
  · rw [evaluation.counts, same.podsNeeded_eq]
  · have given := evaluation.given rtype
    rwa [GivesReplicas, same.statusOnly.spec_eq] at given
  · rw [← same.statusOnly.spec_eq] at present
    obtain ⟨listed, services, found, claims, created, untouched⟩ := evaluation.service spec present
    refine ⟨listed, services, found, claims.of_meta sameMeta, fun none => ?_, untouched⟩
    rw [newService_of_meta sameMeta.symm]
    exact created none

/-- Requests that only the termination of a finished job makes. -/
def servesTermination : Request → Bool
  | .deletePod _ => true
  | .callHookAsync _ startOrFinish => !startOrFinish
  | _ => false

/-- What has happened when a reconciliation gets to its update. -/
structure Conclusion (mxjob : MXJob) (pods : List Pod) (after : MXJob) (trace : List Call) :
    Prop where
  evaluation : Evaluation mxjob pods trace
  outcome : ∃ now marked, MarkedAs (replicaPasses now mxjob pods) marked ∧
    FinishedAs pods marked after
  started : checkCondition mxjob.status .initialized = false →
    ∃ job, StatusOnly mxjob job ∧ (⟨.callHookAsync job true, ()⟩ : Call) ∈ trace
  stopped : isJobFinished after.status = true →
    (∀ pod ∈ filterActivePods pods, (⟨.deletePod pod.name, none⟩ : Call) ∈ trace) ∧
      (⟨.callHookAsync after false, ()⟩ : Call) ∈ trace
  spared : isJobFinished after.status = false →
    ∀ call ∈ trace, servesTermination call.request = false
  unstored : ∀ call ∈ trace, ∀ job, call.request ≠ .updateMXJob job

/-- What a request of a reconciliation presupposes. -/
inductive ReconcileRequest (mxjob : MXJob) (trace : List Call) : Request → Prop where
  | evaluating {request : Request} (issued : (evaluate mxjob).Issues trace request) :
      ReconcileRequest mxjob trace request
  | reading (pods : List Pod) (evaluation : Evaluation mxjob pods trace) :
      ReconcileRequest mxjob trace .now
  | starting (pods : List Pod) (evaluation : Evaluation mxjob pods trace)
      (fresh : checkCondition mxjob.status .initialized = false)
      (quiet : ∀ call ∈ trace, servesEvaluation call.request = true)
      (passes : MXReplicaType → Nat → Time) (now : Nat → Time) :
      ReconcileRequest mxjob trace
        (.callHookAsync (withInitialized now (replicaPasses passes mxjob pods)) true)
  | terminating {request : Request} (pods : List Pod) (marked : MXJob)
      (evaluation : Evaluation mxjob pods trace) (now : MXReplicaType → Nat → Time)
      (marks : MarkedAs (replicaPasses now mxjob pods) marked)
      (finished : isJobFinished marked.status = true)
      (shape : request = .schedule (filterActivePods pods) ∨
        ∃ pod ∈ filterActivePods pods, request = .deletePod pod.name) :
      ReconcileRequest mxjob trace request
  | notifying (pods : List Pod) (marked after : MXJob)
      (evaluation : Evaluation mxjob pods trace) (now : MXReplicaType → Nat → Time)
      (marks : MarkedAs (replicaPasses now mxjob pods) marked)
      (finished : isJobFinished marked.status = true) (finishes : FinishedAs pods marked after)
      (silent : ∀ call ∈ trace, ∀ job, call.request ≠ .callHookAsync job false) :
      ReconcileRequest mxjob trace (.callHookAsync after false)
  | storing (pods : List Pod) (after : MXJob) (claims : Claims mxjob pods trace)
      (conclusion : Conclusion mxjob pods after trace)
      (changed : mxjob.status ≠ after.status) :
      ReconcileRequest mxjob trace (.updateMXJob after)

theorem evaluate_silent {rest : Go (List Pod × MXJob)} (path : (evaluate mxjob).Path trace rest) :
    ∀ call ∈ trace, servesEvaluation call.request = true :=
  path.forall_request (servesEvaluation · = true) fun _ _ issued => evaluate_serves issued

theorem servesEvaluation_noHook {request : Request} (serves : servesEvaluation request = true)
    (job : MXJob) (kind : Bool) : request ≠ .callHookAsync job kind := by
  rintro rfl
  cases serves

theorem servesEvaluation_noTermination {request : Request}
    (serves : servesEvaluation request = true) : servesTermination request = false := by
  cases request with
  | deletePod => cases serves
  | callHookAsync => cases serves
  | _ => rfl

theorem MarkedAs.statusOnly {evaluated marked : MXJob} (marks : MarkedAs evaluated marked) :
    StatusOnly evaluated marked := by
  cases marks <;> rfl

theorem evaluate_unstored {rest : Go (List Pod × MXJob)}
    (path : (evaluate mxjob).Path trace rest) :
    ∀ call ∈ trace, ∀ job, call.request ≠ .updateMXJob job := by
  intro call member job same
  have serves := evaluate_silent path call member
  rw [same] at serves
  cases serves

theorem closing_unstored (closing : ∀ call ∈ trace, servesClosing call.request = true) :
    ∀ call ∈ trace, ∀ job, call.request ≠ .updateMXJob job := by
  intro call member job same
  have serves := closing call member
  rw [same] at serves
  cases serves

theorem front_unstored {front middle back : List Call} {rest : Go (List Pod × MXJob)}
    (evaluation : (evaluate mxjob).Path front rest)
    (closing : ∀ call ∈ middle, servesClosing call.request = true)
    (quiet : ∀ call ∈ back, servesClosing call.request = true) :
    ∀ call ∈ front ++ (middle ++ back), ∀ job, call.request ≠ .updateMXJob job := by
  intro call member
  rcases List.mem_append.mp member with earlier | later
  · exact evaluate_unstored evaluation call earlier
  · exact (List.mem_append.mp later).elim (closing_unstored closing call)
      (closing_unstored quiet call)

/-- A reconciliation that leaves the job unfinished does not terminate it. -/
theorem finishJob_spares {front middle back : List Call} {marked evaluated : MXJob}
    {rest : Go (List Pod × MXJob)} (evaluation : (evaluate mxjob).Path front rest)
    (marking : (markInitialized evaluated).Returns middle marked)
    (finishing : (finishJob marked pods).Returns back after)
    (unfinished : isJobFinished after.status = false) :
    ∀ call ∈ front ++ (middle ++ back), servesTermination call.request = false := by
  have running : isJobFinished marked.status = false := by
    rw [← unfinished, (finishJob_returns finishing).1.frame.isJobFinished_eq]
  have ended : back = [] := by
    rw [finishJob, if_neg (by simp [running]), Program.returns_pure] at finishing
    exact finishing.1
  subst ended
  intro call member
  rcases List.mem_append.mp member with earlier | later
  · exact servesEvaluation_noTermination (evaluate_silent evaluation call earlier)
  · refine marking.forall_request (fun request => servesTermination request = false) ?_ call
      (by simpa using later)
    intro front request issued
    obtain ⟨_, _, rfl | ⟨now, rfl⟩⟩ := markInitialized_issues issued <;> rfl

theorem reconcileMXJobs_issues (issued : (reconcileMXJobs mxjob).Issues trace request) :
    ReconcileRequest mxjob trace request := by
  simp only [reconcileMXJobs, Program.issues_bind] at issued
  rcases issued with evaluating | ⟨⟨pods, evaluated⟩, front, _, rfl, evaluation, later⟩
  · exact .evaluating evaluating
  · have silent := evaluate_silent evaluation
    obtain ⟨⟨now, rfl⟩, done, claims⟩ := evaluate_returns evaluation
    have alike : SamePass mxjob (replicaPasses now mxjob pods) := replicaPasses_samePass
    have sameInit := alike.initialized
    rcases later with marking | ⟨marked, middle, _, rfl, marking, later⟩
    · obtain ⟨fresh, readings, rfl | ⟨reading, rfl⟩⟩ := markInitialized_issues marking
      · refine .reading pods (done.append fun call member => ?_)
        rw [readings call member]
        rfl
      · refine .starting pods (done.append fun call member => ?_) (sameInit ▸ fresh) ?_ now reading
        · rw [readings call member]
          rfl
        · intro call member
          rcases List.mem_append.mp member with earlier | later
          · exact silent call earlier
          · rw [readings call later]
            rfl
    · obtain ⟨marks, closing, started, noFinish⟩ := markInitialized_returns marking
      have atMark := done.append closing
      rcases later with finishing | ⟨final, back, tail, rfl, finishing, storing⟩
      · obtain ⟨finished, quiet, shape⟩ := finishJob_issues finishing
        have atFinish := atMark.append fun call member => (quiet call member).1
        rw [List.append_assoc] at atFinish
        rcases shape with scheduling | deletion | ⟨after, finishes, rfl, deleted⟩
        · exact .terminating pods marked atFinish now marks finished (Or.inl scheduling)
        · exact .terminating pods marked atFinish now marks finished (Or.inr deletion)
        · refine .notifying pods marked after atFinish now marks finished finishes ?_
          intro call member job
          rcases List.mem_append.mp member with earlier | later
          · exact servesEvaluation_noHook (silent call earlier) job false
          · rcases List.mem_append.mp later with earlier | later
            · exact noFinish call earlier job
            · exact (quiet call later).2 job false
      · obtain ⟨changed, rfl, rfl⟩ := storeStatus_issues storing
        obtain ⟨finishes, quiet, stopped⟩ := finishJob_returns finishing
        have atStore := atMark.append quiet
        rw [List.append_assoc] at atStore
        refine .storing pods final claims.append
          ⟨?_, ⟨now, marked, marks, finishes⟩, ?_, ?_, ?_, ?_⟩ changed
        · simpa using atStore
        · intro fresh
          refine ⟨marked, replicaPasses_samePass.statusOnly.trans marks.statusOnly, ?_⟩
          have hook := started (sameInit.trans fresh)
          simp [hook]
        · intro finished
          obtain ⟨deleted, hook⟩ := stopped finished
          refine ⟨fun pod member => ?_, by simp [hook]⟩
          have found := deleted pod member
          simp [found]
        · simpa using finishJob_spares evaluation marking finishing
        · simpa using front_unstored evaluation closing quiet

/-! ### The concluded job -/

theorem MarkedAs.check {evaluated marked : MXJob} (marks : MarkedAs evaluated marked)
    {type : MXJobConditionType} (other : type ≠ .initialized) :
    checkCondition marked.status type = checkCondition evaluated.status type := by
  cases marks with
  | already => rfl
  | now fresh now => exact checkCondition_update_other other

theorem MarkedAs.initialized {evaluated marked : MXJob} (marks : MarkedAs evaluated marked) :
    checkCondition marked.status .initialized = true := by
  cases marks with
  | already initialized => exact initialized
  | now fresh now => exact checkCondition_update_same

theorem MarkedAs.unique {evaluated marked : MXJob} (marks : MarkedAs evaluated marked)
    (unique : UniqueConditions evaluated.status) : UniqueConditions marked.status := by
  cases marks with
  | already => exact unique
  | now fresh now => exact updateMXJobConditions_unique unique

theorem MarkedAs.visible {evaluated marked : MXJob} (marks : MarkedAs evaluated marked)
    {condType : MXJobConditionType} (visible : Visible evaluated.status condType) :
    Visible marked.status condType := by
  cases marks with
  | already => exact visible
  | now fresh now => exact updateMXJobConditions_visible visible

theorem MarkedAs.completionTime {evaluated marked : MXJob} (marks : MarkedAs evaluated marked) :
    marked.status.completionTime = evaluated.status.completionTime := by
  cases marks with
  | already => rfl
  | now fresh now => exact updateMXJobConditions_completionTime

theorem MarkedAs.counters {evaluated marked : MXJob} (marks : MarkedAs evaluated marked)
    (rtype : MXReplicaType) :
    getMXReplicaStatus marked rtype = getMXReplicaStatus evaluated rtype := by
  cases marks with
  | already => rfl
  | now fresh now =>
      cases rtype <;>
        simp only [getMXReplicaStatus, withInitialized, updateMXJobConditions_replicaStatuses]

theorem CountersOnly.statusOnly {before : MXJob} (frame : CountersOnly before after) :
    StatusOnly before after := by
  unfold CountersOnly at frame
  unfold StatusOnly
  rw [frame]

theorem CountersOnly.check {before : MXJob} (frame : CountersOnly before after)
    (type : MXJobConditionType) :
    checkCondition after.status type = checkCondition before.status type := by
  rw [frame]
  rfl

theorem CountersOnly.unique {before : MXJob} (frame : CountersOnly before after)
    (unique : UniqueConditions before.status) : UniqueConditions after.status := by
  rw [frame]
  exact unique

theorem CountersOnly.completionTime {before : MXJob} (frame : CountersOnly before after) :
    after.status.completionTime = before.status.completionTime := by
  rw [frame]

namespace Conclusion

theorem statusOnly (conclusion : Conclusion mxjob pods after trace) : StatusOnly mxjob after := by
  obtain ⟨now, marked, marks, finishes⟩ := conclusion.outcome
  exact (replicaPasses_samePass.statusOnly.trans marks.statusOnly).trans finishes.frame.statusOnly

theorem initialized (conclusion : Conclusion mxjob pods after trace) :
    checkCondition after.status .initialized = true := by
  obtain ⟨now, marked, marks, finishes⟩ := conclusion.outcome
  rw [finishes.frame.check, marks.initialized]

theorem undeleted (conclusion : Conclusion mxjob pods after trace)
    (unfinished : isJobFinished after.status = false) :
    ∀ call ∈ trace, ∀ name, call.request ≠ .deletePod name := by
  intro call member name same
  have spared := conclusion.spared unfinished call member
  rw [same] at spared
  cases spared

theorem finished_of_hook {job : MXJob} (conclusion : Conclusion mxjob pods after trace)
    (hook : (⟨.callHookAsync job false, ()⟩ : Call) ∈ trace) :
    isJobFinished after.status = true := by
  by_contra unfinished
  have spared := conclusion.spared (by simpa using unfinished) _ hook
  cases spared

theorem unique (conclusion : Conclusion mxjob pods after trace)
    (unique : UniqueConditions mxjob.status) : UniqueConditions after.status := by
  obtain ⟨now, marked, marks, finishes⟩ := conclusion.outcome
  exact finishes.frame.unique (marks.unique (replicaPasses_unique unique))

theorem succeeded (conclusion : Conclusion mxjob pods after trace) :
    checkCondition after.status .succeeded = true ↔
      checkCondition mxjob.status .succeeded = true ∨ AllSucceeded mxjob pods := by
  obtain ⟨now, marked, marks, finishes⟩ := conclusion.outcome
  rw [finishes.frame.check, marks.check (by decide), replicaPasses_succeeded]

theorem failed (conclusion : Conclusion mxjob pods after trace) :
    checkCondition after.status .failed = true ↔
      (checkCondition mxjob.status .failed = true ∨
        ((∃ rtype, Lost mxjob pods rtype) ∧ checkCondition mxjob.status .succeeded = false)) ∧
        ¬ AllSucceeded mxjob pods := by
  obtain ⟨now, marked, marks, finishes⟩ := conclusion.outcome
  rw [finishes.frame.check, marks.check (by decide), replicaPasses_failed]

theorem completionTime (conclusion : Conclusion mxjob pods after trace) :
    after.status.completionTime.isSome = true ↔
      mxjob.status.completionTime.isSome = true ∨ AllSucceeded mxjob pods := by
  obtain ⟨now, marked, marks, finishes⟩ := conclusion.outcome
  rw [finishes.frame.completionTime, marks.completionTime, replicaPasses_completionTime]

end Conclusion

/-! ### Complete executions -/

/-- A reconciliation that returns has concluded, and has stored the status if
it changed. -/
theorem reconcileMXJobs_returns (returned : (reconcileMXJobs mxjob).Returns trace after) :
    ∃ pods front, Conclusion mxjob pods after front ∧ Claims mxjob pods trace ∧
      trace = front ++ if mxjob.status = after.status then [] else
        [(⟨.updateMXJob after, none⟩ : Call)] := by
  simp only [reconcileMXJobs, Program.returns_bind] at returned
  obtain ⟨⟨pods, evaluated⟩, front, _, rfl, evaluation, marked, middle, _, rfl, marking, final,
    back, tail, rfl, finishing, storing⟩ := returned
  obtain ⟨⟨now, rfl⟩, done, claims⟩ := evaluate_returns evaluation
  have alike : SamePass mxjob (replicaPasses now mxjob pods) := replicaPasses_samePass
  obtain ⟨marks, closing, started, _⟩ := markInitialized_returns marking
  obtain ⟨finishes, quiet, stopped⟩ := finishJob_returns finishing
  obtain ⟨rfl, stored⟩ := storeStatus_returns storing
  have atStore := (done.append closing).append quiet
  rw [List.append_assoc] at atStore
  refine ⟨pods, front ++ (middle ++ back), ⟨atStore, ⟨now, marked, marks, finishes⟩, ?_, ?_,
    finishJob_spares evaluation marking finishing, front_unstored evaluation closing quiet⟩,
    claims.append, ?_⟩
  · intro fresh
    refine ⟨marked, alike.statusOnly.trans marks.statusOnly, ?_⟩
    have hook := started (alike.initialized.trans fresh)
    simp [hook]
  · intro finished
    obtain ⟨deleted, hook⟩ := stopped finished
    refine ⟨fun pod member => ?_, by simp [hook]⟩
    have found := deleted pod member
    simp [found]
  · rw [stored]
    simp

/-- `reconcileMXJobs` from the claimed pods on. -/
def reconcileListed (mxjob : MXJob) (pods : List Pod) : Go MXJob := do
  let evaluated ← reconcileReplicas mxjob pods
  let marked ← markInitialized evaluated
  let final ← finishJob marked pods
  storeStatus mxjob.status final

theorem reconcileMXJobs_eq :
    reconcileMXJobs mxjob = getPodsForMXJob mxjob >>= reconcileListed mxjob := by
  simp only [reconcileMXJobs, evaluate, Program.bind_bind, Program.done_bind]
  rfl

/-- Once the pods are claimed, a reconciliation panics on missing input or on a
pod whose type has no counters, or is hindered. -/
theorem reconcileListed_aborts {reason : Abort}
    (aborted : (reconcileListed mxjob pods).Aborts trace reason) :
    (reason = .panicked ∧ ((∃ rtype, MissingInput mxjob pods rtype) ∨
      ∃ rtype, replicasOf mxjob rtype = none ∧
        ∃ pod ∈ filterActivePods pods, (mxReplicaSelector rtype).isMatch pod.labels = true)) ∨
      Hindered mxjob trace := by
  simp only [reconcileListed, Program.aborts_bind, aborts_markInitialized, false_or] at aborted
  rcases aborted with passing | ⟨evaluated, front, _, rfl, passed, marked, middle, _, rfl, marking,
    later⟩
  · rcases reconcileReplicas_aborts passing with ⟨panicked, missing⟩ | hindered
    · exact Or.inl ⟨panicked, Or.inl missing⟩
    · exact Or.inr hindered
  · obtain ⟨now, rfl, _⟩ := reconcileReplicas_returns passed
    obtain ⟨marks, _⟩ := markInitialized_returns marking
    rcases later with finishing | ⟨final, back, tail, rfl, _, storing⟩
    · rcases terminateMXJob_aborts (finishJob_aborts finishing) with
        ⟨panicked, pod, member, rtype, labelled, missing⟩ | ⟨call, member, failed⟩
      · refine Or.inl ⟨panicked, Or.inr ⟨rtype, ?_, pod, member, labelled⟩⟩
        rw [marks.counters, replicaPasses_counters, Option.or_eq_none_iff] at missing
        exact Option.map_eq_none_iff.mp missing.1
      · exact Or.inr (Or.inl ⟨call, by simp [member], Or.inl failed⟩)
    · obtain ⟨call, member, failed⟩ := storeStatus_aborts storing
      exact Or.inr (Or.inl ⟨call, by simp [member], Or.inl failed⟩)

/-- A reconciliation ends early on missing input, on an active claimed pod of a
type without counters, or when hindered. -/
theorem reconcileMXJobs_aborts {reason : Abort}
    (aborted : (reconcileMXJobs mxjob).Aborts trace reason) :
    (∃ pods rtype, Claims mxjob pods trace ∧ MissingInput mxjob pods rtype) ∨
      (∃ pods rtype, Claims mxjob pods trace ∧ replicasOf mxjob rtype = none ∧
        ∃ pod ∈ filterActivePods pods, (mxReplicaSelector rtype).isMatch pod.labels = true) ∨
      Hindered mxjob trace := by
  simp only [reconcileMXJobs_eq, Program.aborts_bind] at aborted
  rcases aborted with looking | ⟨pods, listing, back, rfl, looked, aborted⟩
  · exact Or.inr (Or.inr (getPodsForMXJob_hindered looking))
  · have claims : Claims mxjob pods (listing ++ back) := ⟨listing, back, rfl, looked⟩
    rcases reconcileListed_aborts aborted with ⟨_, ⟨rtype, missing⟩ | ⟨rtype, uncounted⟩⟩ | hindered
    · exact Or.inl ⟨pods, rtype, claims, missing⟩
    · exact Or.inr (Or.inl ⟨pods, rtype, claims, uncounted⟩)
    · exact Or.inr (Or.inr (hindered.mono (List.subset_append_right listing back)))

/-- After the update nothing more is asked. -/
theorem reconcileMXJobs_unstored (issued : (reconcileMXJobs mxjob).Issues trace request) :
    ∀ call ∈ trace, ∀ job, call.request ≠ .updateMXJob job := by
  simp only [reconcileMXJobs, Program.issues_bind] at issued
  rcases issued with ⟨_, path⟩ | ⟨⟨pods, evaluated⟩, front, _, rfl, evaluation, later⟩
  · exact evaluate_unstored path
  · intro call member
    rcases List.mem_append.mp member with earlier | member
    · exact evaluate_unstored evaluation call earlier
    · rcases later with marking | ⟨marked, middle, _, rfl, marking, later⟩
      · obtain ⟨_, readings, _⟩ := markInitialized_issues marking
        intro job same
        rw [readings call member] at same
        cases same
      · obtain ⟨_, closing, _⟩ := markInitialized_returns marking
        rcases List.mem_append.mp member with earlier | member
        · exact closing_unstored closing call earlier
        · rcases later with finishing | ⟨final, back, tail, rfl, finishing, storing⟩
          · obtain ⟨_, quiet, _⟩ := finishJob_issues finishing
            exact closing_unstored (fun call member => (quiet call member).1) call member
          · obtain ⟨_, rfl, _⟩ := storeStatus_issues storing
            obtain ⟨_, quiet, _⟩ := finishJob_returns finishing
            exact closing_unstored quiet call (by simpa using member)

/-- A reconciliation that fails after a webhook call fails in its update or, if
it was the start webhook, in the termination. -/
theorem reconcileMXJobs_aborts_notified {reason : Abort} {job : MXJob} {kind : Bool}
    (aborted : (reconcileMXJobs mxjob).Aborts trace reason)
    (hook : (⟨.callHookAsync job kind, ()⟩ : Call) ∈ trace) :
    (∃ call ∈ trace, ∃ after, call.request = .updateMXJob after) ∨
      (kind = true ∧ ((∃ name error, (⟨.deletePod name, some error⟩ : Call) ∈ trace) ∨
        ∃ rtype, replicasOf mxjob rtype = none)) := by
  simp only [reconcileMXJobs, Program.aborts_bind, aborts_markInitialized, false_or] at aborted
  rcases aborted with evaluating | ⟨⟨pods, evaluated⟩, front, _, rfl, evaluation, marked, middle,
    _, rfl, marking, later⟩
  · exact absurd rfl (servesEvaluation_noHook (evaluate_silent evaluating _ hook) job kind)
  · obtain ⟨⟨now, rfl⟩, _, _⟩ := evaluate_returns evaluation
    obtain ⟨marks, _, _, noFinish⟩ := markInitialized_returns marking
    rcases later with finishing | ⟨final, back, tail, rfl, _, storing⟩
    · right
      have terminating : (terminateMXJob marked pods).Aborts _ reason := finishJob_aborts finishing
      have closes := terminating.forall_request (fun request =>
        request = .schedule (filterActivePods pods) ∨
          ∃ pod ∈ filterActivePods pods, request = .deletePod pod.name)
        fun _ _ issued => terminateMXJob_issues issued
      refine ⟨?_, ?_⟩
      · -- neither the evaluation nor the termination calls a webhook
        rcases List.mem_append.mp hook with earlier | hook
        · exact absurd rfl (servesEvaluation_noHook (evaluate_silent evaluation _ earlier) job kind)
        rcases List.mem_append.mp hook with earlier | later
        · by_contra finish
          obtain rfl : kind = false := by simpa using finish
          exact noFinish _ earlier job rfl
        · rcases closes _ later with same | ⟨pod, _, same⟩ <;> cases same
      · rcases terminateMXJob_aborts terminating with ⟨_, pod, _, rtype, _, missing⟩ |
          ⟨⟨request, reply⟩, member, failed⟩
        · right
          rw [marks.counters, replicaPasses_counters, Option.or_eq_none_iff] at missing
          exact ⟨rtype, Option.map_eq_none_iff.mp missing.1⟩
        · rcases closes _ member with same | ⟨pod, _, same⟩
          · cases same
            cases failed
          · cases same
            cases reply with
            | none => cases failed
            | some error => exact Or.inl ⟨pod.name, error, by simp [member]⟩
    · obtain ⟨error, rfl⟩ := storeStatus_failed storing
      exact Or.inl ⟨⟨.updateMXJob final, some error⟩, by simp, final, rfl⟩

/-- A reconciliation that fails has not stored its status. -/
theorem reconcileMXJobs_aborts_unstored {reason : Abort} {job : MXJob}
    (aborted : (reconcileMXJobs mxjob).Aborts trace reason) :
    (⟨.updateMXJob job, none⟩ : Call) ∉ trace := by
  simp only [reconcileMXJobs, Program.aborts_bind, aborts_markInitialized, false_or] at aborted
  intro stored
  rcases aborted with evaluating | ⟨⟨pods, evaluated⟩, front, _, rfl, evaluation, marked, middle,
    _, rfl, marking, later⟩
  · exact evaluate_unstored evaluating _ stored job rfl
  · obtain ⟨_, closing, _⟩ := markInitialized_returns marking
    rcases List.mem_append.mp stored with earlier | stored
    · exact evaluate_unstored evaluation _ earlier job rfl
    rcases List.mem_append.mp stored with earlier | stored
    · exact closing_unstored closing _ earlier job rfl
    rcases later with finishing | ⟨final, back, tail, rfl, finishing, storing⟩
    · have quiet := finishing.forall_request (fun request => servesClosing request = true)
        fun front request issued => finishJob_closes issued
      exact closing_unstored quiet _ stored job rfl
    · obtain ⟨_, quiet, _⟩ := finishJob_returns finishing
      rcases List.mem_append.mp stored with earlier | last
      · exact closing_unstored quiet _ earlier job rfl
      · obtain ⟨error, rfl⟩ := storeStatus_failed storing
        cases List.mem_singleton.mp last

end Reconciliation

end MXNetOperator.Mx
