import MXNetOperator.Mx.Conclusion

/-!
Contract: a failing call of a pass is never lost.

Owns `passFault`, the answers that make a listing, a claim or a creation fail,
and the lemma that an evaluation returns only if no exchange is one: whatever
`reconcileMXJobs` does after its evaluation, it does after a pass without fault.
-/

namespace MXNetOperator.Mx

open MXNetOperator.Kube MXNetOperator.Api MXNetOperator.Interaction

/-- The errors of a patch that `ClaimObject` reports. -/
def patchFault : OwnerPatch → ApiError → Bool
  | .adopt _ _, error => error.reason != .notFound
  | .release _ _, error => error.reason != .notFound && error.reason != .invalid

/-- The exchange makes the claim of an object fail. -/
def claimFault (mxjob : MXJob) : Call → Bool
  | ⟨.getMXJob _, .error _⟩ => true
  | ⟨.getMXJob _, .ok fresh⟩ => fresh.uid != mxjob.uid || fresh.deletionTimestamp.isSome
  | ⟨.patchPod _ patch, some error⟩ => patchFault patch error
  | ⟨.patchService _ patch, some error⟩ => patchFault patch error
  | _ => false

/-- The exchange makes a pass fail: a list, a claim, a pod creation that did not
time out or a service creation came back with an error. -/
def passFault (mxjob : MXJob) : Call → Bool
  | ⟨.listPods, .error _⟩ => true
  | ⟨.listServices, .error _⟩ => true
  | ⟨.createPod _, some error⟩ => error.reason != .timeout
  | ⟨.createService _, some _⟩ => true
  | call => claimFault mxjob call

/-! ### Claims -/

section Claims

variable {kind : ClaimKind} {mxjob : MXJob} {object : ObjectMeta} {isMatch : Bool}
  {once asked : AdoptOnce} {trace : List Call}

theorem claimFault_patchCall {name : String} {patch : OwnerPatch} {reply : Option ApiError} :
    claimFault mxjob (kind.patchCall name patch reply) = reply.any (patchFault patch) := by
  cases kind <;> cases reply <;> rfl

theorem canAdopt_faultless (returned : (canAdopt mxjob once).Returns trace none) :
    ∀ call ∈ trace, claimFault mxjob call = false := by
  cases once with
  | some known =>
      obtain ⟨rfl, _⟩ := Program.returns_pure.mp returned
      simp
  | none =>
      simp only [canAdopt, canAdoptFunc, Program.returns_bind, returns_ask,
        Program.returns_pure] at returned
      obtain ⟨reply, _, back, rfl, rfl, rfl, allowed⟩ := returned
      cases reply with
      | error error => cases allowed
      | ok fresh =>
          by_cases sameUid : fresh.uid = mxjob.uid
          · rw [recheckDeletionTimestamp, if_pos sameUid, Option.map_eq_none_iff] at allowed
            simp [claimFault, sameUid, allowed]
          · rw [recheckDeletionTimestamp, if_neg sameUid] at allowed
            cases allowed

/-- An adoption that is not reported as failed has no faulty exchange. -/
theorem adoptObject_faultless {error : Option GoError}
    (returned : (adoptObject kind mxjob object once).Returns trace (error, asked))
    (silent : reportUnlessNotFound error = none) :
    ∀ call ∈ trace, claimFault mxjob call = false := by
  simp only [adoptObject, Program.returns_bind] at returned
  obtain ⟨refused, front, back, rfl, checked, returned⟩ := returned
  cases refused with
  | some refusal =>
      simp only [Program.returns_pure, Prod.mk.injEq] at returned
      obtain ⟨_, rfl, _⟩ := returned
      cases silent
  | none =>
      simp only [Program.returns_bind, returns_sendPatch, Program.returns_pure,
        Prod.mk.injEq] at returned
      obtain ⟨reply, _, _, rfl, rfl, rfl, rfl, _⟩ := returned
      intro call member
      rcases List.mem_append.mp member with checking | patching
      · exact canAdopt_faultless checked call checking
      · rw [List.append_nil] at patching
        rw [List.mem_singleton.mp patching, claimFault_patchCall]
        cases reply with
        | none => rfl
        | some failure =>
            by_cases absent : failure.reason = .notFound
            · simp [patchFault, absent]
            · simp [reportUnlessNotFound, isNotFound, reasonForError, absent] at silent

theorem releaseObject_faultless {error : Option GoError}
    (returned : (releaseObject kind mxjob object).Returns trace error)
    (silent : reportUnlessNotFound error = none) :
    ∀ call ∈ trace, claimFault mxjob call = false := by
  simp only [releaseObject, Program.returns_bind, returns_sendPatch,
    Program.returns_pure] at returned
  obtain ⟨reply, _, back, rfl, rfl, rfl, rfl⟩ := returned
  cases reply with
  | none => simp [claimFault_patchCall]
  | some failure =>
      by_cases ignored : failure.reason = .notFound ∨ failure.reason = .invalid
      · rcases ignored with absent | invalid <;> simp [claimFault_patchCall, patchFault, *]
      · rw [not_or] at ignored
        simp [releaseError, reportUnlessNotFound, isNotFound, isInvalid, reasonForError,
          ignored] at silent

theorem claimObject_faultless {owned : Bool}
    (returned : (claimObject kind mxjob object isMatch once).Returns trace (owned, none, asked)) :
    ∀ call ∈ trace, claimFault mxjob call = false := by
  have quiet : ∀ {result : Bool × Option GoError × AdoptOnce},
      (pure result : Go (Bool × Option GoError × AdoptOnce)).Returns trace (owned, none, asked) →
        ∀ call ∈ trace, claimFault mxjob call = false := by
    intro result done
    obtain ⟨rfl, _⟩ := Program.returns_pure.mp done
    simp
  unfold claimObject at returned
  split at returned
  · split at returned
    · exact quiet returned
    · split at returned
      · exact quiet returned
      · split at returned
        · exact quiet returned
        · simp only [Program.returns_bind, Program.returns_pure, Prod.mk.injEq] at returned
          obtain ⟨error, _, _, rfl, released, rfl, _, silent, _⟩ := returned
          rw [List.append_nil]
          exact releaseObject_faultless released silent
  · split at returned
    · exact quiet returned
    · split at returned
      · exact quiet returned
      · simp only [Program.returns_bind] at returned
        obtain ⟨⟨error, memory⟩, front, back, rfl, adopted, returned⟩ := returned
        cases error with
        | some failure =>
            simp only [Program.returns_pure, Prod.mk.injEq] at returned
            obtain ⟨rfl, _, silent, _⟩ := returned
            rw [List.append_nil]
            exact adoptObject_faultless adopted silent
        | none =>
            simp only [Program.returns_pure, Prod.mk.injEq] at returned
            obtain ⟨rfl, _⟩ := returned
            rw [List.append_nil]
            exact adoptObject_faultless adopted rfl

theorem claimObjects_faultless {Obj : Type} {objectOf : Obj → ObjectMeta} {accepts : Obj → Bool}
    {objects claimed : List Obj}
    (returned : (claimObjects kind mxjob objectOf accepts objects once).Returns trace
      (claimed, [])) : ∀ call ∈ trace, claimFault mxjob call = false := by
  induction objects generalizing once trace claimed with
  | nil =>
      obtain ⟨rfl, _⟩ := Program.returns_pure.mp returned
      simp
  | cons object rest inductionHypothesis =>
      simp only [claimObjects, Program.returns_bind] at returned
      obtain ⟨⟨owned, error, memory⟩, front, _, rfl, first, ⟨others, errors⟩, middle, back, rfl,
        later, returned⟩ := returned
      cases error with
      | some failure =>
          simp only [Program.returns_pure, Prod.mk.injEq, reduceCtorEq, and_false] at returned
      | none =>
          simp only [Program.returns_pure, Prod.mk.injEq] at returned
          obtain ⟨rfl, _, rfl⟩ := returned
          intro call member
          rw [List.append_nil] at member
          rcases List.mem_append.mp member with here | after
          · exact claimObject_faultless first call here
          · exact inductionHypothesis later call after

end Claims

/-! ### Passes -/

/-- The reason is an error returned to the caller of `Sync`. -/
def isError : Abort → Prop
  | .error _ => True
  | .panicked => False

/-- Once an exchange was faulty for the job, the code stops with an error. -/
abbrev Careful {α : Type} (mxjob : MXJob) (program : Go α) : Prop :=
  Program.Vigilant (fun call => passFault mxjob call = true) isError program

section Passes

variable {mxjob before : MXJob} {pods : List Pod} {rtype : MXReplicaType} {trace : List Call}

theorem careful_ask {request : Request}
    (harmless : ∀ reply, passFault mxjob ⟨request, reply⟩ = false) :
    Careful mxjob (ask request) where
  returns := by
    intro trace value returned call member
    rw [returns_ask.mp returned] at member
    rw [List.mem_singleton.mp member, harmless]
    simp
  aborts := fun aborted => absurd aborted aborts_ask

/-- What counts as a fault depends on the identity of the job only. -/
theorem passFault_congr (same : before.uid = mxjob.uid) (call : Call) :
    passFault before call = passFault mxjob call := by
  unfold passFault
  split <;> first | rfl | (unfold claimFault; rw [same])

/-- Exchanges of a claim loop are faulty only as claims. -/
theorem passFault_claiming {kind : ClaimKind} {object : ObjectMeta} {isMatch : Bool} {call : Call}
    (claiming : ClaimRequest kind mxjob object isMatch call.request) :
    passFault mxjob call = claimFault mxjob call := by
  obtain ⟨request, reply⟩ := call
  rcases claiming with same | ⟨_, _, same⟩ | ⟨_, _, same⟩ <;>
    cases kind <;> cases same <;> rfl

/-- A listing is careful: what it lists and claims without error had no fault. -/
theorem careful_claimListed {Obj : Type} {kind : ClaimKind} {objectOf : Obj → ObjectMeta}
    {request : Request} {listing : request.Reply → Except ApiError (List Obj)}
    (harmless : ∀ reply listed, listing reply = .ok listed →
      passFault mxjob ⟨request, reply⟩ = false) :
    Careful mxjob (claimListed mxjob request listing (claimMatching kind objectOf)) where
  returns := by
    intro trace claimed returned call member faulty
    unfold claimListed at returned
    split at returned
    · exact absurd returned Program.returns_abort
    · simp only [Program.returns_bind, returns_ask] at returned
      obtain ⟨reply, _, rest, rfl, rfl, returned⟩ := returned
      cases decoded : listing reply with
      | error error =>
          rw [decoded] at returned
          exact absurd returned Program.returns_abort
      | ok listed =>
          simp only [decoded, claimMatching, List.all_nil, Bool.and_true, Program.returns_bind,
            Program.returns_pure, returns_failOn] at returned
          obtain ⟨⟨_, _⟩, claiming, _, rfl, ⟨⟨owned, errors⟩, loop, _, rfl, looped, rfl, same⟩, _, _,
            _, rfl, ⟨rfl, silent⟩, rfl, _⟩ := returned
          cases same
          cases errors with
          | cons error others => cases silent
          | nil =>
              rcases List.mem_append.mp member with first | later
              · rw [List.mem_singleton.mp first, harmless reply listed decoded] at faulty
                cases faulty
              · simp only [List.append_nil] at later
                obtain ⟨_, _, _, issued⟩ := looped.issues_of_mem later
                obtain ⟨object, _, claim⟩ := claimObjects_issues issued
                rw [passFault_claiming claim, claimObjects_faultless looped call later] at faulty
                cases faulty
  aborts := by
    intro trace reason aborted panicked
    unfold claimListed at aborted
    split at aborted
    · obtain ⟨rfl, rfl⟩ := Program.aborts_abort.mp aborted
      simp
    · simp only [Program.aborts_bind, aborts_ask, false_or, returns_ask] at aborted
      obtain ⟨reply, _, rest, rfl, rfl, aborted⟩ := aborted
      cases decoded : listing reply with
      | error error =>
          rw [decoded] at aborted
          obtain ⟨_, rfl⟩ := Program.aborts_abort.mp aborted
          exact absurd trivial panicked
      | ok listed =>
          simp only [decoded, claimMatching, Program.aborts_bind, aborts_claimObjects,
            Program.aborts_pure, and_false, exists_false, or_false, false_or, aborts_failOn]
            at aborted
          obtain ⟨_, _, _, _, _, _, cause, _, rfl⟩ := aborted
          exact absurd trivial panicked

theorem careful_getPods : Careful mxjob (getPodsForMXJob mxjob) := by
  refine careful_claimListed fun reply listed decoded => ?_
  cases decoded
  rfl

theorem careful_getServices : Careful mxjob (getServicesForMXJob mxjob) := by
  refine careful_claimListed fun reply listed decoded => ?_
  cases decoded
  rfl

/-- What counts as a fault is the same for a job with another status. -/
theorem Careful.of_statusOnly {α : Type} {program : Go α} (careful : Careful mxjob program)
    (same : StatusOnly before mxjob) : Careful before program := by
  have uids : mxjob.uid = before.uid := by rw [same]
  have faults : (fun call => passFault before call = true) = fun call => passFault mxjob call = true := by
    funext call
    rw [passFault_congr uids]
  unfold Careful
  rw [faults]
  exact careful

theorem careful_deref {α : Type} (pointer : Option α) : Careful mxjob (deref pointer) := by
  cases pointer with
  | none => exact Program.vigilant_abort _
  | some value => exact Program.vigilant_pure value

/-- A creation whose reply was accepted is no fault. -/
theorem CreationCall.faultless {call : Call} (creation : CreationCall before rtype call)
    (accepted : acceptedCreate call) : passFault mxjob call = false := by
  obtain ⟨request, reply⟩ := call
  cases request with
  | createPod pod =>
      rcases accepted with none | ⟨error, some, timedOut⟩
      · cases none
        rfl
      · cases some
        simp [passFault, timedOut]
  | rangeMap env => rfl
  | _ => exact creation.elim

/-- A creation panics before its first request, if at all. -/
theorem createPods_aborts_nil {spec : MXReplicaSpec} {count : Nat} {reason : Abort}
    (aborted : (createPods mxjob rtype spec count).Aborts trace reason) : trace = [] := by
  cases count with
  | zero => exact absurd aborted Program.aborts_pure
  | succ count =>
      simp only [createPods, Program.aborts_bind, Program.aborts_pure, and_false, exists_false,
        or_false] at aborted
      rcases aborted with first | ⟨error, front, back, rfl, first, rest⟩
      · exact (createNewPod_aborts first).1
      · -- the first creation has dereferenced what a later one finds missing
        obtain ⟨_, _, missing⟩ := createPods_aborts rest
        exact absurd missing (createNewPod_found first)

/-- The pods of a pass are created without a fault, or the pass stops. -/
theorem careful_createPods {spec : MXReplicaSpec} {count : Nat} :
    Careful mxjob (do
      let errors ← createPods before rtype spec count
      failOn errors.head?
      pure errors) where
  returns := by
    intro trace errors returned call member
    simp only [Program.returns_bind, returns_failOn, Program.returns_pure] at returned
    obtain ⟨_, creating, _, rfl, created, _, _, _, rfl, ⟨rfl, silent⟩, rfl, rfl⟩ := returned
    obtain ⟨_, calls, accepted, _⟩ := createPods_returns created
    rw [List.append_nil, List.append_nil] at member
    rw [(calls call member).faultless (accepted (List.head?_eq_none_iff.mp silent) call member)]
    exact Bool.false_ne_true
  aborts := by
    intro trace reason aborted panicked
    simp only [Program.aborts_bind, aborts_failOn, Program.aborts_pure, and_false, exists_false,
      or_false] at aborted
    rcases aborted with panicking | ⟨errors, creating, _, rfl, _, rfl, cause, _, rfl⟩
    · rw [createPods_aborts_nil panicking]
      simp
    · exact absurd trivial panicked

theorem careful_createPods_then {spec : MXReplicaSpec} {count : Nat}
    {next : List GoError → Go MXJob} (rest : ∀ errors, Careful mxjob (next errors)) :
    Careful mxjob (do
      let errors ← createPods before rtype spec count
      failOn errors.head?
      next errors) := by
  have whole := Program.Vigilant.bind
    (careful_createPods : Careful mxjob (do
      let errors ← createPods before rtype spec count
      failOn errors.head?
      pure errors)) fun {_ errors} _ => rest errors
  simpa only [Program.bind_bind, Program.done_bind] using whole

theorem careful_reconcilePods {spec : MXReplicaSpec} :
    Careful mxjob (reconcilePods before pods rtype spec) := by
  have clock : Careful mxjob (ask .now) := careful_ask fun _ => rfl
  cases given : spec.replicas with
  | none =>
      rw [reconcilePods_eq, given]
      exact (careful_deref none).bind fun returned => absurd returned Program.returns_abort
  | some replicas =>
      rcases Nat.eq_zero_or_pos (neededPods before pods rtype replicas) with idle | busy
      · rw [reconcilePods_idle given idle]
        exact clock.bind fun _ => Program.vigilant_pure _
      · rw [reconcilePods_busy given busy]
        exact careful_createPods_then fun errors => clock.bind fun _ => Program.vigilant_pure _

theorem careful_reconcileServices {services : List Service} {spec : MXReplicaSpec} :
    Careful mxjob (reconcileServices before services .scheduler spec) where
  returns := by
    intro trace value returned call member
    rw [reconcileServices_returns returned] at member
    split at member
    · rw [List.mem_singleton.mp member]
      exact Bool.false_ne_true
    · cases member
  aborts := by
    intro trace reason aborted panicked
    rw [reconcileServices_eq] at aborted
    split at aborted
    · simp only [Program.aborts_bind, aborts_ask, false_or, aborts_failOn] at aborted
      obtain ⟨_, _, _, _, _, _, cause, _, rfl⟩ := aborted
      exact absurd trivial panicked
    · exact absurd aborted Program.aborts_pure

theorem careful_reconcileReplica :
    Careful mxjob (reconcileReplica before pods rtype) := by
  unfold reconcileReplica
  split
  · exact Program.vigilant_pure _
  · exact careful_reconcilePods

theorem careful_reconcileScheduler : Careful mxjob (reconcileScheduler mxjob pods) := by
  unfold reconcileScheduler
  split
  · exact Program.vigilant_pure _
  · rename_i spec present
    have own : mxjob.spec.mxReplicaSpecs.get .scheduler = some spec := present
    refine careful_reconcilePods.bind fun passed => ?_
    obtain ⟨now, rfl, _⟩ := reconcilePods_pass own passed
    refine (careful_getServices.of_statusOnly passFor_samePass.statusOnly).bind fun _ => ?_
    exact careful_reconcileServices.bind fun _ => Program.vigilant_pure _

theorem careful_evaluate : Careful mxjob (evaluate mxjob) := by
  refine careful_getPods.bind fun _ => ?_
  refine Program.Vigilant.bind ?_ fun _ => Program.vigilant_pure _
  refine careful_reconcileScheduler.bind fun _ => ?_
  exact careful_reconcileReplica.bind fun _ => careful_reconcileReplica

end Passes

/-! ### After the evaluation -/

section Whole

variable {mxjob : MXJob} {outcome : List Pod × MXJob} {oldStatus : MXJobStatus} {trace : List Call}
  {request : Request}

/-- The rest of `reconcileMXJobs` asks for nothing that can be a fault. -/
theorem closing_harmless (issued : (do
      let mxjob ← markInitialized outcome.2
      let mxjob ← finishJob mxjob outcome.1
      storeStatus oldStatus mxjob : Go MXJob).Issues trace request) (reply : request.Reply) :
    passFault mxjob ⟨request, reply⟩ = false := by
  simp only [Program.issues_bind] at issued
  rcases issued with marking | ⟨_, _, _, _, _, finishing | ⟨_, _, _, _, _, storing⟩⟩
  · rcases (markInitialized_issues marking).2.2 with rfl | ⟨_, rfl⟩ <;> rfl
  · rcases (finishJob_issues finishing).2.2 with rfl | ⟨_, _, rfl⟩ | ⟨_, _, rfl, _⟩ <;> rfl
  · obtain ⟨_, _, rfl⟩ := storeStatus_issues storing
    rfl

/-- After a fault a reconciliation is still evaluating, or has returned an
error. -/
theorem reconcileMXJobs_faulty {rest : Go MXJob} {call : Call}
    (path : (reconcileMXJobs mxjob).Path trace rest) (member : call ∈ trace)
    (faulty : passFault mxjob call = true) :
    (∀ call ∈ trace, servesEvaluation call.request = true) ∧
      ((∃ error, rest = .abort (.error error)) ∨
        ∃ request next, rest = .call request next ∧ servesEvaluation request = true) := by
  rcases Program.path_bind path with ⟨inner, evaluating, running, rfl⟩ |
    ⟨outcome, front, back, rfl, evaluated, closing⟩
  · refine ⟨evaluate_silent evaluating, ?_⟩
    cases inner with
    | done value => exact absurd rfl (running value)
    | abort reason =>
        cases reason with
        | error error => exact Or.inl ⟨error, rfl⟩
        | panicked => exact absurd faulty (careful_evaluate.aborts evaluating id call member)
    | call request next =>
        exact Or.inr ⟨request, _, rfl, evaluate_serves ⟨next, evaluating⟩⟩
  · rcases List.mem_append.mp member with early | late
    · exact absurd faulty (careful_evaluate.returns evaluated call early)
    · obtain ⟨_, _, _, issued⟩ := closing.issues_of_mem late
      rw [closing_harmless issued call.reply] at faulty
      cases faulty

end Whole

end MXNetOperator.Mx
