import MXNetOperator.Mx.Claim
import MXNetOperator.Mx.Pod

/-!
Contract: what a Sync finds in the cluster.

Owns `getPodsForMXJob`, `getServicesForMXJob` and `reconcileServices` with the
service control below it.  Their specifications say which pods count as the
job's, which requests are made on the way, and when the scheduler service is
created.

Does not own the claim loop itself, which is `Mx.Claim`.
-/

namespace MXNetOperator.Mx

open MXNetOperator.Kube MXNetOperator.Api MXNetOperator.Interaction

/-! ### Source functions -/

/-- The common body of `getPodsForMXJob` and `getServicesForMXJob`: build the
selector, list, claim. -/
def claimListed {Obj : Type} (mxjob : MXJob) (request : Request)
    (listing : request.Reply → Except ApiError (List Obj))
    (claim : MXJob → Selector → List Obj → List (Obj → Bool) →
      Go (List Obj × Option GoError)) : Go (List Obj) :=
  match labelSelectorAsSelector (genLabels mxjob none) with
  | .error error =>
      .abort (.error (.plain ("couldn't convert Job selector: " ++ error.text)))
  | .ok selector => do
      let reply ← ask request
      match listing reply with
      | .error error => .abort (.error (.status error))
      | .ok objects => do
          let (claimed, error) ← claim mxjob selector objects []
          failOn error
          pure claimed

def getPodsForMXJob (mxjob : MXJob) : Go (List Pod) :=
  claimListed mxjob .listPods id claimPods

def getServicesForMXJob (mxjob : MXJob) : Go (List Service) :=
  claimListed mxjob .listServices id claimServices

/-- `RealServiceControl.CreateServicesWithControllerRef`.  The reference is
validated and then left out of the service; the API error is wrapped, which
hides its status reason. -/
def createServicesWithControllerRef (service : ServiceRequest)
    (controllerRef : OwnerReference) : Go (Option GoError) :=
  match validateControllerRef "controllerRef.BlockOwnerDeletion is not set to true"
      controllerRef with
  | some error => pure (some error)
  | none =>
      if service.labels.entries.isEmpty then
        pure (some (.plain "unable to create Services, no labels"))
      else do
        let reply ← ask (.createService service)
        pure ((reply : Option ApiError).map fun error =>
          .plain ("unable to create services: " ++ error.message))

/-- The service `reconcileServices` submits. -/
def newService (mxjob : MXJob) (rtype : MXReplicaType) (spec : MXReplicaSpec) :
    ServiceRequest where
  name := serviceName mxjob rtype
  labels := genLabels mxjob (some .scheduler)
  ownerReferences := []
  selector := genLabels mxjob (some .scheduler)
  ports := [⟨serviceName mxjob rtype, spec.psRootPort.getD defaultPsRootPort⟩]

def reconcileServices (mxjob : MXJob) (services : List Service) (rtype : MXReplicaType)
    (spec : MXReplicaSpec) : Go Unit :=
  if rtype ≠ .scheduler then
    pure ()
  else if services.isEmpty then do
    let error ← createServicesWithControllerRef (newService mxjob rtype spec)
      (newControllerRef mxjob)
    failOn (ignoreTimeout error)
  else
    pure ()

/-! ### Pods of the job -/

/-- Whether the job's selector accepts the labels. -/
def selects (mxjob : MXJob) (labels : Labels) : Bool :=
  (⟨genLabels mxjob none⟩ : Selector).isMatch labels

/-- Whether the object is controlled by the job and carries its labels. -/
def manages (mxjob : MXJob) (object : ObjectMeta) : Bool :=
  object.controlledBy mxjob.uid && selects mxjob object.labels

theorem labelSelectorAsSelector_ok {labels : Labels} {selector : Selector}
    (built : labelSelectorAsSelector labels = .ok selector) : selector = ⟨labels⟩ := by
  unfold labelSelectorAsSelector at built
  split at built
  · cases built
  · cases built
    rfl

/-- The selector of a job is valid if its name is a label value. -/
theorem jobSelector_eq (mxjob : MXJob) :
    labelSelectorAsSelector (genLabels mxjob none) =
      if isValidLabelValue mxjob.name then .ok ⟨genLabels mxjob none⟩
      else .error (.plain ("invalid label value: " ++ quote mxjob.name ++ ": " ++
        "; ".intercalate (labelValueErrors mxjob.name))) := by
  have keys : isQualifiedName mxLabelJobName = true ∧ isQualifiedName mxLabelGroupName = true ∧
      isValidLabelValue groupName = true := by decide
  cases valid : isValidLabelValue mxjob.name <;>
    simp [labelSelectorAsSelector, requirementError, genLabels_none_entries, keys, valid]

theorem jobSelector_ok {mxjob : MXJob} (valid : isValidLabelValue mxjob.name = true) :
    labelSelectorAsSelector (genLabels mxjob none) = .ok ⟨genLabels mxjob none⟩ := by
  rw [jobSelector_eq, if_pos valid]

section Claimed

variable {Obj : Type} {kind : ClaimKind} {objectOf : Obj → ObjectMeta} {mxjob : MXJob}
  {request : Request} {listing : request.Reply → Except ApiError (List Obj)}
  {trace : List Call} {claimed : List Obj}

/-- What a listing yields for the job: every managed object, possibly some that
were just adopted, nothing else, in list order. -/
structure Claimed (kind : ClaimKind) (objectOf : Obj → ObjectMeta) (mxjob : MXJob)
    (listed claimed : List Obj) (trace : List Call) : Prop where
  lower : (listed.filter fun object => manages mxjob (objectOf object)).Sublist claimed
  upper : claimed.Sublist listed
  members : ∀ object ∈ claimed, selects mxjob (objectOf object).labels = true ∧
    ((objectOf object).controlledBy mxjob.uid = true ∨ Adopted kind mxjob (objectOf object) trace)

theorem Claimed.mono {listed : List Obj} {larger : List Call}
    (claims : Claimed kind objectOf mxjob listed claimed trace) (included : trace ⊆ larger) :
    Claimed kind objectOf mxjob listed claimed larger where
  lower := claims.lower
  upper := claims.upper
  members := by
    intro object member
    obtain ⟨selected, origin⟩ := claims.members object member
    exact ⟨selected, origin.imp_right fun adopted => adopted.mono included⟩

/-- What a job claims depends on its metadata only. -/
theorem Claimed.of_meta {other : MXJob} {listed : List Obj}
    (claims : Claimed kind objectOf mxjob listed claimed trace)
    (same : mxjob.toObjectMeta = other.toObjectMeta) :
    Claimed kind objectOf other listed claimed trace where
  lower := by simpa [manages, selects, genLabels, same] using claims.lower
  upper := claims.upper
  members := by
    simpa [selects, genLabels, Adopted, newControllerRef, same] using claims.members

/-- Without orphans the managed objects are claimed, and no others. -/
theorem Claimed.eq_managed {listed : List Obj}
    (claims : Claimed kind objectOf mxjob listed claimed trace)
    (noOrphan : ∀ object ∈ listed, selects mxjob (objectOf object).labels = true →
      claimable mxjob (objectOf object) = true → (objectOf object).controlledBy mxjob.uid = true) :
    claimed = listed.filter fun object => manages mxjob (objectOf object) := by
  have managed : ∀ object ∈ claimed, manages mxjob (objectOf object) = true := by
    intro object member
    obtain ⟨selected, owned⟩ := claims.members object member
    have mayClaim : claimable mxjob (objectOf object) = true := by
      rcases owned with controlled | ⟨orphan, live, _⟩
      · simp [claimable, controlled]
      · simp [claimable, orphan, live]
    rw [manages, noOrphan object (claims.upper.subset member) selected mayClaim, selected]
    rfl
  refine List.Sublist.antisymm ?_ claims.lower
  rw [← List.filter_eq_self.mpr managed]
  exact claims.upper.filter _

theorem getPodsForMXJob_withStatus (status : MXJobStatus) :
    getPodsForMXJob { mxjob with status := status } = getPodsForMXJob mxjob := by
  unfold getPodsForMXJob claimListed claimPods claimMatching
  simp only [claimObjects_withStatus]
  rfl

/-- A listing that returns starts with the live list and then claims from it. -/
theorem claimListed_returns
    (returned : (claimListed mxjob request listing (claimMatching kind objectOf)).Returns trace
      claimed) :
    ∃ reply listed claiming, trace = ⟨request, reply⟩ :: claiming ∧ listing reply = .ok listed ∧
      Claimed kind objectOf mxjob listed claimed claiming := by
  unfold claimListed at returned
  split at returned
  · exact absurd returned Program.returns_abort
  · rename_i selector built
    rw [labelSelectorAsSelector_ok built] at returned
    simp only [Program.returns_bind, returns_ask] at returned
    obtain ⟨reply, _, rest, rfl, rfl, returned⟩ := returned
    cases decoded : listing reply with
    | error error =>
        rw [decoded] at returned
        exact absurd returned Program.returns_abort
    | ok listed =>
        simp only [decoded, claimMatching, List.all_nil, Bool.and_true, Program.returns_bind,
          Program.returns_pure, returns_failOn] at returned
        obtain ⟨⟨_, _⟩, _, tail, rfl, ⟨⟨pods, errors⟩, claiming, _, rfl, loop, rfl, same⟩,
          _, _, _, rfl, ⟨rfl, silent⟩, rfl, rfl⟩ := returned
        cases same
        obtain ⟨lower, upper, members, _⟩ := claimObjects_returns loop
        exact ⟨reply, listed, claiming, by simp, decoded, lower, upper, members⟩

/-- When no listed object turns out missing, exactly the claimable selected ones
are claimed. -/
theorem claimListed_exact
    (returned : (claimListed mxjob request listing (claimMatching kind objectOf)).Returns trace
      claimed)
    (persistent : mxjob.deletionTimestamp = none)
    (found : ∀ call ∈ trace, reportsMissing call = false) :
    ∃ reply listed claiming, trace = ⟨request, reply⟩ :: claiming ∧ listing reply = .ok listed ∧
      claimed = listed.filter fun object =>
        claimable mxjob (objectOf object) && selects mxjob (objectOf object).labels := by
  unfold claimListed at returned
  split at returned
  · exact absurd returned Program.returns_abort
  · rename_i selector built
    rw [labelSelectorAsSelector_ok built] at returned
    simp only [Program.returns_bind, returns_ask] at returned
    obtain ⟨reply, _, rest, rfl, rfl, returned⟩ := returned
    cases decoded : listing reply with
    | error error =>
        rw [decoded] at returned
        exact absurd returned Program.returns_abort
    | ok listed =>
        simp only [decoded, claimMatching, List.all_nil, Bool.and_true, Program.returns_bind,
          Program.returns_pure, returns_failOn] at returned
        obtain ⟨⟨_, _⟩, _, tail, rfl, ⟨⟨pods, errors⟩, claiming, _, rfl, loop, rfl, same⟩,
          _, _, _, rfl, ⟨rfl, silent⟩, rfl, rfl⟩ := returned
        cases same
        obtain rfl : errors = [] := by
          cases errors with
          | nil => rfl
          | cons => cases silent
        refine ⟨reply, listed, claiming, by simp, decoded, ?_⟩
        exact claimObjects_exact loop persistent fun call member => found call (by simp [member])

/-- Objects the job already manages are listed without a further call. -/
theorem claimListed_managed {selector : Selector} {reply : request.Reply} {listed : List Obj}
    (valid : labelSelectorAsSelector (genLabels mxjob none) = .ok selector)
    (decoded : listing reply = .ok listed)
    (managed : ∀ object ∈ listed, manages mxjob (objectOf object) = true) :
    (claimListed mxjob request listing (claimMatching kind objectOf)).Returns
      [⟨request, reply⟩] listed := by
  have owned : ∀ once, claimObjects kind mxjob objectOf
      (fun object => selector.isMatch (objectOf object).labels) listed once =
        pure (listed, []) := by
    intro once
    refine claimObjects_owned fun object member => ?_
    rw [labelSelectorAsSelector_ok valid]
    exact managed object member
  simp only [claimListed, valid, Program.returns_bind, returns_ask]
  refine ⟨reply, [⟨request, reply⟩], [], by simp, rfl, ?_⟩
  simp only [decoded, claimMatching, List.all_nil, Bool.and_true, owned, Program.done_bind]
  exact Program.returns_pure.mpr ⟨rfl, rfl⟩

/-- A listing stops early on an invalid selector, a failed call, or a live read
that forbids adoption. -/
theorem claimListed_aborts {reason : Abort}
    (aborted : (claimListed mxjob request listing (claimMatching kind objectOf)).Aborts trace
      reason) :
    (∀ selector, labelSelectorAsSelector (genLabels mxjob none) ≠ .ok selector) ∨
      (∃ reply error, ⟨request, reply⟩ ∈ trace ∧ listing reply = .error error) ∨
      ∃ call ∈ trace, failedCall call = true ∨ recheckRefused mxjob call = true := by
  unfold claimListed at aborted
  split at aborted
  · rename_i error invalid
    left
    intro selector
    rw [invalid]
    simp
  · right
    simp only [Program.aborts_bind, aborts_ask, false_or, returns_ask] at aborted
    obtain ⟨reply, _, rest, rfl, rfl, aborted⟩ := aborted
    cases decoded : listing reply with
    | error error => exact Or.inl ⟨reply, error, List.mem_cons_self, decoded⟩
    | ok listed =>
        simp only [decoded, claimMatching, Program.aborts_bind, aborts_claimObjects,
          Program.aborts_pure, and_false, exists_false, or_false, false_or, aborts_failOn,
          Program.returns_bind, Program.returns_pure] at aborted
        obtain ⟨⟨_, _⟩, _, _, rfl, ⟨⟨pods, errors⟩, claiming, _, rfl, loop, rfl, same⟩, _,
          cause, reported, _⟩ := aborted
        cases same
        have some : errors ≠ [] := by
          intro empty
          rw [empty] at reported
          cases reported
        rcases (claimObjects_returns loop).2.2.2.resolve_left some with
          ⟨call, member, failed⟩ | ⟨_, impossible⟩
        · exact Or.inr ⟨call, by simp [member], failed⟩
        · cases impossible

/-- The requests of a listing: the list itself, then claims of listed objects. -/
theorem claimListed_issues {issued : Request}
    (issues : (claimListed mxjob request listing (claimMatching kind objectOf)).Issues trace
      issued) :
    (trace = [] ∧ issued = request) ∨
      ∃ reply listed claiming, trace = ⟨request, reply⟩ :: claiming ∧
        listing reply = .ok listed ∧
        ∃ object ∈ listed, ClaimRequest kind mxjob (objectOf object)
          (selects mxjob (objectOf object).labels) issued := by
  unfold claimListed at issues
  split at issues
  · exact absurd issues Program.issues_abort
  · rename_i selector built
    rw [labelSelectorAsSelector_ok built] at issues
    simp only [Program.issues_bind, issues_ask, returns_ask] at issues
    rcases issues with first | ⟨reply, _, rest, rfl, rfl, issues⟩
    · exact Or.inl first
    · right
      cases decoded : listing reply with
      | error error =>
          rw [decoded] at issues
          exact absurd issues Program.issues_abort
      | ok listed =>
          simp only [decoded, claimMatching, List.all_nil, Bool.and_true, Program.issues_bind,
            issues_failOn, Program.issues_pure, and_false, exists_false, or_false] at issues
          obtain ⟨object, member, shape⟩ := claimObjects_issues issues
          exact ⟨reply, listed, rest, rfl, decoded, object, member, shape⟩

end Claimed

/-! ### The scheduler service -/

section Services

variable {mxjob : MXJob} {services : List Service} {spec : MXReplicaSpec} {trace : List Call}

/-- `reconcileServices` for the scheduler, without the guards that always pass.
A wrapped error is never a Timeout, so every failed creation is reported. -/
theorem reconcileServices_eq (mxjob : MXJob) (services : List Service) (spec : MXReplicaSpec) :
    reconcileServices mxjob services .scheduler spec =
      if services.isEmpty then do
        let reply ← ask (.createService (newService mxjob .scheduler spec))
        failOn ((reply : Option ApiError).map fun error =>
          .plain ("unable to create services: " ++ error.message))
      else
        pure () := by
  have labelled : (newService mxjob .scheduler spec).labels.entries.isEmpty = false := rfl
  simp only [reconcileServices, ne_eq, not_true_eq_false, ↓reduceIte,
    createServicesWithControllerRef, validateControllerRef_new, labelled, Bool.false_eq_true,
    Program.bind_bind, Program.done_bind]
  congr 2
  funext reply
  cases reply <;> rfl

theorem reconcileServices_returns {result : Unit}
    (returned : (reconcileServices mxjob services .scheduler spec).Returns trace result) :
    trace = if services.isEmpty then
      [(⟨.createService (newService mxjob .scheduler spec), none⟩ : Call)] else [] := by
  rw [reconcileServices_eq] at returned
  split at returned
  · rename_i empty
    simp only [Program.returns_bind, returns_ask, returns_failOn] at returned
    obtain ⟨reply, _, _, rfl, rfl, rfl, accepted⟩ := returned
    rw [if_pos empty]
    cases reply with
    | none => rfl
    | some error => cases accepted
  · rename_i present
    rw [if_neg present]
    exact (Program.returns_pure.mp returned).1

theorem reconcileServices_aborts {reason : Abort}
    (aborted : (reconcileServices mxjob services .scheduler spec).Aborts trace reason) :
    ∃ call ∈ trace, failedCall call = true := by
  rw [reconcileServices_eq] at aborted
  split at aborted
  · simp only [Program.aborts_bind, aborts_ask, false_or, returns_ask, aborts_failOn] at aborted
    obtain ⟨reply, _, _, rfl, rfl, rfl, cause, failed, _⟩ := aborted
    cases reply with
    | none => cases failed
    | some error => exact ⟨_, List.mem_cons_self, rfl⟩
  · exact absurd aborted Program.aborts_pure

theorem reconcileServices_issues {request : Request}
    (issued : (reconcileServices mxjob services .scheduler spec).Issues trace request) :
    services = [] ∧ trace = [] ∧
      request = .createService (newService mxjob .scheduler spec) := by
  rw [reconcileServices_eq] at issued
  split at issued
  · rename_i empty
    simp only [Program.issues_bind, issues_ask, issues_failOn, and_false, exists_false,
      or_false] at issued
    exact ⟨List.isEmpty_iff.mp empty, issued⟩
  · exact absurd issued Program.issues_pure

end Services

end MXNetOperator.Mx
