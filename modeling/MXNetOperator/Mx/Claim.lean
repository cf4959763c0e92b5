import MXNetOperator.Mx.Request

/-!
Contract: claiming pods and services by owner reference and labels.

Owns the embedding of `BaseControllerRefManager.ClaimObject` with its
adopt/release patches, of `PodControllerRefManager.ClaimPods` and of
`ServiceControllerRefManager.ClaimServices`, and what a claim loop can do:
which objects it returns, which requests it issues and where its errors come
from.
-/

namespace MXNetOperator.Mx

open MXNetOperator.Kube MXNetOperator.Api MXNetOperator.Interaction

/-- The kinds of objects a manager claims. -/
inductive ClaimKind where
  | pod
  | service
deriving DecidableEq

def ClaimKind.word : ClaimKind → String
  | .pod => "Pod"
  | .service => "Service"

/-- The patch request for an object of this kind. -/
def ClaimKind.patchRequest : ClaimKind → String → OwnerPatch → Request
  | .pod, name, patch => .patchPod name patch
  | .service, name, patch => .patchService name patch

def ClaimKind.sendPatch : ClaimKind → String → OwnerPatch → Go (Option ApiError)
  | .pod, name, patch => ask (.patchPod name patch)
  | .service, name, patch => ask (.patchService name patch)

/-- The exchange of a patch request and its reply. -/
def ClaimKind.patchCall : ClaimKind → String → OwnerPatch → Option ApiError → Call
  | .pod, name, patch, reply => ⟨.patchPod name patch, reply⟩
  | .service, name, patch, reply => ⟨.patchService name patch, reply⟩

/-- Memory of `sync.Once`: the error `CanAdoptFunc` gave, once it was asked. -/
abbrev AdoptOnce := Option (Option GoError)

/-! ### Source functions -/

/-- `RecheckDeletionTimestamp` on the answer to the live read of the job. -/
def recheckDeletionTimestamp (mxjob : MXJob) : Except ApiError MXJob → Option GoError
  | .error error => some (.plain ("can't recheck DeletionTimestamp: " ++ error.message))
  | .ok fresh =>
      if fresh.uid = mxjob.uid then
        fresh.deletionTimestamp.map fun time =>
          .plain (fresh.ns ++ "/" ++ fresh.name ++ " has just been deleted at " ++ toString time)
      else
        some (.plain ("can't recheck DeletionTimestamp: original MXJob " ++ mxjob.ns ++ "/" ++
          mxjob.name ++ " is gone: got uid " ++ toString fresh.uid ++ ", wanted " ++
          toString mxjob.uid))

def canAdoptFunc (mxjob : MXJob) : Go (Option GoError) := do
  let reply ← ask (.getMXJob mxjob.name)
  pure (recheckDeletionTimestamp mxjob reply)

def canAdopt (mxjob : MXJob) (once : AdoptOnce) : Go (Option GoError) :=
  match once with
  | some known => pure known
  | none => canAdoptFunc mxjob

/-- What `AdoptPod` and `AdoptService` return if the job must not adopt. -/
def adoptionRefused (kind : ClaimKind) (object : ObjectMeta) (error : GoError) : GoError :=
  .plain ("can't adopt " ++ kind.word ++ " " ++ object.ns ++ "/" ++ object.name ++ " (" ++
    toString object.uid ++ "): " ++ error.text)

/-- `AdoptPod` and `AdoptService`; the second component is the memory of the
adoption check. -/
def adoptObject (kind : ClaimKind) (mxjob : MXJob) (object : ObjectMeta) (once : AdoptOnce) :
    Go (Option GoError × AdoptOnce) := do
  let refused ← canAdopt mxjob once
  match refused with
  | some error => pure (some (adoptionRefused kind object error), some refused)
  | none =>
      let reply ← kind.sendPatch object.name (.adopt (newControllerRef mxjob) object.uid)
      pure (reply.map GoError.status, some refused)

/-- NotFound and Invalid are ignored in a release. -/
def releaseError : Option ApiError → Option GoError
  | none => none
  | some error =>
      if isNotFound (.status error) || isInvalid (.status error) then none
      else some (.status error)

/-- `ReleasePod` and `ReleaseService`. -/
def releaseObject (kind : ClaimKind) (mxjob : MXJob) (object : ObjectMeta) :
    Go (Option GoError) := do
  let reply ← kind.sendPatch object.name (.release mxjob.uid object.uid)
  pure (releaseError reply)

/-- An error other than NotFound. -/
def reportUnlessNotFound : Option GoError → Option GoError
  | none => none
  | some error => if isNotFound error then none else some error

/-- `ClaimObject`: whether the object is now owned, the error of a failed
reconciliation, and the memory of the adoption check. -/
def claimObject (kind : ClaimKind) (mxjob : MXJob) (object : ObjectMeta) (isMatch : Bool)
    (once : AdoptOnce) : Go (Bool × Option GoError × AdoptOnce) :=
  match getControllerOf object with
  | some reference =>
      if reference.uid ≠ mxjob.uid then
        -- owned by someone else
        pure (false, none, once)
      else if isMatch then
        pure (true, none, once)
      else if mxjob.deletionTimestamp.isSome then
        pure (false, none, once)
      else do
        let error ← releaseObject kind mxjob object
        pure (false, reportUnlessNotFound error, once)
  | none =>
      if mxjob.deletionTimestamp.isSome ∨ isMatch = false then
        pure (false, none, once)
      else if object.deletionTimestamp.isSome then
        pure (false, none, once)
      else do
        let (error, asked) ← adoptObject kind mxjob object once
        match error with
        | some _ => pure (false, reportUnlessNotFound error, asked)
        | none => pure (true, none, asked)

section ClaimLoop

variable {Obj : Type}

/-- The loop of `ClaimPods` and `ClaimServices`: the claimed objects in list
order and the collected errors. -/
def claimObjects (kind : ClaimKind) (mxjob : MXJob) (objectOf : Obj → ObjectMeta)
    (isMatch : Obj → Bool) : List Obj → AdoptOnce → Go (List Obj × List GoError)
  | [], _ => pure ([], [])
  | object :: rest, once => do
      let (owned, error, asked) ←
        claimObject kind mxjob (objectOf object) (isMatch object) once
      let (claimed, errors) ← claimObjects kind mxjob objectOf isMatch rest asked
      match error with
      | some failure => pure (claimed, failure :: errors)
      | none => pure (if owned then object :: claimed else claimed, errors)

/-- The common body of `ClaimPods` and `ClaimServices`. -/
def claimMatching (kind : ClaimKind) (objectOf : Obj → ObjectMeta) (mxjob : MXJob)
    (selector : Selector) (objects : List Obj) (filters : List (Obj → Bool)) :
    Go (List Obj × Option GoError) := do
  let (claimed, errors) ← claimObjects kind mxjob objectOf
    (fun object => selector.isMatch (objectOf object).labels && filters.all fun keep => keep object)
    objects none
  pure (claimed, newAggregate errors)

end ClaimLoop

def claimPods : MXJob → Selector → List Pod → List (Pod → Bool) →
    Go (List Pod × Option GoError) :=
  claimMatching .pod Pod.toObjectMeta

def claimServices : MXJob → Selector → List Service → List (Service → Bool) →
    Go (List Service × Option GoError) :=
  claimMatching .service Service.toObjectMeta

/-! ### What claiming does not read

Claims look at the metadata of the job only, so a new status changes nothing. -/

section Status

variable {kind : ClaimKind} {mxjob : MXJob} (status : MXJobStatus)

theorem canAdoptFunc_withStatus :
    canAdoptFunc { mxjob with status := status } = canAdoptFunc mxjob := by
  refine congrArg (Program.call (Request.getMXJob mxjob.name)) (funext fun reply => ?_)
  cases (reply : Except ApiError MXJob) <;> rfl

theorem adoptObject_withStatus (object : ObjectMeta) (once : AdoptOnce) :
    adoptObject kind { mxjob with status := status } object once =
      adoptObject kind mxjob object once := by
  simp only [adoptObject, canAdopt, canAdoptFunc_withStatus, newControllerRef]

theorem claimObject_withStatus (object : ObjectMeta) (isMatch : Bool) (once : AdoptOnce) :
    claimObject kind { mxjob with status := status } object isMatch once =
      claimObject kind mxjob object isMatch once := by
  simp only [claimObject, adoptObject_withStatus, releaseObject]

theorem claimObjects_withStatus {Obj : Type} {objectOf : Obj → ObjectMeta} (accepts : Obj → Bool)
    (objects : List Obj) (once : AdoptOnce) :
    claimObjects kind { mxjob with status := status } objectOf accepts objects once =
      claimObjects kind mxjob objectOf accepts objects once := by
  induction objects generalizing once with
  | nil => rfl
  | cons object rest inductionHypothesis =>
      simp only [claimObjects, inductionHypothesis, claimObject_withStatus]

end Status

/-! ### What claiming one object can do -/

/-- The live read came back with a job that must not adopt any more. -/
def recheckRefused (mxjob : MXJob) : Call → Bool
  | ⟨.getMXJob _, .ok fresh⟩ => fresh.uid != mxjob.uid || fresh.deletionTimestamp.isSome
  | _ => false

/-- The object carries no controller, matches and is live, and the patch that
adopts it succeeded. -/
def Adopted (kind : ClaimKind) (mxjob : MXJob) (object : ObjectMeta) (trace : List Call) :
    Prop :=
  getControllerOf object = none ∧ object.deletionTimestamp = none ∧
    kind.patchCall object.name (.adopt (newControllerRef mxjob) object.uid) none ∈ trace

theorem Adopted.mono {kind : ClaimKind} {mxjob : MXJob} {object : ObjectMeta}
    {trace larger : List Call} (adopted : Adopted kind mxjob object trace)
    (included : trace ⊆ larger) : Adopted kind mxjob object larger :=
  ⟨adopted.1, adopted.2.1, included adopted.2.2⟩

section Single

variable {kind : ClaimKind} {mxjob : MXJob} {object : ObjectMeta} {isMatch : Bool}
  {once : AdoptOnce} {trace : List Call} {request : Request} {reason : Abort}

@[simp] theorem returns_sendPatch {name : String} {patch : OwnerPatch}
    {reply : Option ApiError} :
    (kind.sendPatch name patch).Returns trace reply ↔
      trace = [kind.patchCall name patch reply] := by
  cases kind <;> exact returns_ask

@[simp] theorem aborts_sendPatch {name : String} {patch : OwnerPatch} :
    ¬ (kind.sendPatch name patch).Aborts trace reason := by
  cases kind <;> exact aborts_ask

@[simp] theorem issues_sendPatch {name : String} {patch : OwnerPatch} :
    (kind.sendPatch name patch).Issues trace request ↔
      trace = [] ∧ request = kind.patchRequest name patch := by
  cases kind <;> exact issues_ask

@[simp] theorem failedCall_patchCall {name : String} {patch : OwnerPatch} {error : ApiError} :
    failedCall (kind.patchCall name patch (some error)) = true := by
  cases kind <;> rfl

/-- An error of the adoption machinery has a cause: a failed call, a live read
that forbids adoption, or an earlier refusal still remembered. -/
def Troubled (mxjob : MXJob) (once : AdoptOnce) (trace : List Call) : Prop :=
  (∃ call ∈ trace, failedCall call = true ∨ recheckRefused mxjob call = true) ∨
    ∃ error, once = some (some error)

theorem recheckDeletionTimestamp_isSome {reply : Except ApiError MXJob} :
    (recheckDeletionTimestamp mxjob reply).isSome =
      (failedCall ⟨.getMXJob mxjob.name, reply⟩ ||
        recheckRefused mxjob ⟨.getMXJob mxjob.name, reply⟩) := by
  cases reply with
  | error error => rfl
  | ok fresh =>
      by_cases sameUid : fresh.uid = mxjob.uid
      · simp [recheckDeletionTimestamp, recheckRefused, failedCall, sameUid]
      · simp [recheckDeletionTimestamp, recheckRefused, sameUid]

theorem canAdoptFunc_returns {refused : Option GoError}
    (returned : (canAdoptFunc mxjob).Returns trace refused) :
    refused = none ∨ Troubled mxjob none trace := by
  simp only [canAdoptFunc, Program.returns_bind, returns_ask, Program.returns_pure] at returned
  obtain ⟨reply, front, back, rfl, rfl, rfl, rfl⟩ := returned
  cases refused : recheckDeletionTimestamp mxjob reply with
  | none => exact Or.inl rfl
  | some error =>
      have cause := @recheckDeletionTimestamp_isSome mxjob reply
      rw [refused, Option.isSome_some, eq_comm, Bool.or_eq_true] at cause
      exact Or.inr (Or.inl ⟨_, List.mem_append_left _ (List.mem_singleton.mpr rfl), cause⟩)

theorem canAdopt_returns {refused : Option GoError}
    (returned : (canAdopt mxjob once).Returns trace refused) :
    refused = none ∨ Troubled mxjob once trace := by
  cases once with
  | none => exact canAdoptFunc_returns returned
  | some known =>
      obtain ⟨rfl, rfl⟩ := Program.returns_pure.mp returned
      cases known with
      | none => exact Or.inl rfl
      | some error => exact Or.inr (Or.inr ⟨error, rfl⟩)

theorem Troubled.mono {larger : List Call} (troubled : Troubled mxjob once trace)
    (included : trace ⊆ larger) : Troubled mxjob once larger := by
  rcases troubled with ⟨call, member, cause⟩ | remembered
  · exact Or.inl ⟨call, included member, cause⟩
  · exact Or.inr remembered

/-- Adoption succeeds exactly through a successful patch; a failure is
troubled, and so is any refusal it leaves behind. -/
theorem adoptObject_returns {error : Option GoError} {asked : AdoptOnce}
    (returned : (adoptObject kind mxjob object once).Returns trace (error, asked)) :
    (error = none → kind.patchCall object.name (.adopt (newControllerRef mxjob) object.uid) none ∈
        trace) ∧
      (error = none ∨ Troubled mxjob once trace) ∧
      ((∀ cause, asked ≠ some (some cause)) ∨ Troubled mxjob once trace) := by
  simp only [adoptObject, Program.returns_bind] at returned
  obtain ⟨refused, front, back, rfl, checked, returned⟩ := returned
  have cause := canAdopt_returns checked
  cases refused with
  | some refusal =>
      have troubled : Troubled mxjob once (front ++ back) := by
        rcases cause with impossible | troubled
        · cases impossible
        · exact troubled.mono (List.subset_append_left front back)
      simp only [Program.returns_pure, Prod.mk.injEq] at returned
      obtain ⟨_, rfl, _⟩ := returned
      exact ⟨by simp, Or.inr troubled, Or.inr troubled⟩
  | none =>
      simp only [Program.returns_bind, returns_sendPatch, Program.returns_pure,
        Prod.mk.injEq] at returned
      obtain ⟨reply, patching, tail, rfl, rfl, rfl, rfl, rfl⟩ := returned
      refine ⟨?_, ?_, Or.inl (by simp)⟩
      · intro succeeded
        cases reply with
        | none => simp
        | some failure => cases succeeded
      · cases reply with
        | none => exact Or.inl rfl
        | some failure =>
            refine Or.inr (Or.inl ⟨kind.patchCall object.name
              (.adopt (newControllerRef mxjob) object.uid) (some failure), ?_, Or.inl ?_⟩)
            · simp
            · simp

theorem releaseObject_returns {error : Option GoError}
    (returned : (releaseObject kind mxjob object).Returns trace error) :
    error = none ∨ ∃ call ∈ trace, failedCall call = true := by
  simp only [releaseObject, Program.returns_bind, returns_sendPatch] at returned
  obtain ⟨reply, front, back, rfl, rfl, returned⟩ := returned
  cases reply with
  | none => exact Or.inl (Program.returns_pure.mp returned).2.symm
  | some failure =>
      refine Or.inr ⟨kind.patchCall object.name (.release mxjob.uid object.uid) (some failure),
        ?_, by simp⟩
      simp

theorem reportUnlessNotFound_eq_none {error : Option GoError} (absent : error = none) :
    reportUnlessNotFound error = none := by
  rw [absent]
  rfl

/-- What a call of `ClaimObject` achieves.  What is owned and matches is claimed;
what is claimed matches and is owned or was just adopted; errors are troubled,
and so is a refusal that is remembered. -/
structure ClaimResult (kind : ClaimKind) (mxjob : MXJob) (object : ObjectMeta) (isMatch : Bool)
    (once : AdoptOnce) (trace : List Call) (owned : Bool) (error : Option GoError)
    (asked : AdoptOnce) : Prop where
  must : object.controlledBy mxjob.uid = true → isMatch = true → owned = true
  may : owned = true → isMatch = true ∧ error = none ∧
    (object.controlledBy mxjob.uid = true ∨ Adopted kind mxjob object trace)
  failed : error = none ∨ Troubled mxjob once trace
  refused : (∀ cause, asked ≠ some (some cause)) ∨ Troubled mxjob once trace

theorem remembered_or_troubled :
    (∀ cause, once ≠ some (some cause)) ∨ Troubled mxjob once trace := by
  by_cases refused : ∃ cause, once = some (some cause)
  · exact Or.inr (Or.inr refused)
  · exact Or.inl (fun cause equal => refused ⟨cause, equal⟩)

section Outcomes

variable {owned : Bool} {error : Option GoError} {asked : AdoptOnce}

theorem claimObject_controlled {reference : OwnerReference}
    (controller : getControllerOf object = some reference)
    (returned : (claimObject kind mxjob object isMatch once).Returns trace (owned, error, asked)) :
    ClaimResult kind mxjob object isMatch once trace owned error asked := by
  simp only [claimObject, controller] at returned
  have ownership : object.controlledBy mxjob.uid = decide (reference.uid = mxjob.uid) := by
    simp [ObjectMeta.controlledBy, controller, beq_eq_decide]
  by_cases foreign : reference.uid ≠ mxjob.uid
  · simp only [foreign, ne_eq, not_false_eq_true, ↓reduceIte, Program.returns_pure,
      Prod.mk.injEq] at returned
    obtain ⟨rfl, rfl, rfl, rfl⟩ := returned
    refine ⟨?_, by simp, Or.inl rfl, remembered_or_troubled⟩
    intro controlled
    rw [ownership, decide_eq_true_eq] at controlled
    exact absurd controlled foreign
  · have mine : reference.uid = mxjob.uid := not_not.mp foreign
    rw [if_neg foreign] at returned
    cases isMatch with
    | true =>
        simp only [↓reduceIte, Program.returns_pure, Prod.mk.injEq] at returned
        obtain ⟨rfl, rfl, rfl, rfl⟩ := returned
        refine ⟨fun _ _ => rfl, fun _ => ⟨rfl, rfl, Or.inl ?_⟩, Or.inl rfl,
          remembered_or_troubled⟩
        rw [ownership, mine, decide_eq_true_eq]
    | false =>
        rw [if_neg Bool.false_ne_true] at returned
        split at returned
        · simp only [Program.returns_pure, Prod.mk.injEq] at returned
          obtain ⟨rfl, rfl, rfl, rfl⟩ := returned
          exact ⟨by simp, by simp, Or.inl rfl, remembered_or_troubled⟩
        · simp only [Program.returns_bind, Program.returns_pure, Prod.mk.injEq] at returned
          obtain ⟨failure, front, back, rfl, released, rfl, rfl, rfl, rfl⟩ := returned
          refine ⟨by simp, by simp, ?_, remembered_or_troubled⟩
          rcases releaseObject_returns released with absent | ⟨call, member, failed⟩
          · exact Or.inl (reportUnlessNotFound_eq_none absent)
          · exact Or.inr (Or.inl ⟨call, List.mem_append_left _ member, Or.inl failed⟩)

theorem claimObject_orphan (controller : getControllerOf object = none)
    (returned : (claimObject kind mxjob object isMatch once).Returns trace (owned, error, asked)) :
    ClaimResult kind mxjob object isMatch once trace owned error asked := by
  simp only [claimObject, controller] at returned
  have orphan : object.controlledBy mxjob.uid = false := by
    simp [ObjectMeta.controlledBy, controller]
  split at returned
  · simp only [Program.returns_pure, Prod.mk.injEq] at returned
    obtain ⟨rfl, rfl, rfl, rfl⟩ := returned
    exact ⟨by simp [orphan], by simp, Or.inl rfl, remembered_or_troubled⟩
  · rename_i adoptable
    have matching : isMatch = true := by
      cases isMatch with
      | true => rfl
      | false => exact absurd (Or.inr rfl) adoptable
    split at returned
    · simp only [Program.returns_pure, Prod.mk.injEq] at returned
      obtain ⟨rfl, rfl, rfl, rfl⟩ := returned
      exact ⟨by simp [orphan], by simp, Or.inl rfl, remembered_or_troubled⟩
    · rename_i live
      simp only [Program.returns_bind] at returned
      obtain ⟨⟨failure, checked⟩, front, back, rfl, adopting, returned⟩ := returned
      obtain ⟨patched, failing, refusing⟩ := adoptObject_returns adopting
      have grow : ∀ {property : Prop}, property ∨ Troubled mxjob once front →
          property ∨ Troubled mxjob once (front ++ back) := by
        intro property either
        exact either.imp_right fun troubled =>
          troubled.mono (List.subset_append_left front back)
      cases failure with
      | some cause =>
          simp only [Program.returns_pure, Prod.mk.injEq] at returned
          obtain ⟨rfl, rfl, rfl, rfl⟩ := returned
          refine ⟨by simp [orphan], by simp, ?_, grow refusing⟩
          exact grow (Or.inr (failing.resolve_left (by simp)))
      | none =>
          simp only [Program.returns_pure, Prod.mk.injEq] at returned
          obtain ⟨rfl, rfl, rfl, rfl⟩ := returned
          refine ⟨by simp [orphan], fun _ => ⟨matching, rfl, Or.inr ⟨controller, ?_, ?_⟩⟩,
            Or.inl rfl, grow refusing⟩
          · simpa using live
          · simpa using patched rfl

/-- Specification of `ClaimObject`. -/
theorem claimObject_returns
    (returned : (claimObject kind mxjob object isMatch once).Returns trace (owned, error, asked)) :
    ClaimResult kind mxjob object isMatch once trace owned error asked := by
  cases controller : getControllerOf object with
  | some reference => exact claimObject_controlled controller returned
  | none => exact claimObject_orphan controller returned

end Outcomes

@[simp] theorem aborts_canAdopt : ¬ (canAdopt mxjob once).Aborts trace reason := by
  cases once with
  | some known => exact Program.aborts_pure
  | none =>
      simp only [canAdopt, canAdoptFunc, Program.aborts_bind, aborts_ask, false_or, not_exists,
        not_and]
      exact fun reply front back _ _ => Program.aborts_pure

@[simp] theorem aborts_claimObject :
    ¬ (claimObject kind mxjob object isMatch once).Aborts trace reason := by
  intro aborted
  unfold claimObject at aborted
  split at aborted
  · split at aborted
    · exact Program.aborts_pure aborted
    · split at aborted
      · exact Program.aborts_pure aborted
      · split at aborted
        · exact Program.aborts_pure aborted
        · simp only [releaseObject, Program.aborts_bind, aborts_sendPatch,
            Program.aborts_pure, and_false, exists_false, or_false] at aborted
  · split at aborted
    · exact Program.aborts_pure aborted
    · split at aborted
      · exact Program.aborts_pure aborted
      · simp only [adoptObject, Program.aborts_bind, aborts_canAdopt, false_or] at aborted
        rcases aborted with ⟨refused, front, back, _, _, aborted⟩ | ⟨⟨error, asked⟩, _, _, _, _, aborted⟩
        · split at aborted
          · exact Program.aborts_pure aborted
          · simp at aborted
        · split at aborted <;> exact Program.aborts_pure aborted

theorem canAdopt_issues {request : Request}
    (issued : (canAdopt mxjob once).Issues trace request) : request = .getMXJob mxjob.name := by
  cases once with
  | some known => exact absurd issued Program.issues_pure
  | none =>
      simp only [canAdopt, canAdoptFunc, Program.issues_bind, issues_ask] at issued
      rcases issued with ⟨_, same⟩ | ⟨reply, front, back, _, _, issued⟩
      · exact same
      · exact absurd issued Program.issues_pure

/-- The requests `ClaimObject` may issue: the live read of the job, the
adoption of a matching orphan that is not being deleted, the release of an
owned object that no longer matches. -/
def ClaimRequest (kind : ClaimKind) (mxjob : MXJob) (object : ObjectMeta) (isMatch : Bool)
    (request : Request) : Prop :=
  request = .getMXJob mxjob.name ∨
    ((getControllerOf object = none ∧ object.deletionTimestamp = none) ∧ isMatch = true ∧
      request = kind.patchRequest object.name (.adopt (newControllerRef mxjob) object.uid)) ∨
    (object.controlledBy mxjob.uid = true ∧ isMatch = false ∧
      request = kind.patchRequest object.name (.release mxjob.uid object.uid))

theorem claimObject_issues {request : Request}
    (issued : (claimObject kind mxjob object isMatch once).Issues trace request) :
    ClaimRequest kind mxjob object isMatch request := by
  unfold claimObject at issued
  cases controller : getControllerOf object with
  | some reference =>
      simp only [controller] at issued
      split at issued
      · exact absurd issued Program.issues_pure
      · rename_i mine
        split at issued
        · exact absurd issued Program.issues_pure
        · rename_i mismatch
          split at issued
          · exact absurd issued Program.issues_pure
          · simp only [releaseObject, Program.issues_bind, issues_sendPatch,
              Program.issues_pure, and_false, exists_false, or_false] at issued
            have controlled : object.controlledBy mxjob.uid = true := by
              simpa [ObjectMeta.controlledBy, controller] using mine
            exact Or.inr (Or.inr ⟨controlled, by simpa using mismatch, issued.2⟩)
  | none =>
      simp only [controller] at issued
      split at issued
      · exact absurd issued Program.issues_pure
      · rename_i adoptable
        have matching : isMatch = true := by
          cases isMatch with
          | true => rfl
          | false => exact absurd (Or.inr rfl) adoptable
        split at issued
        · exact absurd issued Program.issues_pure
        · rename_i live
          simp only [adoptObject, Program.issues_bind] at issued
          rcases issued with (checking | ⟨refused, front, back, _, _, issued⟩) |
            ⟨⟨error, asked⟩, _, _, _, _, issued⟩
          · exact Or.inl (canAdopt_issues checking)
          · split at issued
            · exact absurd issued Program.issues_pure
            · simp only [Program.issues_bind, issues_sendPatch, Program.issues_pure, and_false,
                exists_false, or_false] at issued
              exact Or.inr (Or.inl ⟨⟨controller, by simpa using live⟩, matching, issued.2⟩)
          · split at issued <;> exact absurd issued Program.issues_pure

end Single

/-! ### What a claim loop can do -/

section Loop

variable {kind : ClaimKind} {mxjob : MXJob} {Obj : Type} {objectOf : Obj → ObjectMeta}
  {isMatch : Obj → Bool} {objects claimed : List Obj} {errors : List GoError}
  {once : AdoptOnce} {trace : List Call}

/-- Objects the job already controls and that match. -/
def ownedMatch (mxjob : MXJob) (objectOf : Obj → ObjectMeta) (isMatch : Obj → Bool)
    (object : Obj) : Bool :=
  (objectOf object).controlledBy mxjob.uid && isMatch object

theorem ClaimResult.ownedMatch_eq_false {object : Obj} {owned : Bool} {error : Option GoError}
    {asked : AdoptOnce}
    (result : ClaimResult kind mxjob (objectOf object) (isMatch object) once trace owned error asked)
    (passed : owned = false ∨ error ≠ none) :
    ownedMatch mxjob objectOf isMatch object = false := by
  by_contra claimable
  simp only [ownedMatch, Bool.not_eq_false, Bool.and_eq_true] at claimable
  have isOwned := result.must claimable.1 claimable.2
  rcases passed with unowned | failed
  · rw [isOwned] at unowned
    cases unowned
  · exact failed (result.may isOwned).2.1

/-- Specification of the claim loop.  The claimed objects lie between the owned
matching ones and the whole list, in list order. -/
theorem claimObjects_returns
    (returned : (claimObjects kind mxjob objectOf isMatch objects once).Returns trace
      (claimed, errors)) :
    (objects.filter (ownedMatch mxjob objectOf isMatch)).Sublist claimed ∧
      claimed.Sublist objects ∧
      (∀ object ∈ claimed, isMatch object = true ∧
        ((objectOf object).controlledBy mxjob.uid = true ∨
          Adopted kind mxjob (objectOf object) trace)) ∧
      (errors = [] ∨ Troubled mxjob once trace) := by
  induction objects generalizing once trace claimed errors with
  | nil =>
      obtain ⟨rfl, same⟩ := Program.returns_pure.mp returned
      cases same
      simp
  | cons head tail inductionHypothesis =>
      simp only [claimObjects, Program.returns_bind] at returned
      obtain ⟨⟨owned, error, asked⟩, front, rest, rfl, single, returned⟩ := returned
      obtain ⟨⟨tailClaimed, tailErrors⟩, middle, last, rfl, loop, returned⟩ := returned
      have result := claimObject_returns single
      obtain ⟨lower, upper, members, tailCause⟩ := inductionHypothesis loop
      have grown : ∀ object ∈ tailClaimed, isMatch object = true ∧
          ((objectOf object).controlledBy mxjob.uid = true ∨
            Adopted kind mxjob (objectOf object) (front ++ (middle ++ last))) := by
        intro object member
        obtain ⟨matching, origin⟩ := members object member
        refine ⟨matching, origin.imp_right fun adopted => adopted.mono ?_⟩
        exact List.subset_append_of_subset_right front (List.subset_append_left middle last)
      have headCause : error = none ∨ Troubled mxjob once (front ++ (middle ++ last)) :=
        result.failed.imp_right fun troubled => troubled.mono (List.subset_append_left front _)
      have tailTrouble : tailErrors = [] ∨ Troubled mxjob once (front ++ (middle ++ last)) := by
        rcases tailCause with none | ⟨call, member, failed⟩ | ⟨cause, refused⟩
        · exact Or.inl none
        · exact Or.inr (Or.inl ⟨call, by simp [member], failed⟩)
        · refine Or.inr ((result.refused.resolve_left ?_).mono (List.subset_append_left front _))
          exact fun unremembered => unremembered cause refused
      cases error with
      | some failure =>
          simp only [Program.returns_pure, Prod.mk.injEq] at returned
          obtain ⟨rfl, rfl, rfl⟩ := returned
          have notOwned := result.ownedMatch_eq_false (Or.inr (by simp))
          refine ⟨?_, upper.cons head, grown, Or.inr (headCause.resolve_left (by simp))⟩
          rw [List.filter_cons_of_neg (by simp [notOwned])]
          exact lower
      | none =>
          simp only [Program.returns_pure, Prod.mk.injEq] at returned
          obtain ⟨rfl, rfl, rfl⟩ := returned
          cases owned with
          | true =>
              obtain ⟨matching, _, origin⟩ := result.may rfl
              refine ⟨?_, upper.cons_cons head, ?_, tailTrouble⟩
              · by_cases mine : ownedMatch mxjob objectOf isMatch head = true
                · rw [List.filter_cons_of_pos mine]
                  exact lower.cons_cons head
                · rw [List.filter_cons_of_neg mine]
                  exact lower.cons head
              · intro object member
                rcases List.mem_cons.mp member with rfl | older
                · exact ⟨matching, origin.imp_right fun adopted =>
                    adopted.mono (List.subset_append_left front _)⟩
                · exact grown object older
          | false =>
              have notOwned := result.ownedMatch_eq_false (Or.inl rfl)
              refine ⟨?_, upper.cons head, grown, tailTrouble⟩
              rw [List.filter_cons_of_neg (by simp [notOwned])]
              exact lower

/-- A patch was answered NotFound. -/
def reportsMissing : Call → Bool
  | ⟨.patchPod _ _, some error⟩ => error.reason == .notFound
  | ⟨.patchService _ _, some error⟩ => error.reason == .notFound
  | _ => false

/-- An object the job may call its own: it controls it, or nobody does and it is
not being deleted. -/
def claimable (mxjob : MXJob) (object : ObjectMeta) : Bool :=
  object.controlledBy mxjob.uid ||
    ((getControllerOf object).isNone && object.deletionTimestamp.isNone)

/-- An adoption without reported error succeeded. -/
theorem adoptObject_found {object : ObjectMeta} {error : Option GoError} {asked : AdoptOnce}
    (returned : (adoptObject kind mxjob object once).Returns trace (error, asked))
    (found : ∀ call ∈ trace, reportsMissing call = false)
    (silent : reportUnlessNotFound error = none) : error = none := by
  simp only [adoptObject, Program.returns_bind] at returned
  obtain ⟨refused, front, back, rfl, _, returned⟩ := returned
  cases refused with
  | some refusal =>
      simp only [Program.returns_pure, Prod.mk.injEq] at returned
      obtain ⟨_, rfl, _⟩ := returned
      cases silent
  | none =>
      simp only [Program.returns_bind, returns_sendPatch, Program.returns_pure,
        Prod.mk.injEq] at returned
      obtain ⟨reply, patching, tail, rfl, rfl, rfl, rfl, rfl⟩ := returned
      cases reply with
      | none => rfl
      | some failure =>
          have present := found (kind.patchCall object.name
            (.adopt (newControllerRef mxjob) object.uid) (some failure)) (by simp)
          have other : isNotFound (.status failure) = false := by
            cases kind <;> exact present
          simp [reportUnlessNotFound, other] at silent

/-- Without an error exactly the claimable matching objects are owned. -/
theorem claimObject_exact {object : ObjectMeta} {isMatch owned : Bool} {asked : AdoptOnce}
    (returned : (claimObject kind mxjob object isMatch once).Returns trace (owned, none, asked))
    (persistent : mxjob.deletionTimestamp = none)
    (found : ∀ call ∈ trace, reportsMissing call = false) :
    owned = (claimable mxjob object && isMatch) := by
  obtain ⟨must, may, _, _⟩ := claimObject_returns returned
  cases owned with
  | true =>
      obtain ⟨matching, _, origin⟩ := may rfl
      rw [matching, Bool.and_true]
      rcases origin with controlled | ⟨orphan, live, _⟩
      · simp [claimable, controlled]
      · simp [claimable, orphan, live]
  | false =>
      symm
      by_contra both
      simp only [Bool.not_eq_false, Bool.and_eq_true, claimable, Bool.or_eq_true,
        Option.isNone_iff_eq_none] at both
      obtain ⟨controlled | ⟨orphan, live⟩, rfl⟩ := both
      · cases must controlled rfl
      · simp only [claimObject, orphan, persistent, live, Option.isSome_none, Bool.false_eq_true,
          Bool.true_eq_false, or_self, ↓reduceIte, Program.returns_bind] at returned
        obtain ⟨⟨error, checked⟩, front, back, rfl, adopting, returned⟩ := returned
        have silent : reportUnlessNotFound error = none := by
          cases error with
          | none => rfl
          | some cause =>
              simp only [Program.returns_pure, Prod.mk.injEq] at returned
              exact returned.2.2.1
        obtain rfl := adoptObject_found adopting
          (fun call member => found call (List.mem_append_left _ member)) silent
        simp [Program.returns_pure] at returned

theorem claimObjects_exact
    (returned : (claimObjects kind mxjob objectOf isMatch objects once).Returns trace
      (claimed, []))
    (persistent : mxjob.deletionTimestamp = none)
    (found : ∀ call ∈ trace, reportsMissing call = false) :
    claimed = objects.filter fun object => claimable mxjob (objectOf object) && isMatch object := by
  induction objects generalizing once trace claimed with
  | nil =>
      obtain ⟨_, same⟩ := Program.returns_pure.mp returned
      cases same
      rfl
  | cons head tail inductionHypothesis =>
      simp only [claimObjects, Program.returns_bind] at returned
      obtain ⟨⟨owned, error, asked⟩, front, rest, rfl, single, ⟨tailClaimed, tailErrors⟩, middle,
        last, rfl, loop, returned⟩ := returned
      cases error with
      | some failure => simp [Program.returns_pure] at returned
      | none =>
          simp only [Program.returns_pure, Prod.mk.injEq] at returned
          obtain ⟨rfl, rfl, rfl⟩ := returned
          rw [claimObject_exact single persistent fun call member =>
              found call (List.mem_append_left _ member),
            inductionHypothesis loop fun call member => found call (by simp [member]),
            List.filter_cons]

/-- An owned matching object is claimed without a call. -/
theorem claimObject_owned {object : ObjectMeta} (owned : object.controlledBy mxjob.uid = true) :
    claimObject kind mxjob object true once = pure (true, none, once) := by
  unfold ObjectMeta.controlledBy at owned
  unfold claimObject
  cases controller : getControllerOf object with
  | none => simp [controller] at owned
  | some reference =>
      have mine : reference.uid = mxjob.uid := by simpa [controller] using owned
      simp only [mine, ne_eq, not_true_eq_false, ↓reduceIte]

theorem claimObjects_owned
    (owned : ∀ object ∈ objects, ownedMatch mxjob objectOf isMatch object = true) :
    claimObjects kind mxjob objectOf isMatch objects once = pure (objects, []) := by
  induction objects with
  | nil => rfl
  | cons head tail inductionHypothesis =>
      have mine := owned head List.mem_cons_self
      simp only [ownedMatch, Bool.and_eq_true] at mine
      have rest := inductionHypothesis fun object member =>
        owned object (List.mem_cons_of_mem head member)
      simp only [claimObjects, mine.2, claimObject_owned mine.1, Program.done_bind, rest,
        ↓reduceIte]

@[simp] theorem aborts_claimObjects {reason : Abort} :
    ¬ (claimObjects kind mxjob objectOf isMatch objects once).Aborts trace reason := by
  induction objects generalizing once trace with
  | nil => exact Program.aborts_pure
  | cons head tail inductionHypothesis =>
      simp only [claimObjects, Program.aborts_bind, aborts_claimObject, inductionHypothesis,
        false_or, not_exists, not_and]
      intro _ _ _ _ _ _ _ _ _ _ aborted
      split at aborted <;> exact Program.aborts_pure aborted

theorem claimObjects_issues {request : Request}
    (issued : (claimObjects kind mxjob objectOf isMatch objects once).Issues trace request) :
    ∃ object ∈ objects, ClaimRequest kind mxjob (objectOf object) (isMatch object) request := by
  induction objects generalizing once trace with
  | nil => exact absurd issued Program.issues_pure
  | cons head tail inductionHypothesis =>
      simp only [claimObjects, Program.issues_bind] at issued
      rcases issued with single | ⟨_, front, back, _, _, loop | ⟨_, _, _, _, _, issued⟩⟩
      · exact ⟨head, List.mem_cons_self, claimObject_issues single⟩
      · obtain ⟨object, member, shape⟩ := inductionHypothesis loop
        exact ⟨object, List.mem_cons_of_mem head member, shape⟩
      · split at issued <;> exact absurd issued Program.issues_pure

end Loop

end MXNetOperator.Mx
