import MXNetOperator.Mx.Claim

/-!
Contract: claiming takes exactly what the job owns.

The fate of one object is a function of the job, the object, the one live read
of the job and the reply to the object's own patch: whether it is taken, which
patch is sent for it and whether it fails.  A claim loop is the list of these
fates.  The only thing its objects share is the live read, which is made for
the first object that asks for adoption and remembered for the others.
-/

namespace MXNetOperator.Property

open MXNetOperator.Kube MXNetOperator.Api MXNetOperator.Interaction MXNetOperator.Mx

/-! ### The fate of one object -/

section Fate

variable (kind : ClaimKind) (mxjob : MXJob) (recheck : Except ApiError MXJob)
  (reply : Option ApiError) (object : ObjectMeta) (isMatch : Bool)

/-- The live read shows the same job, and it is not being deleted. -/
def allowsAdoption : Bool :=
  match recheck with
  | .ok fresh => decide (fresh.uid = mxjob.uid) && fresh.deletionTimestamp.isNone
  | .error _ => false

/-- A live matching orphan, and the job is not being deleted. -/
def seeksAdoption : Bool :=
  (getControllerOf object).isNone && mxjob.deletionTimestamp.isNone && isMatch &&
    object.deletionTimestamp.isNone

/-- An owned object that no longer matches, and the job is not being deleted. -/
def seeksRelease : Bool :=
  object.controlledBy mxjob.uid && !isMatch && mxjob.deletionTimestamp.isNone

/-- Owned and matching already, or adopted now. -/
def isTaken : Bool :=
  (object.controlledBy mxjob.uid && isMatch) ||
    (seeksAdoption mxjob object isMatch && allowsAdoption mxjob recheck && reply.isNone)

/-- The patch sent for the object, with its reply. -/
def ownPatch : Option Call :=
  if seeksAdoption mxjob object isMatch && allowsAdoption mxjob recheck then
    some (kind.patchCall object.name (.adopt (newControllerRef mxjob) object.uid) reply)
  else if seeksRelease mxjob object isMatch then
    some (kind.patchCall object.name (.release mxjob.uid object.uid) reply)
  else
    none

/-- An attempted adoption failed, and not because the object is gone, or an
attempted release failed, and not because the object is gone or the patch no
longer applies. -/
def hasFailed : Bool :=
  (seeksAdoption mxjob object isMatch &&
      (!allowsAdoption mxjob recheck || reply.any fun error => decide (error.reason ≠ .notFound))) ||
    (seeksRelease mxjob object isMatch &&
      reply.any fun error => decide (error.reason ≠ .notFound ∧ error.reason ≠ .invalid))

end Fate

/-! ### One object, one claim -/

section Single

variable {kind : ClaimKind} {mxjob : MXJob} {recheck : Except ApiError MXJob}
  {reply : Option ApiError} {object : ObjectMeta} {isMatch : Bool} {trace : List Call}

theorem recheckDeletionTimestamp_isNone :
    (recheckDeletionTimestamp mxjob recheck).isNone = allowsAdoption mxjob recheck := by
  cases recheck with
  | error error => rfl
  | ok fresh =>
      by_cases same : fresh.uid = mxjob.uid
      · cases stamp : fresh.deletionTimestamp <;>
          simp [recheckDeletionTimestamp, allowsAdoption, same, stamp]
      · simp [recheckDeletionTimestamp, allowsAdoption, same]

/-- The exchange of the live read. -/
def reread (mxjob : MXJob) (recheck : Except ApiError MXJob) : Call :=
  ⟨.getMXJob mxjob.name, recheck⟩

/-- The live read is made unless it was made before. -/
def rereads (mxjob : MXJob) (seen : Option (Except ApiError MXJob))
    (recheck : Except ApiError MXJob) : List Call :=
  if seen.isNone then [reread mxjob recheck] else []

variable {seen : Option (Except ApiError MXJob)}

/-- Some live read agrees with the one made before. -/
theorem exists_recalled (mxjob : MXJob) (seen : Option (Except ApiError MXJob)) :
    ∃ recheck, ∀ known ∈ seen, known = recheck := by
  cases seen with
  | none => exact ⟨.ok mxjob, by simp⟩
  | some known => exact ⟨known, by simp⟩

theorem canAdopt_returns_iff {refused : Option GoError} :
    (canAdopt mxjob (seen.map (recheckDeletionTimestamp mxjob))).Returns trace refused ↔
      ∃ recheck, (∀ known ∈ seen, known = recheck) ∧ trace = rereads mxjob seen recheck ∧
        refused = recheckDeletionTimestamp mxjob recheck := by
  cases seen with
  | some known => simp [canAdopt, rereads, eq_comm]
  | none =>
      simp only [Option.map_none, canAdopt, canAdoptFunc]
      refine Program.returns_bind_pure.trans (exists_congr fun recheck => ?_)
      simp [rereads, reread]

/-- The calls made for one object. -/
def objectCalls (kind : ClaimKind) (mxjob : MXJob) (seen : Option (Except ApiError MXJob))
    (recheck : Except ApiError MXJob) (reply : Option ApiError) (object : ObjectMeta)
    (isMatch : Bool) : List Call :=
  (if seeksAdoption mxjob object isMatch then rereads mxjob seen recheck else []) ++
    (ownPatch kind mxjob recheck reply object isMatch).toList

theorem seeksRelease_of_seeksAdoption (seeks : seeksAdoption mxjob object isMatch = true) :
    seeksRelease mxjob object isMatch = false := by
  simp only [seeksAdoption, Bool.and_eq_true] at seeks
  simp [seeksRelease, seeks.1.2]

theorem controlledBy_of_seeksAdoption (seeks : seeksAdoption mxjob object isMatch = true) :
    object.controlledBy mxjob.uid = false := by
  simp only [seeksAdoption, Bool.and_eq_true, Option.isNone_iff_eq_none] at seeks
  simp [ObjectMeta.controlledBy, seeks.1.1.1]

theorem mismatch_of_seeksRelease (seeks : seeksRelease mxjob object isMatch = true) :
    isMatch = false := by
  simp only [seeksRelease, Bool.and_eq_true, Bool.not_eq_true'] at seeks
  exact seeks.1.2

theorem isTaken_of_not_seeks (idle : ¬ seeksAdoption mxjob object isMatch = true) :
    isTaken mxjob recheck reply object isMatch = (object.controlledBy mxjob.uid && isMatch) := by
  simp [isTaken, idle]

/-- The decision tree of `ClaimObject`, read by what it leads to. -/
theorem claimObject_eq {once : AdoptOnce} :
    claimObject kind mxjob object isMatch once =
      if seeksAdoption mxjob object isMatch then do
        let adoption ← adoptObject kind mxjob object once
        pure (adoption.1.isNone, reportUnlessNotFound adoption.1, adoption.2)
      else if seeksRelease mxjob object isMatch then do
        let error ← releaseObject kind mxjob object
        pure (false, reportUnlessNotFound error, once)
      else
        pure (object.controlledBy mxjob.uid && isMatch, none, once) := by
  unfold claimObject seeksAdoption seeksRelease ObjectMeta.controlledBy
  cases getControllerOf object with
  | some reference =>
      by_cases mine : reference.uid = mxjob.uid
      · cases isMatch with
        | true => simp [mine]
        | false => cases deleting : mxjob.deletionTimestamp <;> simp [mine]
      · simp [mine, beq_eq_decide]
  | none =>
      cases isMatch with
      | false => simp
      | true =>
          cases deleting : mxjob.deletionTimestamp with
          | some stamp => simp
          | none =>
              cases leaving : object.deletionTimestamp with
              | some stamp => simp
              | none =>
                  show (adoptObject kind mxjob object once >>= _) = _ >>= _
                  congr 1
                  funext ⟨error, asked⟩
                  cases error <;> rfl

/-- What `AdoptPod` and `AdoptService` report. -/
def adoptionError (kind : ClaimKind) (mxjob : MXJob) (recheck : Except ApiError MXJob)
    (reply : Option ApiError) (object : ObjectMeta) : Option GoError :=
  match recheckDeletionTimestamp mxjob recheck with
  | some error => some (adoptionRefused kind object error)
  | none => reply.map GoError.status

theorem adoptObject_returns_iff {error : Option GoError} {asked : AdoptOnce} :
    (adoptObject kind mxjob object (seen.map (recheckDeletionTimestamp mxjob))).Returns trace (error, asked) ↔
      ∃ recheck reply, (∀ known ∈ seen, known = recheck) ∧
        trace = rereads mxjob seen recheck ++
          (if allowsAdoption mxjob recheck then
            [kind.patchCall object.name (.adopt (newControllerRef mxjob) object.uid) reply]
          else []) ∧
        error = adoptionError kind mxjob recheck reply object ∧
        asked = some (recheckDeletionTimestamp mxjob recheck) := by
  simp only [adoptObject, Program.returns_bind, canAdopt_returns_iff]
  constructor
  · rintro ⟨refused, front, back, rfl, ⟨recheck, fits, rfl, rfl⟩, returned⟩
    have allowed := @recheckDeletionTimestamp_isNone mxjob recheck
    cases answer : recheckDeletionTimestamp mxjob recheck with
    | some cause =>
        simp only [answer, Program.returns_pure, Prod.mk.injEq] at returned
        obtain ⟨rfl, rfl, rfl⟩ := returned
        exact ⟨recheck, none, fits, by simp [← allowed, answer], by simp [adoptionError, answer],
          by rw [answer]⟩
    | none =>
        simp only [answer, Program.returns_bind, returns_sendPatch, Program.returns_pure,
          Prod.mk.injEq] at returned
        obtain ⟨reply, _, _, rfl, rfl, rfl, rfl, rfl⟩ := returned
        exact ⟨recheck, reply, fits, by simp [← allowed, answer], by simp [adoptionError, answer],
          by rw [answer]⟩
  · rintro ⟨recheck, reply, fits, rfl, rfl, rfl⟩
    refine ⟨_, _, _, rfl, ⟨recheck, fits, rfl, rfl⟩, ?_⟩
    have allowed := @recheckDeletionTimestamp_isNone mxjob recheck
    cases answer : recheckDeletionTimestamp mxjob recheck with
    | some cause => simp [← allowed, adoptionError, answer]
    | none =>
        simp only [Program.returns_bind, returns_sendPatch, Program.returns_pure]
        exact ⟨reply, _, [], by simp [← allowed, answer], rfl, rfl, by simp [adoptionError, answer]⟩

/-- The error the loop collects for the object. -/
def failureOf (kind : ClaimKind) (mxjob : MXJob) (recheck : Except ApiError MXJob)
    (reply : Option ApiError) (object : ObjectMeta) (isMatch : Bool) : Option GoError :=
  if seeksAdoption mxjob object isMatch then
    reportUnlessNotFound (adoptionError kind mxjob recheck reply object)
  else if seeksRelease mxjob object isMatch then
    reportUnlessNotFound (releaseError reply)
  else
    none

theorem adoptionError_isNone :
    (adoptionError kind mxjob recheck reply object).isNone =
      (allowsAdoption mxjob recheck && reply.isNone) := by
  have allowed := @recheckDeletionTimestamp_isNone mxjob recheck
  cases answer : recheckDeletionTimestamp mxjob recheck with
  | some cause => simp [adoptionError, answer, ← allowed]
  | none => simp [adoptionError, answer, ← allowed]

theorem failureOf_isSome :
    (failureOf kind mxjob recheck reply object isMatch).isSome =
      hasFailed mxjob recheck reply object isMatch := by
  have allowed := @recheckDeletionTimestamp_isNone mxjob recheck
  by_cases adopts : seeksAdoption mxjob object isMatch = true
  · simp only [failureOf, hasFailed, adopts, seeksRelease_of_seeksAdoption adopts, if_true,
      Bool.true_and, Bool.false_and, Bool.or_false]
    cases answer : recheckDeletionTimestamp mxjob recheck with
    | some cause =>
        simp [adoptionError, adoptionRefused, answer, ← allowed, reportUnlessNotFound, isNotFound,
          reasonForError]
    | none =>
        cases reply with
        | none => simp [adoptionError, answer, ← allowed, reportUnlessNotFound]
        | some error =>
            by_cases gone : error.reason = .notFound <;>
              simp [adoptionError, answer, ← allowed, reportUnlessNotFound, isNotFound, reasonForError,
                gone]
  · by_cases releases : seeksRelease mxjob object isMatch = true
    · cases reply with
      | none => simp [failureOf, hasFailed, adopts, releases, releaseError, reportUnlessNotFound]
      | some error =>
          by_cases gone : error.reason = .notFound <;> by_cases stale : error.reason = .invalid <;>
            simp [failureOf, hasFailed, adopts, releases, releaseError, reportUnlessNotFound,
              isNotFound, isInvalid, reasonForError, gone, stale]
    · simp [failureOf, hasFailed, adopts, releases]

/-- An object that was taken reports nothing. -/
theorem failureOf_of_isTaken (taken : isTaken mxjob recheck reply object isMatch = true) :
    failureOf kind mxjob recheck reply object isMatch = none := by
  by_cases adopts : seeksAdoption mxjob object isMatch = true
  · have adopted : (adoptionError kind mxjob recheck reply object).isNone = true := by
      simpa [isTaken, controlledBy_of_seeksAdoption adopts, adopts, adoptionError_isNone]
        using taken
    rw [failureOf, if_pos adopts]
    exact reportUnlessNotFound_eq_none (Option.isNone_iff_eq_none.mp adopted)
  · rw [isTaken_of_not_seeks adopts, Bool.and_eq_true] at taken
    rw [failureOf, if_neg adopts, if_neg]
    simp [seeksRelease, taken.2]

/-- Without an adoption the live read plays no part. -/
theorem fate_of_not_seeks (other : Except ApiError MXJob)
    (idle : ¬ seeksAdoption mxjob object isMatch = true) :
    objectCalls kind mxjob seen recheck reply object isMatch =
        objectCalls kind mxjob seen other reply object isMatch ∧
      isTaken mxjob recheck reply object isMatch = isTaken mxjob other reply object isMatch ∧
      failureOf kind mxjob recheck reply object isMatch =
        failureOf kind mxjob other reply object isMatch := by
  simp [objectCalls, ownPatch, isTaken, failureOf, idle]

/-- Everything `ClaimObject` can do. -/
theorem claimObject_returns_iff {owned : Bool} {error : Option GoError} {asked : AdoptOnce} :
    (claimObject kind mxjob object isMatch (seen.map (recheckDeletionTimestamp mxjob))).Returns trace
        (owned, error, asked) ↔
      ∃ recheck reply, (∀ known ∈ seen, known = recheck) ∧
        trace = objectCalls kind mxjob seen recheck reply object isMatch ∧
        owned = isTaken mxjob recheck reply object isMatch ∧
        error = failureOf kind mxjob recheck reply object isMatch ∧
        asked = (if seeksAdoption mxjob object isMatch then some recheck else seen).map
          (recheckDeletionTimestamp mxjob) := by
  rw [claimObject_eq]
  by_cases adopts : seeksAdoption mxjob object isMatch = true
  · have foreign := controlledBy_of_seeksAdoption adopts
    have patch (recheck : Except ApiError MXJob) (reply : Option ApiError) :
        objectCalls kind mxjob seen recheck reply object isMatch =
          rereads mxjob seen recheck ++ (if allowsAdoption mxjob recheck then
            [kind.patchCall object.name (.adopt (newControllerRef mxjob) object.uid) reply]
          else []) := by
      cases allowed : allowsAdoption mxjob recheck <;>
        simp [objectCalls, ownPatch, adopts, allowed, seeksRelease_of_seeksAdoption adopts]
    rw [if_pos adopts, Program.returns_bind_pure]
    simp only [Prod.exists, adoptObject_returns_iff, Prod.mk.injEq, patch, isTaken, failureOf,
      foreign, adopts, if_true, Bool.false_and, Bool.false_or, Bool.true_and, Option.map_some]
    constructor
    · rintro ⟨_, _, ⟨recheck, reply, fits, rfl, rfl, rfl⟩, rfl, rfl, rfl⟩
      exact ⟨recheck, reply, fits, rfl, adoptionError_isNone, rfl, rfl⟩
    · rintro ⟨recheck, reply, fits, rfl, rfl, rfl, rfl⟩
      exact ⟨_, _, ⟨recheck, reply, fits, rfl, rfl, rfl⟩, adoptionError_isNone.symm, rfl, rfl⟩
  · obtain ⟨recalled, fits⟩ := exists_recalled mxjob seen
    rw [if_neg adopts]
    simp only [adopts, Bool.false_eq_true, if_false]
    by_cases releases : seeksRelease mxjob object isMatch = true
    · have taken (recheck : Except ApiError MXJob) (reply : Option ApiError) :
          isTaken mxjob recheck reply object isMatch = false := by
        rw [isTaken_of_not_seeks adopts, mismatch_of_seeksRelease releases, Bool.and_false]
      have patch (recheck : Except ApiError MXJob) (reply : Option ApiError) :
          objectCalls kind mxjob seen recheck reply object isMatch =
            [kind.patchCall object.name (.release mxjob.uid object.uid) reply] := by
        simp [objectCalls, ownPatch, adopts, releases]
      have failure (recheck : Except ApiError MXJob) (reply : Option ApiError) :
          failureOf kind mxjob recheck reply object isMatch =
            reportUnlessNotFound (releaseError reply) := by
        simp [failureOf, adopts, releases]
      rw [if_pos releases, releaseObject, Program.returns_bind_pure]
      simp only [Program.returns_bind_pure, returns_sendPatch, Prod.mk.injEq, taken, patch, failure]
      constructor
      · rintro ⟨_, ⟨reply, rfl, rfl⟩, same⟩
        exact ⟨recalled, reply, fits, rfl, same⟩
      · rintro ⟨_, reply, _, rfl, same⟩
        exact ⟨_, ⟨reply, rfl, rfl⟩, same⟩
    · have patch (recheck : Except ApiError MXJob) (reply : Option ApiError) :
          objectCalls kind mxjob seen recheck reply object isMatch = [] := by
        simp [objectCalls, ownPatch, adopts, releases]
      have failure (recheck : Except ApiError MXJob) (reply : Option ApiError) :
          failureOf kind mxjob recheck reply object isMatch = none := by
        simp [failureOf, adopts, releases]
      rw [if_neg releases, Program.returns_pure]
      simp only [Prod.mk.injEq, isTaken_of_not_seeks adopts, patch, failure]
      constructor
      · rintro ⟨rfl, rfl, rfl, rfl⟩
        exact ⟨recalled, none, fits, rfl, rfl, rfl, rfl⟩
      · rintro ⟨_, _, _, rfl, rfl, rfl, rfl⟩
        exact ⟨rfl, rfl, rfl, rfl⟩

end Single

/-! ### A list of objects -/

section Loop

variable {kind : ClaimKind} {mxjob : MXJob} {Obj : Type} {objectOf : Obj → ObjectMeta}
  {isMatch : Obj → Bool} {objects claimed : List Obj} {errors : List GoError}
  {seen : Option (Except ApiError MXJob)} {recheck : Except ApiError MXJob} {trace : List Call}

/-- The calls of the claim loop over objects with the replies to their patches. -/
def loopCalls (kind : ClaimKind) (mxjob : MXJob) (objectOf : Obj → ObjectMeta)
    (isMatch : Obj → Bool) (recheck : Except ApiError MXJob) :
    Option (Except ApiError MXJob) → List (Obj × Option ApiError) → List Call
  | _, [] => []
  | seen, (object, reply) :: rest =>
      objectCalls kind mxjob seen recheck reply (objectOf object) (isMatch object) ++
        loopCalls kind mxjob objectOf isMatch recheck
          (if seeksAdoption mxjob (objectOf object) (isMatch object) then some recheck else seen)
          rest

/-- One round of the loop: an object that fails is not owned, so the round adds
the object and its error independently. -/
theorem claimObjects_cons {head : Obj} {tail : List Obj} {once : AdoptOnce} :
    claimObjects kind mxjob objectOf isMatch (head :: tail) once = (do
      let first ← claimObject kind mxjob (objectOf head) (isMatch head) once
      let rest ← claimObjects kind mxjob objectOf isMatch tail first.2.2
      pure (if first.2.1.isNone && first.1 then head :: rest.1 else rest.1,
        first.2.1.toList ++ rest.2)) := by
  show (claimObject kind mxjob (objectOf head) (isMatch head) once >>= _) = _ >>= _
  congr 1
  funext ⟨owned, error, asked⟩
  show (claimObjects kind mxjob objectOf isMatch tail asked >>= _) = _ >>= _
  congr 1
  funext ⟨claimed, errors⟩
  cases error <;> simp

section Answers

variable (kind : ClaimKind) (mxjob : MXJob) (objectOf : Obj → ObjectMeta) (isMatch : Obj → Bool)
  (recheck : Except ApiError MXJob)

/-- The objects taken, in list order. -/
def takenObjects (answers : List (Obj × Option ApiError)) : List Obj :=
  (answers.filter fun answer =>
    isTaken mxjob recheck answer.2 (objectOf answer.1) (isMatch answer.1)).map Prod.fst

/-- The errors collected, in list order. -/
def collectedErrors (answers : List (Obj × Option ApiError)) : List GoError :=
  answers.filterMap fun answer =>
    failureOf kind mxjob recheck answer.2 (objectOf answer.1) (isMatch answer.1)

variable {kind mxjob objectOf isMatch recheck} {object : Obj} {reply : Option ApiError}
  {rest : List (Obj × Option ApiError)}

theorem takenObjects_cons :
    takenObjects mxjob objectOf isMatch recheck ((object, reply) :: rest) =
      if (failureOf kind mxjob recheck reply (objectOf object) (isMatch object)).isNone &&
          isTaken mxjob recheck reply (objectOf object) (isMatch object) then
        object :: takenObjects mxjob objectOf isMatch recheck rest
      else
        takenObjects mxjob objectOf isMatch recheck rest := by
  by_cases taken : isTaken mxjob recheck reply (objectOf object) (isMatch object) = true
  · simp [takenObjects, taken, failureOf_of_isTaken taken]
  · simp [takenObjects, taken]

theorem collectedErrors_cons :
    collectedErrors kind mxjob objectOf isMatch recheck ((object, reply) :: rest) =
      (failureOf kind mxjob recheck reply (objectOf object) (isMatch object)).toList ++
        collectedErrors kind mxjob objectOf isMatch recheck rest := by
  cases failure : failureOf kind mxjob recheck reply (objectOf object) (isMatch object) <;>
    simp [collectedErrors, failure]

end Answers

/-- Everything a claim loop can do. -/
theorem claimObjects_returns_iff :
    (claimObjects kind mxjob objectOf isMatch objects (seen.map (recheckDeletionTimestamp mxjob))).Returns trace
        (claimed, errors) ↔
      ∃ recheck answers, (∀ known ∈ seen, known = recheck) ∧
        answers.map Prod.fst = objects ∧
        trace = loopCalls kind mxjob objectOf isMatch recheck seen answers ∧
        claimed = takenObjects mxjob objectOf isMatch recheck answers ∧
        errors = collectedErrors kind mxjob objectOf isMatch recheck answers := by
  induction objects generalizing seen trace claimed errors with
  | nil =>
      simp only [claimObjects, Program.returns_pure, Prod.mk.injEq, List.map_eq_nil_iff]
      constructor
      · rintro ⟨rfl, rfl, rfl⟩
        obtain ⟨recheck, fits⟩ := exists_recalled mxjob seen
        exact ⟨recheck, [], fits, rfl, rfl, rfl, rfl⟩
      · rintro ⟨_, _, _, rfl, rfl, rfl, rfl⟩
        exact ⟨rfl, rfl, rfl⟩
  | cons head tail inductionHypothesis =>
      rw [claimObjects_cons, Program.returns_bind]
      simp only [Program.returns_bind_pure, Prod.exists, claimObject_returns_iff,
        Prod.mk.injEq]
      constructor
      · rintro ⟨_, _, _, _, _, rfl, ⟨first, reply, fits, rfl, rfl, rfl, rfl⟩, _, _, loop, rfl, rfl⟩
        obtain ⟨recheck, answers, agrees, rfl, rfl, rfl, rfl⟩ := inductionHypothesis.mp loop
        refine ⟨recheck, (head, reply) :: answers, ?_⟩
        rw [takenObjects_cons, collectedErrors_cons, loopCalls]
        by_cases adopts : seeksAdoption mxjob (objectOf head) (isMatch head) = true
        · -- the read made here is the one the rest of the loop remembers
          have same : first = recheck := agrees first (by rw [if_pos adopts]; rfl)
          subst same
          exact ⟨fits, rfl, rfl, rfl, rfl⟩
        · obtain ⟨calls, taken, failure⟩ := fate_of_not_seeks recheck adopts
          rw [if_neg adopts] at agrees
          exact ⟨agrees, rfl, by rw [calls, if_neg adopts, if_neg adopts],
            by rw [taken, failure], by rw [failure]⟩
      · rintro ⟨recheck, answers, fits, named, rfl, rfl, rfl⟩
        cases answers with
        | nil => cases named
        | cons answer rest =>
            obtain ⟨rfl, rfl⟩ := List.cons.inj named
            refine ⟨_, _, _, _, _, rfl, ⟨recheck, answer.2, fits, rfl, rfl, rfl, rfl⟩, _, _,
              inductionHypothesis.mpr ⟨recheck, rest, ?_, rfl, rfl, rfl, rfl⟩,
              takenObjects_cons, collectedErrors_cons⟩
            intro known member
            split at member
            · exact (Option.some.inj member).symm
            · exact fits known member

/-! ### The calls of a loop -/

/-- The call is the live read of the job. -/
def isReread : Call → Bool
  | ⟨.getMXJob _, _⟩ => true
  | _ => false

@[simp] theorem isReread_patchCall {name : String} {patch : OwnerPatch}
    {reply : Option ApiError} : isReread (kind.patchCall name patch reply) = false := by
  cases kind <;> rfl

@[simp] theorem isReread_reread : isReread (reread mxjob recheck) = true := rfl

theorem isReread_ownPatch {reply : Option ApiError} {object : ObjectMeta} {accepted : Bool}
    {call : Call} (sent : call ∈ ownPatch kind mxjob recheck reply object accepted) :
    isReread call = false := by
  unfold ownPatch at sent
  split at sent
  · cases sent
    exact isReread_patchCall
  · split at sent
    · cases sent
      exact isReread_patchCall
    · cases sent

section Filter

variable {reply : Option ApiError} {object : ObjectMeta} {accepted : Bool}
  {answers : List (Obj × Option ApiError)}

theorem objectCalls_patches :
    (objectCalls kind mxjob seen recheck reply object accepted).filter
        (fun call => !isReread call) =
      (ownPatch kind mxjob recheck reply object accepted).toList := by
  have patches : (ownPatch kind mxjob recheck reply object accepted).toList.filter
      (fun call => !isReread call) = (ownPatch kind mxjob recheck reply object accepted).toList := by
    apply List.filter_eq_self.mpr
    intro call member
    rw [isReread_ownPatch (Option.mem_toList.mp member), Bool.not_false]
  rw [objectCalls, List.filter_append, patches]
  unfold rereads
  split
  · split <;> simp
  · rfl

theorem objectCalls_rereads :
    (objectCalls kind mxjob seen recheck reply object accepted).filter isReread =
      if seeksAdoption mxjob object accepted && seen.isNone then [reread mxjob recheck] else [] := by
  have patches : (ownPatch kind mxjob recheck reply object accepted).toList.filter isReread =
      [] := by
    apply List.filter_eq_nil_iff.mpr
    intro call member
    rw [isReread_ownPatch (Option.mem_toList.mp member)]
    exact Bool.false_ne_true
  rw [objectCalls, List.filter_append, patches, List.append_nil]
  unfold rereads
  cases seeksAdoption mxjob object accepted <;> cases seen <;> simp

/-- Every object sends its own patch. -/
theorem loopCalls_patches :
    (loopCalls kind mxjob objectOf isMatch recheck seen answers).filter
        (fun call => !isReread call) =
      answers.filterMap fun answer =>
        ownPatch kind mxjob recheck answer.2 (objectOf answer.1) (isMatch answer.1) := by
  induction answers generalizing seen with
  | nil => rfl
  | cons answer rest inductionHypothesis =>
      rw [loopCalls, List.filter_append, objectCalls_patches, inductionHypothesis,
        List.filterMap_cons]
      cases ownPatch kind mxjob recheck answer.2 (objectOf answer.1) (isMatch answer.1) <;> rfl

/-- The live read is made once, for the first object that asks for it. -/
theorem loopCalls_rereads :
    (loopCalls kind mxjob objectOf isMatch recheck seen answers).filter isReread =
      if seen.isNone && (answers.any fun answer =>
          seeksAdoption mxjob (objectOf answer.1) (isMatch answer.1)) then
        [reread mxjob recheck]
      else [] := by
  induction answers generalizing seen with
  | nil => simp [loopCalls]
  | cons answer rest inductionHypothesis =>
      rw [loopCalls, List.filter_append, objectCalls_rereads, inductionHypothesis, List.any_cons]
      cases adopts : seeksAdoption mxjob (objectOf answer.1) (isMatch answer.1) with
      | true => cases seen <;> simp
      | false => simp only [Bool.false_and, Bool.false_or, Bool.false_eq_true, if_false,
          List.nil_append]

end Filter

end Loop

/-! ### Services -/

section Services

variable (mxjob : MXJob) (selector : Selector) (filters : List (Service → Bool))

/-- What `ClaimServices` counts as a match: the selector and every filter. -/
def acceptsService (service : Service) : Bool :=
  selector.isMatch service.labels && filters.all fun keep => keep service

/-- The outcome of claiming services whose patches are answered as listed, once
the live read of the job is fixed. -/
structure ClaimOutcome (recheck : Except ApiError MXJob)
    (answers : List (Service × Option ApiError)) (trace : List Call) (claimed : List Service)
    (error : Option GoError) : Prop where
  /-- the services owned and matching, or adopted now, in list order -/
  taken : claimed = (answers.filter fun answer => isTaken mxjob recheck answer.2
    answer.1.toObjectMeta (acceptsService selector filters answer.1)).map Prod.fst
  /-- an error exactly if one of the attempts failed -/
  failed : error.isSome = answers.any fun answer => hasFailed mxjob recheck answer.2
    answer.1.toObjectMeta (acceptsService selector filters answer.1)
  /-- besides the live read only the patches of the services themselves -/
  patches : trace.filter (fun call => !isReread call) = answers.filterMap fun answer =>
    ownPatch .service mxjob recheck answer.2 answer.1.toObjectMeta
      (acceptsService selector filters answer.1)
  /-- one live read, and only if some service is to be adopted -/
  rereads : trace.filter isReread =
    if answers.any fun answer => seeksAdoption mxjob answer.1.toObjectMeta
        (acceptsService selector filters answer.1) then
      [reread mxjob recheck]
    else []

/-- A service of another controller, and an orphan that does not match, is
neither patched nor taken. -/
theorem foreign_untouched {kind : ClaimKind} {recheck : Except ApiError MXJob}
    {reply : Option ApiError} {object : ObjectMeta} {isMatch : Bool}
    (foreign : (∃ reference, getControllerOf object = some reference ∧
        reference.uid ≠ mxjob.uid) ∨ getControllerOf object = none ∧ isMatch = false) :
    ownPatch kind mxjob recheck reply object isMatch = none ∧
      isTaken mxjob recheck reply object isMatch = false := by
  rcases foreign with ⟨reference, controller, other⟩ | ⟨orphan, mismatch⟩
  · have unowned : object.controlledBy mxjob.uid = false := by
      simp [ObjectMeta.controlledBy, controller, other]
    simp [ownPatch, isTaken, seeksAdoption, seeksRelease, controller, unowned]
  · have unowned : object.controlledBy mxjob.uid = false := by
      simp [ObjectMeta.controlledBy, orphan]
    simp [ownPatch, isTaken, seeksAdoption, seeksRelease, mismatch, unowned]

theorem newAggregate_isSome {errors : List GoError} :
    (newAggregate errors).isSome = !errors.isEmpty := by
  cases errors <;> rfl

theorem collectedErrors_isEmpty {kind : ClaimKind} {recheck : Except ApiError MXJob}
    {Obj : Type} {objectOf : Obj → ObjectMeta} {isMatch : Obj → Bool}
    {answers : List (Obj × Option ApiError)} :
    (!(collectedErrors kind mxjob objectOf isMatch recheck answers).isEmpty) =
      answers.any fun answer =>
        hasFailed mxjob recheck answer.2 (objectOf answer.1) (isMatch answer.1) := by
  induction answers with
  | nil => rfl
  | cons answer rest inductionHypothesis =>
      rw [collectedErrors_cons, List.any_cons, ← @failureOf_isSome kind, ← inductionHypothesis]
      cases failureOf kind mxjob recheck answer.2 (objectOf answer.1) (isMatch answer.1) <;> simp

/-- The outcome of a list with its answers, as the loop computes it. -/
theorem claimOutcome_loop (recheck : Except ApiError MXJob)
    (answers : List (Service × Option ApiError)) :
    ClaimOutcome mxjob selector filters recheck answers
      (loopCalls .service mxjob Service.toObjectMeta (acceptsService selector filters) recheck
        none answers)
      (takenObjects mxjob Service.toObjectMeta (acceptsService selector filters) recheck answers)
      (newAggregate (collectedErrors .service mxjob Service.toObjectMeta
        (acceptsService selector filters) recheck answers)) where
  taken := rfl
  failed := by rw [newAggregate_isSome, collectedErrors_isEmpty]
  patches := loopCalls_patches
  rereads := by rw [loopCalls_rereads, Option.isNone_none, Bool.true_and]

theorem claimServices_returns_iff {services claimed : List Service} {error : Option GoError}
    {trace : List Call} :
    (claimServices mxjob selector services filters).Returns trace (claimed, error) ↔
      ∃ recheck answers, answers.map Prod.fst = services ∧
        trace = loopCalls .service mxjob Service.toObjectMeta (acceptsService selector filters)
          recheck none answers ∧
        claimed = takenObjects mxjob Service.toObjectMeta (acceptsService selector filters)
          recheck answers ∧
        error = newAggregate (collectedErrors .service mxjob Service.toObjectMeta
          (acceptsService selector filters) recheck answers) := by
  have loop {trace : List Call} {claimed : List Service} {errors : List GoError} :=
    @claimObjects_returns_iff .service mxjob Service Service.toObjectMeta
      (acceptsService selector filters) services claimed errors none trace
  refine Program.returns_bind_pure.trans ?_
  constructor
  · rintro ⟨⟨claimed, errors⟩, returned, same⟩
    cases same
    obtain ⟨recheck, answers, _, named, rfl, rfl, rfl⟩ := loop.mp returned
    exact ⟨recheck, answers, named, rfl, rfl, rfl⟩
  · rintro ⟨recheck, answers, named, rfl, rfl, rfl⟩
    exact ⟨(_, _), loop.mpr ⟨recheck, answers, by simp, named, rfl, rfl, rfl⟩, rfl⟩

variable {mxjob selector filters}

/-- What one service contributes to the claimed list. -/
def ownShare (mxjob : MXJob) (selector : Selector) (filters : List (Service → Bool))
    (recheck : Except ApiError MXJob) (service : Service) (reply : Option ApiError) :
    List Service :=
  if isTaken mxjob recheck reply service.toObjectMeta (acceptsService selector filters service) then
    [service]
  else []

/-- What one service contributes to the patches. -/
def ownPatches (mxjob : MXJob) (selector : Selector) (filters : List (Service → Bool))
    (recheck : Except ApiError MXJob) (service : Service) (reply : Option ApiError) : List Call :=
  (ownPatch .service mxjob recheck reply service.toObjectMeta
    (acceptsService selector filters service)).toList

/-- Another reply for one service changes nothing for the others. -/
theorem ClaimOutcome.independent {recheck : Except ApiError MXJob}
    {front back : List (Service × Option ApiError)} {service : Service}
    {reply other : Option ApiError} {trace changedTrace : List Call}
    {claimed changedClaimed : List Service} {error changedError : Option GoError}
    (outcome : ClaimOutcome mxjob selector filters recheck (front ++ (service, reply) :: back)
      trace claimed error)
    (changed : ClaimOutcome mxjob selector filters recheck (front ++ (service, other) :: back)
      changedTrace changedClaimed changedError) :
    (∃ before after,
        claimed = before ++ ownShare mxjob selector filters recheck service reply ++ after ∧
        changedClaimed =
          before ++ ownShare mxjob selector filters recheck service other ++ after) ∧
      (∃ before after,
        trace.filter (fun call => !isReread call) =
          before ++ ownPatches mxjob selector filters recheck service reply ++ after ∧
        changedTrace.filter (fun call => !isReread call) =
          before ++ ownPatches mxjob selector filters recheck service other ++ after) ∧
      trace.filter isReread = changedTrace.filter isReread := by
  have kept (accepts : Service × Option ApiError → Bool) (reply : Option ApiError) :
      ((front ++ (service, reply) :: back).filter accepts).map Prod.fst =
        (front.filter accepts).map Prod.fst ++
          (if accepts (service, reply) then [service] else []) ++
          (back.filter accepts).map Prod.fst := by
    cases accepted : accepts (service, reply) <;> simp [accepted]
  have sent (patchOf : Service × Option ApiError → Option Call) (reply : Option ApiError) :
      (front ++ (service, reply) :: back).filterMap patchOf =
        front.filterMap patchOf ++ (patchOf (service, reply)).toList ++ back.filterMap patchOf := by
    cases patched : patchOf (service, reply) <;> simp [patched]
  refine ⟨⟨_, _, outcome.taken.trans (kept _ _), changed.taken.trans (kept _ _)⟩,
    ⟨_, _, outcome.patches.trans (sent _ _), changed.patches.trans (sent _ _)⟩, ?_⟩
  rw [outcome.rereads, changed.rereads]
  simp only [List.any_append, List.any_cons]

/-- `ClaimServices` takes exactly what the job owns.  Every run is the outcome
of some live read and some replies to the patches, every live read and all
replies have a run with their outcome, and no run aborts.  Services of other
controllers and orphans that do not match are left alone, and another reply for
one service changes nothing for those before and after it. -/
theorem claims_owned_services (mxjob : MXJob) (selector : Selector)
    (filters : List (Service → Bool)) (services : List Service) :
    (∀ trace claimed error,
        (claimServices mxjob selector services filters).Returns trace (claimed, error) →
          ∃ recheck answers, answers.map Prod.fst = services ∧
            ClaimOutcome mxjob selector filters recheck answers trace claimed error) ∧
      (∀ recheck answers, answers.map Prod.fst = services →
        ∃ trace claimed error,
          (claimServices mxjob selector services filters).Returns trace (claimed, error) ∧
            ClaimOutcome mxjob selector filters recheck answers trace claimed error) ∧
      (∀ trace reason, ¬ (claimServices mxjob selector services filters).Aborts trace reason) ∧
      (∀ recheck reply (service : Service),
        ((∃ reference, getControllerOf service.toObjectMeta = some reference ∧
            reference.uid ≠ mxjob.uid) ∨
          getControllerOf service.toObjectMeta = none ∧
            acceptsService selector filters service = false) →
        ownShare mxjob selector filters recheck service reply = [] ∧
          ownPatches mxjob selector filters recheck service reply = []) ∧
      (∀ recheck front service reply other back trace claimed error changedTrace changedClaimed
          changedError,
        ClaimOutcome mxjob selector filters recheck (front ++ (service, reply) :: back) trace
          claimed error →
        ClaimOutcome mxjob selector filters recheck (front ++ (service, other) :: back)
          changedTrace changedClaimed changedError →
        (∃ before after,
            claimed = before ++ ownShare mxjob selector filters recheck service reply ++ after ∧
            changedClaimed =
              before ++ ownShare mxjob selector filters recheck service other ++ after) ∧
          (∃ before after,
            trace.filter (fun call => !isReread call) =
              before ++ ownPatches mxjob selector filters recheck service reply ++ after ∧
            changedTrace.filter (fun call => !isReread call) =
              before ++ ownPatches mxjob selector filters recheck service other ++ after) ∧
          trace.filter isReread = changedTrace.filter isReread) := by
  refine ⟨?_, ?_, ?_, ?_, ?_⟩
  · intro trace claimed error returned
    obtain ⟨recheck, answers, named, rfl, rfl, rfl⟩ :=
      (claimServices_returns_iff mxjob selector filters).mp returned
    exact ⟨recheck, answers, named, claimOutcome_loop mxjob selector filters recheck answers⟩
  · intro recheck answers named
    exact ⟨_, _, _, (claimServices_returns_iff mxjob selector filters).mpr
      ⟨recheck, answers, named, rfl, rfl, rfl⟩,
      claimOutcome_loop mxjob selector filters recheck answers⟩
  · intro trace reason aborted
    simp [claimServices, claimMatching] at aborted
  · intro recheck reply service foreign
    obtain ⟨unpatched, untaken⟩ := foreign_untouched mxjob foreign
    exact ⟨by rw [ownShare, untaken]; rfl, by rw [ownPatches, unpatched]; rfl⟩
  · intro recheck front service reply other back trace claimed error changedTrace changedClaimed
      changedError outcome changed
    exact outcome.independent changed

end Services

end MXNetOperator.Property
