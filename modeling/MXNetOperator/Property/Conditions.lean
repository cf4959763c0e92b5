import MXNetOperator.Mx.Condition

/-!
Contract: the condition list of a status is a map from types to conditions.

A status changes its conditions through three functions only.  What one call
does to the list is said once, in `Rewrites`; that the list stays a map along
every sequence of calls, and what a call does to the times of a condition,
follows from it.
-/

namespace MXNetOperator.Property

open MXNetOperator.Kube MXNetOperator.Api MXNetOperator.Mx

/-- A call of one of the functions that change conditions, with the clock
readings it takes. -/
inductive ConditionCall where
  | update (updated transitioned : Time) (conditionType : MXJobConditionType)
      (reason : MXJobReason) (message : String)
  | updateFalse (transitioned : Time) (conditionType : MXJobConditionType)
      (reason : MXJobReason) (message : String)
  | remove (condType : MXJobConditionType)
deriving DecidableEq

namespace ConditionCall

/-- The condition type the call is about. -/
def target : ConditionCall → MXJobConditionType
  | .update _ _ conditionType _ _ => conditionType
  | .updateFalse _ conditionType _ _ => conditionType
  | .remove condType => condType

/-- The clock readings of the call, in the order in which it takes them. -/
def readings : ConditionCall → List Time
  | .update updated transitioned _ _ _ => [updated, transitioned]
  | .updateFalse transitioned _ _ _ => [transitioned]
  | .remove _ => []

def apply (status : MXJobStatus) : ConditionCall → MXJobStatus
  | .update updated transitioned conditionType reason message =>
      updateMXJobConditions updated transitioned status conditionType reason message
  | .updateFalse transitioned conditionType reason message =>
      updateMXJobFalseConditions transitioned status conditionType reason message
  | .remove condType => removeCondition status condType

/-! ### One call -/

/-- The call replaces the entries of its type by `added`, at most one entry of
that type, whose transition time moves with its status only. -/
structure Rewrites (status : MXJobStatus) (call : ConditionCall)
    (added : List MXJobCondition) : Prop where
  result : apply status call = { status with
    conditions := filterOutCondition status.conditions call.target ++ added }
  typed : ∀ entry ∈ added, entry.type = call.target
  single : added.length ≤ 1
  transition : ∀ entry ∈ added, ∀ current, getCondition status call.target = some current →
    entry.status = current.status → entry.lastTransitionTime = current.lastTransitionTime

section OneCall

variable {status : MXJobStatus} {call : ConditionCall} {condition : MXJobCondition}
  {condType other : MXJobConditionType}

theorem rewrites_of_set (isSet : apply status call = setCondition status condition)
    (typed : condition.type = call.target) :
    apply status call = status ∨ ∃ added, Rewrites status call added := by
  rw [isSet]
  cases setCondition_written status condition with
  | kept same => exact Or.inl same
  | replaced moved written transition =>
      refine Or.inr ⟨[{ condition with lastTransitionTime := moved }], ?_, ?_, by simp, ?_⟩
      · rw [isSet, ← typed]
        exact written
      · intro entry member
        rw [List.mem_singleton.mp member]
        exact typed
      · intro entry member current found agrees
        rw [List.mem_singleton.mp member] at agrees ⊢
        rw [← typed] at found
        exact transition current found agrees.symm

/-- The step lemma: a call changes nothing or rewrites the entry of its type. -/
theorem apply_rewrites (status : MXJobStatus) (call : ConditionCall) :
    apply status call = status ∨ ∃ added, Rewrites status call added := by
  cases call with
  | update updated transitioned conditionType reason message => exact rewrites_of_set rfl rfl
  | updateFalse transitioned conditionType reason message =>
      cases found : getCondition status conditionType with
      | none =>
          refine Or.inl ?_
          simp only [apply, updateMXJobFalseConditions, found]
      | some condition =>
          by_cases already : condition.status = .isFalse
          · refine Or.inl ?_
            simp only [apply, updateMXJobFalseConditions, found, if_pos already]
          · have isSet : apply status (.updateFalse transitioned conditionType reason message) =
                setCondition status { condition with
                  status := .isFalse
                  lastTransitionTime := transitioned
                  reason := reason
                  message := message } := by
              simp only [apply, updateMXJobFalseConditions, found, if_neg already]
            have typed : condition.type = conditionType := getCondition_type found
            exact rewrites_of_set isSet typed
  | remove condType =>
      refine Or.inr ⟨[], ?_, by simp, by simp, by simp⟩
      rw [List.append_nil]
      rfl

theorem apply_unique (unique : UniqueConditions status) :
    UniqueConditions (apply status call) := by
  rcases apply_rewrites status call with same | ⟨added, rewrites⟩
  · rw [same]
    exact unique
  · rw [rewrites.result]
    exact nodup_rewritten unique rewrites.typed rewrites.single

theorem getCondition_apply_other (different : other ≠ call.target) :
    getCondition (apply status call) other = getCondition status other := by
  rcases apply_rewrites status call with same | ⟨added, rewrites⟩
  · rw [same]
  · rw [rewrites.result]
    exact find_rewritten_other _ rewrites.typed different

/-- The entries of the other types stay, in their order. -/
theorem filterOut_apply :
    filterOutCondition (apply status call).conditions call.target =
      filterOutCondition status.conditions call.target := by
  rcases apply_rewrites status call with same | ⟨added, rewrites⟩
  · rw [same]
  · have dropped : filterOutCondition added call.target = [] := by
      refine List.filter_eq_nil_iff.mpr fun entry member => ?_
      simp [rewrites.typed entry member]
    have kept : filterOutCondition (filterOutCondition status.conditions call.target)
        call.target = filterOutCondition status.conditions call.target := by
      simp [filterOutCondition]
    rw [rewrites.result]
    unfold filterOutCondition at dropped kept ⊢
    rw [List.filter_append, dropped, kept, List.append_nil]

/-- A transition time moves with the status only. -/
theorem apply_transition {before after : MXJobCondition}
    (old : getCondition status condType = some before)
    (new : getCondition (apply status call) condType = some after)
    (agrees : after.status = before.status) :
    after.lastTransitionTime = before.lastTransitionTime := by
  have unchanged (same : getCondition (apply status call) condType =
      getCondition status condType) :
      after.lastTransitionTime = before.lastTransitionTime := by
    rw [same, old] at new
    cases new
    rfl
  by_cases own : condType = call.target
  · subst own
    rcases apply_rewrites status call with same | ⟨added, rewrites⟩
    · exact unchanged (by rw [same])
    · refine rewrites.transition after ?_ before old agrees
      have listed : after ∈ (apply status call).conditions := List.mem_of_find?_eq_some new
      rw [rewrites.result] at listed
      rcases List.mem_append.mp listed with kept | added
      · have removed : after.type ≠ call.target := by
          simpa using (List.mem_filter.mp kept).2
        exact absurd (getCondition_type new) removed
      · exact added
  · exact unchanged (getCondition_apply_other own)

end OneCall

end ConditionCall

/-! ### Sequences of calls -/

/-- The run lemma: uniqueness is kept along every sequence of calls. -/
theorem foldl_unique (calls : List ConditionCall) {status : MXJobStatus}
    (unique : UniqueConditions status) :
    UniqueConditions (calls.foldl ConditionCall.apply status) := by
  induction calls generalizing status with
  | nil => exact unique
  | cons call rest inductionHypothesis =>
      exact inductionHypothesis (ConditionCall.apply_unique unique)

/-- The condition list behaves as a map.  In every status reached from an empty
list by any calls there is one entry per type and the first-match test agrees
with the any-match tests; and the next call leaves the other types and their
order alone, makes its own type true if it is an update, and moves a transition
time only with the status. -/
theorem conditions_map {start : MXJobStatus} (empty : start.conditions = [])
    (calls : List ConditionCall) (call : ConditionCall) :
    let before := calls.foldl ConditionCall.apply start
    let after := ConditionCall.apply before call
    UniqueConditions before ∧
    (∀ other, other ≠ call.target → getCondition after other = getCondition before other) ∧
    filterOutCondition after.conditions call.target =
      filterOutCondition before.conditions call.target ∧
    (∀ updated transitioned conditionType reason message,
      call = .update updated transitioned conditionType reason message →
        checkCondition after conditionType = true) ∧
    (∀ condType old new, getCondition before condType = some old →
      getCondition after condType = some new →
        new.lastTransitionTime ≠ old.lastTransitionTime → new.status ≠ old.status) ∧
    isJobFinished before = (checkCondition before .succeeded || checkCondition before .failed) ∧
    isJobSucceed before = checkCondition before .succeeded ∧
    isJobFailed before = checkCondition before .failed := by
  intro before after
  have unique : UniqueConditions before := by
    refine foldl_unique calls ?_
    rw [UniqueConditions, empty]
    exact List.nodup_nil
  refine ⟨unique, fun other different => ConditionCall.getCondition_apply_other different,
    ConditionCall.filterOut_apply, ?_, ?_, isJobFinished_eq unique, isJobSucceed_eq unique,
    isJobFailed_eq unique⟩
  · rintro updated transitioned conditionType reason message rfl
    exact checkCondition_update_same
  · intro condType old new wasOld isNew moved agrees
    exact moved (ConditionCall.apply_transition wasOld isNew agrees)

/-- A failure that is reported and reset. -/
def failedAgain : List ConditionCall :=
  [.update 1 1 .created reasonCreated "", .update 2 2 .failed reasonFailed "",
    .updateFalse 3 .failed reasonFailed "", .remove .created]

theorem conditions_map_failedAgain :
    checkCondition (failedAgain.foldl ConditionCall.apply .empty) .failed = false ∧
      checkCondition (ConditionCall.apply (failedAgain.foldl ConditionCall.apply .empty)
        (.update 4 4 .failed reasonFailed "")) .failed = true :=
  ⟨by decide, (conditions_map rfl failedAgain (.update 4 4 .failed reasonFailed "")).2.2.2.1
    4 4 .failed reasonFailed "" rfl⟩

/-! ### Update times -/

section UpdateTime

variable {before : MXJobStatus} {condType : MXJobConditionType}

/-- What `updateMXJobConditions` changes carries its first reading. -/
theorem updateTime_update {updated transitioned : Time} {reason : MXJobReason} {message : String}
    (changed : getCondition (updateMXJobConditions updated transitioned before condType reason
      message) condType ≠ getCondition before condType) :
    ∃ entry, getCondition (updateMXJobConditions updated transitioned before condType reason
      message) condType = some entry ∧ entry.lastUpdateTime = updated := by
  cases setCondition_written before
      (newCondition updated transitioned condType reason message) with
  | kept same =>
      refine absurd ?_ changed
      rw [updateMXJobConditions, same]
  | replaced moved written _ =>
      refine ⟨{ newCondition updated transitioned condType reason message with
        lastTransitionTime := moved }, ?_, rfl⟩
      rw [updateMXJobConditions, written]
      exact getCondition_rewritten_same before
        { newCondition updated transitioned condType reason message with
          lastTransitionTime := moved }

/-- What `updateMXJobFalseConditions` changes keeps its old update time. -/
theorem updateTime_updateFalse {transitioned : Time} {reason : MXJobReason} {message : String}
    (changed : getCondition (updateMXJobFalseConditions transitioned before condType reason
      message) condType ≠ getCondition before condType) :
    ∃ old entry, getCondition before condType = some old ∧
      getCondition (updateMXJobFalseConditions transitioned before condType reason message)
        condType = some entry ∧ entry.lastUpdateTime = old.lastUpdateTime := by
  unfold updateMXJobFalseConditions at changed ⊢
  split at changed
  · exact absurd rfl changed
  · rename_i old isOld
    obtain rfl := getCondition_type isOld
    split_ifs at changed with already
    · exact absurd rfl changed
    · simp only [if_neg already]
      let reset : MXJobCondition := { old with
        status := .isFalse, lastTransitionTime := transitioned, reason := reason,
        message := message }
      cases setCondition_written before reset with
      | kept same =>
          refine absurd ?_ changed
          exact congrArg (getCondition · old.type) same
      | replaced moved written _ =>
          refine ⟨old, { reset with lastTransitionTime := moved }, isOld, ?_, rfl⟩
          rw [written]
          exact getCondition_rewritten_same before { reset with lastTransitionTime := moved }

end UpdateTime

/-- LastUpdateTime tracks exactly the changes made by `updateMXJobConditions`.
Take any calls under a non-decreasing clock, and one of them that changes a
condition.  If it is such a call, the new condition carries a reading of this
call, no older than any reading before.  If it is a call of
`updateMXJobFalseConditions`, the update time stays what it was. -/
theorem update_time_tracks {calls front back : List ConditionCall} {call : ConditionCall}
    (split : calls = front ++ call :: back)
    (clock : (calls.flatMap ConditionCall.readings).Pairwise (· ≤ ·)) (start : MXJobStatus)
    {condType : MXJobConditionType}
    (changed : getCondition (ConditionCall.apply (front.foldl ConditionCall.apply start) call)
      condType ≠ getCondition (front.foldl ConditionCall.apply start) condType) :
    (∀ updated transitioned conditionType reason message,
      call = .update updated transitioned conditionType reason message →
        ∃ entry, getCondition (ConditionCall.apply (front.foldl ConditionCall.apply start) call)
            condType = some entry ∧ entry.lastUpdateTime ∈ call.readings ∧
          ∀ earlier ∈ front.flatMap ConditionCall.readings, earlier ≤ entry.lastUpdateTime) ∧
    ∀ transitioned conditionType reason message,
      call = .updateFalse transitioned conditionType reason message →
        ∃ old entry, getCondition (front.foldl ConditionCall.apply start) condType = some old ∧
          getCondition (ConditionCall.apply (front.foldl ConditionCall.apply start) call)
            condType = some entry ∧ entry.lastUpdateTime = old.lastUpdateTime := by
  have own : condType = call.target := by
    by_contra different
    exact changed (ConditionCall.getCondition_apply_other different)
  subst own
  refine ⟨?_, ?_⟩
  · rintro updated transitioned conditionType reason message rfl
    obtain ⟨entry, found, isReading⟩ := updateTime_update changed
    refine ⟨entry, found, isReading ▸ List.mem_cons_self, fun earlier member => ?_⟩
    rw [split, List.flatMap_append, List.pairwise_append] at clock
    rw [isReading]
    exact clock.2.2 earlier member updated (by simp [ConditionCall.readings])
  · rintro transitioned conditionType reason message rfl
    exact updateTime_updateFalse changed

/-- A failure is reported, and reset a second later. -/
def resetFailure : List ConditionCall :=
  [.update 1 1 .failed reasonFailed "", .updateFalse 2 .failed reasonFailed ""]

theorem update_time_tracks_resetFailure :
    ∃ entry, getCondition (ConditionCall.apply (resetFailure.foldl ConditionCall.apply .empty)
        (.update 3 3 .failed reasonFailed "")) .failed = some entry ∧
      entry.lastUpdateTime ∈ [3, 3] ∧
      ∀ earlier ∈ resetFailure.flatMap ConditionCall.readings, earlier ≤ entry.lastUpdateTime :=
  (@update_time_tracks _ resetFailure [] _ rfl (by decide) .empty .failed (by decide)).1
    3 3 .failed reasonFailed "" rfl

/-- The reset changes status and transition time and leaves the update time
behind: it is no reading of the call, and older than the transition. -/
theorem reset_keeps_update_time :
    ∃ before after : MXJobCondition,
      (resetFailure.flatMap ConditionCall.readings).Pairwise (· ≤ ·) ∧
      getCondition ((resetFailure.take 1).foldl ConditionCall.apply .empty) .failed =
        some before ∧
      getCondition (resetFailure.foldl ConditionCall.apply .empty) .failed = some after ∧
      after.status ≠ before.status ∧
      after.lastUpdateTime ∉
        (ConditionCall.updateFalse 2 .failed reasonFailed "").readings ∧
      after.lastUpdateTime < after.lastTransitionTime :=
  ⟨_, _, by decide, rfl, rfl, by decide, by decide, by decide⟩

end MXNetOperator.Property
