import MXNetOperator.Api.MXJob

/-!
Contract: the condition list of a job status.

Owns:
- the condition functions of `pkg/mx/handler.go` and the finished tests of
  `pkg/mx/util.go`, with clock readings as arguments;
- `UniqueConditions`, the invariant under which the first-match lookup and the
  any-match tests agree;
- one effect lemma per writer: what it does to its own type, to the other
  types and to uniqueness.
-/

namespace MXNetOperator.Mx

open MXNetOperator.Kube MXNetOperator.Api

/-! ### Source functions -/

def newCondition (updated transitioned : Time) (conditionType : MXJobConditionType)
    (reason : MXJobReason) (message : String) : MXJobCondition where
  type := conditionType
  status := .isTrue
  reason := reason
  message := message
  lastUpdateTime := updated
  lastTransitionTime := transitioned

def getCondition (status : MXJobStatus) (condType : MXJobConditionType) :
    Option MXJobCondition :=
  status.conditions.find? fun condition => condition.type == condType

def checkCondition (status : MXJobStatus) (condType : MXJobConditionType) : Bool :=
  (getCondition status condType).any fun condition => condition.status == .isTrue

def filterOutCondition (conditions : List MXJobCondition) (condType : MXJobConditionType) :
    List MXJobCondition :=
  conditions.filter fun condition => condition.type != condType

def setCondition (status : MXJobStatus) (condition : MXJobCondition) : MXJobStatus :=
  match getCondition status condition.type with
  | none =>
      { status with
        conditions := filterOutCondition status.conditions condition.type ++ [condition] }
  | some current =>
      if current.status = condition.status ∧ current.reason = condition.reason then
        status
      else
        -- lastTransitionTime only moves with the status
        let entry :=
          if current.status = condition.status then
            { condition with lastTransitionTime := current.lastTransitionTime }
          else
            condition
        { status with
          conditions := filterOutCondition status.conditions condition.type ++ [entry] }

def removeCondition (status : MXJobStatus) (condType : MXJobConditionType) : MXJobStatus :=
  { status with conditions := filterOutCondition status.conditions condType }

def updateMXJobConditions (updated transitioned : Time) (status : MXJobStatus)
    (conditionType : MXJobConditionType) (reason : MXJobReason) (message : String) :
    MXJobStatus :=
  setCondition status (newCondition updated transitioned conditionType reason message)

/-- Only a condition that exists and is not already False is rewritten; its
update time is kept. -/
def updateMXJobFalseConditions (transitioned : Time) (status : MXJobStatus)
    (conditionType : MXJobConditionType) (reason : MXJobReason) (message : String) :
    MXJobStatus :=
  match getCondition status conditionType with
  | none => status
  | some condition =>
      if condition.status = .isFalse then
        status
      else
        setCondition status
          { condition with
            status := .isFalse
            lastTransitionTime := transitioned
            reason := reason
            message := message }

def isJobFinished (status : MXJobStatus) : Bool :=
  status.conditions.any fun condition =>
    (condition.type == .succeeded || condition.type == .failed) && condition.status == .isTrue

def isJobSucceed (status : MXJobStatus) : Bool :=
  status.conditions.any fun condition =>
    condition.type == .succeeded && condition.status == .isTrue

def isJobFailed (status : MXJobStatus) : Bool :=
  status.conditions.any fun condition =>
    condition.type == .failed && condition.status == .isTrue

/-! ### Lookups after a write -/

/-- At most one entry per condition type. -/
def UniqueConditions (status : MXJobStatus) : Prop :=
  (status.conditions.map MXJobCondition.type).Nodup

theorem getCondition_type {status : MXJobStatus} {condType : MXJobConditionType}
    {condition : MXJobCondition} (found : getCondition status condType = some condition) :
    condition.type = condType := by
  have satisfied := List.find?_some found
  simpa using satisfied

private theorem find_filterOut_same (conditions : List MXJobCondition)
    (condType : MXJobConditionType) :
    (filterOutCondition conditions condType).find?
      (fun condition => condition.type == condType) = none := by
  simp [filterOutCondition]

private theorem find_filterOut_other (conditions : List MXJobCondition)
    {condType other : MXJobConditionType} (different : other ≠ condType) :
    (filterOutCondition conditions condType).find? (fun condition => condition.type == other) =
      conditions.find? (fun condition => condition.type == other) := by
  induction conditions with
  | nil => rfl
  | cons head tail inductionHypothesis =>
      unfold filterOutCondition at inductionHypothesis ⊢
      by_cases isRemoved : head.type = condType
      · have skipped : condType ≠ other := fun equal => different equal.symm
        simp [isRemoved, skipped, inductionHypothesis]
      · by_cases isOther : head.type = other
        · rw [List.filter_cons_of_pos (by simp [isRemoved])]
          simp [isOther]
        · simp [isRemoved, isOther, inductionHypothesis]

/-- What a write leaves behind: the status as it was if the entry has the written
status and reason already, else the entry at the end of the list.  Its
transition time is that of the entry it replaces unless the status moved. -/
inductive Written (status : MXJobStatus) (condition : MXJobCondition) (after : MXJobStatus) :
    Prop where
  | kept {current : MXJobCondition} (same : after = status)
      (found : getCondition status condition.type = some current)
      (sameStatus : current.status = condition.status)
      (sameReason : current.reason = condition.reason)
  | replaced (moved : Time)
      (written : after = { status with
        conditions := filterOutCondition status.conditions condition.type ++
          [{ condition with lastTransitionTime := moved }] })
      (transition : ∀ current, getCondition status condition.type = some current →
        current.status = condition.status → moved = current.lastTransitionTime)

/-- The inversion every effect of a write is derived from. -/
theorem setCondition_written (status : MXJobStatus) (condition : MXJobCondition) :
    Written status condition (setCondition status condition) := by
  unfold setCondition
  cases found : getCondition status condition.type with
  | none =>
      refine .replaced condition.lastTransitionTime rfl fun current present => ?_
      rw [found] at present
      cases present
  | some current =>
      dsimp only
      by_cases unchanged : current.status = condition.status ∧ current.reason = condition.reason
      · rw [if_pos unchanged]
        exact .kept rfl found unchanged.1 unchanged.2
      · rw [if_neg unchanged]
        by_cases sameStatus : current.status = condition.status
        · rw [if_pos sameStatus]
          refine .replaced current.lastTransitionTime rfl fun other present _ => ?_
          rw [found] at present
          cases present
          rfl
        · rw [if_neg sameStatus]
          refine .replaced condition.lastTransitionTime rfl fun other present agrees => ?_
          rw [found] at present
          cases present
          exact absurd agrees sameStatus

/-- Lookups in a list whose entries of one type were replaced by `added`. -/
theorem find_rewritten_other (conditions : List MXJobCondition)
    {added : List MXJobCondition} {condType other : MXJobConditionType}
    (typed : ∀ entry ∈ added, entry.type = condType) (different : other ≠ condType) :
    (filterOutCondition conditions condType ++ added).find?
        (fun candidate => candidate.type == other) =
      conditions.find? (fun candidate => candidate.type == other) := by
  have skipped : added.find? (fun candidate => candidate.type == other) = none := by
    rw [List.find?_eq_none]
    intro entry member
    rw [typed entry member, beq_iff_eq]
    exact fun equal => different equal.symm
  rw [List.find?_append, find_filterOut_other _ different, skipped, Option.or_none]

theorem getCondition_rewritten_same (status : MXJobStatus) (entry : MXJobCondition) :
    getCondition { status with
      conditions := filterOutCondition status.conditions entry.type ++ [entry] } entry.type =
        some entry := by
  simp [getCondition, List.find?_append, find_filterOut_same]

theorem nodup_rewritten {conditions added : List MXJobCondition}
    {condType : MXJobConditionType} (unique : (conditions.map MXJobCondition.type).Nodup)
    (typed : ∀ entry ∈ added, entry.type = condType) (single : added.length ≤ 1) :
    ((filterOutCondition conditions condType ++ added).map MXJobCondition.type).Nodup := by
  rw [List.map_append, List.nodup_append]
  refine ⟨unique.sublist (List.filter_sublist.map _), ?_, ?_⟩
  · match added, single with
    | [], _ => simp
    | [entry], _ => simp
  · intro kept keptMember new newMember
    obtain ⟨survivor, survives, rfl⟩ := List.mem_map.mp keptMember
    obtain ⟨entry, member, rfl⟩ := List.mem_map.mp newMember
    rw [typed entry member]
    simpa using (List.mem_filter.mp survives).2

/-- The entry a write leaves under its own type has the written status and
reason. -/
theorem getCondition_setCondition_same (status : MXJobStatus) (condition : MXJobCondition) :
    ∃ entry, getCondition (setCondition status condition) condition.type = some entry ∧
      entry.status = condition.status ∧ entry.reason = condition.reason := by
  cases setCondition_written status condition with
  | kept same found sameStatus sameReason =>
      rw [same]
      exact ⟨_, found, sameStatus, sameReason⟩
  | replaced moved written _ =>
      rw [written]
      exact ⟨_, getCondition_rewritten_same status { condition with lastTransitionTime := moved },
        rfl, rfl⟩

/-- A write leaves the entries of every other type alone. -/
theorem getCondition_setCondition_other (status : MXJobStatus) {condition : MXJobCondition}
    {other : MXJobConditionType} (different : other ≠ condition.type) :
    getCondition (setCondition status condition) other = getCondition status other := by
  cases setCondition_written status condition with
  | kept same => rw [same]
  | replaced moved written _ =>
      rw [written]
      exact find_rewritten_other _ (by simp) different

theorem setCondition_unique {status : MXJobStatus} {condition : MXJobCondition}
    (unique : UniqueConditions status) : UniqueConditions (setCondition status condition) := by
  cases setCondition_written status condition with
  | kept same =>
      rw [same]
      exact unique
  | replaced moved written _ =>
      rw [written]
      exact nodup_rewritten unique (by simp) (by simp)

/-- No entry of the type is True behind a first one that is not. -/
def Visible (status : MXJobStatus) (condType : MXJobConditionType) : Prop :=
  ∀ condition ∈ status.conditions, condition.type = condType → condition.status = .isTrue →
    checkCondition status condType = true

theorem setCondition_visible {status : MXJobStatus} {condition : MXJobCondition}
    {condType : MXJobConditionType} (visible : Visible status condType) :
    Visible (setCondition status condition) condType := by
  cases setCondition_written status condition with
  | kept same =>
      rw [same]
      exact visible
  | replaced moved written _ =>
      intro entry member typed isTrue
      by_cases own : condType = condition.type
      · -- the entries of the written type have been replaced by one
        obtain ⟨found, lookup, sameStatus, _⟩ := getCondition_setCondition_same status condition
        simp only [written, filterOutCondition, List.mem_append, List.mem_filter,
          List.mem_singleton, bne_iff_ne] at member
        rcases member with ⟨_, removed⟩ | rfl
        · exact absurd (typed.trans own) removed
        · simp [checkCondition, own, lookup, sameStatus, show condition.status = .isTrue from isTrue]
      · simp only [written, List.mem_append, List.mem_singleton] at member
        rcases member with kept | rfl
        · unfold checkCondition
          rw [getCondition_setCondition_other status own]
          exact visible entry (List.mem_filter.mp kept).1 typed isTrue
        · exact absurd typed.symm own

theorem setCondition_frame (status : MXJobStatus) (condition : MXJobCondition) :
    (setCondition status condition).replicaStatuses = status.replicaStatuses ∧
      (setCondition status condition).startTime = status.startTime ∧
      (setCondition status condition).completionTime = status.completionTime := by
  cases setCondition_written status condition with
  | kept same =>
      rw [same]
      exact ⟨rfl, rfl, rfl⟩
  | replaced moved written _ =>
      rw [written]
      exact ⟨rfl, rfl, rfl⟩

/-! ### Effects of the two writers -/

section Writers

variable {status : MXJobStatus} {updated transitioned : Time}
  {condType other : MXJobConditionType} {reason : MXJobReason} {message : String}

/-- The entry an update leaves under its own type. -/
theorem getCondition_update_same : ∃ entry,
    getCondition (updateMXJobConditions updated transitioned status condType reason message)
      condType = some entry ∧ entry.status = .isTrue ∧ entry.reason = reason :=
  getCondition_setCondition_same status
    (newCondition updated transitioned condType reason message)

/-- An update whose entry is there already changes nothing. -/
theorem updateMXJobConditions_settled {entry : MXJobCondition}
    (found : getCondition status condType = some entry) (isTrue : entry.status = .isTrue)
    (sameReason : entry.reason = reason) :
    updateMXJobConditions updated transitioned status condType reason message = status := by
  simp [updateMXJobConditions, setCondition, newCondition, found, isTrue, sameReason]

@[simp] theorem checkCondition_update_same :
    checkCondition (updateMXJobConditions updated transitioned status condType reason message)
      condType = true := by
  obtain ⟨entry, found, isTrue, _⟩ :=
    @getCondition_update_same status updated transitioned condType reason message
  simp [checkCondition, found, isTrue]

theorem checkCondition_update_other (different : other ≠ condType) :
    checkCondition (updateMXJobConditions updated transitioned status condType reason message)
      other = checkCondition status other := by
  unfold checkCondition updateMXJobConditions
  rw [getCondition_setCondition_other]
  exact different

theorem updateMXJobConditions_unique (unique : UniqueConditions status) :
    UniqueConditions
      (updateMXJobConditions updated transitioned status condType reason message) :=
  setCondition_unique unique

theorem updateMXJobConditions_visible (visible : Visible status other) :
    Visible (updateMXJobConditions updated transitioned status condType reason message) other :=
  setCondition_visible visible

@[simp] theorem updateMXJobConditions_replicaStatuses :
    (updateMXJobConditions updated transitioned status condType reason
      message).replicaStatuses = status.replicaStatuses :=
  (setCondition_frame status _).1

@[simp] theorem updateMXJobConditions_startTime :
    (updateMXJobConditions updated transitioned status condType reason
      message).startTime = status.startTime :=
  (setCondition_frame status _).2.1

@[simp] theorem updateMXJobConditions_completionTime :
    (updateMXJobConditions updated transitioned status condType reason
      message).completionTime = status.completionTime :=
  (setCondition_frame status _).2.2

@[simp] theorem checkCondition_false_same :
    checkCondition (updateMXJobFalseConditions transitioned status condType reason message)
      condType = false := by
  unfold updateMXJobFalseConditions
  cases found : getCondition status condType with
  | none => simp [checkCondition, found]
  | some condition =>
      dsimp only
      by_cases already : condition.status = .isFalse
      · rw [if_pos already]
        simp [checkCondition, found, already]
      · rw [if_neg already]
        have sameType := getCondition_type found
        obtain ⟨entry, lookup, isFalse, _⟩ := getCondition_setCondition_same status
          { condition with
            status := .isFalse
            lastTransitionTime := transitioned
            reason := reason
            message := message }
        simp only [sameType] at lookup isFalse
        simp [checkCondition, sameType, lookup, isFalse]

theorem checkCondition_false_other (different : other ≠ condType) :
    checkCondition (updateMXJobFalseConditions transitioned status condType reason message)
      other = checkCondition status other := by
  unfold updateMXJobFalseConditions
  cases found : getCondition status condType with
  | none => rfl
  | some condition =>
      dsimp only
      split
      · rfl
      · unfold checkCondition
        rw [getCondition_setCondition_other]
        rw [getCondition_type found]
        exact different

theorem updateMXJobFalseConditions_unique (unique : UniqueConditions status) :
    UniqueConditions
      (updateMXJobFalseConditions transitioned status condType reason message) := by
  unfold updateMXJobFalseConditions
  split
  · exact unique
  · split
    · exact unique
    · exact setCondition_unique unique

theorem updateMXJobFalseConditions_visible (visible : Visible status other) :
    Visible (updateMXJobFalseConditions transitioned status condType reason message) other := by
  unfold updateMXJobFalseConditions
  split
  · exact visible
  · split
    · exact visible
    · exact setCondition_visible visible

theorem updateMXJobFalseConditions_frame :
    (updateMXJobFalseConditions transitioned status condType reason message).replicaStatuses =
        status.replicaStatuses ∧
      (updateMXJobFalseConditions transitioned status condType reason message).startTime =
        status.startTime ∧
      (updateMXJobFalseConditions transitioned status condType reason message).completionTime =
        status.completionTime := by
  unfold updateMXJobFalseConditions
  split
  · exact ⟨rfl, rfl, rfl⟩
  · split
    · exact ⟨rfl, rfl, rfl⟩
    · exact setCondition_frame status _

end Writers

/-! ### First match against any match -/

/-- Under uniqueness the first entry of a type is the only one, so looking it
up decides whether any entry of that type is True. -/
theorem checkCondition_iff_mem {status : MXJobStatus} (unique : UniqueConditions status)
    (condType : MXJobConditionType) :
    checkCondition status condType = true ↔
      ∃ condition ∈ status.conditions, condition.type = condType ∧ condition.status = .isTrue := by
  unfold UniqueConditions at unique
  unfold checkCondition getCondition
  generalize status.conditions = conditions at unique ⊢
  induction conditions with
  | nil => simp
  | cons head tail inductionHypothesis =>
      simp only [List.map_cons, List.nodup_cons] at unique
      by_cases isHead : head.type = condType
      · have absent : ∀ condition ∈ tail, condition.type ≠ condType := by
          intro condition member equal
          apply unique.1
          rw [isHead, ← equal]
          exact List.mem_map_of_mem member
        simp only [List.find?_cons, isHead, beq_self_eq_true, Option.any_some, beq_iff_eq,
          List.mem_cons, exists_eq_or_imp, true_and]
        constructor
        · exact Or.inl
        · rintro (isTrue | ⟨condition, member, equal, _⟩)
          · exact isTrue
          · exact absurd equal (absent condition member)
      · have step := inductionHypothesis unique.2
        simp only [List.find?_cons, beq_eq_false_iff_ne.mpr isHead, List.mem_cons,
          exists_eq_or_imp, isHead, false_and, false_or]
        exact step

theorem isJobFinished_eq {status : MXJobStatus} (unique : UniqueConditions status) :
    isJobFinished status =
      (checkCondition status .succeeded || checkCondition status .failed) := by
  rw [Bool.eq_iff_iff, Bool.or_eq_true, checkCondition_iff_mem unique,
    checkCondition_iff_mem unique]
  simp only [isJobFinished, List.any_eq_true, Bool.and_eq_true, Bool.or_eq_true, beq_iff_eq]
  constructor
  · rintro ⟨condition, member, succeeded | failed, isTrue⟩
    · exact Or.inl ⟨condition, member, succeeded, isTrue⟩
    · exact Or.inr ⟨condition, member, failed, isTrue⟩
  · rintro (⟨condition, member, succeeded, isTrue⟩ | ⟨condition, member, failed, isTrue⟩)
    · exact ⟨condition, member, Or.inl succeeded, isTrue⟩
    · exact ⟨condition, member, Or.inr failed, isTrue⟩

theorem isJobSucceed_eq {status : MXJobStatus} (unique : UniqueConditions status) :
    isJobSucceed status = checkCondition status .succeeded := by
  rw [Bool.eq_iff_iff, checkCondition_iff_mem unique]
  simp [isJobSucceed]

theorem isJobFailed_eq {status : MXJobStatus} (unique : UniqueConditions status) :
    isJobFailed status = checkCondition status .failed := by
  rw [Bool.eq_iff_iff, checkCondition_iff_mem unique]
  simp [isJobFailed]

end MXNetOperator.Mx
