import MXNetOperator.Property.Notification

/-!
Contract: counting webhook calls.

Whoever is under way may call each webhook once more.  Owns `startTotal` and
`finishTotal`, the calls so far and to be expected; they stay below two as long
as nobody sets out who may call a webhook again.  Finalizer goroutines beside
each other are kept apart by the finalizer group.
-/

namespace MXNetOperator.Property

open MXNetOperator.Kube MXNetOperator.Api MXNetOperator.Interaction MXNetOperator.Mx
  MXNetOperator.Cluster

/-- The exchange starts this webhook. -/
def startsHook (startOrFinish : Bool) : Call → Bool
  | ⟨.callHookAsync _ kind, _⟩ => kind == startOrFinish
  | _ => false

def hookCount (startOrFinish : Bool) (log : List Call) : Nat :=
  log.countP (startsHook startOrFinish)

/-- The exchange enters the finalizer group as the one who executes. -/
def leadsGroup : Call → Bool
  | ⟨.enterGroup _, leads⟩ => leads
  | _ => false

def leavesGroup : Call → Bool
  | ⟨.leaveGroup _, _⟩ => true
  | _ => false

/-- The goroutine executes in the finalizer group. -/
def isLeading (thread : Thread finalizer) : Bool :=
  thread.trace.any leadsGroup && !thread.trace.any leavesGroup

/-- The goroutine executes and may still call the finish webhook. -/
def mayNotify (thread : Thread finalizer) : Bool :=
  isLeading thread && !isJobFinished thread.input.object.status &&
    !thread.trace.any (startsHook false)

/-- A Sync of this version reconciles the job. -/
def isOpen (mxjob : MXJob) : Bool :=
  mxjob.deletionTimestamp.isNone && !isJobFinished mxjob.status

/-- The Sync under way may still call the start webhook. -/
def mayStart (worker : Thread sync) : Bool :=
  !worker.input.deleted && isOpen worker.input.object &&
    !isInitialized worker.input.object.status && !worker.trace.any (startsHook true)

/-- The Sync under way may still call the finish webhook. -/
def mayFinish (worker : Thread sync) : Bool :=
  !worker.input.deleted && isOpen worker.input.object && !worker.trace.any (startsHook false)

/-- A Sync reconciles a version that is not initialized only if the start
webhook was not called so far.  A Sync reconciles an unfinished version, and a
finalizer goroutine gets to execute on one, only if the finish webhook was not
called so far and nobody else is under way who may call it. -/
def Orderly (state : State) : Action → Prop
  | .deliver age false => state.worker.stopped = true →
      ∀ version ∈ state.world.versions[age]?, isOpen version = true →
        (isInitialized version.status = false → hookCount true state.log = 0) ∧
        hookCount false state.log = 0 ∧ state.goroutines.countP mayNotify = 0
  | .finalize index _ => ∀ thread ∈ state.goroutines[index]?, thread.trace.isEmpty = true →
      thread.input.key ∉ state.world.inFlight →
      isJobFinished thread.input.object.status = false →
        hookCount false state.log = 0 ∧ mayFinish state.worker = false
  | _ => True

/-! ### The finalizer group -/

section Group

variable {mxjob : MXJob} {pods : List Pod} {services : List Service} {nextUID : UID}
  {allowed : State → Action → Prop} {past : List State} {state next : State} {action : Action}

/-- The key under which all finalizer goroutines of the job execute. -/
def groupKey (mxjob : MXJob) : String :=
  mxjob.ns ++ "/" ++ mxjob.name

/-- At most one goroutine executes, and only while the key is taken. -/
def Exclusive (mxjob : MXJob) (state : State) : Prop :=
  state.goroutines.countP isLeading ≤ (decide (groupKey mxjob ∈ state.world.inFlight)).toNat

theorem move_inFlight (world : World) (move : Move) :
    (world.move move).inFlight = world.inFlight := by
  cases move with
  | podCreate pod =>
      simp only [World.move]
      split <;> rfl
  | serviceCreate service =>
      simp only [World.move]
      split <;> rfl
  | editSpec spec =>
      simp only [World.move]
      split <;> rfl
  | editFinalizers finalizers =>
      simp only [World.move]
      split <;> rfl
  | deleteJob time =>
      simp only [World.move]
      split
      · rfl
      · split <;> rfl
  | _ => rfl

/-- Only entering and leaving touch the group. -/
theorem serve_inFlight (outcome : Outcome) {request : Request} (world : World)
    (notEnter : ∀ key, request ≠ .enterGroup key) (notLeave : ∀ key, request ≠ .leaveGroup key) :
    (serve outcome request world).2.inFlight = world.inFlight := by
  have kept : ∀ {rejection : Option ApiError} {effect : World},
      effect.inFlight = world.inFlight →
      (outcome.write rejection world effect).2.inFlight = world.inFlight := by
    intro rejection effect same
    rcases write_cases outcome rejection world effect with ⟨unchanged, _⟩ | ⟨_, changed⟩
    · rw [unchanged]
    · rw [changed, same]
  cases request with
  | enterGroup key => exact absurd rfl (notEnter key)
  | leaveGroup key => exact absurd rfl (notLeave key)
  | deletePod name =>
      refine kept ?_
      unfold World.deletePod
      split <;> rfl
  | patchPod name patch => exact kept rfl
  | patchService name patch => exact kept rfl
  | createPod pod => exact kept rfl
  | createService service => exact kept rfl
  | updateMXJob mxjob => exact kept rfl
  | _ => rfl

/-- A Sync neither enters nor leaves the group. -/
theorem sync_noGroup {event : Event} {trace : List Call} {request : Request}
    (issued : (sync event).Issues trace request) :
    (∀ key, request ≠ .enterGroup key) ∧ ∀ key, request ≠ .leaveGroup key := by
  have outside : ∀ key, request ≠ .enterGroup key ∧ request ≠ .leaveGroup key := by
    intro key
    constructor <;>
    · rintro rfl
      obtain ⟨_, _, _, _, _, _, _, asked⟩ := sync_reconciles issued (by simp) (by simp)
      cases asked with
      | evaluating inner => cases evaluate_serves inner
      | terminating _ _ _ _ _ _ shape =>
          rcases shape with same | ⟨pod, _, same⟩ <;> cases same
  exact ⟨fun key => (outside key).1, fun key => (outside key).2⟩

theorem countP_ge_of_getElem {Item : Type} (holds : Item → Bool) {items : List Item}
    {index : Nat} {item : Item} (found : items[index]? = some item) :
    (holds item).toNat ≤ items.countP holds := by
  cases counted : holds item with
  | false => exact Nat.zero_le _
  | true => exact List.countP_pos_iff.mpr ⟨item, List.mem_of_getElem? found, counted⟩

/-- Replacing one member of a list moves the count by that member alone. -/
theorem countP_set_add {Item : Type} (holds : Item → Bool) {items : List Item} {index : Nat}
    {old new : Item} (found : items[index]? = some old) :
    (items.set index new).countP holds + (holds old).toNat =
      items.countP holds + (holds new).toNat := by
  obtain ⟨inside, same⟩ := List.getElem?_eq_some_iff.mp found
  rw [List.countP_set inside, same]
  have within := countP_ge_of_getElem holds found
  cases counted : holds old with
  | false => cases holds new <;> simp
  | true =>
      rw [counted, Bool.toNat_true] at within
      cases holds new <;> simp <;> omega

theorem serve_enterGroup_inFlight (outcome : Outcome) (world : World) (key : String) :
    let served := serve outcome (.enterGroup key) world
    served.1 = !decide (key ∈ world.inFlight) ∧ key ∈ served.2.inFlight := by
  by_cases busy : key ∈ world.inFlight
  · simp only [serve, if_pos busy]
    exact ⟨(congrArg not (decide_eq_true busy)).symm, busy⟩
  · simp only [serve, if_neg busy]
    exact ⟨(congrArg not (decide_eq_false busy)).symm, List.mem_cons_self⟩

/-- The goroutine is about to leave the group it entered. -/
theorem isLeading_of_entered {thread : Thread finalizer} {key : String}
    (entered : (⟨.enterGroup key, true⟩ : Call) ∈ thread.trace)
    (notLeft : ∀ call ∈ thread.trace, ∀ other, call.request ≠ .leaveGroup other) :
    isLeading thread = true := by
  have never : thread.trace.any leavesGroup = false := by
    rw [List.any_eq_false]
    rintro ⟨request, answer⟩ member left
    cases request with
    | leaveGroup other => exact notLeft _ member other rfl
    | _ => cases left
  have once : thread.trace.any leadsGroup = true := List.any_eq_true.mpr ⟨_, entered, rfl⟩
  rw [isLeading, once, never]
  rfl

theorem isLeading_inside {thread after : Thread finalizer} {call : Call}
    (trace : after.trace = thread.trace ++ [call]) (notLeads : leadsGroup call = false)
    (notLeaves : leavesGroup call = false) : isLeading after = isLeading thread := by
  simp [isLeading, trace, notLeads, notLeaves]

/-- How a goroutine gets into the group and out of it. -/
theorem exclusive_finalize {thread after : Thread finalizer} {call : Call} {outcome : Outcome}
    {world : World} (issued : (finalizer thread.input).Issues thread.trace call.request)
    (reply : call.reply = (serve outcome call.request world).1)
    (trace : after.trace = thread.trace ++ [call]) {others : Nat}
    (bound : others + (isLeading thread).toNat ≤
      (decide (thread.input.key ∈ world.inFlight)).toNat) :
    others + (isLeading after).toNat ≤
      (decide (thread.input.key ∈ (serve outcome call.request world).2.inFlight)).toNat := by
  obtain ⟨request, answer⟩ := call
  generalize history : thread.trace = calls at issued
  cases finalizer_issues issued with
  | entering =>
      obtain ⟨admitted, taken⟩ := serve_enterGroup_inFlight outcome world thread.input.key
      have outside : isLeading thread = false := by rw [isLeading, history]; rfl
      have leading : isLeading after = answer := by
        rw [isLeading, trace, history]
        cases answer <;> rfl
      have led : answer = !decide (thread.input.key ∈ world.inFlight) := reply.trans admitted
      rw [outside, Bool.toNat_false] at bound
      rw [leading, led, decide_eq_true taken, Bool.toNat_true]
      cases busy : decide (thread.input.key ∈ world.inFlight) <;> simp_all
  | leaving _ entered notLeft =>
      have led : isLeading thread = true :=
        isLeading_of_entered (history ▸ entered) (history ▸ notLeft)
      have left : isLeading after = false := by simp [isLeading, trace, leavesGroup]
      have taken := Bool.toNat_le (decide (thread.input.key ∈ world.inFlight))
      rw [led, Bool.toNat_true] at bound
      rw [left, Bool.toNat_false]
      omega
  | notifying unfinished =>
      rw [isLeading_inside trace rfl rfl, serve_inFlight outcome world (by simp) (by simp)]
      exact bound
  | waiting =>
      rw [isLeading_inside trace rfl rfl, serve_inFlight outcome world (by simp) (by simp)]
      exact bound
  | storing =>
      rw [isLeading_inside trace rfl rfl, serve_inFlight outcome world (by simp) (by simp)]
      exact bound

theorem groupKey_eq {index : Nat} {thread : Thread finalizer} (consistent : Consistent mxjob state)
    (found : state.goroutines[index]? = some thread) : thread.input.key = groupKey mxjob := by
  have identity := consistent.identity _
    (consistent.goroutines thread (List.mem_of_getElem? found))
  rw [FinalizerTask.key, groupKey, identity.ns, identity.name]

theorem Exclusive.step (consistent : Consistent mxjob state) (exclusive : Exclusive mxjob state)
    (stepped : Stepped state action next) : Exclusive mxjob next := by
  unfold Exclusive at exclusive ⊢
  cases stepped with
  | idle => exact exclusive
  | deliver => exact exclusive
  | restart => exact Nat.zero_le _
  | move move =>
      rw [move_inFlight]
      exact exclusive
  | work outcome worker call issued pending reply input trace =>
      have outside : (spawned call.request).countP isLeading = 0 := by
        obtain ⟨request, answer⟩ := call
        cases request <;> rfl
      obtain ⟨notEnter, notLeave⟩ := sync_noGroup issued
      rw [serve_inFlight outcome state.world notEnter notLeave, List.countP_append, outside]
      exact exclusive
  | finalize index outcome thread changed call found issued reply input trace =>
      have key := groupKey_eq consistent found
      have counted : (state.goroutines.set index changed).countP isLeading + _ = _ :=
        countP_set_add isLeading found
      have within := countP_ge_of_getElem isLeading found
      have bound : state.goroutines.countP isLeading - (isLeading thread).toNat +
          (isLeading thread).toNat ≤ (decide (thread.input.key ∈ state.world.inFlight)).toNat := by
        rw [Nat.sub_add_cancel within, key]
        exact exclusive
      have after := exclusive_finalize issued reply trace bound
      simp only [key] at after ⊢
      omega

theorem run_exclusive
    (run : Run step allowed (State.initial mxjob pods services nextUID) past state) :
    Exclusive mxjob state := by
  refine run.historyInvariant (fun _ current => Exclusive mxjob current) (Nat.zero_le _) ?_
  intro _ current action earlier exclusive _
  exact exclusive.step (run_consistent earlier) (step_stepped current action)

end Group

section Counting

variable {mxjob : MXJob} {state next : State} {action : Action}

/-- The calls of the start webhook so far and to be expected. -/
def startTotal (state : State) : Nat :=
  hookCount true state.log + (mayStart state.worker).toNat

/-- The calls of the finish webhook so far and to be expected. -/
def finishTotal (state : State) : Nat :=
  hookCount false state.log + (mayFinish state.worker).toNat + state.goroutines.countP mayNotify

theorem hookCount_append (kind : Bool) (log : List Call) (call : Call) :
    hookCount kind (log ++ [call]) = hookCount kind log + (startsHook kind call).toNat := by
  rw [hookCount, hookCount, List.countP_append, List.countP_singleton]
  cases startsHook kind call <;> rfl

theorem isOpen_of_reconcilable {event : Event} (reconcilable : Reconcilable event) :
    isOpen event.object = true := by
  simp [isOpen, reconcilable.live, reconcilable.unfinished]

/-! ### The start webhook -/

/-- A Sync that calls the start webhook was expected to. -/
theorem mayStart_of_issues {worker : Thread sync} {call : Call}
    (issued : (sync worker.input).Issues worker.trace call.request)
    (hook : startsHook true call = true) : mayStart worker = true := by
  obtain ⟨request, reply⟩ := call
  cases request with
  | callHookAsync job kind =>
      have started : kind = true := by simpa [startsHook] using hook
      subst started
      obtain ⟨reconcilable, fresh, _, quiet⟩ := sync_startHook issued
      have uncalled : worker.trace.any (startsHook true) = false := by
        rw [List.any_eq_false]
        rintro ⟨request, answer⟩ member
        cases request with
        | callHookAsync other kind =>
            exact absurd rfl (servesEvaluation_noHook (quiet _ member) other kind)
        | _ => simp [startsHook]
      simp [mayStart, isInitialized, isOpen_of_reconcilable reconcilable, fresh,
        reconcilable.present, uncalled]
  | _ => cases hook

/-- The worker's expectation after a call: a call of the webhook uses it up. -/
theorem mayStart_advance {worker after : Thread sync} {call : Call}
    (input : after.input = worker.input) (trace : after.trace = worker.trace ++ [call]) :
    mayStart after = (mayStart worker && !startsHook true call) := by
  simp only [mayStart, input, trace, List.any_append, List.any_cons, List.any_nil, Bool.or_false,
    Bool.not_or, Bool.and_assoc]

theorem startTotal_step (bound : startTotal state ≤ 1) (permitted : Orderly state action)
    (stepped : Stepped state action next) : startTotal next ≤ 1 := by
  unfold startTotal at bound ⊢
  have called : hookCount true state.log + 0 ≤ 1 := by omega
  cases stepped with
  | idle => exact bound
  | move => exact bound
  | restart => exact called
  | deliver age deleted object stopped found =>
      cases deleted with
      | true => exact called
      | false =>
          change hookCount true state.log +
            (isOpen object && !isInitialized object.status && true).toNat ≤ 1
          cases opened : isOpen object with
          | false => exact called
          | true =>
              cases initialized : isInitialized object.status with
              | true => exact called
              | false =>
                  rw [(permitted stopped object found opened).1 initialized]
                  exact Nat.le_refl 1
  | work outcome worker call issued pending reply input trace =>
      simp only [hookCount_append, mayStart_advance input trace]
      cases hook : startsHook true call with
      | false => simpa using bound
      | true =>
          rw [mayStart_of_issues issued hook] at bound
          simpa using bound
  | finalize index outcome thread changed call found issued reply input trace =>
      have other : startsHook true call = false := by
        obtain ⟨request, answer⟩ := call
        generalize thread.trace = calls at issued
        cases finalizer_issues issued <;> rfl
      simp only [hookCount_append, other]
      exact bound

/-! ### The finish webhook -/

theorem mayFinish_of_issues {worker : Thread sync} {call : Call}
    (issued : (sync worker.input).Issues worker.trace call.request)
    (hook : startsHook false call = true) : mayFinish worker = true := by
  obtain ⟨request, reply⟩ := call
  cases request with
  | callHookAsync job kind =>
      have finishing : kind = false := by simpa [startsHook] using hook
      subst finishing
      obtain ⟨reconcilable, _, _, silent⟩ := sync_finishHook issued
      have uncalled : worker.trace.any (startsHook false) = false := by
        rw [List.any_eq_false]
        rintro ⟨request, answer⟩ member
        cases request with
        | callHookAsync other kind =>
            cases kind with
            | false => exact absurd rfl (silent _ member other)
            | true => simp [startsHook]
        | _ => simp [startsHook]
      simp [mayFinish, isOpen_of_reconcilable reconcilable, reconcilable.present, uncalled]
  | _ => cases hook

theorem mayFinish_advance {worker after : Thread sync} {call : Call}
    (input : after.input = worker.input) (trace : after.trace = worker.trace ++ [call]) :
    mayFinish after = (mayFinish worker && !startsHook false call) := by
  simp only [mayFinish, input, trace, List.any_append, List.any_cons, List.any_nil, Bool.or_false,
    Bool.not_or, Bool.and_assoc]

/-- A call of a Sync uses up what was expected of that Sync. -/
theorem mayFinish_covers {worker after : Thread sync} {call : Call}
    (issued : (sync worker.input).Issues worker.trace call.request)
    (input : after.input = worker.input) (trace : after.trace = worker.trace ++ [call]) :
    (startsHook false call).toNat + (mayFinish after).toNat = (mayFinish worker).toNat := by
  rw [mayFinish_advance input trace]
  cases hook : startsHook false call with
  | true => simp [mayFinish_of_issues issued hook]
  | false => simp

/-- A goroutine that executes in the group and calls the finish webhook was
expected to; leaving the group expects no more of it. -/
theorem mayNotify_covers {thread after : Thread finalizer} {call : Call}
    (issued : (finalizer thread.input).Issues thread.trace call.request)
    (input : after.input = thread.input) (trace : after.trace = thread.trace ++ [call])
    (notLeads : leadsGroup call = false) :
    (startsHook false call).toNat + (mayNotify after).toNat ≤ (mayNotify thread).toNat := by
  have advanced : mayNotify after = true →
      mayNotify thread = true ∧ startsHook false call = false := by
    simp only [mayNotify, isLeading, input, trace, List.any_append, List.any_cons, List.any_nil,
      notLeads, Bool.or_false, Bool.not_or, Bool.and_eq_true, Bool.not_eq_true']
    tauto
  cases hook : startsHook false call with
  | false =>
      cases expected : mayNotify after with
      | false => simp
      | true => simp [(advanced expected).1]
  | true =>
      have used : mayNotify after = false := by
        by_contra expected
        rw [(advanced (by simpa using expected)).2] at hook
        cases hook
      obtain ⟨request, answer⟩ := call
      generalize history : thread.trace = calls at issued
      cases finalizer_issues issued with
      | notifying unfinished =>
          have expected : mayNotify thread = true := by
            rw [mayNotify, isLeading, history, unfinished]
            rfl
          rw [used, expected]
          exact Nat.le_refl 1
      | _ => cases hook

/-- Nobody but the goroutine that enters executes while the key is free. -/
theorem Exclusive.none_mayNotify (exclusive : Exclusive mxjob state)
    (free : groupKey mxjob ∉ state.world.inFlight) : state.goroutines.countP mayNotify = 0 := by
  have leading : state.goroutines.countP isLeading = 0 := by
    rw [Exclusive, decide_eq_false free] at exclusive
    exact Nat.le_zero.mp exclusive
  have fewer : state.goroutines.countP mayNotify ≤ state.goroutines.countP isLeading :=
    List.countP_mono_left fun thread _ expected => by
      simp only [mayNotify, Bool.and_eq_true] at expected
      exact expected.1.1
  omega

theorem finishTotal_finalize {index : Nat} {outcome : Outcome} {thread after : Thread finalizer}
    {call : Call} (consistent : Consistent mxjob state) (exclusive : Exclusive mxjob state)
    (bound : finishTotal state ≤ 1) (permitted : Orderly state (.finalize index outcome))
    (found : state.goroutines[index]? = some thread)
    (issued : (finalizer thread.input).Issues thread.trace call.request)
    (reply : call.reply = (serve outcome call.request state.world).1)
    (input : after.input = thread.input) (trace : after.trace = thread.trace ++ [call]) :
    hookCount false (state.log ++ [call]) + (mayFinish state.worker).toNat +
      (state.goroutines.set index after).countP mayNotify ≤ 1 := by
  have counted : (state.goroutines.set index after).countP mayNotify + _ = _ :=
    countP_set_add mayNotify found
  rw [hookCount_append]
  unfold finishTotal at bound
  cases leads : leadsGroup call with
  | false =>
      have covered := mayNotify_covers issued input trace leads
      omega
  | true =>
      obtain ⟨request, answer⟩ := call
      generalize history : thread.trace = calls at issued
      cases finalizer_issues issued with
      | entering =>
          obtain ⟨admitted, _⟩ := serve_enterGroup_inFlight outcome state.world thread.input.key
          have free : thread.input.key ∉ state.world.inFlight := by
            have led : true = !decide (thread.input.key ∈ state.world.inFlight) :=
              leads.symm.trans (reply.trans admitted)
            simpa using led
          have outside : mayNotify thread = false := by
            rw [mayNotify, isLeading, history]
            rfl
          have silent : startsHook false (⟨.enterGroup thread.input.key, answer⟩ : Call) = false :=
            rfl
          rw [outside] at counted
          rw [silent]
          cases finished : isJobFinished thread.input.object.status with
          | true =>
              have none : mayNotify after = false := by simp [mayNotify, input, finished]
              rw [none] at counted
              simp only [Bool.toNat_false] at counted ⊢
              omega
          | false =>
              obtain ⟨uncalled, idle⟩ := permitted thread found (by rw [history]; rfl) free finished
              have alone := exclusive.none_mayNotify (groupKey_eq consistent found ▸ free)
              have single := Bool.toNat_le (mayNotify after)
              rw [uncalled, idle]
              simp only [Bool.toNat_false] at counted ⊢
              omega
      | _ => cases leads

theorem finishTotal_step (consistent : Consistent mxjob state) (exclusive : Exclusive mxjob state)
    (bound : finishTotal state ≤ 1) (permitted : Orderly state action)
    (stepped : Stepped state action next) : finishTotal next ≤ 1 := by
  have called : hookCount false state.log + 0 + state.goroutines.countP mayNotify ≤ 1 := by
    unfold finishTotal at bound
    omega
  cases stepped with
  | idle => exact bound
  | move => exact bound
  | restart =>
      change hookCount false state.log + 0 + 0 ≤ 1
      omega
  | deliver age deleted object stopped found =>
      cases deleted with
      | true => exact called
      | false =>
          change hookCount false state.log + (isOpen object && true).toNat +
            state.goroutines.countP mayNotify ≤ 1
          cases opened : isOpen object with
          | false => exact called
          | true =>
              obtain ⟨_, uncalled, none⟩ := permitted stopped object found opened
              rw [uncalled, none]
              exact Nat.le_refl 1
  | work outcome worker call issued pending reply input trace =>
      have covered := mayFinish_covers issued input trace
      have outside : (spawned call.request).countP mayNotify = 0 := by
        obtain ⟨request, answer⟩ := call
        cases request <;> rfl
      unfold finishTotal at bound ⊢
      simp only [hookCount_append, List.countP_append, outside]
      omega
  | finalize index outcome thread changed call found issued reply input trace =>
      exact finishTotal_finalize consistent exclusive bound permitted found issued reply input trace

end Counting

/-- In an orderly run no webhook is called twice. -/
theorem orderly_bound {mxjob : MXJob} {pods : List Pod} {services : List Service}
    {nextUID : UID} {past : List State} {state : State}
    (run : Run step Orderly (State.initial mxjob pods services nextUID) past state) :
    hookCount true state.log ≤ 1 ∧ hookCount false state.log ≤ 1 := by
  have start : startTotal state ≤ 1 := by
    refine run.invariant (fun current => startTotal current ≤ 1) ?_ ?_
    · exact Nat.zero_le 1
    · exact fun current action bound permitted =>
        startTotal_step bound permitted (step_stepped current action)
  have finish : finishTotal state ≤ 1 := by
    refine run.historyInvariant (fun _ current => finishTotal current ≤ 1) ?_ ?_
    · exact Nat.zero_le 1
    · exact fun _ current action earlier bound permitted =>
        finishTotal_step (run_consistent earlier) (run_exclusive earlier) bound permitted
          (step_stepped current action)
  unfold startTotal at start
  unfold finishTotal at finish
  exact ⟨by omega, by omega⟩

end MXNetOperator.Property
