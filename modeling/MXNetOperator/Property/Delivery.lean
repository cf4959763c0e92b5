import MXNetOperator.Cluster.System
import MXNetOperator.Mx.Webhook

/-!
Contract: the delivery of a notification ends, after at most five attempts.

A delivery runs against an arbitrary sequence of attempt results.  Each result
is ruled on; the backoff goes on while the ruling is to retry.  The result
channel gets exactly one value, so a goroutine that waits for it goes on, unless
an attempt that is made gets a response without a status: then the code panics.
-/

namespace MXNetOperator.Property

open MXNetOperator.Kube MXNetOperator.Api MXNetOperator.Interaction MXNetOperator.Mx
  MXNetOperator.Cluster

/-! ### Attempt results -/

/-- How one attempt goes: no client can be built, the round trip fails, or a
notification comes back. -/
inductive Attempt where
  | noClient (error : HookError)
  | noReply (client : RESTClient) (text : String)
  | replied (client : RESTClient) (notification : Notification)

/-- What an attempt means for the delivery. -/
inductive Ruling where
  | retry
  | stop (result : Option HookError)
  | panics

def statusRuling (quote : String → String) (webhookName : String) (result : Status) : Ruling :=
  if 500 ≤ result.code then .retry
  else if result.status = statusSuccess then .stop none
  else .stop (some (toStatusErr quote webhookName (some result)))

def Attempt.ruling (quote : String → String) (webhookName : String) : Attempt → Ruling
  | .noClient _ => .retry
  | .noReply _ _ => .retry
  | .replied _ notification =>
      match notification.response with
      | none => .retry
      | some response => response.result.elim .panics (statusRuling quote webhookName)

/-- No response comes without a status. -/
def Attempt.hasStatus : Attempt → Bool
  | .replied _ notification => notification.response.all fun response => response.result.isSome
  | _ => true

theorem statusRuling_ne_panics {quote : String → String} {webhookName : String}
    {result : Status} : statusRuling quote webhookName result ≠ .panics := by
  unfold statusRuling
  split
  · exact Ruling.noConfusion
  · split <;> exact Ruling.noConfusion

theorem Attempt.ruling_eq_panics {quote : String → String} {webhookName : String}
    {attempt : Attempt} :
    attempt.ruling quote webhookName = .panics ↔ attempt.hasStatus = false := by
  cases attempt with
  | noClient error => exact iff_of_false Ruling.noConfusion Bool.noConfusion
  | noReply client text => exact iff_of_false Ruling.noConfusion Bool.noConfusion
  | replied client notification =>
      obtain ⟨request, response⟩ := notification
      cases response with
      | none => exact iff_of_false Ruling.noConfusion Bool.noConfusion
      | some response =>
          obtain ⟨uid, result⟩ := response
          cases result with
          | none => exact iff_of_true rfl rfl
          | some result => exact iff_of_false statusRuling_ne_panics Bool.noConfusion

/-- The surroundings of a delivery whose attempts go as in `results`; their
state is the number of attempts that are over. -/
def answerHook (uuids : Nat → String) (results : Nat → Attempt) :
    (request : HookRequest) → Nat → request.Reply × Nat
  | .newUUID, index => (uuids index, index)
  | .hookClient _, index =>
      match results index with
      | .noClient error => (.error error, index + 1)
      | .noReply client _ => (.ok client, index)
      | .replied client _ => (.ok client, index)
  | .post _ _, index =>
      match results index with
      | .noClient _ => (.error "", index + 1)
      | .noReply _ text => (.error text, index + 1)
      | .replied _ notification => (.ok notification, index + 1)
  | .sleep _ _, index => ((), index)
  | .send _, index => ((), index)

/-! ### What an execution did -/

/-- The attempts begun. -/
def attemptsMade (trace : List HookExchange) : Nat :=
  trace.countP fun exchange => match exchange.request with
    | .hookClient _ => true
    | _ => false

/-- The values sent on the result channel. -/
def sentOf (trace : List HookExchange) : List (Option HookError) :=
  trace.filterMap fun exchange => match exchange.request with
    | .send result => some result
    | _ => none

abbrev HookExecution := Execution HookRequest HookRequest.Reply Abort Nat

structure Finishes {α : Type} (execution : HookExecution α) (value : α) (attempts : Nat)
    (sent : List (Option HookError)) (world : Nat) : Prop where
  outcome : execution.outcome = .ok value
  attempts : attemptsMade execution.trace = attempts
  sent : sentOf execution.trace = sent
  world : execution.world = world

theorem Finishes.pure {α : Type} {serve : (request : HookRequest) → Nat → request.Reply × Nat}
    {value : α} {world : Nat} :
    Finishes ((Pure.pure value : HookProgram α).execute serve world) value 0 [] world :=
  ⟨rfl, rfl, rfl, rfl⟩

/-- Sequential composition adds up what both parts did. -/
theorem Finishes.bind {α β : Type}
    {serve : (request : HookRequest) → Nat → request.Reply × Nat} {program : HookProgram α}
    {next : α → HookProgram β} {value : α} {last : β} {attempts moreAttempts : Nat}
    {sent moreSent : List (Option HookError)} {before between after : Nat}
    (head : Finishes (program.execute serve before) value attempts sent between)
    (tail : Finishes ((next value).execute serve between) last moreAttempts moreSent after) :
    Finishes ((program >>= next).execute serve before) last (attempts + moreAttempts)
      (sent ++ moreSent) after := by
  rw [Program.execute_bind]
  generalize program.execute serve before = first at head
  obtain ⟨trace, outcome, reached⟩ := first
  obtain ⟨rfl, rfl, rfl, rfl⟩ := head
  exact ⟨tail.outcome, List.countP_append.trans (congrArg _ tail.attempts),
    List.filterMap_append.trans (congrArg _ tail.sent), tail.world⟩

/-- The execution ends in a panic and has sent nothing. -/
structure Panics {α : Type} (execution : HookExecution α) : Prop where
  outcome : execution.outcome = .error .panicked
  sent : sentOf execution.trace = []

theorem Panics.bind {α β : Type}
    {serve : (request : HookRequest) → Nat → request.Reply × Nat} {program : HookProgram α}
    {next : α → HookProgram β} {before : Nat} (head : Panics (program.execute serve before)) :
    Panics ((program >>= next).execute serve before) := by
  rw [Program.execute_bind]
  generalize program.execute serve before = first at head
  obtain ⟨trace, outcome, reached⟩ := first
  obtain ⟨rfl, sent⟩ := head
  exact ⟨rfl, sent⟩

theorem Finishes.bind_panics {α β : Type}
    {serve : (request : HookRequest) → Nat → request.Reply × Nat} {program : HookProgram α}
    {next : α → HookProgram β} {value : α} {attempts before between : Nat}
    (head : Finishes (program.execute serve before) value attempts [] between)
    (tail : Panics ((next value).execute serve between)) :
    Panics ((program >>= next).execute serve before) := by
  rw [Program.execute_bind]
  generalize program.execute serve before = first at head
  obtain ⟨trace, outcome, reached⟩ := first
  obtain ⟨rfl, rfl, quiet, rfl⟩ := head
  refine ⟨tail.outcome, List.filterMap_append.trans ?_⟩
  rw [← sentOf, ← sentOf, quiet, List.nil_append]
  exact tail.sent

/-! ### One attempt -/

section Delivery

variable {quote : String → String} {webhook : Webhook} {mxjob : MXJob} {uuids : Nat → String}
  {results : Nat → Attempt}

/-- What the condition of the backoff returns. -/
def Ruling.answer : Ruling → Except Abort (Bool × Option HookError)
  | .retry => .ok (false, none)
  | .stop result => .ok (result.isNone, result)
  | .panics => .error .panicked

/-- An attempt begins once, sends nothing and ends as it is ruled on. -/
theorem hookCondition_execute (index : Nat) :
    ∃ trace, (hookCondition quote webhook mxjob).execute (answerHook uuids results) index =
        ⟨trace, ((results index).ruling quote webhook.name).answer, index + 1⟩ ∧
      attemptsMade trace = 1 ∧ sentOf trace = [] := by
  simp only [hookCondition, callHook, askHook, Program.execute_bind, Program.execute_perform,
    Execution.andThen, answerHook]
  cases result : results index with
  | noClient error => exact ⟨_, rfl, rfl, rfl⟩
  | noReply client text =>
      simp only [result, Program.execute_bind, Program.execute_perform, Program.execute_pure,
        Execution.andThen, answerHook]
      exact ⟨_, rfl, rfl, rfl⟩
  | replied client notification =>
      obtain ⟨request, response⟩ := notification
      simp only [result, Program.execute_bind, Program.execute_perform, Execution.andThen,
        answerHook]
      cases response with
      | none => exact ⟨_, rfl, rfl, rfl⟩
      | some response =>
          obtain ⟨uid, status⟩ := response
          cases status with
          | none => exact ⟨_, rfl, rfl, rfl⟩
          | some status =>
              simp only [Attempt.ruling, Option.elim, statusRuling]
              by_cases failed : 500 ≤ status.code
              · simp only [if_pos failed]
                exact ⟨_, rfl, rfl, rfl⟩
              · simp only [if_neg failed]
                by_cases succeeded : status.status = statusSuccess
                · simp only [if_pos succeeded]
                  exact ⟨_, rfl, rfl, rfl⟩
                · simp only [if_neg succeeded]
                  exact ⟨_, rfl, rfl, rfl⟩

theorem hookCondition_finishes {index : Nat} {answer : Bool × Option HookError}
    (ruled : ((results index).ruling quote webhook.name).answer = .ok answer) :
    Finishes ((hookCondition quote webhook mxjob).execute (answerHook uuids results) index)
      answer 1 [] (index + 1) := by
  obtain ⟨trace, executed, attempts, sent⟩ :=
    @hookCondition_execute quote webhook mxjob uuids results index
  rw [executed]
  exact ⟨ruled, attempts, sent, rfl⟩

theorem hookCondition_panics {index : Nat}
    (ruled : (results index).ruling quote webhook.name = .panics) :
    Panics ((hookCondition quote webhook mxjob).execute (answerHook uuids results) index) := by
  obtain ⟨trace, executed, _, sent⟩ :=
    @hookCondition_execute quote webhook mxjob uuids results index
  rw [executed, ruled]
  exact ⟨rfl, sent⟩

/-! ### The backoff -/

/-- From attempt `index` on, `made` of at most `remaining` attempts end in
`result`. -/
inductive Settles (ruling : Nat → Ruling) : Nat → Nat → Nat → Option HookError → Prop where
  | exhausted (index : Nat) : Settles ruling index 0 0 (some .waitTimeout)
  | stopped {index remaining : Nat} {result : Option HookError}
      (stop : ruling index = .stop result) : Settles ruling index (remaining + 1) 1 result
  | retried {index remaining made : Nat} {result : Option HookError}
      (retry : ruling index = .retry)
      (rest : Settles ruling (index + 1) remaining made result) :
      Settles ruling index (remaining + 1) (made + 1) result

theorem Settles.retries {ruling : Nat → Ruling} {index remaining made : Nat}
    {result : Option HookError} (settles : Settles ruling index remaining made result) :
    ∃ retries ≤ remaining, (∀ round < retries, ruling (index + round) = .retry) ∧
      (retries < remaining ∧ ruling (index + retries) = .stop result ∧ made = retries + 1 ∨
        retries = remaining ∧ made = remaining ∧ result = some .waitTimeout) := by
  induction settles with
  | exhausted index => exact ⟨0, le_refl 0, by simp, .inr ⟨rfl, rfl, rfl⟩⟩
  | stopped stop => exact ⟨0, Nat.zero_le _, by simp, .inl ⟨Nat.succ_pos _, stop, rfl⟩⟩
  | @retried index remaining made result retry rest inductionHypothesis =>
      obtain ⟨retries, bound, before, last⟩ := inductionHypothesis
      refine ⟨retries + 1, Nat.succ_le_succ bound, ?_, ?_⟩
      · intro round earlier
        cases round with
        | zero => exact retry
        | succ round =>
            have next := before round (Nat.lt_of_succ_lt_succ earlier)
            rwa [Nat.add_right_comm] at next
      · rw [Nat.add_assoc, Nat.add_comm 1] at last
        rcases last with ⟨early, stop, rfl⟩ | ⟨rfl, rfl, timeout⟩
        · exact .inl ⟨Nat.succ_lt_succ early, stop, rfl⟩
        · exact .inr ⟨rfl, rfl, timeout⟩

/-- Every round but the first sleeps; that is no attempt. -/
theorem backoffPause_finishes {backoff : Backoff} {round duration index : Nat} :
    ∃ next, Finishes ((backoffPause backoff round duration).execute (answerHook uuids results) index)
      next 0 [] index := by
  unfold backoffPause
  split
  · exact ⟨_, rfl, rfl, rfl, rfl⟩
  · exact ⟨_, rfl, rfl, rfl, rfl⟩

/-- The rounds left settle the delivery: the next round stops it, or leaves it
to the rounds after. -/
theorem exponentialBackoffFrom_settles {backoff : Backoff} {remaining round duration index : Nat}
    (safe : ∀ later < remaining,
      (∀ earlier < later, (results (index + earlier)).ruling quote webhook.name = .retry) →
        (results (index + later)).ruling quote webhook.name ≠ .panics) :
    ∃ made result,
      Settles (fun round => (results round).ruling quote webhook.name) index remaining made result ∧
        Finishes ((exponentialBackoffFrom backoff (hookCondition quote webhook mxjob) remaining
          round duration).execute (answerHook uuids results) index) result made []
          (index + made) := by
  induction remaining generalizing round duration index with
  | zero => exact ⟨0, _, .exhausted index, rfl, rfl, rfl, rfl⟩
  | succ remaining inductionHypothesis =>
      rw [exponentialBackoffFrom]
      obtain ⟨next, paused⟩ : ∃ next, Finishes ((backoffPause backoff round duration).execute
        (answerHook uuids results) index) next 0 [] index := backoffPause_finishes
      cases ruled : (results index).ruling quote webhook.name with
      | retry =>
          have tried : Finishes ((hookCondition quote webhook mxjob).execute
              (answerHook uuids results) index) (false, none) 1 [] (index + 1) :=
            hookCondition_finishes (by rw [ruled]; rfl)
          have later : ∀ later < remaining,
              (∀ earlier < later,
                (results (index + 1 + earlier)).ruling quote webhook.name = .retry) →
              (results (index + 1 + later)).ruling quote webhook.name ≠ .panics := by
            intro later bound before
            rw [Nat.add_assoc, Nat.add_comm 1]
            refine safe (later + 1) (Nat.succ_lt_succ bound) fun earlier within => ?_
            cases earlier with
            | zero => exact ruled
            | succ earlier =>
                rw [Nat.add_comm earlier, ← Nat.add_assoc]
                exact before earlier (Nat.lt_of_succ_lt_succ within)
          obtain ⟨made, result, settles, finishes⟩ := @inductionHypothesis (round + 1) next _ later
          refine ⟨made + 1, result, .retried ruled settles, ?_⟩
          rw [Nat.add_comm made, ← Nat.add_assoc index, ← Nat.zero_add (1 + made)]
          exact paused.bind (tried.bind finishes)
      | stop result =>
          have tried : Finishes ((hookCondition quote webhook mxjob).execute
              (answerHook uuids results) index) (result.isNone, result) 1 [] (index + 1) :=
            hookCondition_finishes (by rw [ruled]; rfl)
          refine ⟨1, result, .stopped ruled, ?_⟩
          show Finishes _ result (0 + (1 + 0)) ([] ++ ([] ++ [])) (index + 1)
          cases result with
          | none => exact paused.bind (tried.bind .pure)
          | some error => exact paused.bind (tried.bind .pure)
      | panics => exact absurd ruled (safe 0 (Nat.succ_pos _) (by simp))

/-- An attempt without a status that is made, because all before it are retried,
brings the process down. -/
theorem exponentialBackoffFrom_panics {backoff : Backoff}
    {remaining round duration index later : Nat} (bound : later < remaining)
    (before : ∀ earlier < later, (results (index + earlier)).ruling quote webhook.name = .retry)
    (panics : (results (index + later)).ruling quote webhook.name = .panics) :
    Panics ((exponentialBackoffFrom backoff (hookCondition quote webhook mxjob) remaining
      round duration).execute (answerHook uuids results) index) := by
  induction remaining generalizing round duration index later with
  | zero => exact absurd bound (Nat.not_lt_zero later)
  | succ remaining inductionHypothesis =>
      rw [exponentialBackoffFrom]
      obtain ⟨next, paused⟩ : ∃ next, Finishes ((backoffPause backoff round duration).execute
        (answerHook uuids results) index) next 0 [] index := backoffPause_finishes
      refine paused.bind_panics ?_
      cases later with
      | zero => exact (hookCondition_panics panics).bind
      | succ later =>
          have tried : Finishes ((hookCondition quote webhook mxjob).execute
              (answerHook uuids results) index) (false, none) 1 [] (index + 1) :=
            hookCondition_finishes (congrArg Ruling.answer (before 0 (Nat.succ_pos later)))
          refine tried.bind_panics (@inductionHypothesis _ _ _ later
            (Nat.lt_of_succ_lt_succ bound) (fun earlier within => ?_) ?_)
          · rw [Nat.add_assoc, Nat.add_comm 1]
            exact before (earlier + 1) (Nat.succ_lt_succ within)
          · rw [Nat.add_assoc, Nat.add_comm 1]
            exact panics

end Delivery

/-! ### The delivery -/

/-- `callHookAsync` against surroundings in which no attempt was made yet. -/
def delivery (quote : String → String) (mxjob : MXJob) (startOrFinish : Bool)
    (uuids : Nat → String) (results : Nat → Attempt) : HookExecution Unit :=
  (callHookAsync quote mxjob startOrFinish).execute (answerHook uuids results) 0

section Deliveries

variable {quote : String → String} {mxjob : MXJob} {startOrFinish : Bool} {uuids : Nat → String}
  {results : Nat → Attempt}

theorem delivery_returns
    (ended : (delivery quote mxjob startOrFinish uuids results).outcome = .ok ()) :
    (callHookAsync quote mxjob startOrFinish).Returns
      (delivery quote mxjob startOrFinish uuids results).trace () := by
  have path : (callHookAsync quote mxjob startOrFinish).Path _
      (Program.ending (delivery quote mxjob startOrFinish uuids results).outcome) :=
    Program.path_execute _ 0
  rw [ended] at path
  exact path

/-- A finalizer goroutine that waits for the result finds a value and goes on to
the update of its job, whatever comes of that. -/
def GoesOn (task : FinalizerTask) (sent : List (Option HookError)) : Prop :=
  ∀ past, (finalizer task).Issues past .awaitHook →
    sent ≠ [] ∧ ∀ error : Option ApiError, (finalizer task).Returns
      (past ++ [⟨.awaitHook, ()⟩, ⟨.updateMXJob task.cleared, error⟩, ⟨.leaveGroup task.key, ()⟩]) ()

/-- The wait for the finish webhook is the last thing on its way. -/
theorem callFinishHook_resumes {mxjob : MXJob} {past : List Call}
    (waiting : (callFinishHook mxjob).Issues past .awaitHook) :
    (callFinishHook mxjob).Returns (past ++ [⟨.awaitHook, ()⟩]) () := by
  unfold callFinishHook at waiting ⊢
  split at waiting
  · exact absurd waiting Program.issues_pure
  · rename_i unfinished
    simp only [Program.issues_bind, issues_ask, returns_ask, Program.issues_pure, reduceCtorEq,
      and_false, exists_false, or_false, false_or, and_true] at waiting
    obtain ⟨_, _, _, rfl, rfl, rfl⟩ := waiting
    rw [if_neg unfinished]
    exact .step _ (.step _ (.stop _))

theorem goesOn_of_sent {task : FinalizerTask} {sent : List (Option HookError)}
    (received : sent ≠ []) : GoesOn task sent := by
  intro past waiting
  refine ⟨received, fun error => ?_⟩
  simp only [finalizer, Program.issues_bind, issues_ask, returns_ask, reduceCtorEq, and_false,
    false_or] at waiting
  obtain ⟨leads, _, inside, rfl, rfl, waiting⟩ := waiting
  cases leads with
  | false => exact absurd waiting Program.issues_pure
  | true =>
      simp only [Program.issues_bind, issues_ask, returns_ask, Program.issues_pure, and_false,
        exists_false, or_false, reduceCtorEq] at waiting
      rw [finalizer, List.append_assoc]
      refine Program.returns_bind.mpr ⟨true, _, _, rfl, returns_ask.mpr rfl, ?_⟩
      rw [List.append_cons]
      exact Program.returns_bind.mpr ⟨(), _, _, rfl, callFinishHook_resumes waiting,
        .step _ (.step _ (.stop _))⟩

theorem delivery_none (absent : hookOf mxjob startOrFinish = none) :
    Finishes (delivery quote mxjob startOrFinish uuids results) () 0 [none] 0 := by
  rw [delivery, callHookAsync, absent]
  exact ⟨rfl, rfl, rfl, rfl⟩

/-- Every attempt that is made, because the webhook is there and all attempts
before it are retried, brings a status with its response. -/
def Stated (quote : String → String) (mxjob : MXJob) (startOrFinish : Bool)
    (results : Nat → Attempt) : Prop :=
  ∀ webhook, hookOf mxjob startOrFinish = some webhook → ∀ index < 5,
    (∀ earlier < index, (results earlier).ruling quote webhook.name = .retry) →
      (results index).hasStatus = true

theorem delivery_some {webhook : Webhook} (present : hookOf mxjob startOrFinish = some webhook)
    (stated : Stated quote mxjob startOrFinish results) :
    ∃ made result, Settles (fun round => (results round).ruling quote webhook.name) 0 5 made result ∧
      Finishes (delivery quote mxjob startOrFinish uuids results) () made [result] made := by
  have safe : ∀ later < 5,
      (∀ earlier < later, (results (0 + earlier)).ruling quote webhook.name = .retry) →
        (results (0 + later)).ruling quote webhook.name ≠ .panics := by
    simp only [Nat.zero_add]
    intro later bound before panics
    have missing := Attempt.ruling_eq_panics.mp panics
    rw [stated webhook present later bound before] at missing
    cases missing
  obtain ⟨made, result, settles, finishes⟩ :=
    @exponentialBackoffFrom_settles quote webhook mxjob uuids results hookBackoff 5 0
      hookBackoff.duration 0 safe
  rw [Nat.zero_add] at finishes
  refine ⟨made, result, settles, ?_⟩
  rw [delivery, callHookAsync, present]
  have sending : Finishes ((do
      let _ ← askHook (.send result)
      pure ()).execute (answerHook uuids results) made) () 0 [result] made := ⟨rfl, rfl, rfl, rfl⟩
  show Finishes _ () (made + 0) ([] ++ [result]) made
  exact finishes.bind sending

theorem delivery_panics (unstated : ¬ Stated quote mxjob startOrFinish results) :
    Panics (delivery quote mxjob startOrFinish uuids results) := by
  unfold Stated at unstated
  push Not at unstated
  obtain ⟨webhook, present, index, bound, before, missing⟩ := unstated
  rw [delivery, callHookAsync, present]
  refine Panics.bind (exponentialBackoffFrom_panics bound ?_ ?_)
  · simpa only [Nat.zero_add] using before
  · rw [Nat.zero_add]
    exact Attempt.ruling_eq_panics.mpr (Bool.not_eq_true _ ▸ missing)

/-- A delivery as promised: it ends without a panic after at most five attempts,
with one value on its channel, for which the finalizer goroutine waits.  The
value is nil at once without a webhook, and otherwise what the first attempt
that is not retried says, or the timeout when all five are. -/
structure Delivered (quote : String → String) (mxjob : MXJob) (startOrFinish : Bool)
    (uuids : Nat → String) (results : Nat → Attempt) : Prop where
  outcome : (delivery quote mxjob startOrFinish uuids results).outcome = .ok ()
  returns : (callHookAsync quote mxjob startOrFinish).Returns
    (delivery quote mxjob startOrFinish uuids results).trace ()
  bounded : attemptsMade (delivery quote mxjob startOrFinish uuids results).trace ≤ 5
  unhooked : hookOf mxjob startOrFinish = none →
    attemptsMade (delivery quote mxjob startOrFinish uuids results).trace = 0 ∧
      sentOf (delivery quote mxjob startOrFinish uuids results).trace = [none]
  hooked : ∀ webhook, hookOf mxjob startOrFinish = some webhook →
    ∃ retries ≤ 5, ∃ result,
      (∀ index < retries, (results index).ruling quote webhook.name = .retry) ∧
      sentOf (delivery quote mxjob startOrFinish uuids results).trace = [result] ∧
      (retries < 5 ∧ (results retries).ruling quote webhook.name = .stop result ∧
          attemptsMade (delivery quote mxjob startOrFinish uuids results).trace = retries + 1 ∨
        retries = 5 ∧ result = some .waitTimeout ∧
          attemptsMade (delivery quote mxjob startOrFinish uuids results).trace = 5)
  goesOn : ∀ index, GoesOn ⟨mxjob, index⟩
    (sentOf (delivery quote mxjob startOrFinish uuids results).trace)

theorem delivered_none (absent : hookOf mxjob startOrFinish = none) :
    Delivered quote mxjob startOrFinish uuids results := by
  have finishes := @delivery_none quote mxjob startOrFinish uuids results absent
  have returned := delivery_returns finishes.outcome
  constructor
  case outcome => exact finishes.outcome
  case returns => exact returned
  case bounded =>
    rw [finishes.attempts]
    exact Nat.zero_le 5
  case unhooked => exact fun _ => ⟨finishes.attempts, finishes.sent⟩
  case hooked =>
    intro webhook present
    cases absent.symm.trans present
  case goesOn =>
    rw [finishes.sent]
    exact fun index => goesOn_of_sent (List.cons_ne_nil _ _)

theorem delivered_some {webhook : Webhook} (present : hookOf mxjob startOrFinish = some webhook)
    (stated : Stated quote mxjob startOrFinish results) :
    Delivered quote mxjob startOrFinish uuids results := by
  obtain ⟨made, result, settles, finishes⟩ :=
    @delivery_some quote mxjob startOrFinish uuids results webhook present stated
  obtain ⟨retries, bound, before, last⟩ := settles.retries
  simp only [Nat.zero_add] at before last
  have returned := delivery_returns finishes.outcome
  constructor
  case outcome => exact finishes.outcome
  case returns => exact returned
  case bounded =>
    rw [finishes.attempts]
    omega
  case unhooked =>
    intro absent
    cases absent.symm.trans present
  case hooked =>
    intro same again
    obtain rfl := Option.some.inj (again.symm.trans present)
    rw [finishes.attempts, finishes.sent]
    refine ⟨retries, bound, result, before, rfl, ?_⟩
    rcases last with ⟨early, stop, count⟩ | ⟨all, count, timeout⟩
    · exact .inl ⟨early, stop, count⟩
    · exact .inr ⟨all, timeout, count⟩
  case goesOn =>
    rw [finishes.sent]
    exact fun index => goesOn_of_sent (List.cons_ne_nil _ _)

end Deliveries

/-- A delivery is as promised if and only if no attempt that is made gets a
response without a status; otherwise it panics and sends nothing. -/
theorem delivery_total (quote : String → String) (mxjob : MXJob) (startOrFinish : Bool)
    (uuids : Nat → String) (results : Nat → Attempt) :
    (Delivered quote mxjob startOrFinish uuids results ↔
      Stated quote mxjob startOrFinish results) ∧
    (¬ Stated quote mxjob startOrFinish results →
      (delivery quote mxjob startOrFinish uuids results).outcome = .error .panicked ∧
        sentOf (delivery quote mxjob startOrFinish uuids results).trace = []) := by
  have fails : ¬ Stated quote mxjob startOrFinish results →
      Panics (delivery quote mxjob startOrFinish uuids results) := delivery_panics
  refine ⟨⟨fun delivered => ?_, fun stated => ?_⟩, fun unstated =>
    ⟨(fails unstated).outcome, (fails unstated).sent⟩⟩
  · by_contra unstated
    have ended := delivered.outcome
    rw [(fails unstated).outcome] at ended
    cases ended
  · cases hook : hookOf mxjob startOrFinish with
    | none => exact delivered_none hook
    | some webhook => exact delivered_some hook stated

/-! ### Sample deliveries -/

def hookedJob : MXJob :=
  { sampleJob with
    spec := { sampleJob.spec with finishWebhook := some ⟨"notify", none, none, none⟩ } }

def sampleClient : RESTClient :=
  newRESTClient ⟨Url.bytes "http", [], Url.bytes "example.com", [], []⟩ (Url.bytes "/") .zero

def replyWith (result : Option Status) : Attempt :=
  .replied sampleClient ⟨none, some ⟨"", result⟩⟩

/-- No client at first, then an overloaded server, then success. -/
def flakyResults : Nat → Attempt
  | 0 => .noClient (.plain "connection refused")
  | 1 => replyWith (some ⟨"Failure", "overloaded", "", 503⟩)
  | _ => replyWith (some ⟨statusSuccess, "", "", 200⟩)

theorem delivery_total_flakyResults :
    Stated id hookedJob false flakyResults ∧
      (delivery id hookedJob false (fun _ => "") flakyResults).outcome = .ok () ∧
      attemptsMade (delivery id hookedJob false (fun _ => "") flakyResults).trace = 3 ∧
      sentOf (delivery id hookedJob false (fun _ => "") flakyResults).trace = [none] := by
  have stated : Stated id hookedJob false flakyResults := by
    have all : ∀ index < 5, (flakyResults index).hasStatus = true := by decide
    exact fun _ _ index bound _ => all index bound
  exact ⟨stated,
    ((delivery_total id hookedJob false (fun _ => "") flakyResults).1.mpr stated).outcome,
    by decide +kernel, by decide +kernel⟩

/-- A response without a status brings the process down: nothing is sent. -/
theorem statusless_response_panics :
    (delivery id hookedJob false (fun _ => "") fun _ => replyWith none).outcome =
        .error .panicked ∧
      sentOf (delivery id hookedJob false (fun _ => "") fun _ => replyWith none).trace = [] :=
  ⟨rfl, rfl⟩

end MXNetOperator.Property
