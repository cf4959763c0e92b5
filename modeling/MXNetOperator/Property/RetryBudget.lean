import MXNetOperator.Property.WorkerExclusion

/-!
Contract: how often and how late a failing key is retried.

The log says how many calls for a key failed in a row; `Counted` ties that to
the counter of the rate limiter.  A key is retried fifteen times and dropped
after the sixteenth failure, whereupon the counting starts again; the delays
double and never reach the cap.
-/

namespace MXNetOperator.Property

open MXNetOperator.Queue MXNetOperator.Sdk MXNetOperator.Interaction

variable {Key Object : Type}

/-- Within the budget the doubled delay stays below the cap. -/
theorem delay_eq {limiter : FailureLimiter Key} {failures : Nat}
    (limits : limiter.baseDelay = 5000000 ∧ limiter.maxDelay = 1000000000000)
    (left : failures < maxRetries) : limiter.delay failures = 5000000 * 2 ^ failures := by
  have power : 2 ^ failures ≤ 2 ^ 14 := by
    apply Nat.pow_le_pow_right (by decide)
    rw [maxRetries] at left
    omega
  unfold FailureLimiter.delay
  rw [limits.1, limits.2]
  rw [if_neg (by omega), if_neg (by omega)]

variable [DecidableEq Key]

/-- The failures of the key since its last success, in a log with the newest
record first. -/
def streak (key : Key) : List (Record Key Object) → Nat
  | [] => 0
  | record :: older =>
      if record.key = key then
        if record.failed then streak key older + 1 else 0
      else streak key older

section Streak

variable {key other : Key} {object : Option Object} {live : Bool} {log : List (Record Key Object)}

theorem streak_failed : streak key (⟨key, object, live, true⟩ :: log) = streak key log + 1 := by
  simp [streak]

theorem streak_succeeded : streak key (⟨key, object, live, false⟩ :: log) = 0 := by
  simp [streak]

theorem streak_other {failed : Bool} (different : other ≠ key) :
    streak key (⟨other, object, live, failed⟩ :: log) = streak key log := by
  simp [streak, different]

end Streak

variable {keyOf : Object → Key} {informer next : Informer Key Object}

/-- No worker is about to tell the limiter how a call for the key went. -/
def Told (informer : Informer Key Object) (key : Key) : Prop :=
  ∀ worker failed, informer.workers worker ≠ .settling key failed

structure Counted (informer : Informer Key Object) : Prop where
  limits : informer.limiter.baseDelay = 5000000 ∧ informer.limiter.maxDelay = 1000000000000
  bounded : ∀ key, informer.limiter.failures key ≤ maxRetries
  told : ∀ key, Told informer key → informer.limiter.failures key = streak key informer.log % 16
  failing : ∀ worker key, informer.workers worker = .settling key true →
    0 < streak key informer.log ∧
      informer.limiter.failures key = (streak key informer.log - 1) % 16
  succeeding : ∀ worker key, informer.workers worker = .settling key false →
    streak key informer.log = 0

theorem Counted.initial : Counted (Informer.initial : Informer Key Object) where
  limits := ⟨rfl, rfl⟩
  bounded := fun _ => Nat.zero_le _
  told := fun _ _ => rfl
  failing := fun _ _ impossible => by cases impossible
  succeeding := fun _ _ impossible => by cases impossible

/-- A step that touches neither the limiter nor the log, and after which the
workers that settle a key are where they were. -/
theorem Counted.keep (counted : Counted informer) (limiter : next.limiter = informer.limiter)
    (log : next.log = informer.log)
    (settling : ∀ worker key failed, next.workers worker = .settling key failed ↔
      informer.workers worker = .settling key failed) : Counted next where
  limits := by
    rw [limiter]
    exact counted.limits
  bounded := by
    rw [limiter]
    exact counted.bounded
  told := by
    intro key told
    rw [limiter, log]
    apply counted.told
    intro worker failed phase
    exact told worker failed ((settling worker key failed).mpr phase)
  failing := by
    intro worker key phase
    rw [limiter, log]
    exact counted.failing worker key ((settling worker key true).mp phase)
  succeeding := by
    intro worker key phase
    rw [log]
    exact counted.succeeding worker key ((settling worker key false).mp phase)

/-- A worker that moves between phases in which nothing is counted. -/
theorem Counted.move {worker : Nat} {phase : Phase Key Object} (counted : Counted informer)
    (limiter : next.limiter = informer.limiter) (log : next.log = informer.log)
    (workers : next.workers = (informer.setWorker worker phase).workers)
    (before : ∀ key failed, informer.workers worker ≠ .settling key failed)
    (after : ∀ key failed, phase ≠ .settling key failed) : Counted next := by
  apply counted.keep limiter log
  intro other key failed
  rw [workers]
  by_cases isWorker : other = worker
  · rw [isWorker, Informer.setWorker_self]
    exact iff_of_false (after key failed) (before key failed)
  · rw [Informer.setWorker_other isWorker]

section Steps

variable {worker : Nat} {key : Key} {object : Option Object} {live failed : Bool}
  {phase : Phase Key Object}

/-- A call for the key returned, and the limiter is not told yet. -/
theorem Counted.record (counted : Counted informer) (exclusive : KeyExclusive informer)
    (before : informer.workers worker = phase) (holds : phase.held = some key)
    (unsettled : ∀ key failed, phase ≠ .settling key failed)
    (limiter : next.limiter = informer.limiter)
    (log : next.log = ⟨key, object, live, failed⟩ :: informer.log)
    (workers : next.workers = (informer.setWorker worker (.settling key failed)).workers) :
    Counted next := by
  have untold : Told informer key := by
    intro other outcome settles
    have same := exclusive.same_worker settles before rfl holds
    rw [same, before] at settles
    exact unsettled key outcome settles
  -- the other workers settle other keys, whose streaks are as before
  have others : ∀ other otherKey outcome, other ≠ worker →
      next.workers other = .settling otherKey outcome →
        informer.workers other = .settling otherKey outcome ∧
          streak otherKey next.log = streak otherKey informer.log := by
    intro other otherKey outcome different settles
    rw [workers, Informer.setWorker_other different] at settles
    refine ⟨settles, ?_⟩
    rw [log]
    apply streak_other
    rintro rfl
    exact different (exclusive.same_worker settles before rfl holds)
  have own : next.workers worker = .settling key failed := by
    rw [workers, Informer.setWorker_self]
  refine ⟨?_, ?_, ?_, ?_, ?_⟩
  · rw [limiter]
    exact counted.limits
  · rw [limiter]
    exact counted.bounded
  · intro otherKey told
    have different : key ≠ otherKey := by
      rintro rfl
      exact told worker failed own
    rw [limiter, log, streak_other different]
    apply counted.told
    intro other outcome settles
    by_cases isWorker : other = worker
    · rw [isWorker, before] at settles
      exact unsettled otherKey outcome settles
    · apply told other outcome
      rw [workers, Informer.setWorker_other isWorker]
      exact settles
  · intro other otherKey settles
    by_cases isWorker : other = worker
    · rw [isWorker, own] at settles
      cases settles
      rw [limiter, log, streak_failed, counted.told key untold]
      exact ⟨Nat.succ_pos _, rfl⟩
    · obtain ⟨settled, same⟩ := others other otherKey true isWorker settles
      rw [limiter, same]
      exact counted.failing other otherKey settled
  · intro other otherKey settles
    by_cases isWorker : other = worker
    · rw [isWorker, own] at settles
      cases settles
      rw [log, streak_succeeded]
    · obtain ⟨settled, same⟩ := others other otherKey false isWorker settles
      rw [same]
      exact counted.succeeding other otherKey settled

/-- The limiter is told about the key and counts it as the log does. -/
theorem Counted.tell (counted : Counted informer) (exclusive : KeyExclusive informer)
    (before : informer.workers worker = .settling key failed)
    (after : ∀ key failed, phase ≠ .settling key failed)
    (limits : next.limiter.baseDelay = informer.limiter.baseDelay ∧
      next.limiter.maxDelay = informer.limiter.maxDelay)
    (others : ∀ other, other ≠ key →
      next.limiter.failures other = informer.limiter.failures other)
    (bounded : next.limiter.failures key ≤ maxRetries)
    (counts : next.limiter.failures key = streak key informer.log % 16)
    (log : next.log = informer.log)
    (workers : next.workers = (informer.setWorker worker phase).workers) : Counted next := by
  have settled : ∀ other otherKey outcome, next.workers other = .settling otherKey outcome →
      informer.workers other = .settling otherKey outcome ∧ otherKey ≠ key := by
    intro other otherKey outcome settles
    have different : other ≠ worker := by
      rintro rfl
      rw [workers, Informer.setWorker_self] at settles
      exact after otherKey outcome settles
    rw [workers, Informer.setWorker_other different] at settles
    refine ⟨settles, ?_⟩
    rintro rfl
    exact different (exclusive.same_worker settles before rfl rfl)
  refine ⟨?_, ?_, ?_, ?_, ?_⟩
  · rw [limits.1, limits.2]
    exact counted.limits
  · intro other
    by_cases same : other = key
    · rw [same]
      exact bounded
    · rw [others other same]
      exact counted.bounded other
  · intro other told
    rw [log]
    by_cases same : other = key
    · rw [same]
      exact counts
    · rw [others other same]
      apply counted.told
      intro index outcome settles
      by_cases isWorker : index = worker
      · rw [isWorker, before] at settles
        cases settles
        exact same rfl
      · apply told index outcome
        rw [workers, Informer.setWorker_other isWorker]
        exact settles
  · intro other otherKey settles
    obtain ⟨settling, different⟩ := settled other otherKey true settles
    rw [others otherKey different, log]
    exact counted.failing other otherKey settling
  · intro other otherKey settles
    rw [log]
    exact counted.succeeding other otherKey (settled other otherKey false settles).1

end Steps

theorem Counted.stepped {action : Informer.Action Key Object} (counted : Counted informer)
    (exclusive : KeyExclusive informer)
    (stepped : Informer.Stepped keyOf informer action next) : Counted next := by
  cases stepped with
  | idle => exact counted
  | observe delta => exact counted.keep rfl rfl fun _ _ _ => Iff.rfl
  | resync key object found => exact counted.keep rfl rfl fun _ _ _ => Iff.rfl
  | notify delta rest deleted oldest whole others =>
      exact counted.keep rfl rfl fun _ _ _ => Iff.rfl
  | crash object rest oldest => exact counted.keep rfl rfl fun _ _ _ => Iff.rfl
  | take worker key rest free taken =>
      exact counted.move rfl rfl rfl (by simp [free]) (by simp)
  | readLive worker key object phase found =>
      exact counted.move rfl rfl rfl (by simp [phase]) (by simp)
  | readDeleted worker key object phase absent known =>
      exact counted.move rfl rfl rfl (by simp [phase]) (by simp)
  | readUnknown worker key phase absent unknown =>
      exact counted.record exclusive phase rfl (by simp) rfl rfl rfl
  | finish worker key object live failed phase =>
      exact counted.record exclusive phase rfl (by simp) rfl rfl rfl
  | forget worker key failed bucket phase ended =>
      have zero : (informer.limiter.forget key).failures key = 0 := Function.update_self ..
      have counts : 0 = streak key informer.log % 16 := by
        cases failed with
        | false => rw [counted.succeeding worker key phase]
        | true =>
            obtain ⟨positive, failures⟩ := counted.failing worker key phase
            have full := ended rfl
            rw [failures, maxRetries] at full
            omega
      exact counted.tell exclusive phase (by simp) ⟨rfl, rfl⟩
        (fun other different => Function.update_of_ne different ..)
        (zero.le.trans (Nat.zero_le _)) (zero.trans counts) rfl rfl
  | retry worker key bucket phase left =>
      have raised : (informer.limiter.failed key).failures key =
          informer.limiter.failures key + 1 := Function.update_self ..
      obtain ⟨positive, failures⟩ := counted.failing worker key phase
      have counts : informer.limiter.failures key + 1 = streak key informer.log % 16 := by
        rw [failures, maxRetries] at left
        omega
      exact counted.tell exclusive phase (by simp) ⟨rfl, rfl⟩
        (fun other different => Function.update_of_ne different ..)
        (raised.le.trans left) (raised.trans counts) rfl rfl
  | requeue worker key delay now queue phase added =>
      exact counted.move rfl rfl rfl (by simp [phase]) (by simp)
  | close worker key phase => exact counted.move rfl rfl rfl (by simp [phase]) (by simp)
  | receive now => exact counted.keep rfl rfl fun _ _ _ => Iff.rfl
  | fire index now => exact counted.keep rfl rfl fun _ _ _ => Iff.rfl
  | cancel => exact counted.keep rfl rfl fun _ _ _ => Iff.rfl

theorem run_failuresCounted {allowed : Informer Key Object → Informer.Action Key Object → Prop}
    {past : List (Informer Key Object)}
    (run : Run (Informer.step keyOf) allowed Informer.initial past informer) :
    KeyExclusive informer ∧ Counted informer := by
  apply run.invariant (fun state => KeyExclusive state ∧ Counted state)
    ⟨KeyExclusive.initial, Counted.initial⟩
  intro current action holds _
  have stepped := Informer.step_stepped keyOf current action
  exact ⟨holds.1.stepped stepped, holds.2.stepped holds.1 stepped⟩

/-- What becomes of a key whose call failed, with `failures` calls failed in a
row: after every sixteenth it is dropped, otherwise it waits. -/
def afterFailure (key : Key) (failures bucket : Nat) : Phase Key Object :=
  if failures % 16 = 0 then .closing key
  else .requeueing key (max (5000000 * 2 ^ ((failures - 1) % 16)) bucket)

/-- The retry budget of a key over any run, with any number of workers: the
limiter never counts more than `maxRetries`, and what happens after a failure
depends on the failures in a row only. -/
theorem failing_key_retried {allowed : Informer Key Object → Informer.Action Key Object → Prop}
    {past : List (Informer Key Object)} {worker : Nat} {key : Key} (bucket : Nat)
    (run : Run (Informer.step keyOf) allowed Informer.initial past informer)
    (running : informer.crashed = false)
    (failed : informer.workers worker = .settling key true) :
    (∀ other, informer.limiter.failures other ≤ maxRetries) ∧
      0 < streak key informer.log ∧
      (informer.step keyOf (.settle worker bucket)).workers worker =
        afterFailure key (streak key informer.log) bucket := by
  obtain ⟨_, counted⟩ := run_failuresCounted run
  obtain ⟨positive, failures⟩ := counted.failing worker key failed
  refine ⟨counted.bounded, positive, ?_⟩
  have settled : informer.step keyOf (.settle worker bucket) =
      informer.settle worker key true bucket := by
    simp only [Informer.step, running, failed, Bool.false_eq_true, if_false]
  rw [settled, Informer.settle, if_neg (by decide), afterFailure]
  by_cases left : informer.limiter.failures key < maxRetries
  · have unfinished : streak key informer.log % 16 ≠ 0 := by
      rw [failures, maxRetries] at left
      omega
    rw [if_pos left, if_neg unfinished, delay_eq counted.limits left, failures]
    exact Informer.setWorker_self
  · have finished : streak key informer.log % 16 = 0 := by
      rw [failures, maxRetries] at left
      omega
    rw [if_neg left, if_pos finished]
    exact Informer.setWorker_self

/-- An object is observed and its first call fails. -/
def firstFailure : List (Informer.Action String String) :=
  [.observe (.upsert "job"), .notify, .take 0, .read 0, .finish 0 true]

theorem failing_key_retried_firstFailure :
    ((firstFailure.foldl (Informer.step id) .initial).step id (.settle 0 0)).workers 0 =
      .requeueing "job" 5000000 := by
  have run : Run (Informer.step id) (fun _ _ => True) Informer.initial _
      (firstFailure.foldl (Informer.step id) .initial) :=
    Run.start.extend (by simp [firstFailure, Run.Permits])
  have failed : (firstFailure.foldl (Informer.step id) .initial).workers 0 =
      .settling "job" true := rfl
  exact (failing_key_retried 0 run rfl failed).2.2

end MXNetOperator.Property
