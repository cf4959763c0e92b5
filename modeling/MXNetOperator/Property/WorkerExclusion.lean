import MXNetOperator.Interaction.System
import MXNetOperator.Sdk.Informer

/-!
Contract: no two workers handle one key at a time.

`KeyExclusive` ties the keys the workers hold to the processing set of the queue.
It is what lets every later invariant speak about the worker of a key.
-/

namespace MXNetOperator.Property

open MXNetOperator.Queue MXNetOperator.Sdk MXNetOperator.Interaction

variable {Key Object : Type} {informer next : Informer Key Object}

/-- The worker has to give the key back. -/
def HoldsKey (informer : Informer Key Object) (worker : Nat) (key : Key) : Prop :=
  (informer.workers worker).held = some key

structure KeyExclusive (informer : Informer Key Object) : Prop where
  sound : informer.queue.work.Sound
  processing : ∀ key, key ∈ informer.queue.work.processing ↔ ∃ worker, HoldsKey informer worker key
  unique : ∀ left right key, HoldsKey informer left key → HoldsKey informer right key → left = right

theorem KeyExclusive.initial : KeyExclusive (Informer.initial : Informer Key Object) where
  sound := WorkQueue.Sound.empty
  processing := by simp [Informer.initial, DelayingQueue.empty, WorkQueue.empty, HoldsKey, Phase.held]
  unique := by simp [Informer.initial, HoldsKey, Phase.held]

/-- A step after which every worker holds what it held before. -/
theorem KeyExclusive.keep (exclusive : KeyExclusive informer) (sound : next.queue.work.Sound)
    (processing : next.queue.work.processing = informer.queue.work.processing)
    (held : ∀ worker, (next.workers worker).held = (informer.workers worker).held) :
    KeyExclusive next where
  sound := sound
  processing := by
    intro key
    rw [processing, exclusive.processing]
    simp only [HoldsKey, held]
  unique := by
    intro left right key holdsLeft holdsRight
    rw [HoldsKey, held] at holdsLeft holdsRight
    exact exclusive.unique left right key holdsLeft holdsRight

theorem held_setWorker {worker : Nat} {phase : Phase Key Object}
    (same : phase.held = (informer.workers worker).held) (other : Nat) :
    ((informer.setWorker worker phase).workers other).held = (informer.workers other).held := by
  by_cases isWorker : other = worker
  · rw [isWorker, Informer.setWorker_self, same]
  · rw [Informer.setWorker_other isWorker]

/-- Two workers that hold one key are the same one. -/
theorem KeyExclusive.same_worker {left right : Nat} {key : Key} {leftPhase rightPhase : Phase Key Object}
    (exclusive : KeyExclusive informer) (isLeft : informer.workers left = leftPhase)
    (isRight : informer.workers right = rightPhase) (holdsLeft : leftPhase.held = some key)
    (holdsRight : rightPhase.held = some key) : left = right := by
  apply exclusive.unique left right key
  · rw [HoldsKey, isLeft, holdsLeft]
  · rw [HoldsKey, isRight, holdsRight]

variable [DecidableEq Key] {keyOf : Object → Key}

theorem KeyExclusive.take {worker : Nat} {key : Key} {rest : WorkQueue Key}
    (exclusive : KeyExclusive informer) (free : informer.workers worker = .idle)
    (taken : WorkQueue.Taken informer.queue.work key rest) :
    KeyExclusive { informer.setWorker worker (.taken key) with
      queue := { informer.queue with work := rest } } where
  sound := taken.sound exclusive.sound
  processing := by
    intro other
    show other ∈ rest.processing ↔
      ∃ index, (Function.update informer.workers worker (.taken key) index).held = some other
    rw [taken.processing, Finset.mem_insert, exclusive.processing]
    constructor
    · rintro (rfl | ⟨index, holds⟩)
      · exact ⟨worker, by rw [Function.update_self]; rfl⟩
      · have apart : index ≠ worker := by
          rintro rfl
          rw [HoldsKey, free] at holds
          cases holds
        exact ⟨index, by rw [Function.update_of_ne apart]; exact holds⟩
    · rintro ⟨index, holds⟩
      by_cases isWorker : index = worker
      · rw [isWorker, Function.update_self] at holds
        exact Or.inl (Option.some.inj holds).symm
      · rw [Function.update_of_ne isWorker] at holds
        exact Or.inr ⟨index, holds⟩
  unique := by
    -- a key that some worker holds is not in the queue, so it is not taken again
    have fresh : ∀ index, ¬ HoldsKey informer index key := fun index holds =>
      taken.free exclusive.sound ((exclusive.processing key).mpr ⟨index, holds⟩)
    intro left right other holdsLeft holdsRight
    change (Function.update informer.workers worker (.taken key) left).held = _ at holdsLeft
    change (Function.update informer.workers worker (.taken key) right).held = _ at holdsRight
    by_cases isLeft : left = worker
    · by_cases isRight : right = worker
      · rw [isLeft, isRight]
      · rw [isLeft, Function.update_self] at holdsLeft
        rw [Function.update_of_ne isRight, ← holdsLeft] at holdsRight
        exact absurd holdsRight (fresh right)
    · rw [Function.update_of_ne isLeft] at holdsLeft
      by_cases isRight : right = worker
      · rw [isRight, Function.update_self] at holdsRight
        rw [← holdsRight] at holdsLeft
        exact absurd holdsLeft (fresh left)
      · rw [Function.update_of_ne isRight] at holdsRight
        exact exclusive.unique left right other holdsLeft holdsRight

theorem KeyExclusive.close {worker : Nat} {key : Key} (exclusive : KeyExclusive informer)
    (phase : informer.workers worker = .closing key) :
    KeyExclusive { informer.setWorker worker .idle with
      queue := { informer.queue with work := informer.queue.work.done key } } := by
  have holds : HoldsKey informer worker key := by
    rw [HoldsKey, phase]
    rfl
  -- what a worker holds afterwards it held before, and it is not this worker
  have held : ∀ index other,
      (Function.update informer.workers worker .idle index).held = some other →
        index ≠ worker ∧ HoldsKey informer index other := by
    intro index other holdsOther
    by_cases isWorker : index = worker
    · rw [isWorker, Function.update_self] at holdsOther
      cases holdsOther
    · rw [Function.update_of_ne isWorker] at holdsOther
      exact ⟨isWorker, holdsOther⟩
  refine ⟨exclusive.sound.done ((exclusive.processing key).mpr ⟨worker, holds⟩), ?_, ?_⟩
  · intro other
    show other ∈ (informer.queue.work.done key).processing ↔
      ∃ index, (Function.update informer.workers worker .idle index).held = some other
    rw [WorkQueue.done_processing, Finset.mem_erase, exclusive.processing]
    constructor
    · rintro ⟨different, index, holdsOther⟩
      have apart : index ≠ worker := by
        rintro rfl
        rw [HoldsKey, phase] at holdsOther
        exact different (Option.some.inj holdsOther).symm
      exact ⟨index, by rw [Function.update_of_ne apart]; exact holdsOther⟩
    · rintro ⟨index, holdsOther⟩
      obtain ⟨apart, before⟩ := held index other holdsOther
      refine ⟨?_, index, before⟩
      rintro rfl
      exact apart (exclusive.unique index worker other before holds)
  · intro left right other holdsLeft holdsRight
    exact exclusive.unique left right other (held left other holdsLeft).2
      (held right other holdsRight).2

theorem KeyExclusive.stepped {action : Informer.Action Key Object} (exclusive : KeyExclusive informer)
    (stepped : Informer.Stepped keyOf informer action next) : KeyExclusive next := by
  cases stepped with
  | idle => exact exclusive
  | observe delta => exact exclusive.keep exclusive.sound rfl fun _ => rfl
  | resync key object found => exact exclusive.keep exclusive.sound rfl fun _ => rfl
  | notify delta rest deleted oldest whole others =>
      exact exclusive.keep (exclusive.sound.add _) WorkQueue.add_processing fun _ => rfl
  | crash object rest oldest => exact exclusive.keep exclusive.sound rfl fun _ => rfl
  | take worker key rest free taken => exact exclusive.take free taken
  | readLive worker key object phase found =>
      exact exclusive.keep exclusive.sound rfl (held_setWorker (by rw [phase]; rfl))
  | readDeleted worker key object phase absent known =>
      exact exclusive.keep exclusive.sound rfl (held_setWorker (by rw [phase]; rfl))
  | readUnknown worker key phase absent unknown =>
      exact exclusive.keep exclusive.sound rfl (held_setWorker (by rw [phase]; rfl))
  | finish worker key object live failed phase =>
      exact exclusive.keep exclusive.sound rfl (held_setWorker (by rw [phase]; rfl))
  | forget worker key failed bucket phase ended =>
      exact exclusive.keep exclusive.sound rfl (held_setWorker (by rw [phase]; rfl))
  | retry worker key bucket phase left =>
      exact exclusive.keep exclusive.sound rfl (held_setWorker (by rw [phase]; rfl))
  | requeue worker key delay now queue phase added =>
      exact exclusive.keep (DelayingQueue.addAfter_sound exclusive.sound added)
        (DelayingQueue.addAfter_processing added) (held_setWorker (by rw [phase]; rfl))
  | close worker key phase => exact exclusive.close phase
  | receive now =>
      exact exclusive.keep (DelayingQueue.receive_sound exclusive.sound now)
        (DelayingQueue.receive_processing now) fun _ => rfl
  | fire index now =>
      exact exclusive.keep (DelayingQueue.fire_sound exclusive.sound index now)
        (DelayingQueue.fire_processing index now) fun _ => rfl
  | cancel => exact exclusive.keep exclusive.sound.shutDown rfl fun _ => rfl

theorem run_keyExclusive {allowed : Informer Key Object → Informer.Action Key Object → Prop}
    {past : List (Informer Key Object)}
    (run : Run (Informer.step keyOf) allowed Informer.initial past informer) :
    KeyExclusive informer :=
  run.invariant KeyExclusive KeyExclusive.initial fun current action exclusive _ =>
    exclusive.stepped (Informer.step_stepped keyOf current action)

/-- Over any run, with any number of workers: a key is in the hands of one worker
at most, it is queued at most once, and it is queued exactly if it needs work
and no worker has it. -/
theorem one_worker_per_key {allowed : Informer Key Object → Informer.Action Key Object → Prop}
    {past : List (Informer Key Object)}
    (run : Run (Informer.step keyOf) allowed Informer.initial past informer) :
    (∀ left right key, HoldsKey informer left key → HoldsKey informer right key → left = right) ∧
      informer.queue.work.queue.Nodup ∧
      ∀ key, key ∈ informer.queue.work.queue ↔
        key ∈ informer.queue.work.dirty ∧ ∀ worker, ¬ HoldsKey informer worker key := by
  have exclusive := run_keyExclusive run
  refine ⟨exclusive.unique, exclusive.sound.nodup, fun key => ?_⟩
  rw [exclusive.sound.mem_queue, exclusive.processing, not_exists]

/-- A key is observed again while a worker has it. -/
def observedTwice : List (Informer.Action String String) :=
  [.observe (.upsert "job"), .notify, .take 0, .observe (.upsert "job"), .notify]

theorem one_worker_per_key_observedTwice :
    HoldsKey (observedTwice.foldl (Informer.step id) .initial) 0 "job" ∧
      "job" ∉ (observedTwice.foldl (Informer.step id) .initial).queue.work.queue := by
  have run : Run (Informer.step id) (fun _ _ => True) Informer.initial _
      (observedTwice.foldl (Informer.step id) .initial) :=
    Run.start.extend (by simp [observedTwice, Run.Permits])
  have holds : HoldsKey (observedTwice.foldl (Informer.step id) .initial) 0 "job" := rfl
  refine ⟨holds, fun queued => ?_⟩
  exact (((one_worker_per_key run).2.2 "job").mp queued).2 0 holds

end MXNetOperator.Property
