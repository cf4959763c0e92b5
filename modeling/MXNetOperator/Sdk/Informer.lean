import MXNetOperator.Queue.Delay

/-!
Contract: the loop that turns changes of watched objects into calls of a
handler.

Owns the embedding of the informer: the event handlers `handleAddResourceEvent`,
`handleUpdateResourceEvent` and `handleDeleteResourceEvent`, the worker loop
`processNextItem` with `sync` and `handleErr`, and the rate limited queue they
share.  The goroutines interleave between the operations that take a lock:
- the shared informer applies deltas to the indexer and buffers a notice for
  each (`observe`, `resync`), which the event handlers get later (`notify`);
- each worker goes through the phases of `processNextItem`;
- the waiting loop of the queue moves delayed keys (`receive`, `fire`).

The handler is not part of this module: a call of it may take any time and end
either way.  `log` has the calls of `sync` that returned, newest first.
-/

namespace MXNetOperator.Sdk

open MXNetOperator.Queue

variable {Key Object : Type}

/-- `workqueue.DefaultControllerRateLimiter`, in nanoseconds; its other part, a
token bucket, only adds to a delay. -/
def defaultLimiter : FailureLimiter Key := ⟨5000000, 1000000000000, fun _ => 0⟩

def maxRetries : Nat := 15

/-- A change of the watched objects.  A deletion the watch missed is noticed by
the next list and comes as a tombstone, `DeletedFinalStateUnknown`. -/
inductive Delta (Object : Type) where
  | upsert (object : Object)
  | delete (object : Object) (tombstone : Bool)

def Delta.object : Delta Object → Object
  | .upsert object => object
  | .delete object _ => object

/-- Where a worker is in `processNextItem`.  `live` is whether the indexer has
the object. -/
inductive Phase (Key Object : Type) where
  | idle
  | taken (key : Key)
  | handling (key : Key) (object : Object) (live : Bool)
  | settling (key : Key) (failed : Bool)
  | requeueing (key : Key) (delay : Nat)
  | closing (key : Key)

/-- The key a worker has to give back. -/
def Phase.held : Phase Key Object → Option Key
  | .idle => none
  | .taken key => some key
  | .handling key _ _ => some key
  | .settling key _ => some key
  | .requeueing key _ => some key
  | .closing key => some key

/-- A call of `sync` that returned; there is no object if the handler was not
called. -/
structure Record (Key Object : Type) where
  key : Key
  object : Option Object
  live : Bool
  failed : Bool
deriving DecidableEq

structure Informer (Key Object : Type) where
  indexer : Key → Option Object
  notices : List (Delta Object)
  deletedObjects : Key → Option Object
  queue : DelayingQueue Key
  limiter : FailureLimiter Key
  workers : Nat → Phase Key Object
  log : List (Record Key Object)
  crashed : Bool

namespace Informer

def initial : Informer Key Object where
  indexer := fun _ => none
  notices := []
  deletedObjects := fun _ => none
  queue := .empty
  limiter := defaultLimiter
  workers := fun _ => .idle
  log := []
  crashed := false

inductive Action (Key Object : Type) where
  | observe (delta : Delta Object)
  | resync (key : Key)
  | notify
  | take (worker : Nat)
  | read (worker : Nat)
  | finish (worker : Nat) (failed : Bool)
  /-- `bucket` is the delay the token bucket asks for. -/
  | settle (worker : Nat) (bucket : Nat)
  | requeue (worker : Nat) (now : Nat)
  | close (worker : Nat)
  | receive (now : Nat)
  | fire (index now : Nat)
  | cancel

def setWorker (informer : Informer Key Object) (worker : Nat) (phase : Phase Key Object) :
    Informer Key Object :=
  { informer with workers := Function.update informer.workers worker phase }

section Workers

variable {informer : Informer Key Object} {worker other : Nat} {phase : Phase Key Object}

@[simp] theorem setWorker_self : (informer.setWorker worker phase).workers worker = phase :=
  Function.update_self ..

theorem setWorker_other (different : other ≠ worker) :
    (informer.setWorker worker phase).workers other = informer.workers other :=
  Function.update_of_ne different ..

end Workers

variable [DecidableEq Key] (keyOf : Object → Key)

/-! ### Source functions -/

/-- `HandleDeltas` of the shared informer. -/
def observe (informer : Informer Key Object) (delta : Delta Object) : Informer Key Object :=
  { informer with
    indexer := Function.update informer.indexer (keyOf delta.object)
      (match delta with
        | .upsert object => some object
        | .delete _ _ => none)
    notices := informer.notices ++ [delta] }

/-- The periodic resync repeats what the indexer has. -/
def resync (informer : Informer Key Object) (key : Key) : Informer Key Object :=
  match informer.indexer key with
  | some object => { informer with notices := informer.notices ++ [.upsert object] }
  | none => informer

/-- The event handlers on the oldest notice.  The type assertion in
`handleDeleteResourceEvent` fails for a tombstone. -/
def notify (informer : Informer Key Object) : Informer Key Object :=
  match informer.notices with
  | [] => informer
  | .upsert object :: rest =>
      { informer with notices := rest, queue := informer.queue.add (keyOf object) }
  | .delete object false :: rest =>
      { informer with
        notices := rest
        deletedObjects := Function.update informer.deletedObjects (keyOf object) (some object)
        queue := informer.queue.add (keyOf object) }
  | .delete _ true :: _ => { informer with crashed := true }

/-- `sync` up to the call of the handler. -/
def read (informer : Informer Key Object) (worker : Nat) (key : Key) : Informer Key Object :=
  match informer.indexer key with
  | some object => informer.setWorker worker (.handling key object true)
  | none =>
      match informer.deletedObjects key with
      | some object => informer.setWorker worker (.handling key object false)
      | none =>
          { informer.setWorker worker (.settling key false) with
            log := ⟨key, none, false, false⟩ :: informer.log }

/-- `sync` after the handler returned. -/
def finish (informer : Informer Key Object) (worker : Nat) (key : Key) (object : Object)
    (live failed : Bool) : Informer Key Object :=
  { informer.setWorker worker (.settling key failed) with
    deletedObjects :=
      if live = false ∧ failed = false then Function.update informer.deletedObjects key none
      else informer.deletedObjects
    log := ⟨key, some object, live, failed⟩ :: informer.log }

/-- `handleErr`; the delay is the largest its limiters ask for. -/
def settle (informer : Informer Key Object) (worker : Nat) (key : Key) (failed : Bool)
    (bucket : Nat) : Informer Key Object :=
  if failed = false then
    { informer.setWorker worker (.closing key) with limiter := informer.limiter.forget key }
  else if informer.limiter.failures key < maxRetries then
    { informer.setWorker worker (.requeueing key
        (max (informer.limiter.delay (informer.limiter.failures key)) bucket)) with
      limiter := informer.limiter.failed key }
  else
    { informer.setWorker worker (.closing key) with limiter := informer.limiter.forget key }

/-- One step of one goroutine. -/
def step (informer : Informer Key Object) (action : Action Key Object) : Informer Key Object :=
  if informer.crashed then informer
  else match action with
  | .observe delta => informer.observe keyOf delta
  | .resync key => informer.resync key
  | .notify => informer.notify keyOf
  | .take worker =>
      match informer.workers worker, informer.queue.work.get with
      | .idle, .item key rest =>
          { informer.setWorker worker (.taken key) with
            queue := { informer.queue with work := rest } }
      | _, _ => informer
  | .read worker =>
      match informer.workers worker with
      | .taken key => informer.read worker key
      | _ => informer
  | .finish worker failed =>
      match informer.workers worker with
      | .handling key object live => informer.finish worker key object live failed
      | _ => informer
  | .settle worker bucket =>
      match informer.workers worker with
      | .settling key failed => informer.settle worker key failed bucket
      | _ => informer
  | .requeue worker now =>
      match informer.workers worker with
      | .requeueing key delay =>
          match informer.queue.addAfter key delay now with
          | some queue => { informer.setWorker worker (.closing key) with queue := queue }
          | none => informer
      | _ => informer
  | .close worker =>
      match informer.workers worker with
      | .closing key =>
          { informer.setWorker worker .idle with
            queue := { informer.queue with work := informer.queue.work.done key } }
      | _ => informer
  | .receive now => { informer with queue := informer.queue.receive now }
  | .fire index now => { informer with queue := informer.queue.fire index now }
  | .cancel =>
      { informer with queue := { informer.queue with work := informer.queue.work.shutDown } }

/-! ### Inversion -/

/-- Everything a step can do. -/
inductive Stepped (informer : Informer Key Object) :
    Action Key Object → Informer Key Object → Prop where
  | idle (action : Action Key Object) : Stepped informer action informer
  | observe (delta : Delta Object) :
      Stepped informer (.observe delta) (informer.observe keyOf delta)
  | resync (key : Key) (object : Object) (found : informer.indexer key = some object) :
      Stepped informer (.resync key)
        { informer with notices := informer.notices ++ [.upsert object] }
  | notify (delta : Delta Object) (rest : List (Delta Object)) (deleted : Key → Option Object)
      (oldest : informer.notices = delta :: rest) (whole : ∀ object, delta ≠ .delete object true)
      (others : ∀ key, deleted key = informer.deletedObjects key ∨
        ∃ object, delta = .delete object false ∧ key = keyOf object ∧
          deleted key = some object) :
      Stepped informer .notify
        { informer with
          notices := rest
          deletedObjects := deleted
          queue := informer.queue.add (keyOf delta.object) }
  | crash (object : Object) (rest : List (Delta Object))
      (oldest : informer.notices = .delete object true :: rest) :
      Stepped informer .notify { informer with crashed := true }
  | take (worker : Nat) (key : Key) (rest : WorkQueue Key)
      (free : informer.workers worker = .idle)
      (taken : WorkQueue.Taken informer.queue.work key rest) :
      Stepped informer (.take worker)
        { informer.setWorker worker (.taken key) with
          queue := { informer.queue with work := rest } }
  | readLive (worker : Nat) (key : Key) (object : Object)
      (phase : informer.workers worker = .taken key)
      (found : informer.indexer key = some object) :
      Stepped informer (.read worker) (informer.setWorker worker (.handling key object true))
  | readDeleted (worker : Nat) (key : Key) (object : Object)
      (phase : informer.workers worker = .taken key) (absent : informer.indexer key = none)
      (known : informer.deletedObjects key = some object) :
      Stepped informer (.read worker) (informer.setWorker worker (.handling key object false))
  | readUnknown (worker : Nat) (key : Key) (phase : informer.workers worker = .taken key)
      (absent : informer.indexer key = none) (unknown : informer.deletedObjects key = none) :
      Stepped informer (.read worker)
        { informer.setWorker worker (.settling key false) with
          log := ⟨key, none, false, false⟩ :: informer.log }
  | finish (worker : Nat) (key : Key) (object : Object) (live failed : Bool)
      (phase : informer.workers worker = .handling key object live) :
      Stepped informer (.finish worker failed) (informer.finish worker key object live failed)
  | forget (worker : Nat) (key : Key) (failed : Bool) (bucket : Nat)
      (phase : informer.workers worker = .settling key failed)
      (ended : failed = true → maxRetries ≤ informer.limiter.failures key) :
      Stepped informer (.settle worker bucket)
        { informer.setWorker worker (.closing key) with limiter := informer.limiter.forget key }
  | retry (worker : Nat) (key : Key) (bucket : Nat)
      (phase : informer.workers worker = .settling key true)
      (left : informer.limiter.failures key < maxRetries) :
      Stepped informer (.settle worker bucket)
        { informer.setWorker worker (.requeueing key
            (max (informer.limiter.delay (informer.limiter.failures key)) bucket)) with
          limiter := informer.limiter.failed key }
  | requeue (worker : Nat) (key : Key) (delay now : Nat) (queue : DelayingQueue Key)
      (phase : informer.workers worker = .requeueing key delay)
      (added : informer.queue.addAfter key delay now = some queue) :
      Stepped informer (.requeue worker now)
        { informer.setWorker worker (.closing key) with queue := queue }
  | close (worker : Nat) (key : Key) (phase : informer.workers worker = .closing key) :
      Stepped informer (.close worker)
        { informer.setWorker worker .idle with
          queue := { informer.queue with work := informer.queue.work.done key } }
  | receive (now : Nat) : Stepped informer (.receive now)
      { informer with queue := informer.queue.receive now }
  | fire (index now : Nat) : Stepped informer (.fire index now)
      { informer with queue := informer.queue.fire index now }
  | cancel : Stepped informer .cancel
      { informer with queue := { informer.queue with work := informer.queue.work.shutDown } }

theorem notify_stepped (informer : Informer Key Object) :
    Stepped keyOf informer .notify (informer.notify keyOf) := by
  unfold notify
  split
  · exact .idle _
  · rename_i object rest oldest
    exact .notify (.upsert object) rest informer.deletedObjects oldest
      (fun _ same => by cases same) fun _ => Or.inl rfl
  · rename_i object rest oldest
    refine .notify (.delete object false) rest _ oldest (fun _ same => ?_) fun key => ?_
    · cases same
    · by_cases same : key = keyOf object
      · subst same
        exact Or.inr ⟨object, rfl, rfl, Function.update_self ..⟩
      · exact Or.inl (Function.update_of_ne same ..)
  · rename_i object rest oldest
    exact .crash object rest oldest

theorem read_stepped {informer : Informer Key Object} {worker : Nat} {key : Key}
    (phase : informer.workers worker = .taken key) :
    Stepped keyOf informer (.read worker) (informer.read worker key) := by
  unfold read
  split
  · rename_i object found
    exact .readLive worker key object phase found
  · rename_i absent
    split
    · rename_i object known
      exact .readDeleted worker key object phase absent known
    · rename_i unknown
      exact .readUnknown worker key phase absent unknown

theorem settle_stepped {informer : Informer Key Object} {worker : Nat} {key : Key} {failed : Bool}
    {bucket : Nat} (phase : informer.workers worker = .settling key failed) :
    Stepped keyOf informer (.settle worker bucket)
      (informer.settle worker key failed bucket) := by
  unfold settle
  split_ifs with succeeded left
  · exact .forget worker key failed bucket phase fun wrong => by simp [succeeded] at wrong
  · have isFailed : failed = true := by simpa using succeeded
    subst isFailed
    exact .retry worker key bucket phase left
  · exact .forget worker key failed bucket phase fun _ => Nat.le_of_not_lt left

theorem step_stepped (informer : Informer Key Object) (action : Action Key Object) :
    Stepped keyOf informer action (informer.step keyOf action) := by
  unfold step
  split
  · exact .idle _
  · cases action with
    | observe delta => exact .observe delta
    | resync key =>
        dsimp only [resync]
        split
        · rename_i object found
          exact .resync key object found
        · exact .idle _
    | notify => exact notify_stepped keyOf informer
    | take worker =>
        dsimp only
        split
        · rename_i key rest free got
          exact .take worker key rest free (WorkQueue.taken_of_get got)
        · exact .idle _
    | read worker =>
        dsimp only
        split
        · rename_i key phase
          exact read_stepped keyOf phase
        · exact .idle _
    | finish worker failed =>
        dsimp only
        split
        · rename_i key object live phase
          exact .finish worker key object live failed phase
        · exact .idle _
    | settle worker bucket =>
        dsimp only
        split
        · rename_i key failed phase
          exact settle_stepped keyOf phase
        · exact .idle _
    | requeue worker now =>
        dsimp only
        split
        · rename_i key delay phase
          split
          · rename_i queue added
            exact .requeue worker key delay now queue phase added
          · exact .idle _
        · exact .idle _
    | close worker =>
        dsimp only
        split
        · rename_i key phase
          exact .close worker key phase
        · exact .idle _
    | receive now => exact .receive now
    | fire index now => exact .fire index now
    | cancel => exact .cancel

end Informer

end MXNetOperator.Sdk
