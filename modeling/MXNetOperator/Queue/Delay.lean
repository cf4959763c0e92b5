import Mathlib.Algebra.Group.Nat.Defs
import MXNetOperator.Queue.Work

/-!
Contract: adding work later, and how much later after repeated failures.

A delaying queue passes an item to its work queue when the item is ready.  On
its way the item is in a channel of bounded size and then among the waiting
entries, of which there is one for each item.  The waiting loop receives from
the channel and passes on entries that are ready, the earliest first; its steps
are `receive` and `fire`.

The rate limiter doubles the delay of an item with each failure.

Owns both, and that a scheduled item stays scheduled until it is added.
-/

namespace MXNetOperator.Queue

variable {Item : Type}

/-! ### The delaying queue -/

/-- An item and when it is to be added. -/
structure WaitFor (Item : Type) where
  data : Item
  readyAt : Nat

structure DelayingQueue (Item : Type) where
  work : WorkQueue Item
  channel : List (WaitFor Item)
  waiting : List (WaitFor Item)

namespace DelayingQueue

/-- How many entries the channel buffers. -/
def channelSize : Nat := 1000

def empty : DelayingQueue Item := ⟨.empty, [], []⟩

/-- The item is on its way to the work queue. -/
def Scheduled (delaying : DelayingQueue Item) (item : Item) : Prop :=
  item ∈ (delaying.channel ++ delaying.waiting).map WaitFor.data

variable [DecidableEq Item]

instance decidableScheduled (delaying : DelayingQueue Item) (item : Item) :
    Decidable (delaying.Scheduled item) :=
  inferInstanceAs (Decidable (_ ∈ _))

def add (delaying : DelayingQueue Item) (item : Item) : DelayingQueue Item :=
  { delaying with work := delaying.work.add item }

/-- `none` if the sender has to wait for room in the channel. -/
def addAfter (delaying : DelayingQueue Item) (item : Item) (duration now : Nat) :
    Option (DelayingQueue Item) :=
  if delaying.work.shuttingDown then some delaying
  else if duration = 0 then some (delaying.add item)
  else if delaying.channel.length < channelSize then
    some { delaying with channel := delaying.channel ++ [⟨item, now + duration⟩] }
  else none

/-- An entry for a waiting item only counts if it is earlier. -/
def insertEntry (waiting : List (WaitFor Item)) (entry : WaitFor Item) : List (WaitFor Item) :=
  match waiting.find? fun other => other.data == entry.data with
  | some existing =>
      if entry.readyAt < existing.readyAt then
        waiting.map fun other => if other.data = entry.data then entry else other
      else waiting
  | none => waiting ++ [entry]

/-- The waiting loop takes an entry from the channel. -/
def receive (delaying : DelayingQueue Item) (now : Nat) : DelayingQueue Item :=
  match delaying.channel with
  | [] => delaying
  | entry :: rest =>
      if delaying.work.shuttingDown then delaying
      else if now < entry.readyAt then
        { delaying with channel := rest, waiting := insertEntry delaying.waiting entry }
      else { delaying with channel := rest, work := delaying.work.add entry.data }

/-- The waiting loop passes on a ready entry that no other one precedes. -/
def fire (delaying : DelayingQueue Item) (index now : Nat) : DelayingQueue Item :=
  match delaying.waiting[index]? with
  | none => delaying
  | some entry =>
      if delaying.work.shuttingDown = false ∧ entry.readyAt ≤ now ∧
          ∀ other ∈ delaying.waiting, entry.readyAt ≤ other.readyAt then
        { delaying with
          waiting := delaying.waiting.eraseIdx index
          work := delaying.work.add entry.data }
      else delaying

variable {delaying : DelayingQueue Item} {item : Item}

theorem mem_insertEntry {waiting : List (WaitFor Item)} {entry : WaitFor Item} :
    item ∈ (insertEntry waiting entry).map WaitFor.data ↔
      item ∈ waiting.map WaitFor.data ∨ item = entry.data := by
  unfold insertEntry
  split
  · rename_i existing found
    have known : entry.data ∈ waiting.map WaitFor.data := by
      have same : existing.data = entry.data := by simpa using List.find?_some found
      rw [← same]
      exact List.mem_map_of_mem (List.mem_of_find?_eq_some found)
    have absorbed : item ∈ waiting.map WaitFor.data ∨ item = entry.data ↔
        item ∈ waiting.map WaitFor.data := by
      constructor
      · rintro (waits | rfl)
        · exact waits
        · exact known
      · exact Or.inl
    rw [absorbed]
    split_ifs with earlier
    · -- replacing the entry of the item keeps the items
      have kept : (waiting.map fun other => if other.data = entry.data then entry else other).map
          WaitFor.data = waiting.map WaitFor.data := by
        rw [List.map_map]
        apply List.map_congr_left
        intro other _
        show (if other.data = entry.data then entry else other).data = other.data
        split_ifs with same
        · exact same.symm
        · rfl
      rw [kept]
    · exact Iff.rfl
  · rw [List.map_append, List.mem_append, List.map_singleton, List.mem_singleton]

@[simp] theorem receive_shuttingDown (now : Nat) :
    (delaying.receive now).work.shuttingDown = delaying.work.shuttingDown := by
  unfold receive
  split
  · rfl
  · split_ifs <;> simp

@[simp] theorem receive_processing (now : Nat) :
    (delaying.receive now).work.processing = delaying.work.processing := by
  unfold receive
  split
  · rfl
  · split_ifs <;> simp

theorem receive_sound (sound : delaying.work.Sound) (now : Nat) :
    (delaying.receive now).work.Sound := by
  unfold receive
  split
  · exact sound
  · split_ifs
    · exact sound
    · exact sound
    · exact sound.add _

@[simp] theorem fire_shuttingDown (index now : Nat) :
    (delaying.fire index now).work.shuttingDown = delaying.work.shuttingDown := by
  unfold fire
  split
  · rfl
  · split_ifs <;> simp

@[simp] theorem fire_processing (index now : Nat) :
    (delaying.fire index now).work.processing = delaying.work.processing := by
  unfold fire
  split
  · rfl
  · split_ifs <;> simp

theorem fire_sound (sound : delaying.work.Sound) (index now : Nat) :
    (delaying.fire index now).work.Sound := by
  unfold fire
  split
  · exact sound
  · split_ifs
    · exact sound.add _
    · exact sound

/-- The item is dirty or will be. -/
def Promised (delaying : DelayingQueue Item) (item : Item) : Prop :=
  item ∈ delaying.work.dirty ∨ delaying.Scheduled item

instance decidablePromised (delaying : DelayingQueue Item) (item : Item) :
    Decidable (delaying.Promised item) :=
  inferInstanceAs (Decidable (_ ∨ _))

theorem Promised.add (promised : delaying.Promised item) (other : Item) :
    (delaying.add other).Promised item := by
  apply promised.imp_left
  exact fun dirty => WorkQueue.mem_dirty_add.mpr (Or.inl dirty)

theorem promised_add (running : delaying.work.shuttingDown = false) :
    (delaying.add item).Promised item :=
  Or.inl (WorkQueue.mem_dirty_add.mpr (Or.inr ⟨rfl, running⟩))

theorem Promised.addAfter {after : DelayingQueue Item} {other : Item} {duration now : Nat}
    (promised : delaying.Promised item)
    (added : delaying.addAfter other duration now = some after) : after.Promised item := by
  unfold DelayingQueue.addAfter at added
  split_ifs at added
  · cases added
    exact promised
  · cases added
    exact promised.add other
  · cases added
    apply promised.imp_right
    intro scheduled
    simp only [Scheduled, List.map_append, List.mem_append] at scheduled ⊢
    exact scheduled.imp_left Or.inl

theorem promised_addAfter {after : DelayingQueue Item} {duration now : Nat}
    (running : delaying.work.shuttingDown = false)
    (added : delaying.addAfter item duration now = some after) : after.Promised item := by
  unfold DelayingQueue.addAfter at added
  rw [if_neg (by simp [running])] at added
  split_ifs at added
  · cases added
    exact promised_add running
  · cases added
    right
    simp [Scheduled]

theorem addAfter_work {after : DelayingQueue Item} {duration now : Nat}
    (added : delaying.addAfter item duration now = some after) :
    after.work = delaying.work ∨ after.work = delaying.work.add item := by
  unfold DelayingQueue.addAfter at added
  split_ifs at added
  · cases added
    exact Or.inl rfl
  · cases added
    exact Or.inr rfl
  · cases added
    exact Or.inl rfl

theorem addAfter_sound {after : DelayingQueue Item} {duration now : Nat}
    (sound : delaying.work.Sound)
    (added : delaying.addAfter item duration now = some after) : after.work.Sound := by
  rcases addAfter_work added with same | grown
  · rw [same]
    exact sound
  · rw [grown]
    exact sound.add item

theorem addAfter_processing {after : DelayingQueue Item} {duration now : Nat}
    (added : delaying.addAfter item duration now = some after) :
    after.work.processing = delaying.work.processing := by
  rcases addAfter_work added with same | grown
  · rw [same]
  · rw [grown, WorkQueue.add_processing]

theorem addAfter_shuttingDown {after : DelayingQueue Item} {duration now : Nat}
    (added : delaying.addAfter item duration now = some after) :
    after.work.shuttingDown = delaying.work.shuttingDown := by
  rcases addAfter_work added with same | grown
  · rw [same]
  · rw [grown, WorkQueue.add_shuttingDown]

theorem Promised.receive (promised : delaying.Promised item) (now : Nat) :
    (delaying.receive now).Promised item := by
  unfold DelayingQueue.receive
  split
  · exact promised
  · rename_i entry rest channel
    unfold Promised Scheduled at promised ⊢
    rw [channel, List.cons_append, List.map_cons, List.mem_cons, List.map_append,
      List.mem_append] at promised
    split_ifs with down later
    · rw [channel, List.cons_append, List.map_cons, List.mem_cons, List.map_append,
        List.mem_append]
      exact promised
    · show item ∈ delaying.work.dirty ∨
        item ∈ (rest ++ insertEntry delaying.waiting entry).map WaitFor.data
      rw [List.map_append, List.mem_append, mem_insertEntry]
      tauto
    · show item ∈ (delaying.work.add entry.data).dirty ∨
        item ∈ (rest ++ delaying.waiting).map WaitFor.data
      rw [WorkQueue.mem_dirty_add, List.map_append, List.mem_append]
      simp only [Bool.not_eq_true] at down
      tauto

theorem Promised.fire (promised : delaying.Promised item) (index now : Nat) :
    (delaying.fire index now).Promised item := by
  unfold DelayingQueue.fire
  split
  · exact promised
  · rename_i entry found
    split_ifs with ready
    · unfold Promised Scheduled at promised ⊢
      show item ∈ (delaying.work.add entry.data).dirty ∨
        item ∈ (delaying.channel ++ delaying.waiting.eraseIdx index).map WaitFor.data
      rw [WorkQueue.mem_dirty_add, List.map_append, List.mem_append]
      rw [List.map_append, List.mem_append] at promised
      rcases promised with dirty | sent | waits
      · exact Or.inl (Or.inl dirty)
      · exact Or.inr (Or.inl sent)
      · obtain ⟨other, member, rfl⟩ := List.mem_map.mp waits
        by_cases same : other = entry
        · exact Or.inl (Or.inr ⟨congrArg WaitFor.data same, ready.1⟩)
        · -- another entry is still waiting
          obtain ⟨place, bound, at_place⟩ := List.mem_iff_getElem.mp member
          have apart : place ≠ index := by
            intro samePlace
            rw [List.getElem?_eq_some_iff] at found
            obtain ⟨_, at_index⟩ := found
            subst samePlace
            exact same (at_place.symm.trans at_index)
          right
          right
          apply List.mem_map_of_mem
          exact List.mem_eraseIdx_iff_getElem.mpr ⟨place, bound, apart, at_place⟩
    · exact promised

end DelayingQueue

/-! ### The rate limiter -/

/-- The delay of an item that failed before grows by powers of two. -/
structure FailureLimiter (Item : Type) where
  baseDelay : Nat
  maxDelay : Nat
  failures : Item → Nat

namespace FailureLimiter

/-- The delay after this many failures.  It is computed in floating point, which
is exact for powers of two times a base below `2 ^ 53`. -/
def delay (limiter : FailureLimiter Item) (failures : Nat) : Nat :=
  let backoff := limiter.baseDelay * 2 ^ failures
  if 2 ^ 63 < backoff then limiter.maxDelay
  else if limiter.maxDelay < backoff then limiter.maxDelay
  else backoff

variable [DecidableEq Item]

def failed (limiter : FailureLimiter Item) (item : Item) : FailureLimiter Item :=
  { limiter with failures := Function.update limiter.failures item (limiter.failures item + 1) }

def forget (limiter : FailureLimiter Item) (item : Item) : FailureLimiter Item :=
  { limiter with failures := Function.update limiter.failures item 0 }

end FailureLimiter

end MXNetOperator.Queue
