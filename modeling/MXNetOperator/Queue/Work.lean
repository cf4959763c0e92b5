import Mathlib.Data.Finset.Insert
import Mathlib.Data.Finset.Basic

/-!
Contract: a queue of work for several workers in which an item is queued at most
once and worked on by at most one worker.

An item added while a worker holds it is remembered as dirty and goes back to
the queue when the worker is done with it.

Owns the operations, the invariant `Sound` that they keep, and what each of them
does to the dirty items.
-/

namespace MXNetOperator.Queue

variable {Item : Type}

/-- `dirty` are the items that need work, `processing` the items that workers
hold. -/
structure WorkQueue (Item : Type) where
  queue : List Item
  dirty : Finset Item
  processing : Finset Item
  shuttingDown : Bool

namespace WorkQueue

def empty : WorkQueue Item := ⟨[], ∅, ∅, false⟩

def shutDown (work : WorkQueue Item) : WorkQueue Item :=
  { work with shuttingDown := true }

/-- The queue has exactly the dirty items that no worker holds, each once. -/
structure Sound (work : WorkQueue Item) : Prop where
  nodup : work.queue.Nodup
  mem_queue : ∀ item, item ∈ work.queue ↔ item ∈ work.dirty ∧ item ∉ work.processing

theorem Sound.empty : Sound (empty : WorkQueue Item) where
  nodup := List.nodup_nil
  mem_queue := by simp [WorkQueue.empty]

theorem Sound.shutDown {work : WorkQueue Item} (sound : Sound work) : Sound work.shutDown :=
  ⟨sound.nodup, sound.mem_queue⟩

section Operations

variable [DecidableEq Item] {work : WorkQueue Item} {item other : Item}

def add (work : WorkQueue Item) (item : Item) : WorkQueue Item :=
  if work.shuttingDown then work
  else if item ∈ work.dirty then work
  else if item ∈ work.processing then { work with dirty := insert item work.dirty }
  else { work with dirty := insert item work.dirty, queue := work.queue ++ [item] }

/-- What a worker gets that asks for work. -/
inductive Next (Item : Type) where
  | blocked
  | quit
  | item (item : Item) (rest : WorkQueue Item)

def get (work : WorkQueue Item) : Next Item :=
  match work.queue with
  | [] => if work.shuttingDown then .quit else .blocked
  | item :: rest =>
      .item item
        { work with
          queue := rest
          processing := insert item work.processing
          dirty := work.dirty.erase item }

def done (work : WorkQueue Item) (item : Item) : WorkQueue Item :=
  if item ∈ work.dirty then
    { work with processing := work.processing.erase item, queue := work.queue ++ [item] }
  else { work with processing := work.processing.erase item }

@[simp] theorem add_processing : (work.add item).processing = work.processing := by
  unfold add
  split_ifs <;> rfl

@[simp] theorem add_shuttingDown : (work.add item).shuttingDown = work.shuttingDown := by
  unfold add
  split_ifs <;> rfl

theorem mem_dirty_add :
    other ∈ (work.add item).dirty ↔
      other ∈ work.dirty ∨ other = item ∧ work.shuttingDown = false := by
  unfold add
  split_ifs with down known held
  · simp [down]
  · constructor
    · exact Or.inl
    · rintro (dirty | ⟨rfl, _⟩)
      · exact dirty
      · exact known
  · simp [down, or_comm]
  · simp [down, or_comm]

theorem Sound.add (sound : Sound work) (item : Item) : Sound (work.add item) := by
  unfold WorkQueue.add
  split_ifs with down known held
  · exact sound
  · exact sound
  · refine ⟨sound.nodup, fun other => ?_⟩
    rw [sound.mem_queue, Finset.mem_insert]
    constructor
    · exact fun queued => ⟨Or.inr queued.1, queued.2⟩
    · rintro ⟨rfl | dirty, free⟩
      · exact absurd held free
      · exact ⟨dirty, free⟩
  · have fresh : item ∉ work.queue := fun queued => known ((sound.mem_queue item).mp queued).1
    refine ⟨List.nodup_append.mpr ⟨sound.nodup, List.nodup_singleton item, ?_⟩, fun other => ?_⟩
    · intro queued member added isItem same
      rw [List.mem_singleton.mp isItem] at same
      exact fresh (same ▸ member)
    · rw [List.mem_append, List.mem_singleton, sound.mem_queue, Finset.mem_insert]
      constructor
      · rintro (queued | rfl)
        · exact ⟨Or.inr queued.1, queued.2⟩
        · exact ⟨Or.inl rfl, held⟩
      · rintro ⟨rfl | dirty, free⟩
        · exact Or.inr rfl
        · exact Or.inl ⟨dirty, free⟩

/-- Everything that taking an item does. -/
structure Taken (work : WorkQueue Item) (item : Item) (rest : WorkQueue Item) : Prop where
  queue : work.queue = item :: rest.queue
  processing : rest.processing = insert item work.processing
  dirty : rest.dirty = work.dirty.erase item
  shuttingDown : rest.shuttingDown = work.shuttingDown

theorem taken_of_get {rest : WorkQueue Item} (got : work.get = .item item rest) :
    Taken work item rest := by
  unfold get at got
  split at got
  · split at got <;> cases got
  · rename_i queue
    cases got
    exact ⟨queue, rfl, rfl, rfl⟩

/-- A worker gets an item that no worker holds. -/
theorem Taken.free {rest : WorkQueue Item} (taken : Taken work item rest) (sound : Sound work) :
    item ∉ work.processing := by
  have queued : item ∈ work.queue := by
    rw [taken.queue]
    exact List.mem_cons_self
  exact ((sound.mem_queue item).mp queued).2

theorem Taken.sound {rest : WorkQueue Item} (taken : Taken work item rest) (sound : Sound work) :
    Sound rest := by
  have nodup := sound.nodup
  rw [taken.queue, List.nodup_cons] at nodup
  refine ⟨nodup.2, fun other => ?_⟩
  have before := sound.mem_queue other
  rw [taken.queue, List.mem_cons] at before
  rw [taken.dirty, taken.processing, Finset.mem_erase, Finset.mem_insert]
  by_cases same : other = item
  · subst same
    exact iff_of_false nodup.1 fun both => both.2 (Or.inl rfl)
  · simpa [same] using before

@[simp] theorem done_dirty : (work.done item).dirty = work.dirty := by
  unfold done
  split_ifs <;> rfl

@[simp] theorem done_processing : (work.done item).processing = work.processing.erase item := by
  unfold done
  split_ifs <;> rfl

@[simp] theorem done_shuttingDown : (work.done item).shuttingDown = work.shuttingDown := by
  unfold done
  split_ifs <;> rfl

/-- Only a held item may be given back: another one could be queued twice. -/
theorem Sound.done (sound : Sound work) (held : item ∈ work.processing) :
    Sound (work.done item) := by
  have unqueued : item ∉ work.queue := fun queued => ((sound.mem_queue item).mp queued).2 held
  unfold WorkQueue.done
  split_ifs with dirty
  · refine ⟨List.nodup_append.mpr ⟨sound.nodup, List.nodup_singleton item, ?_⟩, fun other => ?_⟩
    · intro queued member added isItem same
      rw [List.mem_singleton.mp isItem] at same
      exact unqueued (same ▸ member)
    · rw [List.mem_append, List.mem_singleton, sound.mem_queue, Finset.mem_erase]
      by_cases same : other = item
      · simp [same, dirty]
      · simp [same]
  · refine ⟨sound.nodup, fun other => ?_⟩
    rw [sound.mem_queue, Finset.mem_erase]
    by_cases same : other = item
    · simp [same, dirty]
    · simp [same]

end Operations

end WorkQueue

end MXNetOperator.Queue
