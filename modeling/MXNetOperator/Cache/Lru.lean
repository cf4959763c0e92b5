import Mathlib.Data.List.Nodup

/-!
Contract: a cache of bounded size that evicts the least recently used entry.

The entries stand in order of use, the latest first.  A cache carries that its
keys are distinct and that it is not over its size, so a lookup has one answer
and every cache is one the operations could have left.  Owns lookup, insertion
and what a lookup finds after either.
-/

namespace MXNetOperator.Cache

universe u v

variable {Key : Type u} {Value : Type v} [DecidableEq Key]

/-- The entries of a cache without the one under a key. -/
def without (key : Key) (entries : List (Key × Value)) : List (Key × Value) :=
  entries.filter fun entry => decide (entry.1 ≠ key)

theorem mem_without {key : Key} {entries : List (Key × Value)} {entry : Key × Value} :
    entry ∈ without key entries ↔ entry ∈ entries ∧ entry.1 ≠ key := by
  rw [without, List.mem_filter, decide_eq_true_eq]

theorem keys_without_nodup {key : Key} {entries : List (Key × Value)}
    (distinct : (entries.map Prod.fst).Nodup) : ((without key entries).map Prod.fst).Nodup :=
  (List.filter_sublist.map Prod.fst).nodup distinct

theorem key_not_mem_without {key : Key} {entries : List (Key × Value)} :
    key ∉ (without key entries).map Prod.fst := by
  intro member
  obtain ⟨entry, kept, same⟩ := List.mem_map.mp member
  exact (mem_without.mp kept).2 same

theorem length_without_lt {key : Key} {value : Value} {entries : List (Key × Value)}
    (member : (key, value) ∈ entries) : (without key entries).length < entries.length :=
  List.length_filter_lt_length_iff_exists.mpr ⟨(key, value), member, by simp⟩

/-- A cache for at most `size` entries. -/
structure Lru (Key : Type u) (Value : Type v) (size : Nat) where
  entries : List (Key × Value)
  distinct : (entries.map Prod.fst).Nodup
  bounded : entries.length ≤ size

namespace Lru

variable {size : Nat} {cache : Lru Key Value size} {key : Key} {value : Value}

def empty : Lru Key Value size := ⟨[], List.nodup_nil, Nat.zero_le size⟩

/-- The value stored under a key. -/
def find? (cache : Lru Key Value size) (key : Key) : Option Value :=
  (cache.entries.find? fun entry => decide (entry.1 = key)).map Prod.snd

theorem mem_of_find? (found : cache.find? key = some value) : (key, value) ∈ cache.entries := by
  obtain ⟨entry, first, rfl⟩ := Option.map_eq_some_iff.mp found
  have same : entry.1 = key := by simpa using List.find?_some first
  rw [← same]
  exact List.mem_of_find?_eq_some first

theorem key_not_mem_of_find? (missing : cache.find? key = none) :
    key ∉ cache.entries.map Prod.fst := by
  intro member
  obtain ⟨entry, stored, same⟩ := List.mem_map.mp member
  rw [find?, Option.map_eq_none_iff, List.find?_eq_none] at missing
  exact missing entry stored (decide_eq_true same)

/-- Put an entry in front of the others. -/
def toFront (cache : Lru Key Value size) (key : Key) (value : Value)
    (found : cache.find? key ≠ none) : Lru Key Value size where
  entries := (key, value) :: without key cache.entries
  distinct := by
    rw [List.map_cons, List.nodup_cons]
    exact ⟨key_not_mem_without, keys_without_nodup cache.distinct⟩
  bounded := by
    obtain ⟨old, stored⟩ := Option.ne_none_iff_exists'.mp found
    exact Nat.le_trans (length_without_lt (mem_of_find? stored)) cache.bounded

/-- `Get`: the value, and the cache with its entry in front. -/
def get (cache : Lru Key Value size) (key : Key) : Option Value × Lru Key Value size :=
  match stored : cache.find? key with
  | some value => (some value, cache.toFront key value (by simp [stored]))
  | none => (none, cache)

/-- A new entry in front; the oldest entry goes if there are too many. -/
def push (cache : Lru Key Value size) (key : Key) (value : Value)
    (missing : cache.find? key = none) : Lru Key Value size where
  entries :=
    if size < cache.entries.length + 1 then ((key, value) :: cache.entries).dropLast
    else (key, value) :: cache.entries
  distinct := by
    have fresh : (((key, value) :: cache.entries).map Prod.fst).Nodup := by
      rw [List.map_cons, List.nodup_cons]
      exact ⟨key_not_mem_of_find? missing, cache.distinct⟩
    split
    · exact ((List.dropLast_sublist _).map Prod.fst).nodup fresh
    · exact fresh
  bounded := by
    have bound := cache.bounded
    split
    · rw [List.length_dropLast, List.length_cons]
      exact bound
    · rename_i room
      rw [List.length_cons]
      omega

/-- `Add`: replace the value of a key or push a new entry. -/
def add (cache : Lru Key Value size) (key : Key) (value : Value) : Lru Key Value size :=
  if missing : cache.find? key = none then cache.push key value missing
  else cache.toFront key value missing

theorem get_value : (cache.get key).1 = cache.find? key := by
  unfold get
  split <;> simp_all

/-- A lookup changes the order of the entries only. -/
theorem mem_get {entry : Key × Value} (member : entry ∈ (cache.get key).2.entries) :
    entry ∈ cache.entries := by
  unfold get at member
  split at member
  · rename_i value stored
    rcases List.mem_cons.mp member with rfl | kept
    · exact mem_of_find? stored
    · exact (mem_without.mp kept).1
  · exact member

/-- A lookup that finds nothing leaves the cache as it is. -/
theorem get_of_missing (missing : cache.find? key = none) : cache.get key = (none, cache) := by
  unfold get
  split
  · simp_all
  · rfl

/-- After an insertion the key holds the new value, and the other entries are
old ones under other keys. -/
theorem mem_add {entry : Key × Value} (member : entry ∈ (cache.add key value).entries) :
    entry = (key, value) ∨ entry ∈ cache.entries ∧ entry.1 ≠ key := by
  unfold add at member
  split at member
  · rename_i missing
    have pushed : entry ∈ (key, value) :: cache.entries := by
      unfold push at member
      dsimp only at member
      split at member
      · exact List.dropLast_subset _ member
      · exact member
    rcases List.mem_cons.mp pushed with same | old
    · exact Or.inl same
    · refine Or.inr ⟨old, fun same => ?_⟩
      exact key_not_mem_of_find? missing (List.mem_map.mpr ⟨entry, old, same⟩)
  · rcases List.mem_cons.mp member with same | kept
    · exact Or.inl same
    · exact Or.inr (mem_without.mp kept)

end Lru

end MXNetOperator.Cache
