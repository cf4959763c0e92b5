import Mathlib.Algebra.GroupWithZero.Nat
import Mathlib.Data.List.Nodup
import MXNetOperator.Interaction.System

/-!
Contract: suppression of duplicate calls.

Goroutines call `do` with a key and a function.  The first one for a key makes a
record, executes the function and removes the record; those that find the record
wait for its result.  The table of records is protected by a mutex, which nobody
holds while a function executes.

Owns the step function with one step per statement, its inversion and the
invariant `Sound`: at most one goroutine executes for a key, everybody gets the
result of an execution for their key, and nobody is stuck.
-/

namespace MXNetOperator.Interaction.Flight

variable {Key Value : Type}

/-- Where a goroutine is.  `call` is the record it found or made. -/
inductive Phase (Key Value : Type) where
  | start (key : Key)
  | looking (key : Key)
  | found (key : Key) (call : Nat)
  | waiting (key : Key) (call : Nat)
  | made (key : Key) (call : Nat)
  | calling (key : Key) (call : Nat)
  | stored (key : Key) (call : Nat)
  | closing (key : Key) (call : Nat)
  | deleting (key : Key) (call : Nat)
  | leaving (key : Key) (call : Nat)
  | returned (key : Key) (call : Nat) (value : Option Value)

def Phase.key : Phase Key Value → Key
  | .start key => key
  | .looking key => key
  | .found key _ => key
  | .waiting key _ => key
  | .made key _ => key
  | .calling key _ => key
  | .stored key _ => key
  | .closing key _ => key
  | .deleting key _ => key
  | .leaving key _ => key
  | .returned key _ _ => key

/-- Whether the goroutine holds the mutex. -/
def Phase.locked : Phase Key Value → Bool
  | .looking _ => true
  | .found _ _ => true
  | .made _ _ => true
  | .deleting _ _ => true
  | .leaving _ _ => true
  | _ => false

/-- The key and the record in the table that the goroutine has to remove. -/
def Phase.leads : Phase Key Value → Option (Key × Nat)
  | .made key call => some (key, call)
  | .calling key call => some (key, call)
  | .stored key call => some (key, call)
  | .closing key call => some (key, call)
  | .deleting key call => some (key, call)
  | _ => none

/-- A record.  `done` is whether its wait group is released; `key` and `leader`
say who made it. -/
structure Call (Key Value : Type) where
  key : Key
  leader : Nat
  value : Option Value
  done : Bool

structure Group (Key Value : Type) where
  mutex : Option Nat
  table : List (Key × Nat)
  calls : List (Call Key Value)
  callers : List (Phase Key Value)

def Group.empty : Group Key Value := ⟨none, [], [], []⟩

/-- The keys with a record in the table. -/
def Group.inFlight (group : Group Key Value) : List Key := group.table.map Prod.fst

inductive Action (Key Value : Type) where
  | enter (key : Key)
  | run (index : Nat)
  | complete (index : Nat) (value : Value)

def Group.set (group : Group Key Value) (index : Nat) (phase : Phase Key Value) :
    Group Key Value :=
  { group with callers := group.callers.set index phase }

/-- `g.mu.Lock()`. -/
def Group.lock (group : Group Key Value) (index : Nat) (next : Phase Key Value) :
    Group Key Value :=
  if group.mutex.isNone then { group.set index next with mutex := some index } else group

/-- `g.mu.Unlock()`. -/
def Group.unlock (group : Group Key Value) (index : Nat) (next : Phase Key Value) :
    Group Key Value :=
  { group.set index next with mutex := none }

/-- What the record has to return. -/
def Group.value (group : Group Key Value) (call : Nat) : Option Value :=
  group.calls[call]?.bind Call.value

def Group.released (group : Group Key Value) (call : Nat) : Bool :=
  group.calls[call]?.any Call.done

/-- Change a record. -/
def Group.change (group : Group Key Value) (call : Nat)
    (change : Call Key Value → Call Key Value) : Group Key Value :=
  { group with calls := group.calls.modify call change }

section Steps

variable [DecidableEq Key]

/-- The next statement of a goroutine, unless it has to wait. -/
def Group.perform (group : Group Key Value) (index : Nat) (phase : Phase Key Value) :
    Group Key Value :=
  match phase with
  | .start key => group.lock index (.looking key)
  | .looking key =>
      match group.table.find? fun entry => entry.1 = key with
      | some entry => group.set index (.found key entry.2)
      | none =>
          { group.set index (.made key group.calls.length) with
            calls := group.calls ++ [⟨key, index, none, false⟩]
            table := (key, group.calls.length) :: group.table }
  | .found key call => group.unlock index (.waiting key call)
  | .waiting key call =>
      if group.released call then group.set index (.returned key call (group.value call))
      else group
  | .made key call => group.unlock index (.calling key call)
  | .calling _ _ => group
  | .stored key call =>
      (group.change call fun record => { record with done := true }).set index (.closing key call)
  | .closing key call => group.lock index (.deleting key call)
  | .deleting key call =>
      { group.set index (.leaving key call) with
        table := group.table.filter fun entry => entry.1 ≠ key }
  | .leaving key call => group.unlock index (.returned key call (group.value call))
  | .returned _ _ _ => group

def step (group : Group Key Value) : Action Key Value → Group Key Value
  | .enter key => { group with callers := group.callers ++ [.start key] }
  | .run index =>
      match group.callers[index]? with
      | some phase => group.perform index phase
      | none => group
  | .complete index value =>
      match group.callers[index]? with
      | some (.calling key call) =>
          (group.change call fun record => { record with value := some value }).set index
            (.stored key call)
      | _ => group

/-! ### Inversion -/

/-- Everything a step can do. -/
inductive Stepped (group : Group Key Value) : Action Key Value → Group Key Value → Prop where
  | idle (action : Action Key Value) : Stepped group action group
  | enter (key : Key) :
      Stepped group (.enter key) { group with callers := group.callers ++ [.start key] }
  | lock (index : Nat) (before after : Phase Key Value)
      (phase : group.callers[index]? = some before) (free : group.mutex = none)
      (wants : (∃ key, before = .start key ∧ after = .looking key) ∨
        ∃ key call, before = .closing key call ∧ after = .deleting key call) :
      Stepped group (.run index) { group.set index after with mutex := some index }
  | find (index : Nat) (key : Key) (call : Nat)
      (phase : group.callers[index]? = some (.looking key)) (present : (key, call) ∈ group.table) :
      Stepped group (.run index) (group.set index (.found key call))
  | make (index : Nat) (key : Key) (phase : group.callers[index]? = some (.looking key))
      (absent : key ∉ group.inFlight) :
      Stepped group (.run index)
        { group.set index (.made key group.calls.length) with
          calls := group.calls ++ [⟨key, index, none, false⟩]
          table := (key, group.calls.length) :: group.table }
  | unlock (index : Nat) (before after : Phase Key Value)
      (phase : group.callers[index]? = some before)
      (unlocks : (∃ key call, before = .found key call ∧ after = .waiting key call) ∨
        (∃ key call, before = .made key call ∧ after = .calling key call) ∨
        ∃ key call, before = .leaving key call ∧ after = .returned key call (group.value call)) :
      Stepped group (.run index) { group.set index after with mutex := none }
  | wake (index : Nat) (key : Key) (call : Nat)
      (phase : group.callers[index]? = some (.waiting key call))
      (released : group.released call = true) :
      Stepped group (.run index) (group.set index (.returned key call (group.value call)))
  | complete (index : Nat) (key : Key) (call : Nat) (value : Value)
      (phase : group.callers[index]? = some (.calling key call)) :
      Stepped group (.complete index value)
        ((group.change call fun record => { record with value := some value }).set index
          (.stored key call))
  | release (index : Nat) (key : Key) (call : Nat)
      (phase : group.callers[index]? = some (.stored key call)) :
      Stepped group (.run index)
        ((group.change call fun record => { record with done := true }).set index
          (.closing key call))
  | delete (index : Nat) (key : Key) (call : Nat)
      (phase : group.callers[index]? = some (.deleting key call)) :
      Stepped group (.run index)
        { group.set index (.leaving key call) with
          table := group.table.filter fun entry => entry.1 ≠ key }

theorem perform_stepped {group : Group Key Value} {index : Nat} {phase : Phase Key Value}
    (isPhase : group.callers[index]? = some phase) :
    Stepped group (.run index) (group.perform index phase) := by
  cases phase with
  | start key =>
      dsimp only [Group.perform, Group.lock]
      split_ifs with free
      · exact .lock index _ _ isPhase (Option.isNone_iff_eq_none.mp free) (Or.inl ⟨key, rfl, rfl⟩)
      · exact .idle _
  | looking key =>
      dsimp only [Group.perform]
      split
      · rename_i entry found
        have same : entry.1 = key := by simpa using List.find?_some found
        refine .find index key entry.2 isPhase ?_
        rw [← same]
        exact List.mem_of_find?_eq_some found
      · rename_i absent
        refine .make index key isPhase fun present => ?_
        obtain ⟨entry, member, same⟩ := List.mem_map.mp present
        exact List.find?_eq_none.mp absent entry member (by simpa using same)
  | found key call => exact .unlock index _ _ isPhase (Or.inl ⟨key, call, rfl, rfl⟩)
  | waiting key call =>
      dsimp only [Group.perform]
      split_ifs with released
      · exact .wake index key call isPhase released
      · exact .idle _
  | made key call => exact .unlock index _ _ isPhase (Or.inr (Or.inl ⟨key, call, rfl, rfl⟩))
  | calling key call => exact .idle _
  | stored key call => exact .release index key call isPhase
  | closing key call =>
      dsimp only [Group.perform, Group.lock]
      split_ifs with free
      · exact .lock index _ _ isPhase (Option.isNone_iff_eq_none.mp free)
          (Or.inr ⟨key, call, rfl, rfl⟩)
      · exact .idle _
  | deleting key call => exact .delete index key call isPhase
  | leaving key call => exact .unlock index _ _ isPhase (Or.inr (Or.inr ⟨key, call, rfl, rfl⟩))
  | returned key call value => exact .idle _

theorem step_stepped (group : Group Key Value) (action : Action Key Value) :
    Stepped group action (step group action) := by
  cases action with
  | enter key => exact .enter key
  | run index =>
      dsimp only [step]
      split
      · rename_i phase isPhase
        exact perform_stepped isPhase
      · exact .idle _
  | complete index value =>
      dsimp only [step]
      split
      · rename_i key call isPhase
        exact .complete index key call value isPhase
      · exact .idle _

end Steps

/-! ### The invariant -/

/-- What a goroutine knows of its record. -/
def Knows (calls : List (Call Key Value)) (index : Nat) : Phase Key Value → Prop
  | .start _ => True
  | .looking _ => True
  | .found key call => ∃ record, calls[call]? = some record ∧ record.key = key
  | .waiting key call => ∃ record, calls[call]? = some record ∧ record.key = key
  | .made key call => calls[call]? = some ⟨key, index, none, false⟩
  | .calling key call => calls[call]? = some ⟨key, index, none, false⟩
  | .stored key call => ∃ value, calls[call]? = some ⟨key, index, some value, false⟩
  | .closing key call => ∃ value, calls[call]? = some ⟨key, index, some value, true⟩
  | .deleting key call => ∃ value, calls[call]? = some ⟨key, index, some value, true⟩
  | .leaving key call => ∃ value, calls[call]? = some ⟨key, index, some value, true⟩
  | .returned key call result => ∃ record, calls[call]? = some record ∧ record.key = key ∧
      record.done = true ∧ record.value = result ∧ result.isSome = true

structure Sound (group : Group Key Value) : Prop where
  mutex : ∀ index : Nat, group.mutex = some index ↔
    ∃ phase : Phase Key Value, group.callers[index]? = some phase ∧ phase.locked = true
  nodup : group.inFlight.Nodup
  table : ∀ entry, entry ∈ group.table ↔
    ∃ index : Nat, ∃ phase : Phase Key Value, group.callers[index]? = some phase ∧
      phase.leads = some entry
  knows : ∀ (index : Nat) (phase : Phase Key Value), group.callers[index]? = some phase → Knows group.calls index phase
  leader : ∀ call : Nat, ∀ record : Call Key Value, group.calls[call]? = some record →
    record.done = false → ∃ phase : Phase Key Value,
      group.callers[record.leader]? = some phase ∧ phase.leads = some (record.key, call)
  result : ∀ call : Nat, ∀ record : Call Key Value, group.calls[call]? = some record →
    record.done = true → record.value.isSome = true

theorem Sound.empty : Sound (Group.empty : Group Key Value) where
  mutex := by simp [Group.empty]
  nodup := List.nodup_nil
  table := by simp [Group.empty]
  knows := by simp [Group.empty]
  leader := by simp [Group.empty]
  result := by simp [Group.empty]

section Invariant

variable {group next : Group Key Value} {index other : Nat} {before after : Phase Key Value}

theorem set_self (phase : group.callers[index]? = some before) :
    (group.set index after).callers[index]? = some after := by
  have bound : index < group.callers.length := (List.getElem?_eq_some_iff.mp phase).1
  simp [Group.set, bound]

theorem set_other (different : other ≠ index) :
    (group.set index after).callers[other]? = group.callers[other]? := by
  simp [Group.set, Ne.symm different]

/-- A goroutine that goes on to lead what it led before. -/
theorem leading_set (phase : group.callers[index]? = some before)
    (leads : after.leads = before.leads) (position : Nat) (entry : Key × Nat) :
    (∃ now : Phase Key Value, group.callers[position]? = some now ∧ now.leads = some entry) ↔
      ∃ now : Phase Key Value, (group.set index after).callers[position]? = some now ∧
        now.leads = some entry := by
  by_cases isIndex : position = index
  · subst isIndex
    simp [set_self phase, phase, leads]
  · rw [set_other isIndex]

/-- A goroutine leads at most one key, and a key has at most one leader. -/
theorem Sound.same_leader (sound : Sound group) {first second : Phase Key Value} {key : Key}
    {call record : Nat} (isFirst : group.callers[index]? = some first)
    (isSecond : group.callers[other]? = some second) (leads : first.leads = some (key, call))
    (leadsToo : second.leads = some (key, record)) : index = other := by
  have here := (sound.table (key, call)).mpr ⟨index, first, isFirst, leads⟩
  have there := (sound.table (key, record)).mpr ⟨other, second, isSecond, leadsToo⟩
  have sameCall : (key, call) = (key, record) :=
    List.inj_on_of_nodup_map sound.nodup here there rfl
  have made {phase : Phase Key Value} {position : Nat}
      (isPhase : group.callers[position]? = some phase) (isLeading : phase.leads = some (key, call)) :
      ∃ entry, group.calls[call]? = some entry ∧ entry.leader = position := by
    have known := sound.knows position phase isPhase
    cases phase with
    | made | calling =>
        cases isLeading
        exact ⟨_, known, rfl⟩
    | stored | closing | deleting =>
        cases isLeading
        obtain ⟨value, known⟩ := known
        exact ⟨_, known, rfl⟩
    | start | looking | found | waiting | leaving | returned => cases isLeading
  rw [← Prod.mk.inj sameCall |>.2] at leadsToo
  obtain ⟨entry, isEntry, rfl⟩ := made isFirst leads
  obtain ⟨same, isSame, rfl⟩ := made isSecond leadsToo
  rw [Option.some.inj (isEntry.symm.trans isSame)]

/-! ### The mutex -/

section Mutex

variable (sound : Sound group) (phase : group.callers[index]? = some before)
  (callers : next.callers = (group.set index after).callers)

include sound phase callers

theorem Sound.mutex_keep (mutex : next.mutex = group.mutex) (same : after.locked = before.locked)
    (position : Nat) : next.mutex = some position ↔
      ∃ now : Phase Key Value, next.callers[position]? = some now ∧ now.locked = true := by
  rw [mutex, callers, sound.mutex position]
  by_cases isIndex : position = index
  · subst isIndex
    simp [set_self phase, phase, same]
  · rw [set_other isIndex]

theorem Sound.mutex_lock (free : group.mutex = none) (mutex : next.mutex = some index)
    (locked : after.locked = true) (position : Nat) : next.mutex = some position ↔
      ∃ now : Phase Key Value, next.callers[position]? = some now ∧ now.locked = true := by
  have unheld := sound.mutex position
  rw [free] at unheld
  rw [mutex, callers]
  by_cases isIndex : position = index
  · subst isIndex
    simp [set_self phase, locked]
  · rw [set_other isIndex, ← unheld]
    simp [Ne.symm isIndex]

theorem Sound.mutex_unlock (held : before.locked = true) (mutex : next.mutex = none)
    (unlocked : after.locked = false) (position : Nat) : next.mutex = some position ↔
      ∃ now : Phase Key Value, next.callers[position]? = some now ∧ now.locked = true := by
  have holder := (sound.mutex index).mpr ⟨before, phase, held⟩
  have unheld := sound.mutex position
  rw [holder] at unheld
  rw [mutex, callers]
  by_cases isIndex : position = index
  · subst isIndex
    simp [set_self phase, unlocked]
  · rw [set_other isIndex, ← unheld]
    simp [Ne.symm isIndex]

end Mutex

/-! ### Records and the table -/

theorem Knows.append {calls : List (Call Key Value)} {phase : Phase Key Value}
    (known : Knows calls index phase) (record : Call Key Value) :
    Knows (calls ++ [record]) index phase := by
  have kept {call : Nat} {found : Call Key Value} (isFound : calls[call]? = some found) :
      (calls ++ [record])[call]? = some found := by
    rw [List.getElem?_append_left (List.getElem?_eq_some_iff.mp isFound).1]
    exact isFound
  cases phase with
  | start | looking => trivial
  | found | waiting =>
      obtain ⟨old, isOld, same⟩ := known
      exact ⟨old, kept isOld, same⟩
  | made | calling => exact kept known
  | stored | closing | deleting | leaving =>
      obtain ⟨value, isOld⟩ := known
      exact ⟨value, kept isOld⟩
  | returned =>
      obtain ⟨old, isOld, rest⟩ := known
      exact ⟨old, kept isOld, rest⟩

/-- A leader that changes its record does not change what others know. -/
theorem Knows.modify {calls : List (Call Key Value)} {phase : Phase Key Value} {call : Nat}
    {record : Call Key Value} {change : Call Key Value → Call Key Value}
    (known : Knows calls other phase) (isRecord : calls[call]? = some record)
    (unfinished : record.done = false) (different : record.leader ≠ other)
    (key : (change record).key = record.key) : Knows (calls.modify call change) other phase := by
  have kept {position : Nat} {found : Call Key Value} (isFound : calls[position]? = some found)
      (elsewhere : call ≠ position) : (calls.modify call change)[position]? = some found := by
    rw [List.getElem?_modify, isFound]
    simp [elsewhere]
  have own {position : Nat} {found : Call Key Value} (isFound : calls[position]? = some found)
      (leads : found.leader = other) : call ≠ position := by
    rintro rfl
    rw [Option.some.inj (isRecord.symm.trans isFound)] at different
    exact different leads
  cases phase with
  | start | looking => trivial
  | found name position | waiting name position =>
      obtain ⟨old, isOld, same⟩ := known
      by_cases isCall : call = position
      · subst isCall
        rw [Option.some.inj (isOld.symm.trans isRecord)] at same
        exact ⟨change record, by simp [isRecord], key.trans same⟩
      · exact ⟨old, kept isOld isCall, same⟩
  | made | calling => exact kept known (own known rfl)
  | stored | closing | deleting | leaving =>
      obtain ⟨value, isOld⟩ := known
      exact ⟨value, kept isOld (own isOld rfl)⟩
  | returned name position result =>
      obtain ⟨old, isOld, same, done, rest⟩ := known
      refine ⟨old, kept isOld ?_, same, done, rest⟩
      rintro rfl
      rw [Option.some.inj (isRecord.symm.trans isOld), done] at unfinished
      cases unfinished

/-- A step that changes neither records nor the table. -/
theorem Sound.move (sound : Sound group) (phase : group.callers[index]? = some before)
    (callers : next.callers = (group.set index after).callers) (calls : next.calls = group.calls)
    (table : next.table = group.table) (leads : after.leads = before.leads)
    (knows : Knows group.calls index after)
    (mutex : ∀ position, next.mutex = some position ↔
      ∃ now : Phase Key Value, next.callers[position]? = some now ∧ now.locked = true) :
    Sound next where
  mutex := mutex
  nodup := by
    rw [Group.inFlight, table]
    exact sound.nodup
  table := by
    intro entry
    rw [table, callers, sound.table entry]
    exact exists_congr fun position => leading_set phase leads position entry
  knows := by
    intro position now isNow
    rw [callers] at isNow
    rw [calls]
    by_cases isIndex : position = index
    · subst isIndex
      rw [set_self phase] at isNow
      rw [← Option.some.inj isNow]
      exact knows
    · rw [set_other isIndex] at isNow
      exact sound.knows position now isNow
  leader := by
    intro call record isRecord unfinished
    rw [calls] at isRecord
    rw [callers]
    exact (leading_set phase leads _ _).mp (sound.leader call record isRecord unfinished)
  result := by
    rw [calls]
    exact sound.result

/-- A goroutine enters. -/
theorem Sound.enter (sound : Sound group) (key : Key) :
    Sound { group with callers := group.callers ++ [.start key] } := by
  have old {position : Nat} {now : Phase Key Value}
      (isNow : group.callers[position]? = some now) :
      (group.callers ++ [.start key])[position]? = some now := by
    rw [List.getElem?_append_left (List.getElem?_eq_some_iff.mp isNow).1]
    exact isNow
  have back {position : Nat} {now : Phase Key Value}
      (isNow : (group.callers ++ [.start key])[position]? = some now) :
      group.callers[position]? = some now ∨ now = .start key := by
    rw [List.getElem?_append] at isNow
    split_ifs at isNow
    · exact Or.inl isNow
    · right
      exact List.mem_singleton.mp (List.mem_of_getElem? isNow)
  refine ⟨fun position => ?_, sound.nodup, fun entry => ?_, fun position now isNow => ?_,
    fun call record isRecord unfinished => ?_, sound.result⟩
  · refine (sound.mutex position).trans ⟨?_, ?_⟩
    · rintro ⟨now, isNow, locked⟩
      exact ⟨now, old isNow, locked⟩
    · rintro ⟨now, isNow, locked⟩
      rcases back isNow with earlier | rfl
      · exact ⟨now, earlier, locked⟩
      · cases locked
  · refine (sound.table entry).trans ⟨?_, ?_⟩
    · rintro ⟨position, now, isNow, leads⟩
      exact ⟨position, now, old isNow, leads⟩
    · rintro ⟨position, now, isNow, leads⟩
      rcases back isNow with earlier | rfl
      · exact ⟨position, now, earlier, leads⟩
      · cases leads
  · rcases back isNow with earlier | rfl
    · exact sound.knows position now earlier
    · trivial
  · obtain ⟨now, isNow, leads⟩ := sound.leader call record isRecord unfinished
    exact ⟨now, old isNow, leads⟩

/-- A goroutine makes the record of its key. -/
theorem Sound.make {key : Key} (sound : Sound group)
    (phase : group.callers[index]? = some (.looking key)) (absent : key ∉ group.inFlight) :
    Sound { group.set index (.made key group.calls.length) with
      calls := group.calls ++ [⟨key, index, none, false⟩]
      table := (key, group.calls.length) :: group.table } where
  mutex := sound.mutex_keep phase rfl rfl rfl
  nodup := List.nodup_cons.mpr ⟨absent, sound.nodup⟩
  table := by
    intro entry
    rw [List.mem_cons, sound.table entry]
    constructor
    · rintro (rfl | ⟨position, now, isNow, leads⟩)
      · exact ⟨index, _, set_self phase, rfl⟩
      · refine ⟨position, now, (set_other ?_).trans isNow, leads⟩
        rintro rfl
        rw [Option.some.inj (isNow.symm.trans phase)] at leads
        cases leads
    · rintro ⟨position, now, isNow, leads⟩
      by_cases isIndex : position = index
      · subst isIndex
        rw [← Option.some.inj ((set_self phase).symm.trans isNow)] at leads
        exact Or.inl (Option.some.inj leads).symm
      · exact Or.inr ⟨position, now, (set_other isIndex).symm.trans isNow, leads⟩
  knows := by
    intro position now isNow
    by_cases isIndex : position = index
    · subst isIndex
      rw [← Option.some.inj ((set_self phase).symm.trans isNow)]
      exact List.getElem?_concat_length
    · exact (sound.knows position now ((set_other isIndex).symm.trans isNow)).append _
  leader := by
    intro call record isRecord unfinished
    rw [List.getElem?_append] at isRecord
    split_ifs at isRecord with isOld
    · obtain ⟨now, isNow, leads⟩ := sound.leader call record isRecord unfinished
      refine ⟨now, (set_other ?_).trans isNow, leads⟩
      intro isIndex
      rw [isIndex] at isNow
      rw [Option.some.inj (isNow.symm.trans phase)] at leads
      cases leads
    · have isNew : call = group.calls.length := by
        have bound := (List.getElem?_eq_some_iff.mp isRecord).1
        rw [List.length_singleton] at bound
        omega
      subst isNew
      rw [Nat.sub_self] at isRecord
      cases isRecord
      exact ⟨_, set_self phase, rfl⟩
  result := by
    intro call record isRecord done
    rcases List.mem_append.mp (List.mem_of_getElem? isRecord) with earlier | new
    · obtain ⟨position, isOld⟩ := List.mem_iff_getElem?.mp earlier
      exact sound.result position record isOld done
    · rw [List.mem_singleton.mp new] at done
      cases done

/-- The leader of a record writes to it. -/
theorem Sound.change {call : Nat} {record : Call Key Value}
    {change : Call Key Value → Call Key Value} (sound : Sound group)
    (phase : group.callers[index]? = some before) (isRecord : group.calls[call]? = some record)
    (unfinished : record.done = false) (own : record.leader = index)
    (leads : after.leads = before.leads) (unlocked : after.locked = before.locked)
    (sameKey : (change record).key = record.key)
    (sameLeader : (change record).leader = record.leader)
    (known : Knows (group.calls.modify call change) index after)
    (result : (change record).done = true → (change record).value.isSome = true) :
    Sound ((group.change call change).set index after) := by
  -- a record is as before or the changed one
  have back {position : Nat} {found : Call Key Value}
      (isFound : (group.calls.modify call change)[position]? = some found) :
      position = call ∧ found = change record ∨ group.calls[position]? = some found := by
    rw [List.getElem?_modify] at isFound
    by_cases isCall : call = position
    · subst isCall
      rw [isRecord] at isFound
      exact Or.inl ⟨rfl, by simpa using isFound.symm⟩
    · right
      simpa [isCall] using isFound
  refine ⟨sound.mutex_keep phase rfl rfl unlocked, sound.nodup, fun entry => ?_,
    fun position now isNow => ?_, fun position found isFound stillOpen => ?_,
    fun position found isFound done => ?_⟩
  · exact (sound.table entry).trans
      (exists_congr fun position => leading_set phase leads position entry)
  · by_cases isIndex : position = index
    · subst isIndex
      rw [← Option.some.inj ((set_self phase).symm.trans isNow)]
      exact known
    · have earlier := sound.knows position now ((set_other isIndex).symm.trans isNow)
      exact earlier.modify isRecord unfinished (by rw [own]; exact Ne.symm isIndex) sameKey
  · apply (leading_set phase leads _ _).mp
    rcases back isFound with ⟨rfl, rfl⟩ | old
    · rw [sameKey, sameLeader]
      exact sound.leader position record isRecord unfinished
    · exact sound.leader position found old stillOpen
  · rcases back isFound with ⟨_, rfl⟩ | old
    · exact result done
    · exact sound.result position found old done

/-- An upper bound for the statements left. -/
def Phase.rank : Phase Key Value → Nat
  | .start _ => 9
  | .looking _ => 8
  | .made _ _ => 7
  | .calling _ _ => 6
  | .stored _ _ => 5
  | .closing _ _ => 4
  | .deleting _ _ => 3
  | .leaving _ _ => 2
  | .found _ _ => 2
  | .waiting _ _ => 1
  | .returned _ _ _ => 0

def Group.remaining (group : Group Key Value) : Nat := (group.callers.map Phase.rank).sum

theorem sum_rank_set {phases : List (Phase Key Value)} (phase : phases[index]? = some before)
    (lower : after.rank < before.rank) :
    ((phases.set index after).map Phase.rank).sum < (phases.map Phase.rank).sum := by
  induction phases generalizing index with
  | nil => cases phase
  | cons first rest inductionHypothesis =>
      cases index with
      | zero =>
          cases phase
          simpa using lower
      | succ index => simpa using inductionHypothesis phase

section Steps

variable [DecidableEq Key]

/-- The leader removes its record from the table. -/
theorem Sound.delete {key : Key} {call : Nat} (sound : Sound group)
    (phase : group.callers[index]? = some (.deleting key call)) :
    Sound { group.set index (.leaving key call) with
      table := group.table.filter fun entry => entry.1 ≠ key } where
  mutex := sound.mutex_keep phase rfl rfl rfl
  nodup := (sound.nodup.sublist (List.filter_sublist.map Prod.fst))
  table := by
    intro entry
    rw [List.mem_filter, sound.table entry]
    constructor
    · rintro ⟨⟨position, now, isNow, leads⟩, isOther⟩
      refine ⟨position, now, (set_other ?_).trans isNow, leads⟩
      rintro rfl
      rw [Option.some.inj (isNow.symm.trans phase)] at leads
      rw [← Option.some.inj leads] at isOther
      simp at isOther
    · rintro ⟨position, now, isNow, leads⟩
      by_cases isIndex : position = index
      · subst isIndex
        rw [← Option.some.inj ((set_self phase).symm.trans isNow)] at leads
        cases leads
      · have earlier := (set_other isIndex).symm.trans isNow
        refine ⟨⟨position, now, earlier, leads⟩, ?_⟩
        -- nobody else leads the key
        by_contra sameKey
        have same : entry.1 = key := by simpa using sameKey
        obtain ⟨name, record⟩ := entry
        cases same
        exact isIndex (sound.same_leader earlier phase leads rfl)
  knows := by
    intro position now isNow
    by_cases isIndex : position = index
    · subst isIndex
      have known := sound.knows position _ phase
      rw [← Option.some.inj ((set_self phase).symm.trans isNow)]
      exact known
    · exact sound.knows position now ((set_other isIndex).symm.trans isNow)
  leader := by
    intro position record isRecord unfinished
    obtain ⟨now, isNow, leads⟩ := sound.leader position record isRecord unfinished
    refine ⟨now, (set_other ?_).trans isNow, leads⟩
    intro isIndex
    -- the record of the leader is released already
    rw [isIndex] at isNow
    rw [Option.some.inj (isNow.symm.trans phase)] at leads
    cases leads
    obtain ⟨value, isReleased⟩ := sound.knows index _ phase
    rw [Option.some.inj (isRecord.symm.trans isReleased)] at unfinished
    cases unfinished
  result := sound.result

theorem Sound.stepped {action : Action Key Value} (sound : Sound group)
    (stepped : Stepped group action next) : Sound next := by
  cases stepped with
  | idle => exact sound
  | enter key => exact sound.enter key
  | lock index before after phase free wants =>
      have known := sound.knows index before phase
      rcases wants with ⟨key, rfl, rfl⟩ | ⟨key, call, rfl, rfl⟩
      · exact sound.move phase rfl rfl rfl rfl trivial (sound.mutex_lock phase rfl free rfl rfl)
      · exact sound.move phase rfl rfl rfl rfl known (sound.mutex_lock phase rfl free rfl rfl)
  | find index key call phase present =>
      obtain ⟨position, now, isNow, leads⟩ := (sound.table (key, call)).mp present
      have known : Knows group.calls index (.found key call : Phase Key Value) := by
        have own := sound.knows position now isNow
        cases now with
        | made | calling =>
            cases leads
            exact ⟨_, own, rfl⟩
        | stored | closing | deleting =>
            cases leads
            obtain ⟨value, own⟩ := own
            exact ⟨_, own, rfl⟩
        | start | looking | found | waiting | leaving | returned => cases leads
      exact sound.move phase rfl rfl rfl rfl known (sound.mutex_keep phase rfl rfl rfl)
  | make index key phase absent => exact sound.make phase absent
  | unlock index before after phase unlocks =>
      have known := sound.knows index before phase
      rcases unlocks with ⟨key, call, rfl, rfl⟩ | ⟨key, call, rfl, rfl⟩ | ⟨key, call, rfl, rfl⟩
      · exact sound.move phase rfl rfl rfl rfl known (sound.mutex_unlock phase rfl rfl rfl rfl)
      · exact sound.move phase rfl rfl rfl rfl known (sound.mutex_unlock phase rfl rfl rfl rfl)
      · obtain ⟨value, isRecord⟩ := known
        refine sound.move phase rfl rfl rfl rfl ?_ (sound.mutex_unlock phase rfl rfl rfl rfl)
        exact ⟨_, isRecord, rfl, rfl, by simp [Group.value, isRecord],
          by simp [Group.value, isRecord]⟩
  | wake index key call phase released =>
      obtain ⟨record, isRecord, same⟩ := sound.knows index _ phase
      have done : record.done = true := by
        simpa [Group.released, isRecord] using released
      refine sound.move phase rfl rfl rfl rfl ?_ (sound.mutex_keep phase rfl rfl rfl)
      exact ⟨record, isRecord, same, done, by simp [Group.value, isRecord],
        by simpa [Group.value, isRecord] using sound.result call record isRecord done⟩
  | complete index key call value phase =>
      have known := sound.knows index _ phase
      exact sound.change phase known rfl rfl rfl rfl rfl rfl
        ⟨value, by simp [show group.calls[call]? = _ from known]⟩
        fun done => by cases done
  | release index key call phase =>
      obtain ⟨value, known⟩ := sound.knows index _ phase
      exact sound.change phase known rfl rfl rfl rfl rfl rfl
        ⟨value, by simp [known]⟩ fun _ => rfl
  | delete index key call phase => exact sound.delete phase

/-! ### Progress -/

/-- A goroutine that executes its function is waited for; whoever else cannot go
on waits for somebody who can. -/
theorem Sound.progress (sound : Sound group) (phase : group.callers[index]? = some before)
    (unfinished : 0 < before.rank) :
    (∃ (position : Nat) (key : Key) (call : Nat),
        group.callers[position]? = some (.calling key call)) ∨
      ∃ position, (step group (.run position)).remaining < group.remaining := by
  have advance {position : Nat} {now : Phase Key Value} (after : Phase Key Value)
      (isNow : group.callers[position]? = some now) (lower : after.rank < now.rank)
      (callers : (group.perform position now).callers = group.callers.set position after) :
      (step group (.run position)).remaining < group.remaining := by
    simp only [step, isNow]
    rw [Group.remaining, callers]
    exact sum_rank_set isNow lower
  cases mutex : group.mutex with
  | some owner =>
      -- the holder of the mutex never waits
      right
      obtain ⟨now, isNow, locked⟩ := (sound.mutex owner).mp mutex
      refine ⟨owner, ?_⟩
      cases now with
      | looking key =>
          cases found : group.table.find? (fun entry => entry.1 = key) with
          | some entry =>
              refine advance (.found key entry.2) isNow (by decide : (2 : Nat) < 8) ?_
              simp [Group.perform, found, Group.set]
          | none =>
              refine advance (.made key group.calls.length) isNow (by decide : (7 : Nat) < 8) ?_
              simp [Group.perform, found, Group.set]
      | found key call =>
          exact advance (.waiting key call) isNow (by decide : (1 : Nat) < 2) rfl
      | made key call =>
          exact advance (.calling key call) isNow (by decide : (6 : Nat) < 7) rfl
      | deleting key call =>
          exact advance (.leaving key call) isNow (by decide : (2 : Nat) < 3) rfl
      | leaving key call =>
          exact advance (.returned key call (group.value call)) isNow (by decide : (0 : Nat) < 2) rfl
      | start | waiting | calling | stored | closing | returned => cases locked
  | none =>
      have unlocked {position : Nat} {now : Phase Key Value}
          (isNow : group.callers[position]? = some now) : now.locked = false := by
        by_contra locked
        have holder := (sound.mutex position).mpr ⟨now, isNow, by simpa using locked⟩
        rw [mutex] at holder
        cases holder
      cases before with
      | start key =>
          refine Or.inr ⟨index, advance (.looking key) phase (by decide : (8 : Nat) < 9) ?_⟩
          simp [Group.perform, Group.lock, mutex, Group.set]
      | waiting key call =>
          obtain ⟨record, isRecord, same⟩ := sound.knows index _ phase
          cases done : record.done with
          | true =>
              refine Or.inr ⟨index, advance (.returned key call (group.value call)) phase
                (by decide : (0 : Nat) < 1) ?_⟩
              simp [Group.perform, Group.released, isRecord, done, Group.set]
          | false =>
              -- the leader has yet to release the record
              obtain ⟨now, isNow, leads⟩ := sound.leader call record isRecord done
              have known := sound.knows _ now isNow
              cases now with
              | calling name other => exact Or.inl ⟨_, name, other, isNow⟩
              | stored name other =>
                  exact Or.inr ⟨_, advance (.closing name other) isNow (by decide : (4 : Nat) < 5) rfl⟩
              | closing name other =>
                  cases leads
                  obtain ⟨value, isReleased⟩ := known
                  rw [Option.some.inj (isRecord.symm.trans isReleased)] at done
                  cases done
              | made | deleting => cases unlocked isNow
              | start | looking | found | waiting | leaving | returned => cases leads
      | calling key call => exact Or.inl ⟨index, key, call, phase⟩
      | stored key call =>
          exact Or.inr ⟨index, advance (.closing key call) phase (by decide : (4 : Nat) < 5) rfl⟩
      | closing key call =>
          refine Or.inr ⟨index, advance (.deleting key call) phase (by decide : (3 : Nat) < 4) ?_⟩
          simp [Group.perform, Group.lock, mutex, Group.set]
      | returned => cases unfinished
      | looking | found | made | deleting | leaving => cases unlocked phase

theorem remaining_complete {key : Key} {call : Nat} (value : Value)
    (phase : group.callers[index]? = some (.calling key call)) :
    (step group (.complete index value)).remaining < group.remaining := by
  simp only [step, phase]
  exact sum_rank_set phase (by decide : (5 : Nat) < 6)

end Steps

end Invariant

end MXNetOperator.Interaction.Flight
