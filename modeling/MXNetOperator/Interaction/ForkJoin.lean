import Mathlib.Algebra.Order.BigOperators.Group.Finset
import Mathlib.Data.List.Count
import MXNetOperator.Interaction.System

/-!
Contract: goroutines that are forked, make their calls side by side, update a
shared value under a mutex, send errors to a buffered channel, and are joined
with a wait group.

An update is a load and a store: without the mutex, updates could be lost.
Owns the step function, its invariant, and the two results a user of the pattern
wants: at the join every goroutine has contributed exactly once, and the join is
reached.
-/

namespace MXNetOperator.Interaction

/-- The statements of a goroutine after its call. -/
inductive Op where
  | lock
  | load
  | store
  | unlock
  | send
  | finish
deriving DecidableEq

/-- Loads and stores stand in critical sections, and the wait group hears of the
goroutine last. -/
inductive Body : List Op → Prop where
  | finish : Body [.finish]
  | send {rest : List Op} (body : Body rest) : Body (.send :: rest)
  | critical {rest : List Op} (body : Body rest) :
      Body (.lock :: .load :: .store :: .unlock :: rest)

structure Fork (Call : Type) (Reply : Call → Type) (Abort Shared Error : Type) where
  size : Nat
  call : Nat → Program Call Reply Abort (Option Error)
  /-- `none` is a panic. -/
  update : Nat → Shared → Option Shared
  body : Option Error → List Op
  wellFormed : ∀ result, Body (body result)
  sendsErrors : ∀ result, (body result).count .send = result.toList.length

namespace Fork

variable {Call : Type} {Reply : Call → Type} {Abort Shared Error : Type}

/-- `result` is what the call returned, `rest` what is left of the body. -/
structure Goroutine (fork : Fork Call Reply Abort Shared Error) where
  thread : Thread fork.call
  result : Option (Option Error)
  register : Option Shared
  executed : List Op
  rest : List Op

/-- `waiting` is the counter of the wait group.  `log`, `stores` and `sends` say
in which order the calls were answered and the goroutines stored and sent. -/
structure State (fork : Fork Call Reply Abort Shared Error) where
  shared : Shared
  holder : Option Nat
  channel : List Error
  waiting : Nat
  goroutines : Nat → Goroutine fork
  crashed : Bool
  log : List (Nat × Exchange Call Reply)
  stores : List Nat
  sends : List Nat

inductive Action (Call : Type) (Reply : Call → Type) where
  | answer (index : Nat) (reply : (request : Call) → Reply request)
  | returnCall (index : Nat)
  | run (index : Nat)

variable (fork : Fork Call Reply Abort Shared Error)

def initial (shared : Shared) : State fork where
  shared := shared
  holder := none
  channel := []
  waiting := fork.size
  goroutines := fun index => ⟨Thread.start index, none, none, [], []⟩
  crashed := false
  log := []
  stores := []
  sends := []

variable {fork}

def Goroutine.error (goroutine : Goroutine fork) : Option Error := goroutine.result.join

/-- The goroutine after its next statement. -/
def Goroutine.next (goroutine : Goroutine fork) (op : Op) (rest : List Op)
    (register : Option Shared) : Goroutine fork :=
  { goroutine with register := register, executed := goroutine.executed ++ [op], rest := rest }

def State.set (state : State fork) (index : Nat) (goroutine : Goroutine fork) : State fork :=
  { state with goroutines := Function.update state.goroutines index goroutine }

/-- A goroutine executes a statement, unless it has to wait. -/
def State.perform (state : State fork) (index : Nat) (op : Op) (rest : List Op) : State fork :=
  let goroutine := state.goroutines index
  match op with
  | .lock =>
      if state.holder.isNone then
        { state.set index (goroutine.next .lock rest goroutine.register) with holder := some index }
      else state
  | .load => state.set index (goroutine.next .load rest (some state.shared))
  | .store =>
      match goroutine.register.bind (fork.update index) with
      | some shared =>
          { state.set index (goroutine.next .store rest goroutine.register) with
            shared := shared
            stores := state.stores ++ [index] }
      | none => { state with crashed := true }
  | .unlock =>
      { state.set index (goroutine.next .unlock rest goroutine.register) with holder := none }
  | .send =>
      if state.channel.length < fork.size then
        { state.set index (goroutine.next .send rest goroutine.register) with
          channel := state.channel ++ goroutine.error.toList
          sends := state.sends ++ [index] }
      else state
  | .finish =>
      { state.set index (goroutine.next .finish rest goroutine.register) with
        waiting := state.waiting - 1 }

def step (state : State fork) (action : Action Call Reply) : State fork :=
  if state.crashed then state
  else match action with
  | .answer index reply =>
      match (state.goroutines index).thread.advance (fun request _ => (reply request, ())) () with
      | some (exchange, thread, _) =>
          if index < fork.size then
            { state.set index { state.goroutines index with thread := thread } with
              log := state.log ++ [(index, exchange)] }
          else state
      | none => state
  | .returnCall index =>
      match (state.goroutines index).result, (state.goroutines index).thread.rest with
      | none, .done result =>
          if index < fork.size then
            state.set index
              { state.goroutines index with result := some result, rest := fork.body result }
          else state
      | none, .abort _ => if index < fork.size then { state with crashed := true } else state
      | _, _ => state
  | .run index =>
      match (state.goroutines index).rest with
      | op :: rest => if index < fork.size then state.perform index op rest else state
      | [] => state

/-! ### Inversion -/

/-- Everything a step can do. -/
inductive Stepped (state : State fork) : State fork → Prop where
  | idle : Stepped state state
  | crash (index : Nat) (bound : index < fork.size)
      (cause : (state.goroutines index).result = none ∧
          (∃ reason, (fork.call (state.goroutines index).thread.input).Aborts
            (state.goroutines index).thread.trace reason) ∨
        ∃ rest, (state.goroutines index).rest = .store :: rest ∧
          (state.goroutines index).register.bind (fork.update index) = none) :
      Stepped state { state with crashed := true }
  | answer (index : Nat) (bound : index < fork.size) (exchange : Exchange Call Reply)
      (thread : Thread fork.call) (input : thread.input = (state.goroutines index).thread.input)
      (trace : thread.trace = (state.goroutines index).thread.trace ++ [exchange])
      (unfinished : (state.goroutines index).thread.result = none) :
      Stepped state { state.set index { state.goroutines index with thread := thread } with
        log := state.log ++ [(index, exchange)] }
  | returnCall (index : Nat) (bound : index < fork.size) (result : Option Error)
      (calling : (state.goroutines index).result = none)
      (returned : (state.goroutines index).thread.result = some result) :
      Stepped state (state.set index
        { state.goroutines index with result := some result, rest := fork.body result })
  | lock (index : Nat) (bound : index < fork.size) (rest : List Op)
      (ops : (state.goroutines index).rest = .lock :: rest) (free : state.holder = none) :
      Stepped state { state.set index
        ((state.goroutines index).next .lock rest (state.goroutines index).register) with
          holder := some index }
  | load (index : Nat) (bound : index < fork.size) (rest : List Op)
      (ops : (state.goroutines index).rest = .load :: rest) :
      Stepped state (state.set index
        ((state.goroutines index).next .load rest (some state.shared)))
  | store (index : Nat) (bound : index < fork.size) (rest : List Op) (loaded shared : Shared)
      (ops : (state.goroutines index).rest = .store :: rest)
      (register : (state.goroutines index).register = some loaded)
      (updated : fork.update index loaded = some shared) :
      Stepped state { state.set index
        ((state.goroutines index).next .store rest (state.goroutines index).register) with
          shared := shared
          stores := state.stores ++ [index] }
  | unlock (index : Nat) (bound : index < fork.size) (rest : List Op)
      (ops : (state.goroutines index).rest = .unlock :: rest) :
      Stepped state { state.set index
        ((state.goroutines index).next .unlock rest (state.goroutines index).register) with
          holder := none }
  | send (index : Nat) (bound : index < fork.size) (rest : List Op)
      (ops : (state.goroutines index).rest = .send :: rest) :
      Stepped state { state.set index
        ((state.goroutines index).next .send rest (state.goroutines index).register) with
          channel := state.channel ++ (state.goroutines index).error.toList
          sends := state.sends ++ [index] }
  | finish (index : Nat) (bound : index < fork.size) (rest : List Op)
      (ops : (state.goroutines index).rest = .finish :: rest) :
      Stepped state { state.set index
        ((state.goroutines index).next .finish rest (state.goroutines index).register) with
          waiting := state.waiting - 1 }

theorem perform_stepped {state : State fork} {index : Nat} {op : Op} {rest : List Op}
    (bound : index < fork.size) (ops : (state.goroutines index).rest = op :: rest) :
    Stepped state (state.perform index op rest) := by
  cases op with
  | lock =>
      dsimp only [State.perform]
      split_ifs with free
      · exact .lock index bound rest ops (Option.isNone_iff_eq_none.mp free)
      · exact .idle
  | load => exact .load index bound rest ops
  | store =>
      dsimp only [State.perform]
      split
      · rename_i shared updated
        obtain ⟨loaded, register, updated⟩ := Option.bind_eq_some_iff.mp updated
        exact .store index bound rest loaded shared ops register updated
      · exact .crash index bound (.inr ⟨rest, ops, ‹_›⟩)
  | unlock => exact .unlock index bound rest ops
  | send =>
      dsimp only [State.perform]
      split_ifs
      · exact .send index bound rest ops
      · exact .idle
  | finish => exact .finish index bound rest ops

theorem step_stepped (state : State fork) (action : Action Call Reply) :
    Stepped state (step state action) := by
  unfold step
  split
  · exact .idle
  · cases action with
    | answer index reply =>
        dsimp only
        split
        · rename_i exchange thread _ advanced
          split_ifs with bound
          · obtain ⟨_, pending, _, _, input, trace⟩ := Thread.advance_issues advanced
            exact .answer index bound exchange thread input trace
              (Thread.result_of_pending pending)
          · exact .idle
        · exact .idle
    | returnCall index =>
        dsimp only
        split
        · rename_i result calling finished
          split_ifs with bound
          · refine .returnCall index bound result calling ?_
            rw [Thread.result, finished]
          · exact .idle
        · rename_i reason calling aborting
          split_ifs with bound
          · refine .crash index bound (.inl ⟨calling, reason, ?_⟩)
            have reached := (state.goroutines index).thread.onPath
            rw [aborting] at reached
            exact reached
          · exact .idle
        · exact .idle
    | run index =>
        dsimp only
        split
        · rename_i op rest ops
          split_ifs with bound
          · exact perform_stepped bound ops
          · exact .idle
        · exact .idle

/-! ### Goroutines -/

@[simp] theorem State.set_self {state : State fork} {index : Nat} {goroutine : Goroutine fork} :
    (state.set index goroutine).goroutines index = goroutine := Function.update_self ..

theorem State.set_other {state : State fork} {index other : Nat} {goroutine : Goroutine fork}
    (different : other ≠ index) :
    (state.set index goroutine).goroutines other = state.goroutines other :=
  Function.update_of_ne different ..

/-- Whether the next statement is in a critical section. -/
def inside : List Op → Bool
  | .load :: _ => true
  | .store :: _ => true
  | .unlock :: _ => true
  | _ => false

/-- What can be left of a body. -/
inductive Left : List Op → Prop where
  | ended : Left []
  | outside {rest : List Op} (body : Body rest) : Left rest
  | loading {rest : List Op} (body : Body rest) : Left (.load :: .store :: .unlock :: rest)
  | storing {rest : List Op} (body : Body rest) : Left (.store :: .unlock :: rest)
  | unlocking {rest : List Op} (body : Body rest) : Left (.unlock :: rest)

section Left

variable {op : Op} {rest : List Op}

theorem inside_body (body : Body rest) : inside rest = false := by
  cases body <;> rfl

theorem Left.tail (left : Left (op :: rest)) : Left rest := by
  cases left with
  | outside body =>
      cases body with
      | finish => exact .ended
      | send body => exact .outside body
      | critical body => exact .loading body
  | loading body => exact .storing body
  | storing body => exact .unlocking body
  | unlocking body => exact .outside body

theorem Left.inside_tail (left : Left (op :: rest)) :
    inside rest = (op == .lock || op == .load || op == .store) := by
  cases left with
  | outside body =>
      cases body with
      | finish => rfl
      | send body => exact inside_body body
      | critical body => rfl
  | loading body => rfl
  | storing body => rfl
  | unlocking body => exact inside_body body

end Left

/-- What a goroutine knows of itself. -/
structure Local (index : Nat) (goroutine : Goroutine fork) : Prop where
  input : goroutine.thread.input = index
  calling : goroutine.result = none → goroutine.executed = [] ∧ goroutine.rest = []
  returned : ∀ result, goroutine.result = some result →
    goroutine.thread.result = some result ∧
      goroutine.executed ++ goroutine.rest = fork.body result ∧ Left goroutine.rest

structure Locals (state : State fork) : Prop where
  each : ∀ index, Local index (state.goroutines index)
  beyond : ∀ index, fork.size ≤ index → (state.goroutines index).executed = [] ∧
    (state.goroutines index).rest = [] ∧ (state.goroutines index).thread.trace = []

theorem Locals.initial (shared : Shared) : Locals (fork.initial shared) where
  each := fun _ => ⟨rfl, fun _ => ⟨rfl, rfl⟩, fun _ returned => by cases returned⟩
  beyond := fun _ _ => ⟨rfl, rfl, rfl⟩

section Invariant

variable {state next : State fork} {index : Nat} {op : Op} {rest : List Op}

theorem Locals.set {goroutine : Goroutine fork} (locals : Locals state)
    (changed : Local index goroutine) (bound : index < fork.size)
    (same : next.goroutines = (state.set index goroutine).goroutines) : Locals next where
  each := by
    intro other
    rw [same]
    by_cases isIndex : other = index
    · rw [isIndex, State.set_self]
      exact changed
    · rw [State.set_other isIndex]
      exact locals.each other
  beyond := by
    intro other outside
    rw [same, State.set_other (by omega)]
    exact locals.beyond other outside

/-- A goroutine with statements left has made its call. -/
theorem Locals.result (locals : Locals state) (ops : (state.goroutines index).rest = op :: rest) :
    ∃ result, (state.goroutines index).result = some result := by
  cases result : (state.goroutines index).result with
  | none =>
      have nothing := ((locals.each index).calling result).2
      rw [ops] at nothing
      cases nothing
  | some value => exact ⟨value, rfl⟩

theorem Locals.left (locals : Locals state) (ops : (state.goroutines index).rest = op :: rest) :
    Left (op :: rest) := by
  obtain ⟨result, isResult⟩ := locals.result ops
  rw [← ops]
  exact ((locals.each index).returned result isResult).2.2

theorem Locals.advance (locals : Locals state) (ops : (state.goroutines index).rest = op :: rest)
    (register : Option Shared) : Local index ((state.goroutines index).next op rest register) where
  input := (locals.each index).input
  calling := by
    intro calling
    obtain ⟨result, isResult⟩ := locals.result ops
    cases calling.symm.trans isResult
  returned := by
    intro result isResult
    obtain ⟨returned, path, left⟩ := (locals.each index).returned result isResult
    rw [ops] at path left
    refine ⟨returned, ?_, left.tail⟩
    rw [← path]
    exact List.append_cons _ _ _ |>.symm

theorem Locals.stepped (locals : Locals state) (stepped : Stepped state next) : Locals next := by
  cases stepped with
  | idle => exact locals
  | crash => exact ⟨locals.each, locals.beyond⟩
  | answer index bound exchange thread input trace unfinished =>
      refine locals.set ⟨?_, ?_, ?_⟩ bound rfl
      · exact input.trans (locals.each index).input
      · exact (locals.each index).calling
      · intro result isResult
        obtain ⟨returned, _⟩ := (locals.each index).returned result isResult
        cases unfinished.symm.trans returned
  | returnCall index bound result calling returned =>
      have changed : Local index
          { state.goroutines index with result := some result, rest := fork.body result } := by
        refine ⟨(locals.each index).input, fun wrong => ?_, fun other isOther => ?_⟩
        · cases wrong
        cases isOther
        refine ⟨returned, ?_, .outside (fork.wellFormed result)⟩
        show (state.goroutines index).executed ++ _ = _
        rw [((locals.each index).calling calling).1]
        rfl
      exact locals.set changed bound rfl
  | lock index bound rest ops => exact locals.set (locals.advance ops _) bound rfl
  | load index bound rest ops => exact locals.set (locals.advance ops _) bound rfl
  | store index bound rest loaded shared ops => exact locals.set (locals.advance ops _) bound rfl
  | unlock index bound rest ops => exact locals.set (locals.advance ops _) bound rfl
  | send index bound rest ops => exact locals.set (locals.advance ops _) bound rfl
  | finish index bound rest ops => exact locals.set (locals.advance ops _) bound rfl

/-! ### The mutex -/

/-- The holder of the mutex is the one goroutine in its critical section, and
what it loaded is still the shared value. -/
structure Locked (state : State fork) : Prop where
  holder : ∀ index, state.holder = some index ↔ inside (state.goroutines index).rest = true
  loaded : ∀ index rest, (state.goroutines index).rest = .store :: rest →
    (state.goroutines index).register = some state.shared

/-- A step outside the critical sections. -/
theorem Locked.frame {goroutine : Goroutine fork} (locked : Locked state)
    (same : next.goroutines = (state.set index goroutine).goroutines)
    (holder : next.holder = state.holder) (shared : next.shared = state.shared)
    (before : inside (state.goroutines index).rest = false)
    (after : inside goroutine.rest = false) : Locked next where
  holder := by
    intro other
    rw [holder, same]
    by_cases isIndex : other = index
    · subst isIndex
      rw [State.set_self, after, locked.holder other, before]
    · rw [State.set_other isIndex]
      exact locked.holder other
  loaded := by
    intro other rest ops
    rw [same] at ops ⊢
    by_cases isIndex : other = index
    · subst isIndex
      rw [State.set_self] at ops
      rw [ops] at after
      cases after
    · rw [State.set_other isIndex] at ops ⊢
      rw [shared]
      exact locked.loaded other rest ops

/-- A step of the goroutine that has the mutex before and after. -/
theorem Locked.owner {goroutine : Goroutine fork} (locked : Locked state)
    (same : next.goroutines = (state.set index goroutine).goroutines)
    (holder : next.holder = state.holder) (before : inside (state.goroutines index).rest = true)
    (after : inside goroutine.rest = true)
    (loaded : ∀ rest, goroutine.rest = .store :: rest → goroutine.register = some next.shared) :
    Locked next where
  holder := by
    intro other
    rw [holder, same]
    by_cases isIndex : other = index
    · subst isIndex
      rw [State.set_self, after, locked.holder other, before]
    · rw [State.set_other isIndex]
      exact locked.holder other
  loaded := by
    intro other rest ops
    rw [same] at ops ⊢
    by_cases isIndex : other = index
    · subst isIndex
      rw [State.set_self] at ops ⊢
      exact loaded rest ops
    · -- two goroutines cannot both hold the mutex
      rw [State.set_other isIndex] at ops
      have isHolder := (locked.holder index).mpr before
      have isOther := (locked.holder other).mpr (by rw [ops]; rfl)
      exact absurd (Option.some.inj (isOther.symm.trans isHolder)) isIndex

/-- The goroutine does not get on. -/
theorem Locked.same {goroutine : Goroutine fork} (locked : Locked state)
    (same : next.goroutines = (state.set index goroutine).goroutines)
    (holder : next.holder = state.holder) (shared : next.shared = state.shared)
    (rest : goroutine.rest = (state.goroutines index).rest)
    (register : goroutine.register = (state.goroutines index).register) : Locked next := by
  cases before : inside (state.goroutines index).rest with
  | false => exact locked.frame same holder shared before (rest ▸ before)
  | true =>
      refine locked.owner same holder before (rest ▸ before) fun left ops => ?_
      rw [register, shared]
      exact locked.loaded index left (rest ▸ ops)

theorem Locked.stepped (locked : Locked state) (locals : Locals state)
    (stepped : Stepped state next) : Locked next := by
  cases stepped with
  | idle => exact locked
  | crash => exact ⟨locked.holder, locked.loaded⟩
  | answer index bound exchange thread input trace unfinished =>
      exact locked.same rfl rfl rfl rfl rfl
  | returnCall index bound result calling returned =>
      refine locked.frame rfl rfl rfl ?_ (inside_body (fork.wellFormed result))
      rw [((locals.each index).calling calling).2]
      rfl
  | lock index bound rest ops free =>
      have left := locals.left ops
      have others : ∀ other, inside (state.goroutines other).rest = false := by
        intro other
        have isHolder := locked.holder other
        rw [free] at isHolder
        simpa using isHolder
      refine ⟨fun other => ?_, fun other remaining ahead => ?_⟩
      · by_cases isIndex : other = index
        · subst isIndex
          have within : inside rest = true := left.inside_tail
          simpa [Goroutine.next] using within
        · have different : index ≠ other := Ne.symm isIndex
          simp only [State.set_other isIndex, others other, Option.some.injEq, different,
            Bool.false_eq_true]
      · by_cases isIndex : other = index
        · subst isIndex
          simp only [State.set_self, Goroutine.next] at ahead
          rw [ahead] at left
          cases left with
          | outside body => cases body
        · simp only [State.set_other isIndex] at ahead
          have outside := others other
          rw [ahead] at outside
          cases outside
  | load index bound rest ops =>
      exact locked.owner rfl rfl (by rw [ops]; rfl) (locals.left ops).inside_tail fun _ _ => rfl
  | store index bound rest loaded shared ops register updated =>
      refine locked.owner rfl rfl (by rw [ops]; rfl) (locals.left ops).inside_tail ?_
      intro remaining ahead
      have left := locals.left ops
      change rest = _ at ahead
      rw [ahead] at left
      cases left with
      | outside body => cases body
  | unlock index bound rest ops =>
      have isHolder := (locked.holder index).mpr (by rw [ops]; rfl)
      have outside : inside rest = false := (locals.left ops).inside_tail
      refine ⟨fun other => ?_, fun other remaining ahead => ?_⟩
      · by_cases isIndex : other = index
        · subst isIndex
          simp [Goroutine.next, outside]
        · have notHolder := locked.holder other
          rw [isHolder] at notHolder
          simp only [State.set_other isIndex, reduceCtorEq, false_iff]
          rw [← notHolder]
          exact fun same => isIndex (Option.some.inj same).symm
      · by_cases isIndex : other = index
        · subst isIndex
          simp only [State.set_self, Goroutine.next] at ahead
          rw [ahead] at outside
          cases outside
        · simp only [State.set_other isIndex] at ahead ⊢
          exact locked.loaded other remaining ahead
  | send index bound rest ops =>
      exact locked.frame rfl rfl rfl (by rw [ops]; rfl) (locals.left ops).inside_tail
  | finish index bound rest ops =>
      exact locked.frame rfl rfl rfl (by rw [ops]; rfl) (locals.left ops).inside_tail

/-! ### Contributions -/

/-- `marks` has every goroutine as often as it has executed the statement. -/
def Counts (op : Op) (marks : List Nat) (state : State fork) : Prop :=
  ∀ index, marks.count index = (state.goroutines index).executed.count op

theorem Counts.keep {goroutine : Goroutine fork} {marks : List Nat} (counts : Counts op marks state)
    (same : next.goroutines = (state.set index goroutine).goroutines)
    (executed : goroutine.executed = (state.goroutines index).executed) : Counts op marks next := by
  intro other
  rw [same]
  by_cases isIndex : other = index
  · rw [isIndex, State.set_self, executed]
    exact counts index
  · rw [State.set_other isIndex]
    exact counts other

theorem Counts.advance {executed : Op} {register : Option Shared} {marks after : List Nat}
    (counts : Counts op marks state)
    (same : next.goroutines = (state.set index
      ((state.goroutines index).next executed rest register)).goroutines)
    (marked : after = if executed = op then marks ++ [index] else marks) :
    Counts op after next := by
  intro other
  have before := counts other
  rw [same, marked]
  by_cases isIndex : other = index
  · subst isIndex
    rw [State.set_self, Goroutine.next, List.count_append, ← before]
    split_ifs with isOp
    · rw [isOp, List.count_append, List.count_singleton_self, List.count_singleton_self]
    · rw [List.count_singleton, if_neg (by simpa using isOp), Nat.add_zero]
  · have different : ¬ index = other := Ne.symm isIndex
    rw [State.set_other isIndex, ← before]
    split_ifs
    · rw [List.count_append, List.count_singleton, if_neg (by simpa using different), Nat.add_zero]
    · rfl

/-- The shared value is what the stores made of it, one after the other. -/
structure Stored (first : Shared) (state : State fork) : Prop where
  counts : Counts .store state.stores state
  shared : state.stores.foldlM (fun shared index => fork.update index shared) first =
    some state.shared

theorem Stored.stepped {first : Shared} (stored : Stored first state) (locked : Locked state)
    (stepped : Stepped state next) : Stored first next := by
  cases stepped with
  | idle => exact stored
  | crash => exact ⟨stored.counts, stored.shared⟩
  | answer => exact ⟨stored.counts.keep rfl rfl, stored.shared⟩
  | returnCall => exact ⟨stored.counts.keep rfl rfl, stored.shared⟩
  | lock => exact ⟨stored.counts.advance rfl rfl, stored.shared⟩
  | load => exact ⟨stored.counts.advance rfl rfl, stored.shared⟩
  | store index bound rest loaded shared ops register updated =>
      refine ⟨stored.counts.advance rfl rfl, ?_⟩
      -- nobody has stored since the load
      have current := locked.loaded index rest ops
      rw [register] at current
      rw [Option.some.inj current] at updated
      rw [List.foldlM_append, stored.shared]
      simpa using updated
  | unlock => exact ⟨stored.counts.advance rfl rfl, stored.shared⟩
  | send => exact ⟨stored.counts.advance rfl rfl, stored.shared⟩
  | finish => exact ⟨stored.counts.advance rfl rfl, stored.shared⟩

/-- The channel has the errors of the goroutines that have sent. -/
structure Sent (state : State fork) : Prop where
  counts : Counts .send state.sends state
  channel : state.channel = state.sends.filterMap fun index => (state.goroutines index).error

theorem errors_set {goroutine : Goroutine fork} {marks : List Nat}
    (same : next.goroutines = (state.set index goroutine).goroutines)
    (result : index ∈ marks → goroutine.result = (state.goroutines index).result) :
    (marks.filterMap fun other => (next.goroutines other).error) =
      marks.filterMap fun other => (state.goroutines other).error := by
  apply List.filterMap_congr
  intro other member
  rw [same]
  by_cases isIndex : other = index
  · subst isIndex
    rw [State.set_self, Goroutine.error, result member, Goroutine.error]
  · rw [State.set_other isIndex]

theorem Sent.advance {register : Option Shared} (sent : Sent state)
    (same : next.goroutines = (state.set index
      ((state.goroutines index).next op rest register)).goroutines)
    (sends : next.sends = state.sends) (channel : next.channel = state.channel)
    (silent : op ≠ .send) : Sent next where
  counts := by
    rw [sends]
    exact sent.counts.advance same (if_neg silent).symm
  channel := by
    rw [channel, sends, errors_set same fun _ => rfl]
    exact sent.channel

theorem Sent.stepped (sent : Sent state) (locals : Locals state) (stepped : Stepped state next) :
    Sent next := by
  cases stepped with
  | idle => exact sent
  | crash => exact ⟨sent.counts, sent.channel⟩
  | answer =>
      refine ⟨sent.counts.keep rfl rfl, sent.channel.trans ?_⟩
      symm
      exact errors_set rfl fun _ => rfl
  | returnCall index bound result calling returned =>
      refine ⟨sent.counts.keep rfl rfl, sent.channel.trans ?_⟩
      symm
      refine errors_set rfl fun member => ?_
      -- before its call returned, a goroutine has sent nothing
      have count := sent.counts index
      rw [((locals.each index).calling calling).1] at count
      exact absurd member (List.count_eq_zero.mp count)
  | lock => exact sent.advance rfl rfl rfl (by decide)
  | load => exact sent.advance rfl rfl rfl (by decide)
  | store => exact sent.advance rfl rfl rfl (by decide)
  | unlock => exact sent.advance rfl rfl rfl (by decide)
  | send index bound rest ops =>
      refine ⟨sent.counts.advance rfl rfl, ?_⟩
      show state.channel ++ _ = _
      rw [sent.channel, List.filterMap_append]
      congr 1
      · symm
        exact errors_set rfl fun _ => rfl
      · simp only [List.filterMap_cons, List.filterMap_nil, State.set_self, Goroutine.error,
          Goroutine.next]
        cases (state.goroutines index).result.join <;> rfl
  | finish => exact sent.advance rfl rfl rfl (by decide)

/-- Every thread has the replies of the log. -/
def Logged (state : State fork) : Prop :=
  ∀ index, (state.log.filter fun entry => entry.1 = index).map Prod.snd =
    (state.goroutines index).thread.trace

theorem Logged.keep {goroutine : Goroutine fork} (logged : Logged state)
    (same : next.goroutines = (state.set index goroutine).goroutines) (log : next.log = state.log)
    (thread : goroutine.thread = (state.goroutines index).thread) : Logged next := by
  intro other
  rw [same, log]
  by_cases isIndex : other = index
  · rw [isIndex, State.set_self, thread]
    exact logged index
  · rw [State.set_other isIndex]
    exact logged other

theorem Logged.stepped (logged : Logged state) (stepped : Stepped state next) : Logged next := by
  cases stepped with
  | idle => exact logged
  | crash => exact logged
  | answer index bound exchange thread input trace unfinished =>
      intro other
      have before := logged other
      show ((state.log ++ [(index, exchange)]).filter _).map _ = _
      rw [List.filter_append, List.map_append, before]
      by_cases isIndex : other = index
      · subst isIndex
        simp only [State.set_self, trace]
        simp
      · have different : ¬ index = other := Ne.symm isIndex
        simp only [State.set_other isIndex]
        simp [different]
  | returnCall => exact logged.keep rfl rfl rfl
  | lock => exact logged.keep rfl rfl rfl
  | load => exact logged.keep rfl rfl rfl
  | store => exact logged.keep rfl rfl rfl
  | unlock => exact logged.keep rfl rfl rfl
  | send => exact logged.keep rfl rfl rfl
  | finish => exact logged.keep rfl rfl rfl

/-! ### The wait group -/

theorem Left.tail_nil (left : Left (op :: rest)) : rest = [] ↔ op = .finish := by
  have nonempty {ops : List Op} (body : Body ops) : ops ≠ [] := by
    cases body <;> simp
  cases left with
  | outside body =>
      cases body with
      | finish => simp
      | send body => simp [nonempty body]
      | critical body => simp
  | loading body => simp
  | storing body => simp
  | unlocking body => simp [nonempty body]

def Goroutine.ended (goroutine : Goroutine fork) : Bool :=
  goroutine.result.isSome && goroutine.rest.isEmpty

def State.unfinished (state : State fork) : Finset Nat :=
  (Finset.range fork.size).filter fun index => (state.goroutines index).ended = false

theorem unfinished_same {goroutine : Goroutine fork}
    (same : next.goroutines = (state.set index goroutine).goroutines)
    (ended : goroutine.ended = (state.goroutines index).ended) :
    next.unfinished = state.unfinished := by
  apply Finset.filter_congr
  intro other _
  rw [same]
  by_cases isIndex : other = index
  · rw [isIndex, State.set_self, ended]
  · rw [State.set_other isIndex]

/-- Every statement but the last leaves something to do. -/
theorem unfinished_advance {register : Option Shared} (locals : Locals state)
    (ops : (state.goroutines index).rest = op :: rest) (goesOn : op ≠ .finish)
    (same : next.goroutines = (state.set index
      ((state.goroutines index).next op rest register)).goroutines) :
    next.unfinished = state.unfinished := by
  apply unfinished_same same
  have left : rest ≠ [] := fun isNil => goesOn ((locals.left ops).tail_nil.mp isNil)
  simp [Goroutine.ended, Goroutine.next, ops, left]

theorem unfinished_finish {register : Option Shared} (locals : Locals state)
    (ops : (state.goroutines index).rest = .finish :: rest)
    (same : next.goroutines = (state.set index
      ((state.goroutines index).next .finish rest register)).goroutines) :
    next.unfinished = state.unfinished.erase index := by
  obtain ⟨result, isResult⟩ := locals.result ops
  have isNil : rest = [] := (locals.left ops).tail_nil.mpr rfl
  ext other
  simp only [State.unfinished, Finset.mem_filter, Finset.mem_erase, same]
  by_cases isIndex : other = index
  · subst isIndex
    simp [Goroutine.ended, Goroutine.next, isResult, isNil]
  · simp [State.set_other isIndex, isIndex]

/-- The counter of the wait group. -/
def Waits (state : State fork) : Prop := state.waiting = state.unfinished.card

theorem Waits.stepped (waits : Waits state) (locals : Locals state)
    (stepped : Stepped state next) : Waits next := by
  have kept (count : next.waiting = state.waiting) (same : next.unfinished = state.unfinished) :
      Waits next := by
    rw [Waits, count, same]
    exact waits
  cases stepped with
  | idle => exact waits
  | crash => exact waits
  | answer => exact kept rfl (unfinished_same rfl rfl)
  | returnCall index bound result calling returned =>
      refine kept rfl (unfinished_same rfl ?_)
      have nonempty : fork.body result ≠ [] := by
        intro isNil
        cases isNil ▸ fork.wellFormed result
      simp [Goroutine.ended, calling, nonempty]
  | lock index bound rest ops =>
      exact kept rfl (unfinished_advance locals ops (by decide) rfl)
  | load index bound rest ops =>
      exact kept rfl (unfinished_advance locals ops (by decide) rfl)
  | store index bound rest loaded shared ops =>
      exact kept rfl (unfinished_advance locals ops (by decide) rfl)
  | unlock index bound rest ops =>
      exact kept rfl (unfinished_advance locals ops (by decide) rfl)
  | send index bound rest ops =>
      exact kept rfl (unfinished_advance locals ops (by decide) rfl)
  | finish index bound rest ops =>
      have member : index ∈ state.unfinished := by
        simp [State.unfinished, bound, Goroutine.ended, ops]
      refine Eq.trans ?_ (congrArg Finset.card (unfinished_finish locals ops rfl)).symm
      rw [Finset.card_erase_of_mem member, ← waits]

/-! ### Every run -/

structure Sound (first : Shared) (state : State fork) : Prop where
  locals : Locals state
  locked : Locked state
  stored : Stored first state
  sent : Sent state
  logged : Logged state
  waits : Waits state

theorem sound_initial (shared : Shared) : Sound shared (fork.initial shared) where
  locals := Locals.initial shared
  locked := ⟨fun _ => by simp [initial, inside], fun _ _ ops => by cases ops⟩
  stored := ⟨fun _ => rfl, rfl⟩
  sent := ⟨fun _ => rfl, rfl⟩
  logged := fun _ => rfl
  waits := by simp [Waits, State.unfinished, initial, Goroutine.ended]

theorem Sound.stepped {first : Shared} (sound : Sound first state)
    (stepped : Stepped state next) : Sound first next where
  locals := sound.locals.stepped stepped
  locked := sound.locked.stepped sound.locals stepped
  stored := sound.stored.stepped sound.locked stepped
  sent := sound.sent.stepped sound.locals stepped
  logged := sound.logged.stepped stepped
  waits := sound.waits.stepped sound.locals stepped

theorem run_sound {allowed : State fork → Action Call Reply → Prop} {past : List (State fork)}
    {first : Shared} (run : Run step allowed (fork.initial first) past state) :
    Sound first state :=
  run.invariant (Sound first) (sound_initial first)
    fun current action sound _ => sound.stepped (step_stepped current action)

/-! ### The join -/

theorem length_toList_le (result : Option Error) : result.toList.length ≤ 1 := by
  cases result <;> simp

section Join

variable {first : Shared} (sound : Sound first state)

include sound

/-- At the join every call has returned and every body is over. -/
theorem Sound.joined (joined : state.waiting = 0) (bound : index < fork.size) :
    ∃ result, (state.goroutines index).result = some result ∧
      (fork.call index).Returns (state.goroutines index).thread.trace result ∧
      (state.goroutines index).executed = fork.body result := by
  have none : state.unfinished = ∅ := by
    rw [← Finset.card_eq_zero, ← sound.waits]
    exact joined
  have ended : (state.goroutines index).ended = true := by
    by_contra unfinished
    have member : index ∈ state.unfinished := by
      simpa [State.unfinished, bound] using unfinished
    rw [none] at member
    cases member
  simp only [Goroutine.ended, Bool.and_eq_true, List.isEmpty_iff] at ended
  obtain ⟨result, isResult⟩ := Option.isSome_iff_exists.mp ended.1
  obtain ⟨returned, path, _⟩ := (sound.locals.each index).returned result isResult
  rw [ended.2, List.append_nil] at path
  have returns := Thread.returns_of_result returned
  rw [(sound.locals.each index).input] at returns
  exact ⟨result, isResult, returns, path⟩

/-- A statement that every body has at most once. -/
theorem Sound.marks_perm {marks : List Nat} (counts : Counts op marks state)
    (joined : state.waiting = 0) (once : ∀ result, (fork.body result).count op ≤ 1) :
    marks.Perm ((List.range fork.size).filter fun index =>
      (fork.body (state.goroutines index).error).contains op) := by
  rw [List.perm_iff_count]
  intro index
  rw [counts index]
  by_cases bound : index < fork.size
  · obtain ⟨result, isResult, _, executed⟩ := sound.joined joined bound
    have error : (state.goroutines index).error = result := by
      rw [Goroutine.error, isResult]
      rfl
    have atMost := once result
    rw [executed]
    by_cases contains : op ∈ fork.body result
    · have atLeast := List.count_pos_iff.mpr contains
      rw [List.count_filter (by simpa [error] using contains),
        List.count_eq_one_of_mem List.nodup_range (List.mem_range.mpr bound)]
      omega
    · have absent : index ∉ (List.range fork.size).filter fun index =>
          (fork.body (state.goroutines index).error).contains op := by
        simp [error, contains]
      rw [List.count_eq_zero.mpr contains, List.count_eq_zero.mpr absent]
  · have outside : index ∉ (List.range fork.size).filter fun index =>
        (fork.body (state.goroutines index).error).contains op := by
      simp [bound]
    rw [(sound.locals.beyond index (Nat.le_of_not_lt bound)).1, List.count_eq_zero.mpr outside]
    rfl

/-- At the join the channel has the errors of all calls. -/
theorem Sound.channel_perm (joined : state.waiting = 0) :
    state.channel.Perm ((List.range fork.size).filterMap fun index =>
      (state.goroutines index).error) := by
  have once : ∀ result, (fork.body result).count .send ≤ 1 := by
    intro result
    rw [fork.sendsErrors result]
    exact length_toList_le result
  have marked := sound.marks_perm sound.sent.counts joined once
  rw [sound.sent.channel]
  refine (marked.filterMap _).trans (List.Perm.of_eq ?_)
  rw [List.filterMap_filter]
  apply List.filterMap_congr
  intro index _
  cases error : (state.goroutines index).error with
  | none => simp
  | some value =>
      have sends : .send ∈ fork.body (some value) := by
        rw [← List.count_pos_iff, fork.sendsErrors]
        exact Nat.one_pos
      simp [sends]

/-- The goroutines in the order of the calls that matter to the outside, if each
makes one such call. -/
theorem Sound.order_perm {visible : Exchange Call Reply → Bool}
    (once : ∀ index, index < fork.size →
      ((state.goroutines index).thread.trace.filter visible).length = 1) :
    ((state.log.filter fun entry => visible entry.2).map Prod.fst).Perm (List.range fork.size) := by
  rw [List.perm_iff_count]
  intro index
  have counted : ((state.log.filter fun entry => visible entry.2).map Prod.fst).count index =
      ((state.goroutines index).thread.trace.filter visible).length := by
    rw [← sound.logged index, List.count, List.countP_map, List.countP_filter,
      ← List.countP_eq_length_filter, List.countP_map, List.countP_filter]
    apply List.countP_congr
    intro entry _
    simp [and_comm]
  rw [counted]
  by_cases bound : index < fork.size
  · rw [once index bound, List.count_eq_one_of_mem List.nodup_range (List.mem_range.mpr bound)]
  · rw [(sound.locals.beyond index (Nat.le_of_not_lt bound)).2.2,
      List.count_eq_zero.mpr (by simpa using bound)]
    rfl

/-- Their traces, one after the other, show these calls as the outside saw them. -/
theorem Sound.order_trace {visible : Exchange Call Reply → Bool}
    (once : ∀ index, index < fork.size →
      ((state.goroutines index).thread.trace.filter visible).length = 1) :
    (((state.log.filter fun entry => visible entry.2).map Prod.fst).map fun index =>
        (state.goroutines index).thread.trace).flatten.filter visible =
      (state.log.map Prod.snd).filter visible := by
  have single : ∀ entry ∈ state.log.filter fun entry => visible entry.2,
      (state.goroutines entry.1).thread.trace.filter visible = [entry.2] := by
    intro entry member
    obtain ⟨logged, seen⟩ := List.mem_filter.mp member
    have issued : entry.2 ∈ (state.goroutines entry.1).thread.trace.filter visible := by
      rw [← sound.logged entry.1]
      refine List.mem_filter.mpr ⟨List.mem_map.mpr ⟨entry, ?_, rfl⟩, seen⟩
      exact List.mem_filter.mpr ⟨logged, by simp⟩
    have bound : entry.1 < fork.size := by
      by_contra outside
      rw [(sound.locals.beyond entry.1 (Nat.le_of_not_lt outside)).2.2] at issued
      cases issued
    obtain ⟨only, isOnly⟩ := List.length_eq_one_iff.mp (once entry.1 bound)
    rw [isOnly] at issued ⊢
    rw [List.mem_singleton.mp issued]
  have shown : (state.log.map Prod.snd).filter visible =
      (state.log.filter fun entry => visible entry.2).map Prod.snd := List.filter_map ..
  rw [shown]
  generalize state.log.filter (fun entry => visible entry.2) = entries at single
  induction entries with
  | nil => rfl
  | cons entry later inductionHypothesis =>
      simp only [List.map_cons, List.flatten_cons, List.filter_append,
        single entry List.mem_cons_self]
      rw [inductionHypothesis fun other member => single other (List.mem_cons_of_mem _ member)]
      rfl

end Join

/-! ### Progress -/

/-- The number of statements left. -/
def State.remaining (state : State fork) : Nat :=
  ∑ index ∈ Finset.range fork.size, (state.goroutines index).rest.length

theorem remaining_lt {register : Option Shared} (bound : index < fork.size)
    (ops : (state.goroutines index).rest = op :: rest)
    (same : next.goroutines = (state.set index
      ((state.goroutines index).next op rest register)).goroutines) :
    next.remaining < state.remaining := by
  refine Finset.sum_lt_sum (fun other _ => ?_) ⟨index, Finset.mem_range.mpr bound, ?_⟩
  · rw [same]
    by_cases isIndex : other = index
    · subst isIndex
      simp [Goroutine.next, ops]
    · rw [State.set_other isIndex]
  · rw [same]
    simp [Goroutine.next, ops]

/-- A goroutine gets on unless it waits for the mutex or for room in the channel. -/
theorem run_advances (running : state.crashed = false) (bound : index < fork.size)
    (ops : (state.goroutines index).rest = op :: rest) (free : op = .lock → state.holder = none)
    (room : op = .send → state.channel.length < fork.size) :
    (step state (.run index)).crashed = true ∨
      (step state (.run index)).remaining < state.remaining := by
  have performed : step state (.run index) = state.perform index op rest := by
    simp [step, running, ops, bound]
  rw [performed]
  cases op with
  | lock =>
      right
      simp only [State.perform, free rfl, Option.isNone_none, if_true]
      exact remaining_lt bound ops rfl
  | load => exact Or.inr (remaining_lt bound ops rfl)
  | store =>
      dsimp only [State.perform]
      split
      · exact Or.inr (remaining_lt bound ops rfl)
      · exact Or.inl rfl
  | unlock => exact Or.inr (remaining_lt bound ops rfl)
  | send =>
      right
      simp only [State.perform, room rfl, if_true]
      exact remaining_lt bound ops rfl
  | finish => exact Or.inr (remaining_lt bound ops rfl)

section Progress

variable {first : Shared} (sound : Sound first state)

include sound

/-- The channel has room for everybody who is still going to send. -/
theorem Sound.room (bound : index < fork.size)
    (ops : (state.goroutines index).rest = .send :: rest) :
    state.channel.length < fork.size := by
  have atMost : ∀ other, state.sends.count other ≤ 1 := by
    intro other
    rw [sound.sent.counts other]
    cases isResult : (state.goroutines other).result with
    | none => simp [((sound.locals.each other).calling isResult).1]
    | some result =>
        obtain ⟨_, path, _⟩ := (sound.locals.each other).returned result isResult
        have whole := fork.sendsErrors result
        have single := length_toList_le result
        rw [← path, List.count_append] at whole
        omega
  have unsent : index ∉ state.sends := by
    rw [← List.count_eq_zero, sound.sent.counts index]
    obtain ⟨result, isResult⟩ := sound.locals.result ops
    obtain ⟨_, path, _⟩ := (sound.locals.each index).returned result isResult
    have whole := fork.sendsErrors result
    have single := length_toList_le result
    rw [← path, ops, List.count_append, List.count_cons_self] at whole
    omega
  have within : state.sends.toFinset ⊆ (Finset.range fork.size).erase index := by
    intro other member
    rw [List.mem_toFinset] at member
    refine Finset.mem_erase.mpr ⟨fun same => unsent (same ▸ member), Finset.mem_range.mpr ?_⟩
    by_contra outside
    have none := sound.sent.counts other
    rw [(sound.locals.beyond other (Nat.le_of_not_lt outside)).1] at none
    exact List.count_eq_zero.mp none member
  have card := Finset.card_le_card within
  rw [List.toFinset_card_of_nodup (List.nodup_iff_count_le_one.mpr atMost),
    Finset.card_erase_of_mem (Finset.mem_range.mpr bound), Finset.card_range] at card
  have errors : state.channel.length ≤ state.sends.length := by
    rw [sound.sent.channel]
    exact List.length_filterMap_le ..
  omega

/-- Somebody can go on: the holder of the mutex, or anybody if it is free. -/
theorem Sound.progress (running : state.crashed = false) (waiting : state.waiting ≠ 0)
    (called : ∀ index, index < fork.size → (state.goroutines index).result.isSome = true) :
    ∃ index, (step state (.run index)).crashed = true ∨
      (step state (.run index)).remaining < state.remaining := by
  cases holder : state.holder with
  | some owner =>
      have isInside := (sound.locked.holder owner).mp holder
      have bound : owner < fork.size := by
        by_contra outside
        rw [(sound.locals.beyond owner (Nat.le_of_not_lt outside)).2.1] at isInside
        cases isInside
      cases ops : (state.goroutines owner).rest with
      | nil =>
          rw [ops] at isInside
          cases isInside
      | cons op rest =>
          rw [ops] at isInside
          refine ⟨owner, run_advances running bound ops (fun isLock => ?_) fun isSend => ?_⟩
          · rw [isLock] at isInside
            cases isInside
          · rw [isSend] at isInside
            cases isInside
  | none =>
      have nonempty : state.unfinished.Nonempty := by
        rw [← Finset.card_pos, ← sound.waits]
        omega
      obtain ⟨index, member⟩ := nonempty
      obtain ⟨inRange, unfinished⟩ := Finset.mem_filter.mp member
      have bound := Finset.mem_range.mp inRange
      simp only [Goroutine.ended, called index bound, Bool.true_and] at unfinished
      cases ops : (state.goroutines index).rest with
      | nil =>
          rw [ops] at unfinished
          cases unfinished
      | cons op rest =>
          refine ⟨index, run_advances running bound ops (fun _ => holder) fun isSend => ?_⟩
          subst isSend
          exact sound.room bound ops

end Progress

theorem Stepped.result_kept (stepped : Stepped state next) (index : Nat)
    (called : (state.goroutines index).result.isSome = true) :
    (next.goroutines index).result.isSome = true := by
  have changed {other : Nat} {goroutine : Goroutine fork}
      (same : next.goroutines = (state.set other goroutine).goroutines)
      (result : other = index → goroutine.result.isSome = true) :
      (next.goroutines index).result.isSome = true := by
    rw [same]
    by_cases isOther : index = other
    · rw [isOther, State.set_self]
      exact result isOther.symm
    · rw [State.set_other isOther]
      exact called
  cases stepped with
  | idle => exact called
  | crash => exact called
  | answer => exact changed rfl fun same => by subst same; exact called
  | returnCall => exact changed rfl fun _ => rfl
  | lock => exact changed rfl fun same => by subst same; exact called
  | load => exact changed rfl fun same => by subst same; exact called
  | store => exact changed rfl fun same => by subst same; exact called
  | unlock => exact changed rfl fun same => by subst same; exact called
  | send => exact changed rfl fun same => by subst same; exact called
  | finish => exact changed rfl fun same => by subst same; exact called

/-- If the program has crashed, then in a call, which has no result. -/
def CrashedInCall (state : State fork) : Prop :=
  state.crashed = true → ∃ index, index < fork.size ∧ (state.goroutines index).result = none ∧
    ∃ reason, (fork.call (state.goroutines index).thread.input).Aborts
      (state.goroutines index).thread.trace reason

theorem CrashedInCall.running (inCall : CrashedInCall state)
    (called : ∀ index, index < fork.size → (state.goroutines index).result.isSome = true) :
    state.crashed = false := by
  by_contra crashed
  obtain ⟨index, bound, missing, _⟩ := inCall (Bool.not_eq_false _ ▸ crashed)
  have present := called index bound
  rw [missing] at present
  cases present

/-- Calls that never panic do not crash the program. -/
theorem CrashedInCall.running_of_safe (inCall : CrashedInCall state)
    (safe : ∀ index trace reason, ¬ (fork.call index).Aborts trace reason) :
    state.crashed = false := by
  by_contra crashed
  obtain ⟨index, _, _, reason, aborted⟩ := inCall (Bool.not_eq_false _ ▸ crashed)
  exact safe _ _ reason aborted

section Total

variable {first : Shared} {holds : Shared → Prop}

/-- While the updates cannot panic, only a call does. -/
theorem Sound.step_total (sound : Sound first state) (inCall : CrashedInCall state)
    (now : holds state.shared)
    (total : ∀ index shared, holds shared → ∃ after, fork.update index shared = some after ∧
      holds after) (action : Action Call Reply) :
    CrashedInCall (step state action) ∧ holds (step state action).shared := by
  by_cases crashed : state.crashed = true
  · rw [show step state action = state by simp [step, crashed]]
    exact ⟨inCall, now⟩
  · have stepped := step_stepped state action
    generalize step state action = next at stepped ⊢
    cases stepped with
    | idle => exact ⟨inCall, now⟩
    | crash index bound cause =>
        refine ⟨fun _ => ⟨index, bound, ?_⟩, now⟩
        rcases cause with inside | ⟨rest, ops, failed⟩
        · exact inside
        · -- the register has the shared value, which can be updated
          obtain ⟨after, updated, _⟩ := total index state.shared now
          rw [sound.locked.loaded index rest ops, Option.bind_some, updated] at failed
          cases failed
    | store index bound rest loaded shared ops register updated =>
        refine ⟨fun crashedNow => absurd crashedNow crashed, ?_⟩
        obtain ⟨after, isAfter, holdsAfter⟩ := total index state.shared now
        rw [sound.locked.loaded index rest ops] at register
        cases register
        rw [isAfter] at updated
        cases updated
        exact holdsAfter
    | _ => exact ⟨fun crashedNow => absurd crashedNow crashed, now⟩

theorem run_total {allowed : State fork → Action Call Reply → Prop} {past : List (State fork)}
    (run : Run step allowed (fork.initial first) past state) (now : holds first)
    (total : ∀ index shared, holds shared → ∃ after, fork.update index shared = some after ∧
      holds after) :
    CrashedInCall state ∧ holds state.shared := by
  refine run.historyInvariant (fun _ current => CrashedInCall current ∧ holds current.shared)
    ⟨fun crashed => absurd crashed Bool.false_ne_true, now⟩ ?_
  rintro past current action reached ⟨inCall, holdsNow⟩ _
  exact (run_sound reached).step_total inCall holdsNow total action

/-- No deadlock: once all calls have returned, the goroutines reach the join.
`holds` keeps the updates from panicking. -/
theorem exists_join (sound : Sound first state) (inCall : CrashedInCall state)
    (now : holds state.shared)
    (total : ∀ index shared, holds shared → ∃ after, fork.update index shared = some after ∧
      holds after)
    (called : ∀ index, index < fork.size → (state.goroutines index).result.isSome = true) :
    ∃ indices : List Nat, ((indices.map Action.run).foldl step state).waiting = 0 := by
  -- every step of somebody who can go on leaves fewer statements
  generalize measure : state.remaining = bound
  induction bound using Nat.strong_induction_on generalizing state with
  | _ bound inductionHypothesis =>
      by_cases waiting : state.waiting = 0
      · exact ⟨[], waiting⟩
      · obtain ⟨index, progress⟩ := sound.progress (inCall.running called) waiting called
        have stepped := step_stepped state (.run index)
        obtain ⟨inCallNext, next⟩ := sound.step_total inCall now total (.run index)
        have calledNext := fun other inRange => stepped.result_kept other (called other inRange)
        rcases progress with crashed | fewer
        · rw [inCallNext.running calledNext] at crashed
          cases crashed
        · obtain ⟨later, ends⟩ := inductionHypothesis _ (measure ▸ fewer) (sound.stepped stepped)
            inCallNext next calledNext rfl
          exact ⟨index :: later, ends⟩

end Total

end Invariant

end Fork

end MXNetOperator.Interaction
