import MXNetOperator.Interaction.Flight
import MXNetOperator.Interaction.Refinement
import MXNetOperator.Property.Repetition

/-!
Contract: the finalizer group as the source has it, below the two atomic calls
that stand for it in the cluster system.

Here every finalizer goroutine executes the statements of `Group.Do`, with its
mutex, its table and its wait groups.  Owns `groupedStep`, the simulation
relation `Implements`, and the two results: the cluster system loses nothing, and
no finalizer goroutine is stuck.
-/

namespace MXNetOperator.Property

open MXNetOperator.Kube MXNetOperator.Api MXNetOperator.Interaction MXNetOperator.Mx
  MXNetOperator.Cluster

/-- The function that `handleMXJobFinalizers` passes to `finalizerGroup.Do`. -/
def finalizeOnce (task : FinalizerTask) : Go (Option GoError) := do
  callFinishHook task.object
  let reply ← ask (.updateMXJob task.cleared)
  pure ((reply : Option ApiError).map GoError.status)

/-- What is left of a leading finalizer goroutine after its function. -/
def leaveGroup (key : String) : Go Unit := do
  let _ ← ask (.leaveGroup key)
  pure ()

/-- What `Do` leads to, once the table has been looked at. -/
def afterLookup (task : FinalizerTask) : Bool → Go Unit
  | false => .done ()
  | true => finalizeOnce task >>= fun _ => leaveGroup task.key

theorem finalizer_eq (task : FinalizerTask) :
    finalizer task = .call (.enterGroup task.key) (afterLookup task) := by
  refine congrArg (Program.call (Request.enterGroup task.key)) (funext fun leads => ?_)
  cases leads with
  | false => rfl
  | true =>
      symm
      refine (Program.bind_bind _ _ _).trans ?_
      exact congrArg (callFinishHook task.object >>= ·) (funext fun _ => Program.bind_bind _ _ _)

/-! ### The system with the group -/

/-- `functions` has what every finalizer goroutine passes to `Do`. -/
structure Grouped where
  world : World
  worker : Thread sync
  functions : List (Thread finalizeOnce)
  group : Flight.Group String (Option GoError)
  log : List Call

inductive GroupedAction where
  | deliver (age : Nat) (deleted : Bool)
  | work (outcome : Outcome)
  /-- The function of a finalizer goroutine has a call answered. -/
  | call (index : Nat) (outcome : Outcome)
  /-- A finalizer goroutine executes a statement of `Do`. -/
  | run (index : Nat)
  | restart
  | move (move : Move)

/-- The part of the system without finalizer goroutines. -/
def Grouped.outside (grouped : Grouped) : State :=
  ⟨grouped.world, grouped.worker, [], grouped.log⟩

/-- The outside takes a step and may start finalizer goroutines. -/
def Grouped.absorb (grouped : Grouped) (next : State) : Grouped where
  world := next.world
  worker := next.worker
  functions := grouped.functions ++ next.goroutines.map fun thread => Thread.start thread.input
  group := (next.goroutines.map fun thread => Flight.Action.enter thread.input.key).foldl
    Flight.step grouped.group
  log := next.log

def groupedStep (grouped : Grouped) : GroupedAction → Grouped
  | .deliver age deleted => grouped.absorb (step grouped.outside (.deliver age deleted))
  | .work outcome => grouped.absorb (step grouped.outside (.work outcome))
  | .move move => grouped.absorb (step grouped.outside (.move move))
  | .restart =>
      let next := step grouped.outside .restart
      ⟨next.world, next.worker, [], .empty, next.log⟩
  | .call index outcome =>
      match grouped.group.callers[index]?, grouped.functions[index]? with
      | some (.calling _ _), some function =>
          match function.advance (serve outcome) grouped.world with
          | some (call, next, world) =>
              { grouped with
                world := world
                functions := grouped.functions.set index next
                log := grouped.log ++ [call] }
          | none => grouped
      | _, _ => grouped
  | .run index =>
      match grouped.group.callers[index]?, grouped.functions[index]? with
      | some (.calling _ _), some function =>
          match function.result with
          | some error => { grouped with group := Flight.step grouped.group (.complete index error) }
          | none => grouped
      | _, _ => { grouped with group := Flight.step grouped.group (.run index) }

def Grouped.initial (mxjob : MXJob) (pods : List Pod) (services : List Service) (nextUID : UID) :
    Grouped :=
  let state := State.initial mxjob pods services nextUID
  ⟨state.world, state.worker, [], .empty, state.log⟩

/-! ### Calls that do not concern the group -/

def isGroupCall : Request → Bool
  | .enterGroup _ => true
  | .leaveGroup _ => true
  | _ => false

theorem finalizeOnce_issues {task : FinalizerTask} {trace : List Call} {request : Request}
    (issued : (finalizeOnce task).Issues trace request) : isGroupCall request = false := by
  simp only [finalizeOnce, Program.issues_bind, issues_ask, Program.issues_pure, and_false,
    exists_false, or_false] at issued
  rcases issued with hooking | ⟨_, _, _, _, _, _, rfl⟩
  · unfold callFinishHook at hooking
    split at hooking
    · exact absurd hooking Program.issues_pure
    · simp only [Program.issues_bind, issues_ask, returns_ask, Program.issues_pure,
        and_false, exists_false, or_false] at hooking
      rcases hooking with ⟨_, rfl⟩ | ⟨_, _, _, _, _, _, rfl⟩ <;> rfl
  · rfl

theorem write_frame (outcome : Outcome) (rejection : Option ApiError) (world effect : World)
    (keys : List String) :
    outcome.write rejection { world with inFlight := keys } { effect with inFlight := keys } =
      ((outcome.write rejection world effect).1,
        { (outcome.write rejection world effect).2 with inFlight := keys }) := by
  unfold Outcome.write
  cases rejection with
  | some rejected => rfl
  | none =>
      cases outcome.failure with
      | none => rfl
      | some error => cases outcome.applied <;> rfl

/-- Nothing else looks at the keys in flight. -/
theorem serve_frame (outcome : Outcome) {request : Request} (world : World) (keys : List String)
    (outside : isGroupCall request = false) :
    serve outcome request { world with inFlight := keys } =
      ((serve outcome request world).1, { (serve outcome request world).2 with inFlight := keys }) := by
  cases request with
  | enterGroup key => cases outside
  | leaveGroup key => cases outside
  | patchPod name patch =>
      exact write_frame outcome _ world { world with pods := world.pods.map (patchPodMeta name patch) }
        keys
  | patchService name patch =>
      exact write_frame outcome _ world
        { world with services := world.services.map (patchServiceMeta name patch) } keys
  | createPod pod =>
      exact write_frame outcome _ world
        (world.addPod (Cluster.createdPod world.job.ns outcome.name world.nextUID pod)) keys
  | createService service =>
      exact write_frame outcome _ world
        (world.addService (createdService world.job.ns world.nextUID service)) keys
  | deletePod name =>
      have effect : World.deletePod { world with inFlight := keys } outcome name =
          { world.deletePod outcome name with inFlight := keys } := by
        unfold World.deletePod
        split <;> rfl
      simp only [serve, effect]
      exact write_frame outcome _ world (world.deletePod outcome name) keys
  | updateMXJob mxjob => exact write_frame outcome _ world (world.store mxjob) keys
  | _ => rfl

theorem ite_frame (condition : Prop) [Decidable condition] (first second : World)
    (keys : List String) :
    (if condition then { first with inFlight := keys } else { second with inFlight := keys }) =
      { (if condition then first else second) with inFlight := keys } := by
  split_ifs <;> rfl

theorem move_frame (world : World) (keys : List String) (move : Move) :
    World.move { world with inFlight := keys } move =
      { world.move move with inFlight := keys } := by
  cases move with
  | podCreate pod =>
      exact ite_frame ((world.findPod pod.name).isSome = true) world
        (world.addPod { pod with uid := world.nextUID }) keys
  | serviceCreate service =>
      exact ite_frame ((world.findService service.name).isSome = true) world
        (world.addService { service with uid := world.nextUID }) keys
  | editSpec spec =>
      exact ite_frame (world.present = true) (world.store { world.job with spec := spec }) world keys
  | editFinalizers finalizers =>
      exact ite_frame _ (world.store { world.job with finalizers := finalizers }) world keys
  | deleteJob time =>
      simp only [World.move]
      split_ifs <;> rfl
  | _ => rfl

/-! ### The simulation relation -/

/-- What is left of a goroutine of the cluster while it is in this phase of `Do`. -/
def shownRest (function : Thread finalizeOnce) : Flight.Phase String (Option GoError) → Go Unit
  | .start _ => finalizer function.input
  | .looking _ => finalizer function.input
  | .found _ _ => .done ()
  | .waiting _ _ => .done ()
  | .made _ _ => function.rest >>= fun _ => leaveGroup function.input.key
  | .calling _ _ => function.rest >>= fun _ => leaveGroup function.input.key
  | .stored _ _ => leaveGroup function.input.key
  | .closing _ _ => leaveGroup function.input.key
  | .deleting _ _ => leaveGroup function.input.key
  | .leaving _ _ => .done ()
  | .returned _ _ _ => .done ()

/-- The table has not been looked at. -/
def isNew : Flight.Phase String (Option GoError) → Bool
  | .start _ => true
  | .looking _ => true
  | _ => false

structure Represents (phase : Flight.Phase String (Option GoError)) (function : Thread finalizeOnce)
    (thread : Thread finalizer) : Prop where
  input : thread.input = function.input
  key : phase.key = function.input.key
  fresh : isNew phase = true → function.rest = finalizeOnce function.input
  rest : thread.rest = shownRest function phase

/-- The system with the group implements the cluster. -/
structure Implements (grouped : Grouped) (state : State) : Prop where
  sound : Flight.Sound grouped.group
  world : state.world = { grouped.world with inFlight := grouped.group.inFlight }
  worker : state.worker = grouped.worker
  log : state.log.filter (fun call => !isGroupCall call.request) = grouped.log
  functions : grouped.functions.length = grouped.group.callers.length
  goroutines : state.goroutines.length = grouped.group.callers.length
  represents : ∀ (index : Nat) (phase : Flight.Phase String (Option GoError))
    (function : Thread finalizeOnce) (thread : Thread finalizer),
    grouped.group.callers[index]? = some phase → grouped.functions[index]? = some function →
      state.goroutines[index]? = some thread → Represents phase function thread

theorem implements_initial (mxjob : MXJob) (pods : List Pod) (services : List Service)
    (nextUID : UID) : Implements (Grouped.initial mxjob pods services nextUID)
      (State.initial mxjob pods services nextUID) where
  sound := .empty
  world := rfl
  worker := rfl
  log := rfl
  functions := rfl
  goroutines := rfl
  represents := by
    intro index phase function thread isPhase
    cases isPhase

variable {grouped : Grouped} {state : State} {index : Nat}
  {phase : Flight.Phase String (Option GoError)}

theorem Implements.goroutine (implements : Implements grouped state)
    (isPhase : grouped.group.callers[index]? = some phase) :
    ∃ function thread, grouped.functions[index]? = some function ∧
      state.goroutines[index]? = some thread ∧ Represents phase function thread := by
  have bound := (List.getElem?_eq_some_iff.mp isPhase).1
  have functionBound : index < grouped.functions.length := by
    rw [implements.functions]
    exact bound
  have threadBound : index < state.goroutines.length := by
    rw [implements.goroutines]
    exact bound
  exact ⟨_, _, List.getElem?_eq_getElem functionBound, List.getElem?_eq_getElem threadBound,
    implements.represents index _ _ _ isPhase (List.getElem?_eq_getElem functionBound)
      (List.getElem?_eq_getElem threadBound)⟩

/-! ### Steps outside the group -/

/-- What a step of the outside does to the cluster. -/
structure Absorbs (grouped : Grouped) (state : State) (next after : State) : Prop where
  world : after.world = { next.world with inFlight := grouped.group.inFlight }
  worker : after.worker = next.worker
  log : after.log.filter (fun call => !isGroupCall call.request) = next.log
  goroutines : after.goroutines = state.goroutines ++ next.goroutines
  started : ∀ thread ∈ next.goroutines, thread.rest = finalizer thread.input

theorem Implements.idle (implements : Implements grouped state) :
    Absorbs grouped state grouped.outside state where
  world := implements.world
  worker := implements.worker
  log := implements.log
  goroutines := (List.append_nil _).symm
  started := by
    intro thread member
    cases member

theorem Implements.deliver (implements : Implements grouped state) (age : Nat) (deleted : Bool) :
    Absorbs grouped state (step grouped.outside (.deliver age deleted))
      (step state (.deliver age deleted)) := by
  have versions : state.world.versions = grouped.world.versions := by
    rw [implements.world]
    rfl
  simp only [step, Grouped.outside, implements.worker, versions]
  cases grouped.worker.stopped with
  | false => exact implements.idle
  | true =>
      cases grouped.world.versions[age]? with
      | none => exact implements.idle
      | some mxjob =>
          exact ⟨implements.world, rfl, implements.log, (List.append_nil _).symm, by simp⟩

theorem Implements.work (implements : Implements grouped state) (outcome : Outcome) :
    Absorbs grouped state (step grouped.outside (.work outcome)) (step state (.work outcome)) := by
  have outside : ∀ request, grouped.worker.pending = some request →
      isGroupCall request = false := by
    intro request pending
    obtain ⟨notEnter, notLeave⟩ := sync_noGroup (Thread.issues_of_pending pending)
    cases request with
    | enterGroup key => exact absurd rfl (notEnter key)
    | leaveGroup key => exact absurd rfl (notLeave key)
    | _ => rfl
  have framed : ∀ request, grouped.worker.pending = some request →
      serve outcome request state.world = ((serve outcome request grouped.world).1,
        { (serve outcome request grouped.world).2 with inFlight := grouped.group.inFlight }) := by
    intro request pending
    rw [implements.world]
    exact serve_frame outcome grouped.world _ (outside request pending)
  have sameReply : ∀ request, grouped.worker.pending = some request →
      (serve outcome request state.world).1 = (serve outcome request grouped.world).1 := by
    intro request pending
    rw [framed request pending]
  have advanced := Thread.advance_congr sameReply
  simp only [step, Grouped.outside, implements.worker, advanced]
  cases answered : grouped.worker.advance (serve outcome) grouped.world with
  | none => exact implements.idle
  | some result =>
      obtain ⟨call, next, world⟩ := result
      obtain ⟨_, pending, _, rfl, _, _⟩ := Thread.advance_issues answered
      refine ⟨?_, rfl, ?_, rfl, ?_⟩
      · exact congrArg Prod.snd (framed call.request pending)
      · show (state.log ++ [call]).filter _ = grouped.log ++ [call]
        rw [List.filter_append, implements.log]
        simp [outside call.request pending]
      · intro thread member
        cases request : call.request with
        | spawnFinalizer object position =>
            simp only [request, spawned, List.nil_append,
              List.mem_singleton] at member
            rw [member]
            rfl
        | _ => simp [request, spawned] at member

theorem Implements.move (implements : Implements grouped state) (move : Move) :
    Absorbs grouped state (step grouped.outside (.move move)) (step state (.move move)) := by
  refine ⟨?_, implements.worker, implements.log, (List.append_nil _).symm, by simp [step,
    Grouped.outside]⟩
  show state.world.move move = _
  rw [implements.world, move_frame]
  rfl

theorem enterAll_group (keys : List String) (group : Flight.Group String (Option GoError)) :
    (keys.map Flight.Action.enter).foldl Flight.step group =
      { group with callers := group.callers ++ keys.map Flight.Phase.start } := by
  induction keys generalizing group with
  | nil => simp
  | cons key rest inductionHypothesis =>
      rw [List.map_cons, List.foldl_cons, inductionHypothesis]
      simp [Flight.step]

theorem enterAll_sound {group : Flight.Group String (Option GoError)} (sound : Flight.Sound group)
    (keys : List String) : Flight.Sound ((keys.map Flight.Action.enter).foldl Flight.step group) := by
  induction keys generalizing group with
  | nil => exact sound
  | cons key rest inductionHypothesis =>
      exact inductionHypothesis (sound.stepped (Flight.step_stepped group (.enter key)))

theorem Implements.absorb {next after : State} (implements : Implements grouped state)
    (absorbs : Absorbs grouped state next after) : Implements (grouped.absorb next) after := by
  have entered : (grouped.absorb next).group =
      { grouped.group with callers := grouped.group.callers ++
        next.goroutines.map fun thread => .start thread.input.key } := by
    have all := enterAll_group (next.goroutines.map fun thread => thread.input.key) grouped.group
    rw [List.map_map, List.map_map] at all
    exact all
  constructor
  · have sound := enterAll_sound implements.sound
      (next.goroutines.map fun thread => thread.input.key)
    rw [List.map_map] at sound
    exact sound
  · rw [absorbs.world, entered]
    rfl
  · exact absorbs.worker
  · exact absorbs.log
  · rw [entered]
    simp [Grouped.absorb, implements.functions]
  · rw [entered, absorbs.goroutines]
    simp [implements.goroutines]
  · intro index phase function thread isPhase isFunction isThread
    rw [entered] at isPhase
    rw [absorbs.goroutines] at isThread
    change (grouped.functions ++ _)[index]? = _ at isFunction
    by_cases old : index < grouped.group.callers.length
    · rw [List.getElem?_append_left old] at isPhase
      rw [List.getElem?_append_left (implements.functions ▸ old)] at isFunction
      rw [List.getElem?_append_left (implements.goroutines ▸ old)] at isThread
      exact implements.represents index phase function thread isPhase isFunction isThread
    · have later : grouped.group.callers.length ≤ index := Nat.le_of_not_lt old
      rw [List.getElem?_append_right later] at isPhase
      rw [List.getElem?_append_right (implements.functions ▸ later)] at isFunction
      rw [List.getElem?_append_right (implements.goroutines ▸ later)] at isThread
      rw [implements.goroutines] at isThread
      rw [List.getElem?_map, isThread] at isPhase
      rw [implements.functions, List.getElem?_map, isThread] at isFunction
      cases isPhase
      cases isFunction
      exact ⟨rfl, rfl, fun _ => rfl, absorbs.started thread (List.mem_of_getElem? isThread)⟩

/-! ### Steps of the finalizer goroutines -/

/-- A finalizer goroutine goes on, with or without a call. -/
theorem Implements.goesOn {next : Grouped} {after : State}
    {now : Flight.Phase String (Option GoError)} {function : Thread finalizeOnce}
    {thread : Thread finalizer} (implements : Implements grouped state)
    (sound : Flight.Sound next.group) (isPhase : grouped.group.callers[index]? = some phase)
    (callers : next.group.callers = grouped.group.callers.set index now)
    (functions : next.functions = grouped.functions.set index function)
    (goroutines : after.goroutines = state.goroutines.set index thread)
    (represents : Represents now function thread)
    (world : after.world = { next.world with inFlight := next.group.inFlight })
    (worker : after.worker = next.worker)
    (log : after.log.filter (fun call => !isGroupCall call.request) = next.log) :
    Implements next after where
  sound := sound
  world := world
  worker := worker
  log := log
  functions := by
    rw [callers, functions, List.length_set, List.length_set]
    exact implements.functions
  goroutines := by
    rw [callers, goroutines, List.length_set, List.length_set]
    exact implements.goroutines
  represents := by
    intro position before old earlier isBefore isOld isEarlier
    rw [callers] at isBefore
    rw [functions] at isOld
    rw [goroutines] at isEarlier
    by_cases isIndex : position = index
    · subst isIndex
      have bound := (List.getElem?_eq_some_iff.mp isPhase).1
      rw [List.getElem?_set_self bound] at isBefore
      rw [List.getElem?_set_self (implements.functions ▸ bound)] at isOld
      rw [List.getElem?_set_self (implements.goroutines ▸ bound)] at isEarlier
      cases isBefore
      cases isOld
      cases isEarlier
      exact represents
    · rw [List.getElem?_set_ne (Ne.symm isIndex)] at isBefore isOld isEarlier
      exact implements.represents position before old earlier isBefore isOld isEarlier

theorem set_same {Item : Type} {items : List Item} {item : Item}
    (found : items[index]? = some item) : items = items.set index item := by
  obtain ⟨bound, rfl⟩ := List.getElem?_eq_some_iff.mp found
  exact (List.set_getElem_self bound).symm

/-- A statement of `Do` that the cluster does not see. -/
theorem Implements.silent {group : Flight.Group String (Option GoError)}
    {action : Flight.Action String (Option GoError)}
    {now : Flight.Phase String (Option GoError)} (implements : Implements grouped state)
    (stepped : Flight.Stepped grouped.group action group)
    (isPhase : grouped.group.callers[index]? = some phase)
    (callers : group.callers = grouped.group.callers.set index now)
    (inFlight : group.inFlight = grouped.group.inFlight) (key : now.key = phase.key)
    (fresh : isNew now = true → isNew phase = true)
    (rest : ∀ function : Thread finalizeOnce, grouped.functions[index]? = some function →
      shownRest function now = shownRest function phase) :
    Implements { grouped with group := group } state := by
  obtain ⟨function, thread, isFunction, isThread, before⟩ := implements.goroutine isPhase
  refine implements.goesOn (implements.sound.stepped stepped) isPhase callers
    (set_same isFunction) (set_same isThread) ?_ ?_ implements.worker implements.log
  · exact ⟨before.input, key.trans before.key, fun isFresh => before.fresh (fresh isFresh),
      before.rest.trans (rest function isFunction).symm⟩
  · rw [inFlight]
    exact implements.world

/-- A finalizer goroutine of the cluster has its pending call answered. -/
theorem finalize_step {thread : Thread finalizer} {request : Request}
    {next : request.Reply → Go Unit} (outcome : Outcome)
    (found : state.goroutines[index]? = some thread) (remaining : thread.rest = .call request next) :
    ∃ after : Thread finalizer, step state (.finalize index outcome) =
        { state with
          world := (serve outcome request state.world).2
          goroutines := state.goroutines.set index after
          log := state.log ++ [⟨request, (serve outcome request state.world).1⟩] } ∧
      after.input = thread.input ∧ after.rest = next (serve outcome request state.world).1 := by
  obtain ⟨after, advanced, input, rest⟩ :=
    @Thread.advance_of_call _ _ _ _ _ _ _ (serve outcome) thread state.world _ _ remaining
  refine ⟨after, ?_, input, rest⟩
  simp only [step, found, advanced]

theorem filter_group (log : List Call) {call : Call} (inside : isGroupCall call.request = true) :
    (log ++ [call]).filter (fun call => !isGroupCall call.request) =
      log.filter fun call => !isGroupCall call.request := by
  rw [List.filter_append]
  simp [inside]

/-- A goroutine finds its key in the table. -/
theorem Implements.find {key : String} {call : Nat} (implements : Implements grouped state)
    (isPhase : grouped.group.callers[index]? = some (.looking key))
    (present : (key, call) ∈ grouped.group.table) :
    Implements { grouped with group := grouped.group.set index (.found key call) }
      (step state (.finalize index (.success ""))) := by
  obtain ⟨function, thread, isFunction, isThread, before⟩ := implements.goroutine isPhase
  have key_eq : key = function.input.key := before.key
  have remaining := before.rest.trans (finalizer_eq function.input)
  obtain ⟨after, stepped, input, rest⟩ := finalize_step (.success "") isThread remaining
  have busy : function.input.key ∈ state.world.inFlight := by
    rw [implements.world, ← key_eq]
    exact List.mem_map.mpr ⟨(key, call), present, rfl⟩
  simp only [serve, if_pos busy] at stepped rest
  rw [stepped]
  refine implements.goesOn (implements.sound.stepped (.find index key call isPhase present))
    isPhase rfl (set_same isFunction) rfl ?_ implements.world implements.worker ?_
  · exact ⟨input.trans before.input, key_eq, (fun isFresh => by cases isFresh), rest⟩
  · exact (filter_group _ rfl).trans implements.log

/-- A goroutine makes the record of its key. -/
theorem Implements.make {key : String} (implements : Implements grouped state)
    (isPhase : grouped.group.callers[index]? = some (.looking key))
    (absent : key ∉ grouped.group.inFlight) :
    Implements
      { grouped with group :=
          { grouped.group.set index (.made key grouped.group.calls.length) with
            calls := grouped.group.calls ++ [⟨key, index, none, false⟩]
            table := (key, grouped.group.calls.length) :: grouped.group.table } }
      (step state (.finalize index (.success ""))) := by
  obtain ⟨function, thread, isFunction, isThread, before⟩ := implements.goroutine isPhase
  have key_eq : key = function.input.key := before.key
  have remaining := before.rest.trans (finalizer_eq function.input)
  obtain ⟨after, stepped, input, rest⟩ := finalize_step (.success "") isThread remaining
  have free : function.input.key ∉ state.world.inFlight := by
    rw [implements.world, ← key_eq]
    exact absent
  simp only [serve, if_neg free] at stepped rest
  rw [stepped]
  refine implements.goesOn (implements.sound.stepped (.make index key isPhase absent))
    isPhase rfl (set_same isFunction) rfl ?_ ?_ implements.worker ?_
  · refine ⟨input.trans before.input, key_eq, (fun isFresh => by cases isFresh), ?_⟩
    rw [rest, shownRest, before.fresh rfl]
    rfl
  · rw [implements.world, ← key_eq]
    rfl
  · exact (filter_group _ rfl).trans implements.log

/-- A leader removes its record. -/
theorem Implements.delete {key : String} {call : Nat} (implements : Implements grouped state)
    (isPhase : grouped.group.callers[index]? = some (.deleting key call)) :
    Implements
      { grouped with group :=
          { grouped.group.set index (.leaving key call) with
            table := grouped.group.table.filter fun entry => entry.1 ≠ key } }
      (step state (.finalize index (.success ""))) := by
  obtain ⟨function, thread, isFunction, isThread, before⟩ := implements.goroutine isPhase
  have key_eq : key = function.input.key := before.key
  obtain ⟨after, stepped, input, rest⟩ := finalize_step (.success "") isThread before.rest
  simp only [serve] at stepped rest
  rw [stepped]
  refine implements.goesOn (implements.sound.stepped (.delete index key call isPhase))
    isPhase rfl (set_same isFunction) rfl ?_ ?_ implements.worker ?_
  · exact ⟨input.trans before.input, key_eq, (fun isFresh => by cases isFresh), rest⟩
  · have removed : (grouped.group.table.filter fun entry => entry.1 ≠ key).map Prod.fst =
        grouped.group.inFlight.erase key := by
      rw [implements.sound.nodup.erase_eq_filter, Flight.Group.inFlight, List.filter_map]
      congr 1
      apply List.filter_congr
      intro entry _
      by_cases same : entry.1 = key <;> simp [same]
    rw [implements.world, ← key_eq, ← removed]
    rfl
  · exact (filter_group _ rfl).trans implements.log

/-- The function of a leader has a call answered. -/
theorem Implements.call {key : String} {position : Nat} {function next : Thread finalizeOnce}
    {answered : Call} {world : World} (implements : Implements grouped state) (outcome : Outcome)
    (isPhase : grouped.group.callers[index]? = some (.calling key position))
    (isFunction : grouped.functions[index]? = some function)
    (advanced : function.advance (serve outcome) grouped.world = some (answered, next, world)) :
    Implements
      { grouped with
        world := world
        functions := grouped.functions.set index next
        log := grouped.log ++ [answered] }
      (step state (.finalize index outcome)) := by
  obtain ⟨same, thread, isSame, isThread, before⟩ := implements.goroutine isPhase
  obtain rfl := Option.some.inj (isSame.symm.trans isFunction)
  obtain ⟨issued, pending, _⟩ := Thread.advance_issues advanced
  have outside := finalizeOnce_issues issued
  obtain ⟨continued, remaining⟩ := Thread.rest_of_pending pending
  obtain ⟨own, answers, ownInput, ownRest⟩ :=
    @Thread.advance_of_call _ _ _ _ _ _ _ (serve outcome) same grouped.world _ _ remaining
  obtain ⟨isCall, isNext⟩ := Prod.mk.inj (Option.some.inj (advanced.symm.trans answers))
  obtain ⟨rfl, rfl⟩ := Prod.mk.inj isNext
  -- the goroutine of the cluster waits for the same call
  have waits : thread.rest = .call answered.request fun reply =>
      (continued reply).bind fun _ => leaveGroup same.input.key := by
    rw [before.rest, shownRest, remaining]
    rfl
  obtain ⟨after, stepped, input, rest⟩ := finalize_step outcome isThread waits
  have framed := serve_frame outcome grouped.world grouped.group.inFlight outside
  rw [← implements.world] at framed
  rw [framed] at stepped rest
  rw [stepped]
  refine implements.goesOn implements.sound isPhase (set_same isPhase) rfl rfl ?_ rfl
    implements.worker ?_
  · refine ⟨input.trans (before.input.trans ownInput.symm), ?_, (fun isFresh => by cases isFresh),
      ?_⟩
    · rw [ownInput]
      exact before.key
    · rw [rest, shownRest, ownRest, ownInput]
      rfl
  · show (state.log ++ [_]).filter _ = grouped.log ++ [answered]
    rw [← isCall, List.filter_append, implements.log]
    simp [outside]

/-! ### The implementation -/

/-- The step of the cluster that an action can show as. -/
def GroupedAction.shown : GroupedAction → Action
  | .deliver age deleted => .deliver age deleted
  | .work outcome => .work outcome
  | .call index outcome => .finalize index outcome
  | .run index => .finalize index (.success "")
  | .restart => .restart
  | .move change => .move change

/-- A statement of `Do` shows as the lookup or the removal of a record, or not at
all. -/
theorem Implements.run {group : Flight.Group String (Option GoError)}
    {action : Flight.Action String (Option GoError)} (implements : Implements grouped state)
    (own : action = .run index ∨ ∃ value, action = .complete index value ∧
      ∀ function : Thread finalizeOnce, grouped.functions[index]? = some function →
        function.result = some value)
    (stepped : Flight.Stepped grouped.group action group) :
    Implements { grouped with group := group } state ∨
      Implements { grouped with group := group } (step state (.finalize index (.success ""))) := by
  have whole := stepped
  have isOwn : ∀ position, action = .run position → position = index := by
    intro position isRun
    rcases own with same | ⟨_, same, _⟩
    · cases isRun.symm.trans same
      rfl
    · cases isRun.symm.trans same
  cases stepped with
  | idle => exact Or.inl implements
  | enter key =>
      rcases own with same | ⟨_, same, _⟩ <;> cases same
  | lock position before after isPhase free wants =>
      left
      rcases wants with ⟨key, rfl, rfl⟩ | ⟨key, call, rfl, rfl⟩
      · exact implements.silent whole isPhase rfl rfl rfl (fun _ => rfl) fun _ _ => rfl
      · exact implements.silent whole isPhase rfl rfl rfl id fun _ _ => rfl
  | find position key call isPhase present =>
      right
      obtain rfl := isOwn position rfl
      exact implements.find isPhase present
  | make position key isPhase absent =>
      right
      obtain rfl := isOwn position rfl
      exact implements.make isPhase absent
  | unlock position before after isPhase unlocks =>
      left
      rcases unlocks with ⟨key, call, rfl, rfl⟩ | ⟨key, call, rfl, rfl⟩ | ⟨key, call, rfl, rfl⟩
      · exact implements.silent whole isPhase rfl rfl rfl id fun _ _ => rfl
      · exact implements.silent whole isPhase rfl rfl rfl id fun _ _ => rfl
      · exact implements.silent whole isPhase rfl rfl rfl (fun isFresh => by cases isFresh)
          fun _ _ => rfl
  | wake position key call isPhase released =>
      left
      exact implements.silent whole isPhase rfl rfl rfl (fun isFresh => by cases isFresh)
        fun _ _ => rfl
  | complete position key call value isPhase =>
      left
      refine implements.silent whole isPhase rfl rfl rfl id fun function isFunction => ?_
      rcases own with same | ⟨result, same, returned⟩
      · cases same
      · cases same
        have ended := returned function isFunction
        cases rest : function.rest with
        | done final =>
            rw [shownRest, shownRest, rest]
            rfl
        | abort reason => simp [Thread.result, rest] at ended
        | call request continued => simp [Thread.result, rest] at ended
  | release position key call isPhase =>
      left
      exact implements.silent whole isPhase rfl rfl rfl id fun _ _ => rfl
  | delete position key call isPhase =>
      right
      obtain rfl := isOwn position rfl
      exact implements.delete isPhase

theorem Implements.step (implements : Implements grouped state) (action : GroupedAction) :
    Implements (groupedStep grouped action) state ∨
      Implements (groupedStep grouped action) (Cluster.step state action.shown) := by
  cases action with
  | deliver age deleted => exact Or.inr (implements.absorb (implements.deliver age deleted))
  | work outcome => exact Or.inr (implements.absorb (implements.work outcome))
  | move change => exact Or.inr (implements.absorb (implements.move change))
  | restart =>
      right
      refine ⟨.empty, ?_, ?_, implements.log, rfl, rfl, ?_⟩
      · show { state.world with inFlight := [] } = _
        rw [implements.world]
        rfl
      · show (Thread.start (⟨state.world.job, true⟩ : Event) : Thread sync) = _
        rw [implements.world]
        rfl
      · intro index phase function thread isPhase
        cases isPhase
  | call index outcome =>
      dsimp only [groupedStep]
      split
      · rename_i key call function isPhase isFunction
        split
        · rename_i answered next world advanced
          exact Or.inr (implements.call outcome isPhase isFunction advanced)
        · exact Or.inl implements
      · exact Or.inl implements
  | run index =>
      dsimp only [groupedStep]
      split
      · rename_i key call function isPhase isFunction
        split
        · rename_i value ended
          refine implements.run (Or.inr ⟨value, rfl, fun other isOther => ?_⟩)
            (Flight.step_stepped _ _)
          rw [← Option.some.inj (isFunction.symm.trans isOther)]
          exact ended
        · exact Or.inl implements
      · exact implements.run (Or.inl rfl) (Flight.step_stepped _ _)

/-- Every step of the cluster that the action may show as is permitted. -/
def ShownPermitted (permits : State → Action → Prop) (grouped : Grouped)
    (action : GroupedAction) : Prop :=
  ∀ state, Implements grouped state → permits state action.shown

/-- The two atomic calls of the cluster system stand for the finalizer group: for
every run in which the goroutines execute `Do` statement by statement there is a
run of the cluster with the same objects, the same Sync and the same calls, in
which the keys in flight are those in the table. -/
theorem finalizerGroup_refines {permits : State → Action → Prop} {past : List Grouped}
    {mxjob : MXJob} {pods : List Pod} {services : List Service} {nextUID : UID}
    (run : Run groupedStep (ShownPermitted permits) (Grouped.initial mxjob pods services nextUID)
      past grouped) :
    ∃ before state, Run Cluster.step permits (State.initial mxjob pods services nextUID) before
        state ∧
      state.world = { grouped.world with inFlight := grouped.group.inFlight } ∧
      state.worker = grouped.worker ∧
      state.log.filter (fun call => !isGroupCall call.request) = grouped.log := by
  have simulated : ∃ before state, Run Cluster.step permits
      (State.initial mxjob pods services nextUID) before state ∧ Implements grouped state := by
    apply run.simulates Implements (implements_initial mxjob pods services nextUID)
    intro current action abstract implements permitted
    rcases implements.step action with silent | shown
    · exact ⟨abstract, Or.inl rfl, silent⟩
    · exact ⟨Cluster.step abstract action.shown,
        Or.inr ⟨action.shown, permitted abstract implements, rfl⟩, shown⟩
  obtain ⟨before, state, abstractRun, implements⟩ := simulated
  exact ⟨before, state, abstractRun, implements.world, implements.worker, implements.log⟩

/-- `sampleJob` with the finalizer. -/
def groupedStart : Grouped :=
  Grouped.initial { sampleJob with finalizers := [finalizerFinishWebhook] } [] [] 1

/-- The job is deleted and two Syncs start a finalizer goroutine each.  The second
one waits for the mutex, then for the record of the first. -/
def twoFinalizers : List GroupedAction :=
  [.move (.deleteJob 7), .deliver 0 false, .work (.success ""), .deliver 0 false,
    .work (.success ""), .run 0, .run 0, .run 1, .run 0, .run 1, .run 1, .run 1, .run 1,
    .call 0 (.success ""), .call 0 (.success ""), .call 0 (.success ""), .run 0, .run 0, .run 1,
    .run 0, .run 0, .run 0]

theorem finalizerGroup_refines_twoFinalizers :
    ∃ before state, Run Cluster.step (fun _ _ => True) finalizedStart before state ∧
      state.world.job.finalizers = [] ∧ state.world.inFlight = [] := by
  have permitted (grouped : Grouped) (action : GroupedAction) :
      ShownPermitted (fun _ _ => True) grouped action := fun _ _ => trivial
  have run : Run groupedStep (ShownPermitted fun _ _ => True) groupedStart _
      (twoFinalizers.foldl groupedStep groupedStart) :=
    Run.start.extend (by simp [twoFinalizers, Run.Permits, permitted])
  obtain ⟨before, state, clusterRun, world, _⟩ := finalizerGroup_refines run
  refine ⟨before, state, clusterRun, ?_, ?_⟩
  · rw [world]
    decide +kernel
  · rw [world]
    decide +kernel

/-! ### Everybody returns -/

theorem finalizeOnce_total {task : FinalizerTask} {trace : List Call} {reason : Abort} :
    ¬ (finalizeOnce task).Aborts trace reason := by
  intro aborted
  simp only [finalizeOnce, Program.aborts_bind, aborts_ask, Program.aborts_pure, and_false,
    exists_false, or_false] at aborted
  unfold callFinishHook at aborted
  split at aborted
  · exact Program.aborts_pure aborted
  · simp [Program.aborts_bind] at aborted

/-- A finalizer goroutine at work, with the answers that `choice` gives. -/
def Finalizing (choice : Grouped → Nat → Outcome) (grouped : Grouped) : GroupedAction → Prop
  | .call index outcome => outcome = choice grouped index
  | .run _ => True
  | _ => False

/-- Whatever the replies, the function of a leader ends. -/
theorem exists_result {key : String} {call : Nat} (choice : Grouped → Nat → Outcome)
    (program : Go (Option GoError)) :
    ∀ (grouped : Grouped) (function : Thread finalizeOnce),
      grouped.group.callers[index]? = some (.calling key call) →
      grouped.functions[index]? = some function → function.rest = program →
      ∃ actions, Run.Permits groupedStep (Finalizing choice) grouped actions ∧
        ∃ ended : Thread finalizeOnce, ∃ value : Option GoError,
          (actions.foldl groupedStep grouped).group = grouped.group ∧
          (actions.foldl groupedStep grouped).functions[index]? = some ended ∧
          ended.result = some value := by
  induction program with
  | done value =>
      intro grouped function isPhase isFunction rest
      exact ⟨[], trivial, function, value, rfl, isFunction, by rw [Thread.result, rest]⟩
  | abort reason =>
      intro grouped function isPhase isFunction rest
      have aborted : (finalizeOnce function.input).Aborts function.trace reason := by
        rw [Program.Aborts, ← rest]
        exact function.onPath
      exact absurd aborted finalizeOnce_total
  | call request continued inductionHypothesis =>
      intro grouped function isPhase isFunction rest
      let outcome := choice grouped index
      obtain ⟨next, advanced, _, nextRest⟩ :=
        @Thread.advance_of_call _ _ _ _ _ _ _ (serve outcome) function grouped.world _ _ rest
      have bound := (List.getElem?_eq_some_iff.mp isFunction).1
      have answered : groupedStep grouped (.call index outcome) =
          { grouped with
            world := (serve outcome request grouped.world).2
            functions := grouped.functions.set index next
            log := grouped.log ++ [⟨request, (serve outcome request grouped.world).1⟩] } := by
        simp only [groupedStep, isPhase, isFunction, advanced]
      obtain ⟨actions, permits, ended, value, same, isEnded, result⟩ := inductionHypothesis _
        (groupedStep grouped (.call index outcome)) next (by rw [answered]; exact isPhase)
        (by rw [answered]; exact List.getElem?_set_self bound) nextRest
      refine ⟨.call index outcome :: actions, ⟨rfl, permits⟩, ended, value, ?_, isEnded, result⟩
      rw [List.foldl_cons, same, answered]

theorem Implements.run_all {actions : List GroupedAction} (implements : Implements grouped state) :
    ∃ after, Implements (actions.foldl groupedStep grouped) after := by
  induction actions generalizing grouped state with
  | nil => exact ⟨state, implements⟩
  | cons action rest inductionHypothesis =>
      rcases implements.step action with silent | shown
      · exact inductionHypothesis silent
      · exact inductionHypothesis shown

/-- Unless everybody has returned, the finalizer goroutines can get on. -/
theorem Implements.exists_fewer (choice : Grouped → Nat → Outcome)
    (implements : Implements grouped state) {phase : Flight.Phase String (Option GoError)}
    (member : phase ∈ grouped.group.callers) (left : phase.rank ≠ 0) :
    ∃ actions, Run.Permits groupedStep (Finalizing choice) grouped actions ∧
      (actions.foldl groupedStep grouped).group.remaining < grouped.group.remaining := by
  obtain ⟨position, isPhase⟩ := List.mem_iff_getElem?.mp member
  rcases implements.sound.progress isPhase (Nat.pos_of_ne_zero left) with
    ⟨caller, key, call, isCalling⟩ | ⟨caller, fewer⟩
  · obtain ⟨function, _, isFunction, _⟩ := implements.goroutine isCalling
    obtain ⟨actions, permits, ended, value, same, isEnded, result⟩ :=
      exists_result choice function.rest grouped function isCalling isFunction rfl
    have goesOn : Run.Permits groupedStep (Finalizing choice) (actions.foldl groupedStep grouped)
        [.run caller] := ⟨trivial, trivial⟩
    refine ⟨actions ++ [.run caller], Run.permits_append.mpr ⟨permits, goesOn⟩, ?_⟩
    rw [List.foldl_append, List.foldl_cons, List.foldl_nil]
    generalize actions.foldl groupedStep grouped = after at same isEnded
    have completed : groupedStep after (.run caller) =
        { after with group := Flight.step grouped.group (.complete caller value) } := by
      simp only [groupedStep, same, isCalling, isEnded, result]
    rw [completed]
    exact Flight.remaining_complete value isCalling
  · refine ⟨[.run caller], ⟨trivial, trivial⟩, ?_⟩
    have goesOn : groupedStep grouped (.run caller) =
        { grouped with group := Flight.step grouped.group (.run caller) } := by
      dsimp only [groupedStep]
      split
      · -- a goroutine that waits for its function does not go on
        rename_i key call function isCalling isFunction
        simp only [Flight.step, isCalling, Flight.Group.perform] at fewer
        exact absurd fewer (Nat.lt_irrefl _)
      · rfl
    rw [List.foldl_cons, List.foldl_nil, goesOn]
    exact fewer

theorem exists_returns (choice : Grouped → Nat → Outcome) (implements : Implements grouped state) :
    ∃ actions, Run.Permits groupedStep (Finalizing choice) grouped actions ∧
      ∀ phase ∈ (actions.foldl groupedStep grouped).group.callers,
        ∃ key call error, phase = .returned key call (some error) := by
  -- every round leaves fewer statements of `Do`
  generalize measure : grouped.group.remaining = bound
  induction bound using Nat.strong_induction_on generalizing grouped state with
  | _ bound inductionHypothesis =>
      by_cases all : ∀ phase ∈ grouped.group.callers, phase.rank = 0
      · refine ⟨[], trivial, fun phase member => ?_⟩
        obtain ⟨position, isPhase⟩ := List.mem_iff_getElem?.mp member
        have known := implements.sound.knows position phase isPhase
        have ended := all phase member
        cases phase with
        | returned key call result =>
            obtain ⟨_, _, _, _, _, isSome⟩ := known
            obtain ⟨error, rfl⟩ := Option.isSome_iff_exists.mp isSome
            exact ⟨key, call, error, rfl⟩
        | _ => cases ended
      · obtain ⟨phase, member, left⟩ : ∃ phase ∈ grouped.group.callers, phase.rank ≠ 0 := by
          simpa using all
        obtain ⟨front, permits, fewer⟩ := implements.exists_fewer choice member left
        obtain ⟨after, implementsAfter⟩ := @Implements.run_all _ _ front implements
        obtain ⟨back, later, ends⟩ := inductionHypothesis _ (measure ▸ fewer) implementsAfter rfl
        refine ⟨front ++ back, Run.permits_append.mpr ⟨permits, later⟩, ?_⟩
        rw [List.foldl_append]
        exact ends

/-- Nobody is stuck in `Do`: from every reachable state, and whatever the API
server answers in the states to come, the finalizer goroutines can get on by
themselves until each of them has returned with the result of an execution. -/
theorem finalizers_return {allowed : Grouped → GroupedAction → Prop} {past : List Grouped}
    {mxjob : MXJob} {pods : List Pod} {services : List Service} {nextUID : UID}
    (run : Run groupedStep allowed (Grouped.initial mxjob pods services nextUID) past grouped)
    (choice : Grouped → Nat → Outcome) :
    ∃ actions, Run.Permits groupedStep (Finalizing choice) grouped actions ∧
      ∀ phase ∈ (actions.foldl groupedStep grouped).group.callers,
        ∃ key call error, phase = .returned key call (some error) := by
  have reached : ∃ state, Implements grouped state := by
    apply run.invariant (fun current => ∃ state, Implements current state)
      ⟨_, implements_initial mxjob pods services nextUID⟩
    rintro current action ⟨state, implements⟩ _
    rcases implements.step action with silent | shown
    · exact ⟨_, silent⟩
    · exact ⟨_, shown⟩
  obtain ⟨state, implements⟩ := reached
  exact exists_returns choice implements

/-- The API server refuses everything. -/
theorem finalizers_return_twoFinalizers :
    ∃ actions, Run.Permits groupedStep (Finalizing fun _ _ => .error .internalError)
        ((twoFinalizers.take 9).foldl groupedStep groupedStart) actions ∧
      ∀ phase ∈ (actions.foldl groupedStep
        ((twoFinalizers.take 9).foldl groupedStep groupedStart)).group.callers,
        ∃ key call error, phase = .returned key call (some error) := by
  have run : Run groupedStep (fun _ _ => True) groupedStart _
      ((twoFinalizers.take 9).foldl groupedStep groupedStart) :=
    Run.start.extend (by simp [twoFinalizers, Run.Permits])
  exact finalizers_return run fun _ _ => .error .internalError

end MXNetOperator.Property
