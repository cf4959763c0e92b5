import MXNetOperator.Cluster.Pods

/-!
Contract: runs in which only the informer and the worker act.

`serial_step` says what one step of such a run is.  If moreover every step is a
call, one Sync works on its own; owns what that leaves alone: the event it works
on, the cluster until it lists, and the stored job until its update.
-/

namespace MXNetOperator.Cluster

open MXNetOperator.Kube MXNetOperator.Api MXNetOperator.Interaction MXNetOperator.Mx

def works : Action → Bool
  | .work _ => true
  | _ => false

def serial : Action → Bool
  | .deliver _ _ => true
  | .work _ => true
  | _ => false

theorem serial_of_works {action : Action} (only : works action = true) : serial action = true := by
  cases action with
  | work => rfl
  | _ => cases only

/-- The worker makes a call and the server answers it. -/
structure Called (state : State) (outcome : Outcome) (call : Call) (next : State) : Prop where
  issued : (sync state.worker.input).Issues state.worker.trace call.request
  pending : state.worker.pending = some call.request
  reply : call.reply = (serve outcome call.request state.world).1
  input : next.worker.input = state.worker.input
  trace : next.worker.trace = state.worker.trace ++ [call]
  world : next.world = (serve outcome call.request state.world).2

inductive SerialStep (state : State) : Action → State → Prop where
  | idle (action : Action) : SerialStep state action state
  | delivered (age : Nat) (deleted : Bool) (mxjob : MXJob)
      (found : state.world.versions[age]? = some mxjob) :
      SerialStep state (.deliver age deleted)
        { state with worker := Thread.start ⟨mxjob, deleted⟩ }
  | called (outcome : Outcome) (call : Call) {next : State}
      (called : Called state outcome call next) : SerialStep state (.work outcome) next

theorem serial_step {action : Action} (only : serial action = true) (state : State) :
    SerialStep state action (step state action) := by
  generalize after : step state action = next
  have stepped := step_stepped state action
  rw [after] at stepped
  cases stepped with
  | idle => exact .idle action
  | deliver age deleted mxjob stopped found => exact .delivered age deleted mxjob found
  | work outcome worker call issued pending reply input trace =>
      exact .called outcome call ⟨issued, pending, reply, input, trace, rfl⟩
  | _ => cases only

theorem works_step {action : Action} (only : works action = true) (state : State) :
    step state action = state ∨
      ∃ outcome call, Called state outcome call (step state action) := by
  have stepped := serial_step (serial_of_works only) state
  generalize step state action = next at stepped
  cases stepped with
  | idle => exact Or.inl rfl
  | delivered => cases only
  | called outcome call called => exact Or.inr ⟨outcome, call, called⟩

theorem deliver_newest {state : State} (stopped : state.worker.stopped = true) :
    step state (.deliver 0 false) =
      { state with worker := Thread.start ⟨state.world.job, false⟩ } := by
  simp [step, stopped, World.versions]

/-- The state in which the Sync of a new event starts. -/
def beginSync (mxjob : MXJob) (pods : List Pod) (services : List Service) (nextUID : UID) : State :=
  step (State.initial mxjob pods services nextUID) (.deliver 0 false)

section Sync

variable {allowed : State → Action → Prop} {first state : State} {past : List State}

theorem run_input (only : ∀ current action, allowed current action → works action = true)
    (run : Run step allowed first past state) : state.worker.input = first.worker.input := by
  refine run.invariant (fun current => current.worker.input = first.worker.input) rfl ?_
  intro current action known permitted
  rcases works_step (only current action permitted) current with idle | ⟨_, _, called⟩
  · rw [idle, known]
  · rw [called.input, known]

/-- Until it lists, a Sync touches nothing. -/
theorem run_untouched (only : ∀ current action, allowed current action → works action = true)
    (run : Run step allowed first past state) :
    (∀ call ∈ state.worker.trace, call.request = .now) → state.world = first.world := by
  refine run.invariant (fun current => (∀ call ∈ current.worker.trace, call.request = .now) →
    current.world = first.world) (fun _ => rfl) ?_
  intro current action known permitted clock
  rcases works_step (only current action permitted) current with idle | ⟨outcome, call, called⟩
  · rw [idle] at clock ⊢
    exact known clock
  · rw [called.trace] at clock
    have reading := clock call (by simp)
    rw [called.world, reading, ← known fun call member => clock call (List.mem_append_left _ member)]
    rfl

theorem run_lists (only : ∀ current action, allowed current action → works action = true)
    (idle : first.worker.trace = []) (run : Run step allowed first past state) {listed : List Pod}
    (found : lists listed ∈ state.worker.trace) : listed = first.world.pods := by
  refine run_sinceListing (fun _ listed _ => listed = first.world.pods) idle ?_ ?_ run listed found
  · intro past current outcome next reached _ pending _ _ _
    rw [run_untouched only reached (sync_listPods (Thread.issues_of_pending pending))]
  · intro _ _ _ _ _ _ _ _ known _ _
    exact known

theorem run_unstored (only : ∀ current action, allowed current action → works action = true)
    (run : Run step allowed first past state) :
    (∀ call ∈ state.worker.trace, ∀ job, call.request ≠ .updateMXJob job) →
      state.world.job = first.world.job := by
  refine run.invariant (fun current =>
    (∀ call ∈ current.worker.trace, ∀ job, call.request ≠ .updateMXJob job) →
      current.world.job = first.world.job) (fun _ => rfl) ?_
  intro current action known permitted unstored
  rcases works_step (only current action permitted) current with idle | ⟨outcome, call, called⟩
  · rw [idle] at unstored ⊢
    exact known unstored
  · rw [called.trace] at unstored
    have other := unstored call (by simp)
    rw [← known fun call member => unstored call (List.mem_append_left _ member), called.world]
    have effect := serve_job outcome call.request current.world
    generalize (serve outcome call.request current.world).2 = after at effect ⊢
    generalize call.request = request at effect other
    cases effect with
    | untouched job => exact job
    | stored mxjob => exact absurd rfl (other mxjob)

/-- An accepted update that comes last is what the server holds. -/
theorem run_stored (only : ∀ current action, allowed current action → serial action = true)
    (idle : first.worker.trace = []) (run : Run step allowed first past state) {after : MXJob} :
    ∀ front, state.worker.trace = front ++ [(⟨.updateMXJob after, none⟩ : Call)] →
      state.world.job.status = after.status ∧ state.world.job.spec = after.spec := by
  refine run.invariant (fun current => ∀ front,
    current.worker.trace = front ++ [(⟨.updateMXJob after, none⟩ : Call)] →
      current.world.job.status = after.status ∧ current.world.job.spec = after.spec) ?_ ?_
  · intro front ends
    rw [idle] at ends
    exact absurd ends (by simp)
  · intro current action known permitted front ends
    have stepped := serial_step (only current action permitted) current
    generalize step current action = next at stepped ends ⊢
    cases stepped with
    | idle => exact known front ends
    | delivered => exact absurd ends (by simp [Thread.start])
    | called outcome call called =>
        rw [called.trace] at ends
        obtain rfl := List.singleton_inj.mp (List.append_inj' ends rfl).2
        rw [called.world, serve_updateMXJob called.reply.symm]
        exact ⟨rfl, rfl⟩

end Sync

end MXNetOperator.Cluster
