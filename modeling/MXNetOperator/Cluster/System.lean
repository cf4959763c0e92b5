import MXNetOperator.Cluster.Server
import MXNetOperator.Interaction.System

/-!
Contract: the operator process, the API server and everybody else as one
transition system.

One worker executes Syncs one after the other, each on some stored version of
the job: the informer cache may lag behind by any number of versions.  Every
finalizer goroutine a Sync starts runs beside it.  Calls are answered one at a
time, in any interleaving; a restart drops all goroutines and the in-memory
finalizer group.

Owns `step`, its inversion `Stepped`, and the bookkeeping invariant
`Consistent` that all later invariants build on.
-/

namespace MXNetOperator.Cluster

open MXNetOperator.Kube MXNetOperator.Api MXNetOperator.Interaction MXNetOperator.Mx

/-- `log` records every exchange of the operator, oldest first. -/
structure State where
  world : World
  worker : Thread sync
  goroutines : List (Thread finalizer)
  log : List Call

inductive Action where
  /-- The informer hands the `age`-th newest version to an idle worker. -/
  | deliver (age : Nat) (deleted : Bool)
  | work (outcome : Outcome)
  | finalize (index : Nat) (outcome : Outcome)
  | restart
  | move (move : Move)

/-- The goroutines a request starts. -/
def spawned : Request → List (Thread finalizer)
  | .spawnFinalizer object index => [Thread.start ⟨object, index⟩]
  | _ => []

def step (state : State) : Action → State
  | .deliver age deleted =>
      match state.worker.stopped, state.world.versions[age]? with
      | true, some mxjob => { state with worker := Thread.start ⟨mxjob, deleted⟩ }
      | _, _ => state
  | .work outcome =>
      match state.worker.advance (serve outcome) state.world with
      | none => state
      | some (call, worker, world) =>
          { world := world
            worker := worker
            goroutines := state.goroutines ++ spawned call.request
            log := state.log ++ [call] }
  | .finalize index outcome =>
      match state.goroutines[index]? with
      | none => state
      | some thread =>
          match thread.advance (serve outcome) state.world with
          | none => state
          | some (call, next, world) =>
              { state with
                world := world
                goroutines := state.goroutines.set index next
                log := state.log ++ [call] }
  | .restart =>
      { state with
        world := { state.world with inFlight := [] }
        worker := Thread.start ⟨state.world.job, true⟩
        goroutines := [] }
  | .move move => { state with world := state.world.move move }

/-- A job nobody has worked on yet, in a cluster with these pods and services.
The worker is idle: a Sync of a deleted job does nothing. -/
def State.initial (mxjob : MXJob) (pods : List Pod) (services : List Service) (nextUID : UID) :
    State where
  world := ⟨mxjob, [], true, pods, services, nextUID, []⟩
  worker := Thread.start ⟨mxjob, true⟩
  goroutines := []
  log := []

/-! ### Inversion -/

/-- Everything a step can do. -/
inductive Stepped (state : State) : Action → State → Prop where
  | idle (action : Action) : Stepped state action state
  | deliver (age : Nat) (deleted : Bool) (mxjob : MXJob)
      (stopped : state.worker.stopped = true)
      (found : state.world.versions[age]? = some mxjob) :
      Stepped state (.deliver age deleted)
        { state with worker := Thread.start ⟨mxjob, deleted⟩ }
  | work (outcome : Outcome) (worker : Thread sync) (call : Call)
      (issued : (sync state.worker.input).Issues state.worker.trace call.request)
      (pending : state.worker.pending = some call.request)
      (reply : call.reply = (serve outcome call.request state.world).1)
      (input : worker.input = state.worker.input)
      (trace : worker.trace = state.worker.trace ++ [call]) :
      Stepped state (.work outcome)
        { world := (serve outcome call.request state.world).2
          worker := worker
          goroutines := state.goroutines ++ spawned call.request
          log := state.log ++ [call] }
  | finalize (index : Nat) (outcome : Outcome) (thread next : Thread finalizer) (call : Call)
      (found : state.goroutines[index]? = some thread)
      (issued : (finalizer thread.input).Issues thread.trace call.request)
      (reply : call.reply = (serve outcome call.request state.world).1)
      (input : next.input = thread.input) (trace : next.trace = thread.trace ++ [call])
      (pending : thread.pending = some call.request) :
      Stepped state (.finalize index outcome)
        { state with
          world := (serve outcome call.request state.world).2
          goroutines := state.goroutines.set index next
          log := state.log ++ [call] }
  | restart : Stepped state .restart
      { state with
        world := { state.world with inFlight := [] }
        worker := Thread.start ⟨state.world.job, true⟩
        goroutines := [] }
  | move (move : Move) : Stepped state (.move move)
      { state with world := state.world.move move }

theorem step_stepped (state : State) (action : Action) :
    Stepped state action (step state action) := by
  cases action with
  | deliver age deleted =>
      simp only [step]
      split
      · rename_i mxjob stopped found
        exact .deliver age deleted mxjob stopped found
      · exact .idle _
  | work outcome =>
      simp only [step]
      split
      · exact .idle _
      · rename_i call worker world advanced
        obtain ⟨issued, pending, reply, rfl, input, trace⟩ := Thread.advance_issues advanced
        exact .work outcome worker call issued pending reply input trace
  | finalize index outcome =>
      simp only [step]
      split
      · exact .idle _
      · rename_i thread found
        split
        · exact .idle _
        · rename_i call next world advanced
          obtain ⟨issued, pending, reply, rfl, input, trace⟩ := Thread.advance_issues advanced
          exact .finalize index outcome thread next call found issued reply input trace pending
  | restart => exact .restart
  | move move => exact .move move

/-! ### A small job

One replica of each type; the witnesses and counterexamples of later modules
run it. -/

/-- A replica specification with a one-container template. -/
def sampleReplica (replicas : Int32) : MXReplicaSpec :=
  ⟨some replicas, some ⟨none, [⟨[]⟩]⟩, none, none⟩

def sampleJob : MXJob where
  name := "job"
  ns := "default"
  uid := 0
  labels := ∅
  ownerReferences := []
  deletionTimestamp := none
  resourceVersion := 1
  finalizers := []
  spec := ⟨⟨some (sampleReplica 1), some (sampleReplica 1), some (sampleReplica 1)⟩, none, none⟩
  status := .empty

/-- A call that succeeds; a pod it creates gets this name. -/
def Outcome.success (name : String) : Outcome where
  failure := none
  applied := true
  removes := false
  name := name
  clock := fun _ => 0
  podOrder := fun pods => ⟨pods, .refl pods⟩
  envOrder := fun entries _ => ⟨entries, .refl entries⟩

/-- A call that fails with this error and has no effect. -/
def Outcome.error (reason : StatusReason) : Outcome :=
  { Outcome.success "" with failure := some ⟨reason, "failed"⟩, applied := false }

/-- As many successful calls as there are names. -/
def calls (names : List String) : List Action :=
  names.map fun name => .work (.success name)

/-- `sampleJob` in an empty cluster. -/
def sampleStart : State := State.initial sampleJob [] [] 1

/-- A first Sync of `sampleJob` without error; its three pods get the uids 1, 3
and 4, the service 2. -/
def firstSync : List Action :=
  .deliver 0 false ::
    calls ["", "", "", "scheduler-1", "", "", "", "", "server-1", "", "", "worker-1", "", "", "", ""]

/-- A Sync of the current version without error that creates no pod.  Calls
beyond its end do nothing. -/
def quietSync : List Action :=
  .deliver 0 false :: calls (List.replicate 16 "")

end MXNetOperator.Cluster
