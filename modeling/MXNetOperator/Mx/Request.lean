import MXNetOperator.Interaction.Program
import MXNetOperator.Mx.Condition

/-!
Contract: the interface between the operator's code and its surroundings.

`Request` lists every point where the code of `pkg/mx` leaves its own memory:
the API server calls of the SDK, of the pod control and of the service
control; the clock; the Go runtime, which picks the order of concurrent
goroutines and of map iterations; the finish-webhook group; and the start of
background goroutines.  A reply type says what may come back, never what does.

`Go` is the resulting program type: `abort` is an error returned up to `Sync`
or a panic.
-/

namespace MXNetOperator.Mx

open MXNetOperator.Kube MXNetOperator.Api MXNetOperator.Interaction

/-- The two owner-reference patches of a controller-reference manager, each
conditioned on the uid of the patched object. -/
inductive OwnerPatch where
  | adopt (reference : OwnerReference) (uid : UID)
  | release (owner : UID) (uid : UID)
deriving DecidableEq

/-- A pod as `RealPodControl` submits it; name, uid and phase are the
server's. -/
structure PodRequest where
  labels : Labels
  ownerReferences : List OwnerReference
  containers : List Container
deriving DecidableEq

/-- A service as `RealServiceControl` submits it. -/
structure ServiceRequest where
  name : String
  labels : Labels
  ownerReferences : List OwnerReference
  selector : Labels
  ports : List ServicePort
deriving DecidableEq

inductive Request where
  | now
  | listPods
  | listServices
  | getMXJob (name : String)
  | patchPod (name : String) (patch : OwnerPatch)
  | patchService (name : String) (patch : OwnerPatch)
  | createPod (pod : PodRequest)
  | createService (service : ServiceRequest)
  | deletePod (name : String)
  | updateMXJob (mxjob : MXJob)
  | callHookAsync (mxjob : MXJob) (startOrFinish : Bool)
  | awaitHook
  | spawnFinalizer (mxjob : MXJob) (indexFound : Nat)
  | enterGroup (key : String)
  | leaveGroup (key : String)
  | schedule (pods : List Pod)
  | rangeMap (entries : List EnvVar)
deriving DecidableEq

/-- What may come back.  `now` delivers the readings of the clock that the
in-memory code up to the next request takes, in source order; `schedule`
delivers the order in which the goroutines started for `pods` get to run;
`rangeMap` the order in which the map is iterated for each container. -/
def Request.Reply : Request → Type
  | .now => Nat → Time
  | .listPods => Except ApiError (List Pod)
  | .listServices => Except ApiError (List Service)
  | .getMXJob _ => Except ApiError MXJob
  | .patchPod _ _ => Option ApiError
  | .patchService _ _ => Option ApiError
  | .createPod _ => Option ApiError
  | .createService _ => Option ApiError
  | .deletePod _ => Option ApiError
  | .updateMXJob _ => Option ApiError
  | .callHookAsync _ _ => Unit
  | .awaitHook => Unit
  | .spawnFinalizer _ _ => Unit
  | .enterGroup _ => Bool
  | .leaveGroup _ => Unit
  | .schedule pods => { order : List Pod // order.Perm pods }
  | .rangeMap entries => Nat → { order : List EnvVar // order.Perm entries }

/-- Why a goroutine's code stops early. -/
inductive Abort where
  | error (error : GoError)
  | panicked
deriving DecidableEq

abbrev Go := Program Request Request.Reply Abort

abbrev Call := Exchange Request Request.Reply

/-- Issue one request and wait for its reply. -/
def ask (request : Request) : Go request.Reply :=
  Program.perform request

/-- Whether the exchange is an API call that came back with an error. -/
def failedCall : Call → Bool
  | ⟨.listPods, .error _⟩ => true
  | ⟨.listServices, .error _⟩ => true
  | ⟨.getMXJob _, .error _⟩ => true
  | ⟨.patchPod _ _, some _⟩ => true
  | ⟨.patchService _ _, some _⟩ => true
  | ⟨.createPod _, some _⟩ => true
  | ⟨.createService _, some _⟩ => true
  | ⟨.deletePod _, some _⟩ => true
  | ⟨.updateMXJob _, some _⟩ => true
  | _ => false

/-- Read through a pointer. -/
def deref {α : Type} : Option α → Go α
  | some value => pure value
  | none => .abort .panicked

/-- Return the error, if any, to the caller of `Sync`. -/
def failOn : Option GoError → Go Unit
  | none => pure ()
  | some error => .abort (.error error)

theorem deref_some {α : Type} (value : α) : deref (some value) = pure value := rfl

@[simp] theorem returns_ask {request : Request} {trace : List Call} {reply : request.Reply} :
    (ask request).Returns trace reply ↔ trace = [⟨request, reply⟩] :=
  Program.returns_perform

@[simp] theorem aborts_ask {request : Request} {trace : List Call} {reason : Abort} :
    ¬ (ask request).Aborts trace reason :=
  Program.aborts_perform

@[simp] theorem issues_ask {request issued : Request} {trace : List Call} :
    (ask request).Issues trace issued ↔ trace = [] ∧ issued = request :=
  Program.issues_perform

@[simp] theorem returns_deref {α : Type} {pointer : Option α} {trace : List Call} {value : α} :
    (deref pointer).Returns trace value ↔ trace = [] ∧ pointer = some value := by
  cases pointer <;> simp [deref]

@[simp] theorem aborts_deref {α : Type} {pointer : Option α} {trace : List Call}
    {reason : Abort} :
    (deref pointer).Aborts trace reason ↔
      trace = [] ∧ pointer = none ∧ reason = .panicked := by
  cases pointer with
  | none =>
      simp only [deref, Program.aborts_abort, true_and]
      rw [eq_comm (a := reason)]
  | some value => simp [deref]

@[simp] theorem issues_deref {α : Type} {pointer : Option α} {trace : List Call}
    {request : Request} : ¬ (deref pointer).Issues trace request := by
  cases pointer <;> simp [deref]

@[simp] theorem returns_failOn {error : Option GoError} {trace : List Call} {value : Unit} :
    (failOn error).Returns trace value ↔ trace = [] ∧ error = none := by
  cases error <;> simp [failOn]

@[simp] theorem aborts_failOn {error : Option GoError} {trace : List Call} {reason : Abort} :
    (failOn error).Aborts trace reason ↔
      trace = [] ∧ ∃ cause, error = some cause ∧ reason = .error cause := by
  cases error with
  | none => simp [failOn]
  | some cause =>
      simp only [failOn, Program.aborts_abort, Option.some.injEq, exists_eq_left']
      rw [eq_comm (a := reason)]

@[simp] theorem issues_failOn {error : Option GoError} {trace : List Call}
    {request : Request} : ¬ (failOn error).Issues trace request := by
  cases error <;> simp [failOn]

end MXNetOperator.Mx
