import MXNetOperator.Cluster.System
import MXNetOperator.Mx.Fault

/-!
Contract: a job is called initialized only when its resources are there.

The start webhook and the Initialized condition follow the replica passes and
the service pass.  A pass gets that far only with enough pods of every type and
a service, and never after a failing call: the errors that the creating
goroutines send to their channel reach the caller of `reconcileMXJobs`.
-/

namespace MXNetOperator.Property

open MXNetOperator.Kube MXNetOperator.Api MXNetOperator.Interaction MXNetOperator.Mx
  MXNetOperator.Cluster

/-- The exchange stores an Initialized condition or starts the start webhook. -/
def announcesStart : Call → Bool
  | ⟨.updateMXJob mxjob, none⟩ => checkCondition mxjob.status .initialized
  | ⟨.callHookAsync _ true, _⟩ => true
  | _ => false

/-- The exchange is a pod creation that succeeded or timed out. -/
def mayHaveCreated : Call → Bool
  | ⟨.createPod _, none⟩ => true
  | ⟨.createPod _, some error⟩ => error.reason == .timeout
  | _ => false

/-- Requests by which a pass tells others what it found. -/
def tellsOthers : Request → Bool
  | .updateMXJob _ => true
  | .callHookAsync _ _ => true
  | _ => false

/-- The listed pods of the type and the created ones reach the replica count. -/
def EnoughPods (mxjob : MXJob) (pods : List Pod) (rtype : MXReplicaType) (trace : List Call) :
    Prop :=
  ∃ replicas, replicasOf mxjob rtype = some replicas ∧
    replicas.toInt ≤ (filterPodsForMXReplicaType pods rtype).length +
      trace.countP fun call => createsType rtype call && mayHaveCreated call

/-- A service was claimed, or else created. -/
def HasService (mxjob : MXJob) (trace : List Call) : Prop :=
  ∃ listed services, (⟨.listServices, .ok listed⟩ : Call) ∈ trace ∧
    Claimed .service Service.toObjectMeta mxjob listed services trace ∧
    (services ≠ [] ∨ ∃ service, (⟨.createService service, none⟩ : Call) ∈ trace)

section Passes

variable {mxjob : MXJob} {pods : List Pod} {rtype : MXReplicaType} {trace front back : List Call}

/-- The needed pods fill the type up to its replica count. -/
theorem neededPods_fill {replicas : Int32}
    (fresh : checkCondition mxjob.status .initialized = false) :
    replicas.toInt ≤ (filterPodsForMXReplicaType pods rtype).length +
      neededPods mxjob pods rtype replicas := by
  by_cases enough : replicas.toInt ≤ (filterPodsForMXReplicaType pods rtype).length
  · omega
  · have bounded : Bounded pods rtype replicas := by
      unfold Bounded
      omega
    have short : 0 < podDiff pods rtype replicas := bounded.podDiff_pos.mpr (by omega)
    have exact := bounded.podDiff_toInt
    rw [neededPods, if_pos ⟨short, fresh⟩]
    omega

theorem mayHaveCreated_of_accepted {call : Call} (creates : createsType rtype call = true)
    (accepted : acceptedCreate call) : mayHaveCreated call = true := by
  obtain ⟨request, reply⟩ := call
  cases request with
  | createPod pod =>
      rcases accepted with none | ⟨error, some, timedOut⟩
      · cases none
        rfl
      · cases some
        simp [mayHaveCreated, timedOut]
  | _ => cases creates

/-- In a completed evaluation every creation counts. -/
theorem countP_created (accepted : ∀ call ∈ trace, acceptedCreate call) :
    trace.countP (fun call => createsType rtype call && mayHaveCreated call) =
      createCount rtype trace := by
  refine List.countP_congr fun call member => ?_
  by_cases creates : createsType rtype call = true
  · simp [creates, mayHaveCreated_of_accepted creates (accepted call member)]
  · simp [creates]

theorem Evaluation.enoughPods (evaluation : Evaluation mxjob pods trace)
    (fresh : checkCondition mxjob.status .initialized = false)
    (present : (mxjob.spec.mxReplicaSpecs.get rtype).isSome = true) :
    EnoughPods mxjob pods rtype trace := by
  obtain ⟨spec, found⟩ := Option.isSome_iff_exists.mp present
  obtain ⟨replicas, given⟩ := evaluation.given rtype spec found
  have counted := replicasOf_eq_some found given
  have filled : replicas.toInt ≤ (filterPodsForMXReplicaType pods rtype).length +
      neededPods mxjob pods rtype replicas := neededPods_fill fresh
  refine ⟨replicas, counted, ?_⟩
  rw [countP_created evaluation.accepted, evaluation.counts, podsNeeded, counted]
  exact filled

theorem ServiceDone.hasService {spec : MXReplicaSpec} (done : ServiceDone mxjob spec trace) :
    HasService mxjob trace := by
  obtain ⟨listed, services, found, claims, created, _⟩ := done
  refine ⟨listed, services, found, claims, ?_⟩
  by_cases none : services = []
  · exact Or.inr ⟨_, created none⟩
  · exact Or.inl none

theorem EnoughPods.append (enough : EnoughPods mxjob pods rtype front) :
    EnoughPods mxjob pods rtype (front ++ back) := by
  obtain ⟨replicas, given, reached⟩ := enough
  refine ⟨replicas, given, ?_⟩
  rw [List.countP_append]
  omega

theorem HasService.append (service : HasService mxjob front) :
    HasService mxjob (front ++ back) := by
  obtain ⟨listed, services, found, claims, cause⟩ := service
  have included : front ⊆ front ++ back := List.subset_append_left front back
  refine ⟨listed, services, included found, claims.mono included, cause.imp_right ?_⟩
  rintro ⟨service, created⟩
  exact ⟨service, included created⟩

/-- What announces the start comes after a completed evaluation. -/
theorem evaluated_of_announcing {request : Request} {reply : request.Reply}
    (issued : (reconcileMXJobs mxjob).Issues trace request)
    (announces : announcesStart ⟨request, reply⟩ = true) :
    ∃ pods, Evaluation mxjob pods trace := by
  cases reconcileMXJobs_issues issued with
  | evaluating inner =>
      have serves := evaluate_serves inner
      cases request <;> first | cases announces | cases serves
  | reading pods evaluation => exact ⟨pods, evaluation⟩
  | starting pods evaluation => exact ⟨pods, evaluation⟩
  | terminating pods marked evaluation => exact ⟨pods, evaluation⟩
  | notifying pods marked after evaluation => exact ⟨pods, evaluation⟩
  | storing pods after claims conclusion => exact ⟨pods, conclusion.evaluation⟩

theorem servesEvaluation_tellsNoOne {request : Request}
    (serves : servesEvaluation request = true) : tellsOthers request = false := by
  cases request <;> first | rfl | cases serves

/-- Initialized is sound: it is announced only with the resources in place, and
after a failing call nothing is announced or stored and the error is returned. -/
theorem initialized_sound {rest : Go MXJob}
    (present : ∀ rtype, (mxjob.spec.mxReplicaSpecs.get rtype).isSome = true)
    (fresh : checkCondition mxjob.status .initialized = false)
    (path : (reconcileMXJobs mxjob).Path trace rest) :
    ((∃ call ∈ trace, announcesStart call = true) →
      (∃ pods, Listed mxjob pods trace ∧ ∀ rtype, EnoughPods mxjob pods rtype trace) ∧
        HasService mxjob trace) ∧
    ((∃ call ∈ trace, passFault mxjob call = true) →
      (∀ call ∈ trace, tellsOthers call.request = false) ∧
        ((∃ error, rest = .abort (.error error)) ∨
          ∃ request next, rest = .call request next ∧ tellsOthers request = false)) := by
  constructor
  · rintro ⟨call, member, announces⟩
    obtain ⟨front, back, rfl, issued⟩ := path.issues_of_mem member
    obtain ⟨pods, evaluation⟩ := evaluated_of_announcing issued announces
    obtain ⟨spec, scheduler⟩ := Option.isSome_iff_exists.mp (present .scheduler)
    refine ⟨⟨pods, evaluation.listed.mono (List.subset_append_left front _), fun rtype => ?_⟩, ?_⟩
    · exact (Evaluation.enoughPods evaluation fresh (present rtype)).append
    · exact (ServiceDone.hasService (evaluation.service spec scheduler)).append
  · rintro ⟨call, member, faulty⟩
    obtain ⟨serves, ended⟩ := reconcileMXJobs_faulty path member faulty
    refine ⟨fun call member => servesEvaluation_tellsNoOne (serves call member),
      ended.imp_right ?_⟩
    rintro ⟨request, next, same, serves⟩
    exact ⟨request, next, same, servesEvaluation_tellsNoOne serves⟩

end Passes

/-- A reconciliation of `sampleJob` in an empty cluster, without error. -/
def samplePass : Thread reconcileMXJobs :=
  Thread.drive (fun request world => serve (.success (toString world.nextUID)) request world) 20
    (Thread.start sampleJob) sampleStart.world

theorem initialized_sound_samplePass :
    (∃ pods, Listed sampleJob pods samplePass.trace ∧
      ∀ rtype, EnoughPods sampleJob pods rtype samplePass.trace) ∧
      HasService sampleJob samplePass.trace := by
  have announced : ∃ call ∈ samplePass.trace, announcesStart call = true := by
    rw [← List.any_eq_true]
    decide +kernel
  exact (initialized_sound (by decide) (by decide) samplePass.onPath).1
    announced

end MXNetOperator.Property
