import MXNetOperator.Mx.Sync

/-!
Contract: which objects a Sync patches.

A Sync lists each kind of object at most once, and every patch it sends adopts
or releases an object of that list.  Owns `sync_patch` and `sync_listing`,
which say this for pods and services alike.
-/

namespace MXNetOperator.Mx

open MXNetOperator.Kube MXNetOperator.Api MXNetOperator.Interaction

/-- The objects an exchange has listed. -/
def ClaimKind.listing : ClaimKind → Call → Option (List ObjectMeta)
  | .pod, ⟨.listPods, .ok pods⟩ => some (pods.map Pod.toObjectMeta)
  | .service, ⟨.listServices, .ok services⟩ => some (services.map Service.toObjectMeta)
  | _, _ => none

/-- The request that lists objects of this kind. -/
def ClaimKind.listRequest : ClaimKind → Request
  | .pod => .listPods
  | .service => .listServices

theorem ClaimKind.listing_request {kind : ClaimKind} {call : Call} {objects : List ObjectMeta}
    (listed : kind.listing call = some objects) : call.request = kind.listRequest := by
  unfold ClaimKind.listing at listed
  split at listed
  · rfl
  · rfl
  · cases listed

/-- The Sync with these exchanges has listed these objects. -/
def HasListed (kind : ClaimKind) (trace : List Call) (objects : List ObjectMeta) : Prop :=
  ∃ call ∈ trace, kind.listing call = some objects

/-- The patch the job sends for an object it has listed. -/
inductive ClaimPatch (mxjob : MXJob) (object : ObjectMeta) : OwnerPatch → Prop where
  | adopt (orphan : getControllerOf object = none) (live : object.deletionTimestamp = none)
      (selected : selects mxjob object.labels = true) :
      ClaimPatch mxjob object (.adopt (newControllerRef mxjob) object.uid)
  | release (owned : object.controlledBy mxjob.uid = true)
      (refused : selects mxjob object.labels = false) :
      ClaimPatch mxjob object (.release mxjob.uid object.uid)

theorem ClaimPatch.of_meta {mxjob other : MXJob} {object : ObjectMeta} {patch : OwnerPatch}
    (claim : ClaimPatch mxjob object patch) (same : mxjob.toObjectMeta = other.toObjectMeta) :
    ClaimPatch other object patch := by
  have sameUid : mxjob.uid = other.uid := congrArg ObjectMeta.uid same
  have sameRef : newControllerRef mxjob = newControllerRef other := by
    simp only [newControllerRef, same]
  have sameLabels : selects mxjob object.labels = selects other object.labels := by
    simp only [selects, genLabels, same]
  cases claim with
  | adopt orphan live selected =>
      rw [sameRef]
      exact .adopt orphan live (sameLabels ▸ selected)
  | release owned refused =>
      rw [sameUid]
      exact .release (sameUid ▸ owned) (sameLabels ▸ refused)

theorem ClaimRequest.patch {kind : ClaimKind} {mxjob : MXJob} {object : ObjectMeta}
    {name : String} {patch : OwnerPatch}
    (claim : ClaimRequest kind mxjob object (selects mxjob object.labels)
      (kind.patchRequest name patch)) :
    name = object.name ∧ ClaimPatch mxjob object patch := by
  rcases claim with same | ⟨orphan, selected, same⟩ | ⟨owned, refused, same⟩
  · cases kind <;> cases same
  · cases kind <;> cases same <;> exact ⟨rfl, .adopt orphan.1 orphan.2 selected⟩
  · cases kind <;> cases same <;> exact ⟨rfl, .release owned refused⟩

/-! ### Where the services are claimed -/

/-- Requests that only `getServicesForMXJob` makes. -/
def servesServices : Request → Bool
  | .listServices => true
  | .patchService _ _ => true
  | _ => false

/-- The request comes from the one listing of services. -/
def FromServices (mxjob : MXJob) (trace : List Call) (request : Request) : Prop :=
  ∃ front back job, trace = front ++ back ∧ (∀ call ∈ front, servesServices call.request = false) ∧
    mxjob.toObjectMeta = job.toObjectMeta ∧ (getServicesForMXJob job).Issues back request

section Services

variable {event : Event} {mxjob job : MXJob} {pods : List Pod} {rtype : MXReplicaType}
  {trace : List Call} {request : Request}

theorem FromServices.prepend {front : List Call} (asked : FromServices job trace request)
    (quiet : ∀ call ∈ front, servesServices call.request = false)
    (same : mxjob.toObjectMeta = job.toObjectMeta) : FromServices mxjob (front ++ trace) request := by
  obtain ⟨middle, back, other, rfl, silent, sameMeta, issued⟩ := asked
  refine ⟨front ++ middle, back, other, by simp, ?_, same.trans sameMeta, issued⟩
  intro call member
  rcases List.mem_append.mp member with earlier | later
  · exact quiet call earlier
  · exact silent call later

theorem reconcilePods_noServices {spec : MXReplicaSpec}
    (issued : (reconcilePods mxjob pods rtype spec).Issues trace request) :
    servesServices request = false := by
  obtain ⟨replicas, _, _, ⟨_, _, ⟨env, rfl⟩ | ⟨pod, _, rfl⟩⟩ | ⟨rfl, _⟩⟩ :=
    reconcilePods_issues issued <;> rfl

theorem reconcileReplica_noServices (issued : (reconcileReplica mxjob pods rtype).Issues trace request) :
    servesServices request = false := by
  unfold reconcileReplica at issued
  split at issued
  · exact absurd issued Program.issues_pure
  · exact reconcilePods_noServices issued

theorem reconcileReplicas_services (issued : (reconcileReplicas mxjob pods).Issues trace request)
    (serves : servesServices request = true) : FromServices mxjob trace request := by
  simp only [reconcileReplicas, Program.issues_bind] at issued
  rcases issued with first | ⟨_, _, _, _, _, second | ⟨_, _, _, _, _, third⟩⟩
  · unfold reconcileScheduler at first
    split at first
    · exact absurd first Program.issues_pure
    · rename_i spec present
      have own : mxjob.spec.mxReplicaSpecs.get .scheduler = some spec := present
      simp only [Program.issues_bind, Program.issues_pure, and_false, exists_false,
        or_false] at first
      rcases first with creating | ⟨job, front, back, rfl, passed, looking |
        ⟨services, listing, _, _, _, serving⟩⟩
      · rw [reconcilePods_noServices creating] at serves
        cases serves
      · have quiet := passed.forall_request (servesServices · = false) fun _ _ issued =>
          reconcilePods_noServices issued
        obtain ⟨now, rfl, _⟩ := reconcilePods_pass own passed
        have same : StatusOnly mxjob (passFor now mxjob pods .scheduler) :=
          passFor_samePass.statusOnly
        exact ⟨front, back, _, rfl, quiet, same.meta_eq, looking⟩
      · obtain ⟨_, _, rfl⟩ := reconcileServices_issues serving
        cases serves
  · rw [reconcileReplica_noServices second] at serves
    cases serves
  · rw [reconcileReplica_noServices third] at serves
    cases serves

theorem servesListing_noServices (serves : servesListing request = true) :
    servesServices request = false := by
  cases request <;> first | rfl | cases serves

/-- A Sync claims services in one place. -/
theorem sync_services (issued : (sync event).Issues trace request)
    (serves : servesServices request = true) : FromServices event.object trace request := by
  obtain ⟨_, readings, back, job, rfl, clock, created, asked⟩ := sync_reconciles issued
    (by rintro rfl; cases serves) (by rintro object index rfl; cases serves)
  have quiet : ∀ call ∈ readings, servesServices call.request = false := by
    intro call member
    rw [clock call member]
    rfl
  refine FromServices.prepend ?_ quiet created.samePass.statusOnly.meta_eq
  cases asked with
  | evaluating inner =>
      simp only [evaluate, Program.issues_bind, Program.issues_pure, and_false, exists_false,
        or_false] at inner
      rcases inner with looking | ⟨pods, listing, passing, rfl, looked, passing⟩
      · rw [servesListing_noServices (getPodsForMXJob_serves looking)] at serves
        cases serves
      · refine (reconcileReplicas_services passing serves).prepend ?_ rfl
        exact looked.forall_request (servesServices · = false) fun _ _ issued =>
          servesListing_noServices (getPodsForMXJob_serves issued)
  | reading => cases serves
  | starting => cases serves
  | terminating pods marked evaluation now marks finished shape =>
      rcases shape with rfl | ⟨pod, _, rfl⟩ <;> cases serves
  | notifying => cases serves
  | storing => cases serves

end Services

/-! ### Both kinds -/

section Kinds

variable {event : Event} {kind : ClaimKind} {trace : List Call} {name : String}
  {patch : OwnerPatch}

/-- A Sync adopts or releases objects it has listed. -/
theorem sync_patch (issued : (sync event).Issues trace (kind.patchRequest name patch)) :
    ∃ listed, HasListed kind trace listed ∧ ∃ object ∈ listed, name = object.name ∧
      ClaimPatch event.object object patch := by
  cases kind with
  | pod =>
      obtain ⟨listed, found, pod, member, same, cause⟩ := sync_patchPod issued
      refine ⟨listed.map Pod.toObjectMeta, ⟨_, found, rfl⟩, pod.toObjectMeta,
        List.mem_map_of_mem member, same, ?_⟩
      rcases cause with ⟨orphan, selected, rfl⟩ | ⟨owned, refused, rfl⟩
      · exact .adopt orphan.1 orphan.2 selected
      · exact .release owned refused
  | service =>
      obtain ⟨front, back, job, rfl, _, sameMeta, claiming⟩ := sync_services issued rfl
      rcases claimListed_issues claiming with ⟨_, same⟩ |
        ⟨reply, listed, rest, rfl, decoded, service, member, claim⟩
      · cases same
      · cases decoded
        obtain ⟨same, claimed⟩ := ClaimRequest.patch claim
        exact ⟨listed.map Service.toObjectMeta, ⟨_, List.mem_append_right _ List.mem_cons_self, rfl⟩,
          service.toObjectMeta, List.mem_map_of_mem member, same, claimed.of_meta sameMeta.symm⟩

/-- Nothing of the kind has been listed before. -/
theorem sync_listing (issued : (sync event).Issues trace kind.listRequest) :
    ∀ call ∈ trace, kind.listing call = none := by
  intro call member
  cases listed : kind.listing call with
  | none => rfl
  | some objects =>
      exfalso
      have asked := ClaimKind.listing_request listed
      cases kind with
      | pod =>
          rw [sync_listPods issued call member] at asked
          cases asked
      | service =>
          obtain ⟨front, back, job, rfl, quiet, _, claiming⟩ := sync_services issued rfl
          rcases claimListed_issues claiming with ⟨rfl, _⟩ | ⟨_, _, _, _, _, service, _, claim⟩
          · rw [List.append_nil] at member
            have silent := quiet call member
            rw [asked] at silent
            cases silent
          · rcases claim with same | ⟨_, _, same⟩ | ⟨_, _, same⟩ <;> cases same

end Kinds

end MXNetOperator.Mx
