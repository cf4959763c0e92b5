import MXNetOperator.Cluster.Process
import MXNetOperator.Property.Freshness

/-!
Contract: what the informer makes of the stored versions of a job.

`Driven` relates the informer's copies of the job, the Sync under way and the
stored versions.  From it: the process is an instance of the cluster system, a
process at rest has synced the version of the last event, and the Syncs of one
process go back to an older version only if the events of the job did.
-/

namespace MXNetOperator.Property

open MXNetOperator.Kube MXNetOperator.Api MXNetOperator.Interaction MXNetOperator.Mx
  MXNetOperator.Sdk MXNetOperator.Cluster

/-! ### The cluster side of a step -/

section ClusterSide

variable {state : State} {action : ProcessAction} {shown : Action}

theorem visible_input (visible : action.visible = some shown) :
    (step state shown).worker.input = state.worker.input := by
  have stepped := step_stepped state shown
  generalize step state shown = next at stepped
  cases stepped with
  | deliver => cases action <;> cases visible
  | restart => cases action <;> cases visible
  | work outcome worker call issued pending reply input trace => exact input
  | _ => rfl

/-- A Sync that is over stays as it is. -/
theorem visible_stopped (visible : action.visible = some shown)
    (stopped : state.worker.stopped = true) : (step state shown).worker = state.worker := by
  have stepped := step_stepped state shown
  generalize step state shown = next at stepped
  cases stepped with
  | deliver => cases action <;> cases visible
  | restart => cases action <;> cases visible
  | work outcome worker call issued pending reply input trace =>
      exfalso
      unfold Thread.stopped at stopped
      unfold Thread.pending at pending
      split at stopped <;> simp_all
  | _ => rfl

theorem stopped_of_handled {worker : Thread sync} {error : Bool}
    (ended : handled worker = some error) : worker.stopped = true := by
  unfold handled at ended
  unfold Thread.stopped
  split at ended <;> simp_all

theorem resourceVersion_le {mxjob version : MXJob} (consistent : Consistent mxjob state)
    (stored : version ∈ state.world.versions) :
    version.resourceVersion ≤ state.world.job.resourceVersion := by
  have ordered := consistent.ordered
  rw [World.versions, List.pairwise_cons] at ordered
  rcases List.mem_cons.mp stored with rfl | older
  · exact le_refl _
  · exact (ordered.1 version older).le

end ClusterSide

/-! ### The informer and the stored versions -/

variable {mxjob : MXJob} {process next : Process} {action : ProcessAction}

/-- The stored version of the last event. -/
def LastEvent (process : Process) (object : MXJob) : Prop :=
  object ∈ process.cluster.world.versions ∧ process.seen = some object.resourceVersion

/-- What the informer and the worker know of the job. -/
structure Driven (mxjob : MXJob) (process : Process) : Prop where
  consistent : Consistent mxjob process.cluster
  others : ∀ worker, worker ≠ 0 → process.informer.workers worker = .idle
  indexer : ∀ object, process.informer.indexer process.key = some object →
    LastEvent process object ∧ process.gone = false
  cached : process.gone = false → process.seen ≠ none →
    process.informer.indexer process.key ≠ none
  deleted : ∀ object, process.informer.deletedObjects process.key = some object →
    object ∈ process.cluster.world.versions
  notices : ∀ object tombstone, metaNamespaceKeyFunc object = process.key →
    .delete object tombstone ∈ process.informer.notices →
      object ∈ process.cluster.world.versions
  working : ∀ object live, process.informer.workers 0 = .handling process.key object live →
    process.cluster.worker.input = ⟨object, !live⟩
  resting : (∀ object live, process.informer.workers 0 ≠ .handling process.key object live) →
    process.cluster.worker.stopped = true
  last : (∀ object live, process.informer.workers 0 ≠ .handling process.key object live) →
    ∀ object live failed rest, callsOf process.key process.informer.log =
      ⟨process.key, some object, live, failed⟩ :: rest →
        process.cluster.worker.input = ⟨object, !live⟩ ∧
          handled process.cluster.worker = some failed

theorem key_eq {other : Process} (consistent : Consistent mxjob process.cluster)
    (otherConsistent : Consistent mxjob other.cluster) : other.key = process.key := by
  have first := consistent.current_of_mem
  have second := otherConsistent.current_of_mem
  simp only [Process.key, metaNamespaceKeyFunc, first.name, first.ns, second.name, second.ns]

theorem driven_restarted {state : State} (consistent : Consistent mxjob state)
    (stopped : state.worker.stopped = true) : Driven mxjob ⟨state, .initial, none, false⟩ where
  consistent := consistent
  indexer := by
    intro object found
    cases found
  cached := fun _ seen => absurd rfl seen
  deleted := by
    intro object found
    cases found
  notices := by
    intro object tombstone _ buffered
    cases buffered
  others := fun _ _ => rfl
  working := by
    intro object live phase
    cases phase
  resting := fun _ => stopped
  last := by
    intro _ object live failed rest calls
    cases calls

theorem Driven.offered {object : MXJob} {live : Bool} (driven : Driven mxjob process)
    (offers : Offers process.informer process.key object live) :
    object ∈ process.cluster.world.versions := by
  cases offers with
  | live found => exact (driven.indexer object found).1.1
  | deleted known => exact driven.deleted object known

/-- A step of the informer that does not concern the job. -/
theorem Driven.quiet {informer : Informer String MXJob} (driven : Driven mxjob process)
    (quiet : Quiet process.key process.informer informer) :
    Driven mxjob { process with informer := informer } where
  consistent := driven.consistent
  indexer := by
    intro object found
    exact driven.indexer object (quiet.indexer.symm.trans found)
  cached := by
    intro known seen absent
    exact driven.cached known seen (quiet.indexer.symm.trans absent)
  deleted := by
    intro object found
    rcases quiet.deleted object found with earlier | ⟨same, buffered⟩
    · exact driven.deleted object earlier
    · exact driven.notices object false same buffered
  notices := fun object tombstone same buffered =>
    driven.notices object tombstone same (quiet.notices object tombstone same buffered)
  others := fun worker other => (quiet.others worker other).trans (driven.others worker other)
  working := fun object live phase => driven.working object live ((quiet.handling object live).mp phase)
  resting := fun idle => driven.resting fun object live phase =>
    idle object live ((quiet.handling object live).mpr phase)
  last := fun idle object live failed rest calls => driven.last
    (fun object live phase => idle object live ((quiet.handling object live).mpr phase))
    object live failed rest (quiet.calls.symm.trans calls)

/-- A call of the operator, a change of the cluster. -/
theorem Driven.cluster {shown : Action} (driven : Driven mxjob process)
    (visible : action.visible = some shown) :
    Driven mxjob { process with cluster := step process.cluster shown } := by
  have stepped := step_stepped process.cluster shown
  have consistent := driven.consistent.step stepped
  have kept := (job_step driven.consistent stepped).versions_subset
  have same : Process.key { process with cluster := step process.cluster shown } = process.key :=
    key_eq driven.consistent consistent
  have lift {object : MXJob} (event : LastEvent process object) :
      LastEvent { process with cluster := step process.cluster shown } object :=
    ⟨kept event.1, event.2⟩
  constructor
  · exact consistent
  · exact driven.others
  all_goals rw [same]
  · exact fun object found => (driven.indexer object found).imp_left lift
  · exact driven.cached
  · exact fun object found => kept (driven.deleted object found)
  · exact fun object tombstone named buffered =>
      kept (driven.notices object tombstone named buffered)
  · intro object live phase
    rw [visible_input visible]
    exact driven.working object live phase
  · intro idle
    have stopped := driven.resting idle
    rw [visible_stopped visible stopped]
    exact stopped
  · intro idle
    rw [visible_stopped visible (driven.resting idle)]
    exact driven.last idle

/-- Whether the event shows the job or reports it as deleted. -/
def reportsGone : Delta MXJob → Bool
  | .upsert _ => false
  | .delete _ _ => true

/-- An event of the job reaches the informer. -/
theorem Driven.observe {delta : Delta MXJob} (driven : Driven mxjob process)
    (stored : delta.object ∈ process.cluster.world.versions) :
    Driven mxjob ⟨process.cluster, process.informer.observe metaNamespaceKeyFunc delta,
      some delta.object.resourceVersion, reportsGone delta⟩ := by
  have named : metaNamespaceKeyFunc delta.object = process.key := by
    have same := driven.consistent.identity _ stored
    have current := driven.consistent.current_of_mem
    simp only [Process.key, metaNamespaceKeyFunc, same.name, same.ns, current.name, current.ns]
  have found : (process.informer.observe metaNamespaceKeyFunc delta).indexer process.key =
      if reportsGone delta then none else some delta.object := by
    simp only [Informer.observe, named, Function.update_self]
    cases delta <;> rfl
  constructor
  · exact driven.consistent
  · exact driven.others
  · intro object isFound
    change (process.informer.observe metaNamespaceKeyFunc delta).indexer process.key = _ at isFound
    rw [found] at isFound
    split_ifs at isFound with present
    cases isFound
    exact ⟨⟨stored, rfl⟩, by simpa using present⟩
  · intro present _ absent
    change (process.informer.observe metaNamespaceKeyFunc delta).indexer process.key = _ at absent
    change reportsGone delta = false at present
    rw [found, present] at absent
    cases absent
  · exact driven.deleted
  · intro object tombstone isNamed buffered
    rcases List.mem_append.mp buffered with earlier | new
    · exact driven.notices object tombstone isNamed earlier
    · rw [← List.mem_singleton.mp new] at stored
      exact stored
  · exact driven.working
  · exact driven.resting
  · exact driven.last

/-- The version in the indexer is the last event, so it is not newer than what a
deletion reports. -/
theorem Driven.reported {known object : MXJob} (driven : Driven mxjob process)
    (found : process.informer.indexer process.key = some known)
    (which : object = known ∨ object = process.cluster.world.job) :
    object ∈ process.cluster.world.versions ∧
      ∀ last, process.seen = some last → last ≤ object.resourceVersion := by
  obtain ⟨⟨stored, isLast⟩, _⟩ := driven.indexer known found
  have same (last : Nat) (seen : process.seen = some last) : last = known.resourceVersion :=
    Option.some.inj (seen.symm.trans isLast)
  rcases which with rfl | rfl
  · exact ⟨stored, fun last seen => (same last seen).le⟩
  · exact ⟨List.mem_cons_self,
      fun last seen => same last seen ▸ resourceVersion_le driven.consistent stored⟩

/-- The worker goes on to handle the job. -/
theorem Driven.begin {object : MXJob} {live : Bool} (driven : Driven mxjob process)
    (offers : Offers process.informer process.key object live) :
    Driven mxjob { process with
      informer := process.informer.setWorker 0 (.handling process.key object live)
      cluster := { process.cluster with worker := Thread.start ⟨object, !live⟩ } } := by
  constructor
  · exact ⟨driven.consistent.toVersioned, driven.offered offers, driven.consistent.goroutines⟩
  · intro worker other
    rw [← driven.others worker other]
    exact Informer.setWorker_other other
  · exact driven.indexer
  · exact driven.cached
  · exact driven.deleted
  · exact driven.notices
  · intro other isLive phase
    change (process.informer.setWorker 0 _).workers 0 = .handling process.key other isLive at phase
    rw [Informer.setWorker_self] at phase
    cases phase
    rfl
  · intro idle
    exact absurd Informer.setWorker_self (idle object live)
  · intro idle
    exact absurd Informer.setWorker_self (idle object live)

/-- The informer knows nothing of the job. -/
theorem Driven.unknown (driven : Driven mxjob process)
    (taken : process.informer.workers 0 = .taken process.key) :
    Driven mxjob { process with
      informer := { process.informer.setWorker 0 (.settling process.key false) with
        log := ⟨process.key, none, false, false⟩ :: process.informer.log } } where
  consistent := driven.consistent
  indexer := driven.indexer
  cached := driven.cached
  deleted := driven.deleted
  notices := driven.notices
  others := by
    intro worker other
    rw [← driven.others worker other]
    exact Informer.setWorker_other other
  working := by
    intro object live phase
    change (process.informer.setWorker 0 _).workers 0 = .handling process.key object live at phase
    rw [Informer.setWorker_self] at phase
    cases phase
  resting := fun _ => driven.resting (by simp [taken])
  last := by
    intro _ object live failed rest calls
    change callsOf process.key (⟨process.key, none, false, false⟩ :: _) = _ at calls
    rw [callsOf, List.filter_cons_of_pos (by simp)] at calls
    cases calls

theorem Driven.finish {object : MXJob} {live error : Bool} (driven : Driven mxjob process)
    (phase : process.informer.workers 0 = .handling process.key object live)
    (ended : handled process.cluster.worker = some error) :
    Driven mxjob
      { process with informer := process.informer.finish 0 process.key object live error } where
  consistent := driven.consistent
  indexer := driven.indexer
  cached := driven.cached
  deleted := by
    intro other known
    simp only [Informer.finish] at known
    split_ifs at known
    · have absent := Function.update_self process.key none process.informer.deletedObjects
      cases absent.symm.trans known
    · exact driven.deleted other known
  notices := driven.notices
  others := by
    intro worker other
    rw [← driven.others worker other]
    exact Informer.setWorker_other other
  working := by
    intro other isLive isHandling
    change (process.informer.setWorker 0 _).workers 0 = .handling process.key other isLive
      at isHandling
    rw [Informer.setWorker_self] at isHandling
    cases isHandling
  resting := fun _ => stopped_of_handled ended
  last := by
    intro _ other isLive failed rest calls
    change callsOf process.key (⟨process.key, some object, live, error⟩ :: _) = _ at calls
    rw [callsOf, List.filter_cons_of_pos (by simp)] at calls
    cases calls
    exact ⟨driven.working object live phase, ended⟩

theorem Driven.stepped (driven : Driven mxjob process)
    (stepped : ProcessStepped process action next) : Driven mxjob next := by
  cases stepped with
  | idle => exact driven
  | cluster action shown visible => exact driven.cluster visible
  | restart => exact driven_restarted (driven.consistent.step (step_stepped _ _)) rfl
  | quiet action informer quiet => exact driven.quiet quiet
  | watch age version stored =>
      exact @Driven.observe _ _ (.upsert version) driven (List.mem_of_getElem? stored)
  | watchGone tombstone known object found which =>
      exact @Driven.observe _ _ (.delete object tombstone) driven (driven.reported found which).1
  | begin object live taken offers => exact driven.begin offers
  | unknown taken => exact driven.unknown taken
  | finish failed object live error phase ended => exact driven.finish phase ended

theorem run_driven {allowed : Process → ProcessAction → Prop} {past : List Process}
    {pods : List Pod} {services : List Service} {nextUID : UID}
    (run : Run processStep allowed (Process.initial mxjob pods services nextUID) past process) :
    Driven mxjob process :=
  run.invariant (Driven mxjob)
    (driven_restarted (consistent_initial mxjob pods services nextUID) rfl)
    fun current action driven _ => driven.stepped (process_stepped current action)

/-! ### The process as a cluster -/

/-- Every step of the cluster that the action makes is permitted. -/
def Visible (permits : State → Action → Prop) (process : Process) (action : ProcessAction) : Prop :=
  (∀ shown, action.visible = some shown → permits process.cluster shown) ∧
    (action = .restart → permits process.cluster .restart) ∧
    (action = .read → ∀ event age, process.event = some event →
      process.cluster.world.versions[age]? = some event.object →
        permits process.cluster (.deliver age event.deleted))

theorem Driven.shows {permits : State → Action → Prop} (driven : Driven mxjob process)
    (permitted : Visible permits process action) (stepped : ProcessStepped process action next) :
    Shows step permits process.cluster next.cluster := by
  cases stepped with
  | cluster action shown visible => exact Or.inr ⟨shown, permitted.1 shown visible, rfl⟩
  | restart => exact Or.inr ⟨.restart, permitted.2.1 rfl, rfl⟩
  | begin object live taken offers event =>
      right
      have stored := driven.offered offers
      obtain ⟨age, found⟩ := List.mem_iff_getElem?.mp stored
      refine ⟨.deliver age (!live), permitted.2.2 rfl _ age event found, ?_⟩
      -- the worker took the key, so no Sync is under way
      have stopped := driven.resting (by simp [taken])
      simp only [step, stopped, found]
  | _ => exact Or.inl rfl

/-- The operator process with its informer is an instance of the cluster system:
whatever the informer, its queue and other jobs do, the cluster goes through one
of its own runs.  So what holds of every run of the cluster holds of the process. -/
theorem process_refines {permits : State → Action → Prop} {past : List Process} {pods : List Pod}
    {services : List Service} {nextUID : UID}
    (run : Run processStep (Visible permits) (Process.initial mxjob pods services nextUID) past
      process) :
    ∃ before, Run step permits (State.initial mxjob pods services nextUID) before
      process.cluster := by
  exact run.refines Process.cluster (Driven mxjob)
    (driven_restarted (consistent_initial mxjob pods services nextUID) rfl)
    fun current action driven permitted =>
      ⟨driven.stepped (process_stepped current action),
        driven.shows permitted (process_stepped current action)⟩

/-- The stored version reaches the informer and is synced; a pod that is created
gets a name from the list. -/
def sampleRound (names : List String) : List ProcessAction :=
  [.watch 0, .inform .notify, .inform (.take 0), .read] ++
    (names.map fun name => .work (.success name)) ++
    [.finish false, .inform (.settle 0 0), .inform (.close 0)]

/-- The first Sync of `sampleJob` writes its status, the second has nothing to do. -/
def twoRounds : List ProcessAction :=
  sampleRound ["", "", "", "scheduler-1", "", "", "", "", "server-1", "", "", "worker-1", "", "",
    "", ""] ++ sampleRound (List.replicate 16 "")

def afterTwoRounds : Process :=
  twoRounds.foldl processStep (Process.initial sampleJob [] [] 1)

theorem process_refines_twoRounds :
    ∃ before, Run step (fun _ _ => True) sampleStart before afterTwoRounds.cluster := by
  have visible (state : Process) (action : ProcessAction) :
      Visible (fun _ _ => True) state action := by
    simp [Visible]
  have run : Run processStep (Visible fun _ _ => True) (Process.initial sampleJob [] [] 1) _
      afterTwoRounds :=
    Run.start.extend (by simp [twoRounds, sampleRound, Run.Permits, visible])
  exact process_refines run

/-! ### Order of the Syncs -/

/-- The events of the job reach the informer in the order of its versions: no
list shows an older version than the last event, or a job reported as deleted. -/
def InSequence (process : Process) : ProcessAction → Prop
  | .watch age => ∀ version ∈ process.cluster.world.versions[age]?,
      process.gone = false ∧ ∀ last ∈ process.seen, last ≤ version.resourceVersion
  | _ => True

instance (process : Process) : (action : ProcessAction) → Decidable (InSequence process action)
  | .watch age =>
      inferInstanceAs (Decidable (∀ version ∈ process.cluster.world.versions[age]?, _ ∧ _))
  | .watchGone _ => inferInstanceAs (Decidable True)
  | .watchOther _ => inferInstanceAs (Decidable True)
  | .inform _ => inferInstanceAs (Decidable True)
  | .read => inferInstanceAs (Decidable True)
  | .finish _ => inferInstanceAs (Decidable True)
  | .work _ => inferInstanceAs (Decidable True)
  | .finalize _ _ => inferInstanceAs (Decidable True)
  | .move _ => inferInstanceAs (Decidable True)
  | .restart => inferInstanceAs (Decidable True)

/-- The resource versions handed to the finished Syncs of a job, newest first. -/
def syncedVersions (key : String) (log : List (Record String MXJob)) : List Nat :=
  (callsOf key log).filterMap fun record => record.object.map (·.resourceVersion)

theorem syncedVersions_cons {key : String} {object : MXJob} {live failed : Bool}
    {log : List (Record String MXJob)} :
    syncedVersions key (⟨key, some object, live, failed⟩ :: log) =
      object.resourceVersion :: syncedVersions key log := by
  simp [syncedVersions, callsOf]

theorem syncedVersions_none {key : String} {live failed : Bool}
    {log : List (Record String MXJob)} :
    syncedVersions key (⟨key, none, live, failed⟩ :: log) = syncedVersions key log := by
  simp [syncedVersions, callsOf]

/-- What the informer still has of a deletion is the last event. -/
structure InOrder (process : Process) : Prop where
  deleted : ∀ object, process.informer.deletedObjects process.key = some object →
    process.seen = some object.resourceVersion ∧ process.gone = true
  notices : ∀ object tombstone, metaNamespaceKeyFunc object = process.key →
    .delete object tombstone ∈ process.informer.notices →
      process.seen = some object.resourceVersion ∧ process.gone = true
  ordered : (syncedVersions process.key process.informer.log).Pairwise fun newer older =>
    older ≤ newer
  seen : ∀ version ∈ syncedVersions process.key process.informer.log,
    ∃ last, process.seen = some last ∧ version ≤ last
  working : ∀ object live, process.informer.workers 0 = .handling process.key object live →
    ∃ last, process.seen = some last ∧ object.resourceVersion ≤ last
  current : ∀ object live, process.informer.workers 0 = .handling process.key object live →
    ∀ version ∈ syncedVersions process.key process.informer.log, version ≤ object.resourceVersion

theorem inOrder_restarted (state : State) : InOrder ⟨state, .initial, none, false⟩ where
  deleted := by
    intro object known
    cases known
  notices := by
    intro object tombstone _ buffered
    cases buffered
  ordered := List.Pairwise.nil
  seen := by
    intro version member
    cases member
  working := by
    intro object live phase
    cases phase
  current := by
    intro object live phase
    cases phase

/-- The worker reads what the last event left behind. -/
theorem InOrder.offered {object : MXJob} {live : Bool} (inOrder : InOrder process)
    (driven : Driven mxjob process) (offers : Offers process.informer process.key object live) :
    process.seen = some object.resourceVersion := by
  cases offers with
  | live found => exact (driven.indexer object found).1.2
  | deleted known => exact (inOrder.deleted object known).1

/-- A step of the informer that does not concern the job. -/
theorem InOrder.quiet {informer : Informer String MXJob} (inOrder : InOrder process)
    (quiet : Quiet process.key process.informer informer) :
    InOrder { process with informer := informer } := by
  have kept : syncedVersions process.key informer.log =
      syncedVersions process.key process.informer.log := by
    rw [syncedVersions, quiet.calls, syncedVersions]
  refine ⟨fun object known => ?_, fun object tombstone named buffered => ?_, ?_, ?_,
    fun object live phase => ?_, fun object live phase => ?_⟩
  · rcases quiet.deleted object known with earlier | ⟨same, buffered⟩
    · exact inOrder.deleted object earlier
    · exact inOrder.notices object false same buffered
  · exact inOrder.notices object tombstone named (quiet.notices object tombstone named buffered)
  · exact kept ▸ inOrder.ordered
  · exact kept ▸ inOrder.seen
  · exact inOrder.working object live ((quiet.handling object live).mp phase)
  · exact kept ▸ inOrder.current object live ((quiet.handling object live).mp phase)

/-- An event of the job reaches the informer in order. -/
theorem InOrder.observe {delta : Delta MXJob} (inOrder : InOrder process)
    (known : process.gone = false)
    (later : ∀ last, process.seen = some last → last ≤ delta.object.resourceVersion) :
    InOrder ⟨process.cluster, process.informer.observe metaNamespaceKeyFunc delta,
      some delta.object.resourceVersion, reportsGone delta⟩ := by
  have raised {version : Nat} (bounded : ∃ last, process.seen = some last ∧ version ≤ last) :
      ∃ last, some delta.object.resourceVersion = some last ∧ version ≤ last := by
    obtain ⟨last, seen, below⟩ := bounded
    exact ⟨_, rfl, below.trans (later last seen)⟩
  -- nothing was reported as deleted before
  have fresh : process.gone ≠ true := by simp [known]
  refine ⟨fun object isKnown => ?_, fun object tombstone named buffered => ?_, inOrder.ordered,
    fun version member => raised (inOrder.seen version member),
    fun object live phase => raised (inOrder.working object live phase), inOrder.current⟩
  · exact absurd (inOrder.deleted object isKnown).2 fresh
  · rcases List.mem_append.mp buffered with earlier | new
    · exact absurd (inOrder.notices object tombstone named earlier).2 fresh
    · rw [← List.mem_singleton.mp new]
      exact ⟨rfl, rfl⟩

theorem InOrder.begin {object : MXJob} {live : Bool} (inOrder : InOrder process)
    (driven : Driven mxjob process) (offers : Offers process.informer process.key object live) :
    InOrder { process with
      informer := process.informer.setWorker 0 (.handling process.key object live)
      cluster := { process.cluster with worker := Thread.start ⟨object, !live⟩ } } := by
  have offered := inOrder.offered driven offers
  have own {other : MXJob} {isLive : Bool}
      (phase : (process.informer.setWorker 0 (.handling process.key object live)).workers 0 =
        .handling process.key other isLive) : other = object := by
    rw [Informer.setWorker_self] at phase
    cases phase
    rfl
  refine ⟨inOrder.deleted, inOrder.notices, inOrder.ordered, inOrder.seen,
    fun other isLive phase => ?_, fun other isLive phase version member => ?_⟩
  · exact ⟨_, own phase ▸ offered, le_refl _⟩
  · obtain ⟨last, seen, below⟩ := inOrder.seen version member
    rw [offered] at seen
    rw [own phase, Option.some.inj seen]
    exact below

theorem InOrder.unknown (inOrder : InOrder process) :
    InOrder { process with
      informer := { process.informer.setWorker 0 (.settling process.key false) with
        log := ⟨process.key, none, false, false⟩ :: process.informer.log } } := by
  have busy {object : MXJob} {live : Bool}
      (phase : (process.informer.setWorker 0 (.settling process.key false)).workers 0 =
        .handling process.key object live) : False := by
    rw [Informer.setWorker_self] at phase
    cases phase
  refine ⟨inOrder.deleted, inOrder.notices, ?_, ?_,
    fun object live phase => (busy phase).elim, fun object live phase => (busy phase).elim⟩
  · exact syncedVersions_none.symm ▸ inOrder.ordered
  · exact syncedVersions_none.symm ▸ inOrder.seen

theorem InOrder.finish {object : MXJob} {live error : Bool} (inOrder : InOrder process)
    (phase : process.informer.workers 0 = .handling process.key object live) :
    InOrder
      { process with informer := process.informer.finish 0 process.key object live error } := by
  have busy {other : MXJob} {isLive : Bool}
      (handling : (process.informer.setWorker 0 (.settling process.key error)).workers 0 =
        .handling process.key other isLive) : False := by
    rw [Informer.setWorker_self] at handling
    cases handling
  have logged : syncedVersions process.key (process.informer.finish 0 process.key object live
      error).log = object.resourceVersion :: syncedVersions process.key process.informer.log :=
    syncedVersions_cons
  refine ⟨fun other known => ?_, inOrder.notices, ?_, ?_,
    fun other isLive handling => (busy handling).elim,
    fun other isLive handling => (busy handling).elim⟩
  · simp only [Informer.finish] at known
    split_ifs at known
    · have absent := Function.update_self process.key none process.informer.deletedObjects
      cases absent.symm.trans known
    · exact inOrder.deleted other known
  · change (syncedVersions process.key (process.informer.finish ..).log).Pairwise _
    rw [logged, List.pairwise_cons]
    exact ⟨inOrder.current object live phase, inOrder.ordered⟩
  · change ∀ version ∈ syncedVersions process.key (process.informer.finish ..).log, _
    rw [logged]
    intro version member
    rcases List.mem_cons.mp member with rfl | earlier
    · exact inOrder.working object live phase
    · exact inOrder.seen version earlier

theorem InOrder.stepped (inOrder : InOrder process) (driven : Driven mxjob process)
    (sequential : InSequence process action) (stepped : ProcessStepped process action next) :
    InOrder next := by
  have same : next.key = process.key :=
    key_eq driven.consistent (driven.stepped stepped).consistent
  cases stepped with
  | idle => exact inOrder
  | restart => exact inOrder_restarted _
  | cluster action shown visible =>
      constructor
      all_goals rw [same]
      · exact inOrder.deleted
      · exact inOrder.notices
      · exact inOrder.ordered
      · exact inOrder.seen
      · exact inOrder.working
      · exact inOrder.current
  | quiet action informer quiet => exact inOrder.quiet quiet
  | watch age version stored =>
      obtain ⟨known, later⟩ := sequential version stored
      exact @InOrder.observe _ (.upsert version) inOrder known later
  | watchGone tombstone known object found which =>
      exact @InOrder.observe _ (.delete object tombstone) inOrder
        (driven.indexer known found).2 (driven.reported found which).2
  | begin object live taken offers event => exact inOrder.begin driven offers
  | unknown taken => exact inOrder.unknown
  | finish failed object live error phase ended => exact inOrder.finish phase

/-- The process keeps the order of the events: while these come in the order of
the versions, and until it restarts, the versions its Syncs were handed do not
decrease, and the Sync under way has one that is not older than any before. -/
theorem syncs_in_order {past : List Process} {pods : List Pod} {services : List Service}
    {nextUID : UID}
    (run : Run processStep InSequence (Process.initial mxjob pods services nextUID) past process) :
    (syncedVersions process.key process.informer.log).Pairwise (fun newer older => older ≤ newer) ∧
      ∀ object live, process.informer.workers 0 = .handling process.key object live →
        process.cluster.worker.input = ⟨object, !live⟩ ∧
          ∀ version ∈ syncedVersions process.key process.informer.log,
            version ≤ object.resourceVersion := by
  have inOrder : InOrder process := by
    refine run.historyInvariant (fun _ current => InOrder current) (inOrder_restarted _) ?_
    intro past current action reached inOrder sequential
    exact inOrder.stepped (run_driven reached) sequential (process_stepped current action)
  refine ⟨inOrder.ordered, fun object live phase => ?_⟩
  exact ⟨(run_driven run).working object live phase, inOrder.current object live phase⟩

theorem syncs_in_order_twoRounds :
    syncedVersions afterTwoRounds.key afterTwoRounds.informer.log = [2, 1] ∧
      (syncedVersions afterTwoRounds.key afterTwoRounds.informer.log).Pairwise
        (fun newer older => older ≤ newer) := by
  have run : Run processStep InSequence (Process.initial sampleJob [] [] 1) _ afterTwoRounds :=
    Run.start.extend (by decide +kernel)
  exact ⟨by decide +kernel, (syncs_in_order run).1⟩

/-- After a list from an old cache the next Sync goes back to the first version. -/
example : ([.watch 1, .inform .notify, .inform (.take 0), .read].foldl processStep
    afterTwoRounds).cluster.worker.input.object.resourceVersion = 1 := by
  decide +kernel

/-! ### At rest -/

/-- A step of the process is at most one step of the informer, or restarts it. -/
theorem processStep_informer (process : Process) (action : ProcessAction) :
    (processStep process action).informer = process.informer ∨
      (processStep process action).informer = .initial ∨
      ∃ act, (processStep process action).informer =
        process.informer.step metaNamespaceKeyFunc act := by
  have acts (act : Informer.Action String MXJob) :
      (process.inform act).informer = process.informer ∨
        (process.inform act).informer = .initial ∨
        ∃ act', (process.inform act).informer =
          process.informer.step metaNamespaceKeyFunc act' :=
    Or.inr (Or.inr ⟨act, rfl⟩)
  cases action with
  | watch age =>
      simp only [processStep]
      split
      · rename_i version _
        split_ifs
        · exact Or.inl rfl
        · exact acts (.observe (.upsert version))
      · exact Or.inl rfl
  | watchGone tombstone =>
      simp only [processStep]
      split
      · split_ifs
        · exact Or.inl rfl
        · exact acts (.observe (.delete _ tombstone))
        · exact acts (.observe (.delete _ tombstone))
      · exact Or.inl rfl
  | watchOther delta =>
      simp only [processStep]
      split_ifs
      · exact Or.inl rfl
      · exact acts _
  | inform act =>
      simp only [processStep]
      split_ifs
      · exact acts _
      · exact Or.inl rfl
  | read =>
      simp only [processStep, Process.read]
      split <;> exact acts (.read 0)
  | finish failed =>
      simp only [processStep, Process.finish]
      split
      · split_ifs
        · split
          · exact acts _
          · exact Or.inl rfl
        · exact acts _
      · exact Or.inl rfl
  | work outcome =>
      simp only [processStep]
      split_ifs <;> exact Or.inl rfl
  | finalize index outcome =>
      simp only [processStep]
      split_ifs <;> exact Or.inl rfl
  | move move => exact Or.inl rfl
  | restart => exact Or.inr (Or.inl rfl)

/-- What the informer does is a run of its own, since the last restart. -/
theorem run_informer {allowed : Process → ProcessAction → Prop} {past : List Process}
    {first : Process} (fresh : first.informer = .initial)
    (run : Run processStep allowed first past process) :
    ∃ before, Run (Informer.step metaNamespaceKeyFunc) (fun _ _ => True) .initial before
      process.informer := by
  apply run.invariant (fun state => ∃ before,
    Run (Informer.step metaNamespaceKeyFunc) (fun _ _ => True) .initial before state.informer)
  · rw [fresh]
    exact ⟨[], .start⟩
  · rintro current action ⟨before, reached⟩ _
    rcases processStep_informer current action with same | restarted | ⟨act, stepped⟩
    · rw [same]
      exact ⟨before, reached⟩
    · rw [restarted]
      exact ⟨[], .start⟩
    · rw [stepped]
      exact ⟨_, reached.step act trivial⟩

theorem callsOf_lastRecord {key : String} {log : List (Record String MXJob)}
    {record : Record String MXJob} (last : lastRecord key log = some record) :
    ∃ rest, callsOf key log = record :: rest := by
  rw [lastRecord, ← List.head?_filter] at last
  exact List.head?_eq_some_iff.mp last

/-- The process catches up: once the last event that reached the informer is the
stored job and nothing is left to do for it, the last Sync was about exactly this
version, and it returned without error or was dropped after its sixteenth failure
in a row. -/
theorem current_version_synced {allowed : Process → ProcessAction → Prop} {past : List Process}
    {pods : List Pod} {services : List Service} {nextUID : UID}
    (run : Run processStep allowed (Process.initial mxjob pods services nextUID) past process)
    (running : process.informer.queue.work.shuttingDown = false)
    (rest : AtRest metaNamespaceKeyFunc process.informer process.key)
    (caughtUp : process.seen = some process.cluster.world.job.resourceVersion)
    (present : process.gone = false) :
    process.cluster.worker.input = ⟨process.cluster.world.job, false⟩ ∧
      (handled process.cluster.worker = some false ∨
        handled process.cluster.worker = some true ∧
          0 < streak process.key process.informer.log ∧
          streak process.key process.informer.log % 16 = 0) := by
  have driven := run_driven run
  obtain ⟨_, informerRun⟩ := run_informer rfl run
  -- what the indexer has is the stored job
  obtain ⟨object, found⟩ :=
    Option.ne_none_iff_exists'.mp (driven.cached present (by simp [caughtUp]))
  obtain ⟨⟨stored, isLast⟩, _⟩ := driven.indexer object found
  have current : object = process.cluster.world.job := by
    apply driven.consistent.current stored
    rw [caughtUp] at isLast
    exact (Option.some.inj isLast).symm
  subst current
  obtain ⟨failed, last, reason⟩ := (run_indexerFresh informerRun).atRest running rest found
  obtain ⟨older, calls⟩ := callsOf_lastRecord last
  have idle : ∀ object live,
      process.informer.workers 0 ≠ .handling process.key object live := by
    intro object live phase
    apply rest.unheld 0
    rw [HoldsKey, phase]
    rfl
  obtain ⟨input, ended⟩ := driven.last idle _ _ _ _ calls
  refine ⟨input, ?_⟩
  cases failed with
  | false => exact Or.inl ended
  | true => exact Or.inr ⟨ended, reason rfl⟩

theorem current_version_synced_twoRounds :
    afterTwoRounds.cluster.worker.input = ⟨afterTwoRounds.cluster.world.job, false⟩ ∧
      handled afterTwoRounds.cluster.worker = some false := by
  have run : Run processStep (fun _ _ => True) (Process.initial sampleJob [] [] 1) _
      afterTwoRounds :=
    Run.start.extend (by simp [twoRounds, sampleRound, Run.Permits])
  have rest : AtRest metaNamespaceKeyFunc afterTwoRounds.informer afterTwoRounds.key := by
    refine ⟨by decide +kernel, ?_, fun worker holds => ?_⟩
    · have empty : afterTwoRounds.informer.notices.isEmpty = true := by decide +kernel
      rw [List.isEmpty_iff.mp empty]
      simp
    · by_cases own : worker = 0
      · subst own
        have idle : (afterTwoRounds.informer.workers 0).held.isNone = true := by decide +kernel
        rw [HoldsKey] at holds
        rw [holds] at idle
        cases idle
      · rw [HoldsKey, (run_driven run).others worker own] at holds
        cases holds
  obtain ⟨input, failed | ⟨_, _, _⟩⟩ := current_version_synced run (by decide +kernel) rest
    (by decide +kernel) (by decide +kernel)
  · exact ⟨input, failed⟩
  · exact ⟨input, by decide +kernel⟩

end MXNetOperator.Property
