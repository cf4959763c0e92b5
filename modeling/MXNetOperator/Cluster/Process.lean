import MXNetOperator.Cluster.Versions
import MXNetOperator.Interaction.Refinement
import MXNetOperator.Sdk.Informer

/-!
Contract: the operator process as `main` sets it up: an informer with one worker
whose handler is `Sync`.

Any stored version of the job can reach the informer at any time: a watch streams
the versions in their order, but each list after a broken watch is answered from
a cache of any age, and nothing compares resource versions.  Such a list can also
lack the job or bring it back.  Changes of other jobs take turns on the same
worker; what their Syncs do is left open.

Owns `processStep` and the bookkeeping that relates the informer to the stored
versions.
-/

namespace MXNetOperator.Cluster

open MXNetOperator.Kube MXNetOperator.Api MXNetOperator.Interaction MXNetOperator.Mx
  MXNetOperator.Sdk

/-! ### Source functions -/

/-- `cache.MetaNamespaceKeyFunc`. -/
def metaNamespaceKeyFunc (mxjob : MXJob) : String :=
  if mxjob.ns = "" then mxjob.name else mxjob.ns ++ "/" ++ mxjob.name

/-- What `stub.Handler.Handle` returns once its Sync is over: whether there was
an error.  A panic does not return. -/
def handled (worker : Thread sync) : Option Bool :=
  match worker.rest with
  | .done _ => some false
  | .abort (.error _) => some true
  | .abort .panicked => none
  | .call _ _ => none

/-! ### The process -/

/-- `seen` is the resource version of the last event of the job that reached the
informer, `gone` whether that event reported the job as deleted. -/
structure Process where
  cluster : State
  informer : Informer String MXJob
  seen : Option Nat
  gone : Bool

def Process.key (process : Process) : String :=
  metaNamespaceKeyFunc process.cluster.world.job

inductive ProcessAction where
  /-- A watch or a list shows the `age`-th newest version. -/
  | watch (age : Nat)
  /-- A watch reports the deletion, or a list lacks the job: a tombstone. -/
  | watchGone (tombstone : Bool)
  | watchOther (delta : Delta MXJob)
  /-- A step of the informer's own goroutines. -/
  | inform (action : Informer.Action String MXJob)
  | read
  /-- The handler returns; `failed` is only up to chance for other jobs. -/
  | finish (failed : Bool)
  | work (outcome : Outcome)
  | finalize (index : Nat) (outcome : Outcome)
  | move (move : Move)
  | restart

/-- The steps of the informer that involve neither the API server nor the
handler; there is one worker. -/
def isInternal : Informer.Action String MXJob → Bool
  | .observe _ => false
  | .read _ => false
  | .finish _ _ => false
  | .take worker => worker == 0
  | .settle worker _ => worker == 0
  | .requeue worker _ => worker == 0
  | .close worker => worker == 0
  | .resync _ => true
  | .notify => true
  | .receive _ => true
  | .fire _ _ => true
  | .cancel => true

def Process.inform (process : Process) (action : Informer.Action String MXJob) : Process :=
  { process with informer := process.informer.step metaNamespaceKeyFunc action }

/-- The event of the job that `sync` is about to hand to the handler. -/
def Process.event (process : Process) : Option Event :=
  match process.informer.workers 0, (process.inform (.read 0)).informer.workers 0 with
  | .taken _, .handling key object live =>
      if key = process.key then some ⟨object, !live⟩ else none
  | _, _ => none

/-- The worker looks up its key.  For the job itself a Sync begins. -/
def Process.read (process : Process) : Process :=
  match process.event with
  | some event =>
      { process.inform (.read 0) with
        cluster := { process.cluster with worker := Thread.start event } }
  | none => process.inform (.read 0)

def Process.finish (process : Process) (failed : Bool) : Process :=
  match process.informer.workers 0 with
  | .handling key _ _ =>
      if key = process.key then
        match handled process.cluster.worker with
        | some error => process.inform (.finish 0 error)
        | none => process
      else process.inform (.finish 0 failed)
  | _ => process

def processStep (process : Process) : ProcessAction → Process
  | .watch age =>
      match process.cluster.world.versions[age]? with
      | some version =>
          if process.informer.crashed then process
          else
            { process.inform (.observe (.upsert version)) with
              seen := some version.resourceVersion
              gone := false }
      | none => process
  | .watchGone tombstone =>
      -- a deletion of what the indexer does not have is dropped by the delta queue
      match process.informer.indexer process.key with
      | some known =>
          let object := if tombstone then known else process.cluster.world.job
          if process.informer.crashed || !tombstone && process.cluster.world.present then process
          else
            { process.inform (.observe (.delete object tombstone)) with
              seen := some object.resourceVersion
              gone := true }
      | none => process
  | .watchOther delta =>
      if metaNamespaceKeyFunc delta.object = process.key then process
      else process.inform (.observe delta)
  | .inform action => if isInternal action then process.inform action else process
  | .read => process.read
  | .finish failed => process.finish failed
  | .work outcome =>
      if process.informer.crashed then process
      else { process with cluster := step process.cluster (.work outcome) }
  | .finalize index outcome =>
      if process.informer.crashed then process
      else { process with cluster := step process.cluster (.finalize index outcome) }
  | .move move => { process with cluster := step process.cluster (.move move) }
  | .restart => ⟨step process.cluster .restart, .initial, none, false⟩

/-- The process has just started, and nobody has worked on the job yet. -/
def Process.initial (mxjob : MXJob) (pods : List Pod) (services : List Service) (nextUID : UID) :
    Process :=
  ⟨State.initial mxjob pods services nextUID, .initial, none, false⟩

/-! ### Inversion -/

/-- The calls for a key, newest first. -/
def callsOf (key : String) (log : List (Record String MXJob)) : List (Record String MXJob) :=
  log.filter fun record => record.key = key

/-- A step of the informer that does not matter for the key. -/
structure Quiet (key : String) (informer next : Informer String MXJob) : Prop where
  indexer : next.indexer key = informer.indexer key
  deleted : ∀ object, next.deletedObjects key = some object →
    informer.deletedObjects key = some object ∨
      metaNamespaceKeyFunc object = key ∧ .delete object false ∈ informer.notices
  notices : ∀ object tombstone, metaNamespaceKeyFunc object = key →
    .delete object tombstone ∈ next.notices → .delete object tombstone ∈ informer.notices
  others : ∀ worker, worker ≠ 0 → next.workers worker = informer.workers worker
  handling : ∀ object live, next.workers 0 = .handling key object live ↔
    informer.workers 0 = .handling key object live
  calls : callsOf key next.log = callsOf key informer.log

section Quiet

variable {key : String} {informer next : Informer String MXJob} {phase : Phase String MXJob}

theorem Quiet.refl (key : String) (informer : Informer String MXJob) : Quiet key informer informer :=
  ⟨rfl, fun _ => Or.inl, fun _ _ _ => id, fun _ _ => rfl, fun _ _ => Iff.rfl, rfl⟩

/-- Only the queue and the limiter change. -/
theorem Quiet.frame (indexer : next.indexer = informer.indexer)
    (deleted : next.deletedObjects = informer.deletedObjects)
    (notices : ∀ delta ∈ next.notices, ∀ object tombstone, delta = .delete object tombstone →
      delta ∈ informer.notices)
    (workers : next.workers = informer.workers) (log : next.log = informer.log) :
    Quiet key informer next where
  indexer := by rw [indexer]
  deleted := by
    rw [deleted]
    exact fun _ => Or.inl
  notices := fun object tombstone _ buffered => notices _ buffered object tombstone rfl
  others := fun _ _ => by rw [workers]
  handling := fun _ _ => by rw [workers]
  calls := by rw [log]

/-- The worker goes on, but not in or out of a call for the key. -/
theorem Quiet.worker (before : ∀ object live, informer.workers 0 ≠ .handling key object live)
    (after : ∀ object live, phase ≠ .handling key object live)
    (workers : next.workers = (informer.setWorker 0 phase).workers)
    (indexer : next.indexer = informer.indexer)
    (deleted : ∀ object, next.deletedObjects key = some object →
      informer.deletedObjects key = some object)
    (notices : next.notices = informer.notices)
    (calls : callsOf key next.log = callsOf key informer.log) : Quiet key informer next where
  indexer := by rw [indexer]
  deleted := fun object known => Or.inl (deleted object known)
  notices := fun _ _ _ buffered => notices ▸ buffered
  others := by
    intro worker other
    rw [workers, Informer.setWorker_other other]
  handling := by
    intro object live
    rw [workers, Informer.setWorker_self]
    exact iff_of_false (after object live) (before object live)
  calls := calls

theorem quiet_observe {delta : Delta MXJob}
    (different : metaNamespaceKeyFunc delta.object ≠ key) :
    Quiet key informer (informer.observe metaNamespaceKeyFunc delta) where
  indexer := Function.update_of_ne (Ne.symm different) ..
  deleted := fun _ => Or.inl
  notices := by
    intro object tombstone same buffered
    rcases List.mem_append.mp buffered with earlier | new
    · exact earlier
    · rw [← List.mem_singleton.mp new] at different
      exact absurd same different
  others := fun _ _ => rfl
  handling := fun _ _ => Iff.rfl
  calls := rfl

/-- The informer's own goroutines. -/
theorem quiet_internal {action : Informer.Action String MXJob} (internal : isInternal action = true)
    (stepped : Informer.Stepped metaNamespaceKeyFunc informer action next) :
    Quiet key informer next := by
  cases stepped with
  | idle => exact .refl key informer
  | observe => cases internal
  | resync other object found =>
      refine .frame rfl rfl ?_ rfl rfl
      intro delta buffered deleted tombstone same
      rcases List.mem_append.mp buffered with earlier | new
      · exact earlier
      · rw [List.mem_singleton.mp new] at same
        cases same
  | notify delta rest deleted oldest whole others =>
      refine ⟨rfl, fun object known => ?_, fun object tombstone _ buffered => ?_, fun _ _ => rfl,
        fun _ _ => Iff.rfl, rfl⟩
      · rcases others key with same | ⟨gone, rfl, same, stored⟩
        · exact Or.inl (same.symm.trans known)
        · right
          obtain rfl := Option.some.inj (stored.symm.trans known)
          rw [oldest]
          exact ⟨same.symm, List.mem_cons_self⟩
      · rw [oldest]
        exact List.mem_cons_of_mem _ buffered
  | crash => exact .frame rfl rfl (fun _ buffered _ _ _ => buffered) rfl rfl
  | take worker taken rest free =>
      obtain rfl : worker = 0 := by simpa [isInternal] using internal
      exact .worker (by simp [free]) (by simp) rfl rfl (fun _ => id) rfl rfl
  | readLive => cases internal
  | readDeleted => cases internal
  | readUnknown => cases internal
  | finish => cases internal
  | forget worker settled failed bucket isSettling =>
      obtain rfl : worker = 0 := by simpa [isInternal] using internal
      exact .worker (by simp [isSettling]) (by simp) rfl rfl (fun _ => id) rfl rfl
  | retry worker settled bucket isSettling =>
      obtain rfl : worker = 0 := by simpa [isInternal] using internal
      exact .worker (by simp [isSettling]) (by simp) rfl rfl (fun _ => id) rfl rfl
  | requeue worker settled delay now queue isRequeueing =>
      obtain rfl : worker = 0 := by simpa [isInternal] using internal
      exact .worker (by simp [isRequeueing]) (by simp) rfl rfl (fun _ => id) rfl rfl
  | close worker closed isClosing =>
      obtain rfl : worker = 0 := by simpa [isInternal] using internal
      exact .worker (by simp [isClosing]) (by simp) rfl rfl (fun _ => id) rfl rfl
  | receive => exact .frame rfl rfl (fun _ buffered _ _ _ => buffered) rfl rfl
  | fire => exact .frame rfl rfl (fun _ buffered _ _ _ => buffered) rfl rfl
  | cancel => exact .frame rfl rfl (fun _ buffered _ _ _ => buffered) rfl rfl

end Quiet

/-- Where `sync` has the object of its event from. -/
inductive Offers (informer : Informer String MXJob) (key : String) : MXJob → Bool → Prop where
  | live (object : MXJob) (found : informer.indexer key = some object) :
      Offers informer key object true
  | deleted (object : MXJob) (known : informer.deletedObjects key = some object) :
      Offers informer key object false

/-- The step of the cluster that an action is, restarts and deliveries apart. -/
def ProcessAction.visible : ProcessAction → Option Action
  | .work outcome => some (.work outcome)
  | .finalize index outcome => some (.finalize index outcome)
  | .move change => some (.move change)
  | _ => none

/-- Everything a step of the process can do. -/
inductive ProcessStepped (process : Process) : ProcessAction → Process → Prop where
  | idle (action : ProcessAction) : ProcessStepped process action process
  | cluster (action : ProcessAction) (shown : Action) (visible : action.visible = some shown) :
      ProcessStepped process action { process with cluster := step process.cluster shown }
  | restart : ProcessStepped process .restart ⟨step process.cluster .restart, .initial, none, false⟩
  | quiet (action : ProcessAction) (informer : Informer String MXJob)
      (quiet : Quiet process.key process.informer informer) :
      ProcessStepped process action { process with informer := informer }
  | watch (age : Nat) (version : MXJob)
      (stored : process.cluster.world.versions[age]? = some version) :
      ProcessStepped process (.watch age)
        { process with
          informer := process.informer.observe metaNamespaceKeyFunc (.upsert version)
          seen := some version.resourceVersion
          gone := false }
  | watchGone (tombstone : Bool) (known object : MXJob)
      (found : process.informer.indexer process.key = some known)
      (which : object = known ∨ object = process.cluster.world.job) :
      ProcessStepped process (.watchGone tombstone)
        { process with
          informer := process.informer.observe metaNamespaceKeyFunc (.delete object tombstone)
          seen := some object.resourceVersion
          gone := true }
  | begin (object : MXJob) (live : Bool) (taken : process.informer.workers 0 = .taken process.key)
      (offers : Offers process.informer process.key object live)
      (event : process.event = some ⟨object, !live⟩) :
      ProcessStepped process .read
        { process with
          informer := process.informer.setWorker 0 (.handling process.key object live)
          cluster := { process.cluster with worker := Thread.start ⟨object, !live⟩ } }
  | unknown (taken : process.informer.workers 0 = .taken process.key) :
      ProcessStepped process .read
        { process with
          informer := { process.informer.setWorker 0 (.settling process.key false) with
            log := ⟨process.key, none, false, false⟩ :: process.informer.log } }
  | finish (failed : Bool) (object : MXJob) (live error : Bool)
      (phase : process.informer.workers 0 = .handling process.key object live)
      (ended : handled process.cluster.worker = some error) :
      ProcessStepped process (.finish failed)
        { process with informer := process.informer.finish 0 process.key object live error }

section Inversion

variable {process : Process}

theorem Quiet.logged {key : String} {informer next : Informer String MXJob}
    (record : Record String MXJob) {phase : Phase String MXJob} (different : record.key ≠ key)
    (before : ∀ object live, informer.workers 0 ≠ .handling key object live)
    (after : ∀ object live, phase ≠ .handling key object live)
    (workers : next.workers = (informer.setWorker 0 phase).workers)
    (indexer : next.indexer = informer.indexer)
    (deleted : ∀ object, next.deletedObjects key = some object →
      informer.deletedObjects key = some object)
    (notices : next.notices = informer.notices) (log : next.log = record :: informer.log) :
    Quiet key informer next := by
  refine .worker before after workers indexer deleted notices ?_
  rw [log, callsOf, callsOf, List.filter_cons_of_neg (by simpa using different)]

/-- A look at the indexer for the job itself, or for another one. -/
theorem read_processStepped (process : Process) : ProcessStepped process .read process.read := by
  have stepped := Informer.step_stepped metaNamespaceKeyFunc process.informer (.read 0)
  have informed : (process.inform (.read 0)).informer =
      process.informer.step metaNamespaceKeyFunc (.read 0) := rfl
  generalize process.informer.step metaNamespaceKeyFunc (.read 0) = next at stepped informed
  have same : process.inform (.read 0) = { process with informer := next } := by
    rw [← informed]
    rfl
  cases stepped with
  | idle =>
      have event : process.event = none := by
        unfold Process.event
        rw [informed]
        split
        · rename_i before after
          rw [before] at after
          cases after
        · rfl
      simp only [Process.read, event, same]
      exact .idle _
  | readLive _ key object phase found =>
      by_cases own : key = process.key
      · subst own
        have event : process.event = some ⟨object, !true⟩ := by
          simp [Process.event, informed, phase]
        simp only [Process.read, event, same]
        exact .begin object true phase (.live object found) event
      · have event : process.event = none := by
          simp [Process.event, informed, phase, own]
        simp only [Process.read, event, same]
        exact .quiet _ _ (.worker (by simp [phase]) (by simp [own]) rfl rfl (fun _ => id) rfl rfl)
  | readDeleted _ key object phase absent known =>
      by_cases own : key = process.key
      · subst own
        have event : process.event = some ⟨object, !false⟩ := by
          simp [Process.event, informed, phase]
        simp only [Process.read, event, same]
        exact .begin object false phase (.deleted object known) event
      · have event : process.event = none := by
          simp [Process.event, informed, phase, own]
        simp only [Process.read, event, same]
        exact .quiet _ _ (.worker (by simp [phase]) (by simp [own]) rfl rfl (fun _ => id) rfl rfl)
  | readUnknown _ key phase =>
      have event : process.event = none := by
        simp [Process.event, informed, phase]
      simp only [Process.read, event, same]
      by_cases own : key = process.key
      · subst own
        exact .unknown phase
      · exact .quiet _ _
          (.logged _ own (by simp [phase]) (by simp) rfl rfl (fun _ => id) rfl rfl)

/-- The end of a call for another job. -/
theorem quiet_finish {key : String} {object : MXJob} {live failed : Bool}
    (phase : process.informer.workers 0 = .handling key object live) (other : key ≠ process.key) :
    Quiet process.key process.informer (process.informer.finish 0 key object live failed) := by
  refine .logged ⟨key, some object, live, failed⟩ other (by simp [phase, other])
    (by simp) rfl rfl ?_ rfl rfl
  intro known found
  simp only [Informer.finish] at found
  split_ifs at found
  · rwa [Function.update_of_ne (Ne.symm other)] at found
  · exact found

theorem finish_processStepped (process : Process) (failed : Bool) :
    ProcessStepped process (.finish failed) (process.finish failed) := by
  unfold Process.finish
  split
  · rename_i key object live phase
    by_cases running : process.informer.crashed = true
    · have same (error : Bool) : process.inform (.finish 0 error) = process := by
        simp [Process.inform, Informer.step, running]
      simp only [same]
      split_ifs
      · split <;> exact .idle _
      · exact .idle _
    · have same (error : Bool) : process.inform (.finish 0 error) =
          { process with informer := process.informer.finish 0 key object live error } := by
        simp [Process.inform, Informer.step, running, phase]
      simp only [same]
      split_ifs with own
      · subst own
        split
        · rename_i error ended
          exact .finish failed object live error phase ended
        · exact .idle _
      · exact .quiet _ _ (quiet_finish phase own)
  · exact .idle _

theorem inform_observe (running : process.informer.crashed = false) (delta : Delta MXJob) :
    process.inform (.observe delta) =
      { process with informer := process.informer.observe metaNamespaceKeyFunc delta } := by
  simp [Process.inform, Informer.step, running]

theorem process_stepped (process : Process) (action : ProcessAction) :
    ProcessStepped process action (processStep process action) := by
  cases action with
  | watch age =>
      simp only [processStep]
      split
      · rename_i version found
        split_ifs with crashed
        · exact .idle _
        · simp only [inform_observe (Bool.not_eq_true _ ▸ crashed)]
          exact .watch age version found
      · exact .idle _
  | watchGone tombstone =>
      simp only [processStep]
      split
      · rename_i known found
        split_ifs with barred missed
        · exact .idle _
        all_goals
          rw [Bool.or_eq_true, not_or] at barred
          simp only [inform_observe (Bool.not_eq_true _ ▸ barred.1)]
        · exact .watchGone tombstone known known found (Or.inl rfl)
        · exact .watchGone tombstone known _ found (Or.inr rfl)
      · exact .idle _
  | watchOther delta =>
      simp only [processStep]
      split_ifs with own
      · exact .idle _
      · by_cases running : process.informer.crashed = false
        · rw [inform_observe running]
          exact .quiet _ _ (quiet_observe own)
        · have same : process.inform (.observe delta) = process := by
            simp [Process.inform, Informer.step, running]
          rw [same]
          exact .idle _
  | inform action =>
      simp only [processStep]
      split_ifs with internal
      · exact .quiet _ _ (quiet_internal internal (Informer.step_stepped ..))
      · exact .idle _
  | read => exact read_processStepped process
  | finish failed => exact finish_processStepped process failed
  | work outcome =>
      simp only [processStep]
      split_ifs
      · exact .idle _
      · exact .cluster _ _ rfl
  | finalize index outcome =>
      simp only [processStep]
      split_ifs
      · exact .idle _
      · exact .cluster _ _ rfl
  | move move => exact .cluster _ _ rfl
  | restart => exact .restart

end Inversion

end MXNetOperator.Cluster
