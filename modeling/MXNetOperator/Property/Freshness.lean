import MXNetOperator.Property.RetryBudget

/-!
Contract: no version of an object that the indexer has is lost between the
indexer and the handler.  Deletions are not covered: an object the indexer does
not have any more may go unhandled.

`Owed` lists who still has to look at the indexer for a key.  `Covered` says
that somebody has to, or that a worker is handling what the indexer has, or that
the last call for the key was about it and nothing more is due.
-/

namespace MXNetOperator.Property

open MXNetOperator.Queue MXNetOperator.Sdk MXNetOperator.Interaction

variable {Key Object : Type} {informer next : Informer Key Object} {key : Key} {object : Object}

/-- A worker that had another key and has another key leaves this one alone. -/
theorem workers_setWorker {worker : Nat} {phase : Phase Key Object}
    (before : (informer.workers worker).held ≠ some key) (after : phase.held ≠ some key)
    (index : Nat) (other : Phase Key Object) (holds : other.held = some key) :
    informer.workers index = other ↔ (informer.setWorker worker phase).workers index = other := by
  by_cases isWorker : index = worker
  · rw [isWorker, Informer.setWorker_self]
    refine iff_of_false (fun same => before ?_) (fun same => after ?_)
    · rw [same, holds]
    · rw [same, holds]
  · rw [Informer.setWorker_other isWorker]

theorem held_ne {phase : Phase Key Object} {other : Key} (holds : phase.held = some other)
    (different : key ≠ other) : phase.held ≠ some key := by
  rw [holds]
  exact fun same => different (Option.some.inj same).symm

/-- A look at the indexer for the key is due. -/
inductive Owed (keyOf : Object → Key) (informer : Informer Key Object) (key : Key) : Prop where
  | promised (promised : informer.queue.Promised key)
  | noticed (delta : Delta Object) (buffered : delta ∈ informer.notices)
      (same : keyOf delta.object = key)
  | taken (worker : Nat) (phase : informer.workers worker = .taken key)
  | requeueing (worker delay : Nat) (phase : informer.workers worker = .requeueing key delay)

variable {keyOf : Object → Key}

/-- The worker of the key moves on and the key stays owed for other reasons. -/
theorem Owed.setWorker {worker : Nat} {phase : Phase Key Object} (owed : Owed keyOf informer key)
    (untaken : informer.workers worker ≠ .taken key)
    (settled : ∀ delay, informer.workers worker ≠ .requeueing key delay)
    (promised : informer.queue.Promised key → next.queue.Promised key)
    (notices : next.notices = informer.notices)
    (workers : next.workers = (informer.setWorker worker phase).workers) :
    Owed keyOf next key := by
  cases owed with
  | promised isPromised => exact .promised (promised isPromised)
  | noticed delta buffered same =>
      rw [← notices] at buffered
      exact .noticed delta buffered same
  | taken other isTaken =>
      have different : other ≠ worker := by
        rintro rfl
        exact untaken isTaken
      refine .taken other ?_
      rw [workers, Informer.setWorker_other different]
      exact isTaken
  | requeueing other delay isRequeueing =>
      have different : other ≠ worker := by
        rintro rfl
        exact settled delay isRequeueing
      refine .requeueing other delay ?_
      rw [workers, Informer.setWorker_other different]
      exact isRequeueing

/-- Nothing is left to do for the key. -/
structure AtRest (keyOf : Object → Key) (informer : Informer Key Object) (key : Key) : Prop where
  unpromised : ¬ informer.queue.Promised key
  unnoticed : ∀ delta ∈ informer.notices, keyOf delta.object ≠ key
  unheld : ∀ worker, ¬ HoldsKey informer worker key

theorem AtRest.not_owed (rest : AtRest keyOf informer key) : ¬ Owed keyOf informer key := by
  intro owed
  cases owed with
  | promised promised => exact rest.unpromised promised
  | noticed delta buffered same => exact rest.unnoticed delta buffered same
  | taken worker phase =>
      apply rest.unheld worker
      rw [HoldsKey, phase]
      rfl
  | requeueing worker delay phase =>
      apply rest.unheld worker
      rw [HoldsKey, phase]
      rfl

variable [DecidableEq Key]

/-- A worker is in a call of the handler for the key. -/
def Handling (informer : Informer Key Object) (key : Key) : Prop :=
  ∃ worker object live, informer.workers worker = .handling key object live

/-- The newest record of the key. -/
def lastRecord (key : Key) (log : List (Record Key Object)) : Option (Record Key Object) :=
  log.find? fun record => record.key = key

theorem lastRecord_self {record : Record Key Object} {log : List (Record Key Object)}
    (same : record.key = key) : lastRecord key (record :: log) = some record := by
  simp [lastRecord, same]

theorem lastRecord_other {record : Record Key Object} {log : List (Record Key Object)}
    (different : record.key ≠ key) : lastRecord key (record :: log) = lastRecord key log := by
  simp [lastRecord, different]

/-- The last call for the key was about this object.  If it failed, a worker is
about to say so, or the key was dropped. -/
structure LastSeen (informer : Informer Key Object) (key : Key) (object : Object) : Prop where
  unhandled : ¬ Handling informer key
  seen : ∃ failed, lastRecord key informer.log = some ⟨key, some object, true, failed⟩ ∧
    (failed = true → (∃ worker, informer.workers worker = .settling key true) ∨
      streak key informer.log % 16 = 0)

/-- Nothing the indexer has is overlooked. -/
inductive Covered (keyOf : Object → Key) (informer : Informer Key Object) (key : Key)
    (object : Object) : Prop where
  | owed (owed : Owed keyOf informer key)
  | handling (worker : Nat) (phase : informer.workers worker = .handling key object true)
  | seen (seen : LastSeen informer key object)

/-- Every object in the indexer is covered while the queue accepts keys. -/
def Fresh (keyOf : Object → Key) (informer : Informer Key Object) : Prop :=
  informer.queue.work.shuttingDown = false →
    ∀ key object, informer.indexer key = some object → Covered keyOf informer key object

/-! ### What a step leaves in place -/

/-- How a step may change what covers a key that it does not touch: its workers
stay, its notices stay or are served, and a promise is kept. -/
structure Keeps (keyOf : Object → Key) (informer next : Informer Key Object) (key : Key) :
    Prop where
  promised : informer.queue.Promised key → next.queue.Promised key
  noticed : ∀ delta ∈ informer.notices, keyOf delta.object = key → Owed keyOf next key
  workers : ∀ worker phase, phase.held = some key →
    (informer.workers worker = phase ↔ next.workers worker = phase)
  record : lastRecord key next.log = lastRecord key informer.log
  streak : streak key next.log = streak key informer.log

theorem Keeps.owed (keeps : Keeps keyOf informer next key) (owed : Owed keyOf informer key) :
    Owed keyOf next key := by
  cases owed with
  | promised promised => exact .promised (keeps.promised promised)
  | noticed delta buffered same => exact keeps.noticed delta buffered same
  | taken worker phase => exact .taken worker ((keeps.workers worker _ rfl).mp phase)
  | requeueing worker delay phase =>
      exact .requeueing worker delay ((keeps.workers worker _ rfl).mp phase)

theorem Covered.keep (covered : Covered keyOf informer key object)
    (keeps : Keeps keyOf informer next key) : Covered keyOf next key object := by
  cases covered with
  | owed owed => exact .owed (keeps.owed owed)
  | handling worker phase => exact .handling worker ((keeps.workers worker _ rfl).mp phase)
  | seen seen =>
      refine .seen ⟨?_, ?_⟩
      · rintro ⟨worker, handled, live, phase⟩
        exact seen.unhandled ⟨worker, handled, live, (keeps.workers worker _ rfl).mpr phase⟩
      · obtain ⟨failed, record, reason⟩ := seen.seen
        rw [keeps.record, keeps.streak]
        refine ⟨failed, record, fun isFailed => ?_⟩
        apply (reason isFailed).imp_left
        rintro ⟨worker, phase⟩
        exact ⟨worker, (keeps.workers worker _ rfl).mp phase⟩

/-- A step in which no worker takes part. -/
theorem Keeps.frame (promised : informer.queue.Promised key → next.queue.Promised key)
    (noticed : ∀ delta ∈ informer.notices, keyOf delta.object = key → Owed keyOf next key)
    (workers : next.workers = informer.workers) (log : next.log = informer.log) :
    Keeps keyOf informer next key where
  promised := promised
  noticed := noticed
  workers := by
    rw [workers]
    exact fun _ _ _ => Iff.rfl
  record := by rw [log]
  streak := by rw [log]

/-- A worker that turns from one other key to another. -/
theorem Keeps.setWorker {worker : Nat} {phase : Phase Key Object}
    (promised : informer.queue.Promised key → next.queue.Promised key)
    (notices : next.notices = informer.notices)
    (workers : next.workers = (informer.setWorker worker phase).workers)
    (before : (informer.workers worker).held ≠ some key) (after : phase.held ≠ some key)
    (record : lastRecord key next.log = lastRecord key informer.log)
    (streak : Property.streak key next.log = Property.streak key informer.log) :
    Keeps keyOf informer next key where
  promised := promised
  noticed := by
    intro delta buffered same
    rw [← notices] at buffered
    exact .noticed delta buffered same
  workers := by
    rw [workers]
    exact workers_setWorker before after
  record := record
  streak := streak

/-! ### The worker of a key -/

section Own

variable {worker : Nat} {live failed : Bool}

/-- A call returned: it was about what the indexer has, or the key is owed. -/
theorem Covered.finish {handled : Object} (covered : Covered keyOf informer key object)
    (exclusive : KeyExclusive informer)
    (phase : informer.workers worker = .handling key handled live) :
    Covered keyOf (informer.finish worker key handled live failed) key object := by
  cases covered with
  | owed owed => exact .owed (owed.setWorker (by simp [phase]) (by simp [phase]) id rfl rfl)
  | handling other otherPhase =>
      obtain rfl := exclusive.same_worker otherPhase phase rfl rfl
      rw [phase] at otherPhase
      cases otherPhase
      refine .seen ⟨?_, failed, lastRecord_self rfl, ?_⟩
      · rintro ⟨index, later, isLive, handles⟩
        change (informer.setWorker other (.settling key failed)).workers index = _ at handles
        by_cases isWorker : index = other
        · rw [isWorker, Informer.setWorker_self] at handles
          cases handles
        · rw [Informer.setWorker_other isWorker] at handles
          exact isWorker (exclusive.same_worker handles phase rfl rfl)
      · rintro rfl
        exact Or.inl ⟨other, Informer.setWorker_self⟩
  | seen seen => exact absurd ⟨worker, handled, live, phase⟩ seen.unhandled

/-- The worker of the key settles it and moves on. -/
theorem Covered.settle {after : Phase Key Object} (covered : Covered keyOf informer key object)
    (before : ∀ object live, informer.workers worker ≠ .handling key object live)
    (untaken : informer.workers worker ≠ .taken key)
    (settled : ∀ delay, informer.workers worker ≠ .requeueing key delay)
    (calm : ∀ object live, after ≠ .handling key object live)
    (dropped : informer.workers worker = .settling key true → streak key informer.log % 16 = 0)
    (promised : informer.queue.Promised key → next.queue.Promised key)
    (notices : next.notices = informer.notices) (log : next.log = informer.log)
    (workers : next.workers = (informer.setWorker worker after).workers) :
    Covered keyOf next key object := by
  cases covered with
  | owed owed => exact .owed (owed.setWorker untaken settled promised notices workers)
  | handling other phase =>
      have different : other ≠ worker := by
        rintro rfl
        exact before object true phase
      refine .handling other ?_
      rw [workers, Informer.setWorker_other different]
      exact phase
  | seen seen =>
      obtain ⟨failed, record, reason⟩ := seen.seen
      refine .seen ⟨?_, failed, by rw [log]; exact record, fun isFailed => ?_⟩
      · rintro ⟨index, handled, live, handles⟩
        rw [workers] at handles
        by_cases isWorker : index = worker
        · rw [isWorker, Informer.setWorker_self] at handles
          exact calm handled live handles
        · rw [Informer.setWorker_other isWorker] at handles
          exact seen.unhandled ⟨index, handled, live, handles⟩
      · rw [log]
        rcases reason isFailed with ⟨other, settles⟩ | full
        · by_cases isWorker : other = worker
          · rw [isWorker] at settles
            exact Or.inr (dropped settles)
          · left
            refine ⟨other, ?_⟩
            rw [workers, Informer.setWorker_other isWorker]
            exact settles
        · exact Or.inr full

end Own

/-! ### Every step -/

theorem Fresh.stepped {action : Informer.Action Key Object} (fresh : Fresh keyOf informer)
    (exclusive : KeyExclusive informer) (counted : Counted informer)
    (stepped : Informer.Stepped keyOf informer action next) : Fresh keyOf next := by
  cases stepped with
  | idle => exact fresh
  | observe delta =>
      intro running other object found
      by_cases same : other = keyOf delta.object
      · -- the change itself is a notice
        exact .owed (.noticed delta (List.mem_append_right _ (List.mem_singleton.mpr rfl)) same.symm)
      · have before : informer.indexer other = some object :=
          (Function.update_of_ne same _ _).symm.trans found
        exact (fresh running other object before).keep (.frame id
          (fun noticed buffered => .noticed noticed (List.mem_append_left _ buffered)) rfl rfl)
  | resync key object found =>
      intro running other stored foundOther
      exact (fresh running other stored foundOther).keep (.frame id
        (fun noticed buffered => .noticed noticed (List.mem_append_left _ buffered)) rfl rfl)
  | notify delta rest deleted oldest whole others =>
      intro running other object found
      have accepts : informer.queue.work.shuttingDown = false :=
        WorkQueue.add_shuttingDown.symm.trans running
      apply (fresh accepts other object found).keep
      refine Keeps.frame (fun promised => promised.add _) ?_ rfl rfl
      intro noticed buffered same
      rw [oldest] at buffered
      rcases List.mem_cons.mp buffered with rfl | later
      · subst same
        exact .promised (DelayingQueue.promised_add accepts)
      · exact .noticed noticed later same
  | crash object rest oldest =>
      intro running other stored found
      exact (fresh running other stored found).keep
        (.frame id (fun noticed buffered => .noticed noticed buffered) rfl rfl)
  | take worker key rest free taken =>
      intro running other object found
      by_cases same : other = key
      · subst same
        exact .owed (.taken worker Informer.setWorker_self)
      · apply (fresh (taken.shuttingDown.symm.trans running) other object found).keep
        refine Keeps.setWorker ?_ rfl rfl (by simp [free, Phase.held]) (held_ne rfl same) rfl rfl
        apply Or.imp_left
        intro dirty
        show other ∈ rest.dirty
        rw [taken.dirty]
        exact Finset.mem_erase.mpr ⟨same, dirty⟩
  | readLive worker key object phase found =>
      intro running other stored foundOther
      by_cases same : other = key
      · subst same
        obtain rfl := Option.some.inj (found.symm.trans foundOther)
        exact .handling worker Informer.setWorker_self
      · exact (fresh running other stored foundOther).keep (.setWorker id rfl rfl
          (held_ne (by rw [phase]; rfl) same) (held_ne rfl same) rfl rfl)
  | readDeleted worker key object phase absent known =>
      intro running other stored foundOther
      have same : other ≠ key := by
        rintro rfl
        exact Option.some_ne_none stored (foundOther.symm.trans absent)
      exact (fresh running other stored foundOther).keep (.setWorker id rfl rfl
        (held_ne (by rw [phase]; rfl) same) (held_ne rfl same) rfl rfl)
  | readUnknown worker key phase absent unknown =>
      intro running other stored foundOther
      have same : other ≠ key := by
        rintro rfl
        exact Option.some_ne_none stored (foundOther.symm.trans absent)
      exact (fresh running other stored foundOther).keep (.setWorker id rfl rfl
        (held_ne (by rw [phase]; rfl) same) (held_ne rfl same)
        (lastRecord_other (Ne.symm same)) (streak_other (Ne.symm same)))
  | finish worker key handled live failed phase =>
      intro running other stored foundOther
      have covered := fresh running other stored foundOther
      by_cases same : other = key
      · subst same
        exact covered.finish exclusive phase
      · exact covered.keep (.setWorker id rfl rfl
          (held_ne (by rw [phase]; rfl) same) (held_ne rfl same)
          (lastRecord_other (Ne.symm same)) (streak_other (Ne.symm same)))
  | forget worker key failed bucket phase ended =>
      intro running other stored foundOther
      have covered := fresh running other stored foundOther
      by_cases same : other = key
      · subst same
        refine covered.settle (by simp [phase]) (by simp [phase]) (by simp [phase]) (by simp)
          ?_ id rfl rfl rfl
        intro isFailing
        rw [phase] at isFailing
        cases isFailing
        obtain ⟨positive, failures⟩ := counted.failing worker other phase
        have full := ended rfl
        rw [failures, maxRetries] at full
        omega
      · exact covered.keep (.setWorker id rfl rfl
          (held_ne (by rw [phase]; rfl) same) (held_ne rfl same) rfl rfl)
  | retry worker key bucket phase left =>
      intro running other stored foundOther
      by_cases same : other = key
      · subst same
        exact .owed (.requeueing worker _ Informer.setWorker_self)
      · exact (fresh running other stored foundOther).keep (.setWorker id rfl rfl
          (held_ne (by rw [phase]; rfl) same) (held_ne rfl same) rfl rfl)
  | requeue worker key delay now queue phase added =>
      intro running other stored foundOther
      have accepts : informer.queue.work.shuttingDown = false :=
        (DelayingQueue.addAfter_shuttingDown added).symm.trans running
      by_cases same : other = key
      · subst same
        exact .owed (.promised (DelayingQueue.promised_addAfter accepts added))
      · exact (fresh accepts other stored foundOther).keep
          (.setWorker (fun promised => promised.addAfter added) rfl rfl
            (held_ne (by rw [phase]; rfl) same) (held_ne rfl same) rfl rfl)
  | close worker key phase =>
      intro running other stored foundOther
      have covered := fresh (WorkQueue.done_shuttingDown.symm.trans running) other stored foundOther
      -- giving a key back leaves it dirty if it is
      have promised : informer.queue.Promised other →
          ({ informer.queue with work := informer.queue.work.done key } :
            DelayingQueue Key).Promised other := by
        apply Or.imp_left
        intro dirty
        show other ∈ (informer.queue.work.done key).dirty
        rw [WorkQueue.done_dirty]
        exact dirty
      by_cases same : other = key
      · subst same
        exact covered.settle (by simp [phase]) (by simp [phase]) (by simp [phase]) (by simp)
          (by simp [phase]) promised rfl rfl rfl
      · exact covered.keep (.setWorker promised rfl rfl
          (held_ne (by rw [phase]; rfl) same) (by simp [Phase.held]) rfl rfl)
  | receive now =>
      intro running other object found
      exact (fresh ((DelayingQueue.receive_shuttingDown now).symm.trans running) other object
        found).keep (.frame (fun promised => promised.receive now)
          (fun noticed buffered => .noticed noticed buffered) rfl rfl)
  | fire index now =>
      intro running other object found
      exact (fresh ((DelayingQueue.fire_shuttingDown index now).symm.trans running) other object
        found).keep (.frame (fun promised => promised.fire index now)
          (fun noticed buffered => .noticed noticed buffered) rfl rfl)
  | cancel =>
      intro running
      cases running

theorem run_indexerFresh {allowed : Informer Key Object → Informer.Action Key Object → Prop}
    {past : List (Informer Key Object)}
    (run : Run (Informer.step keyOf) allowed Informer.initial past informer) :
    Fresh keyOf informer := by
  have holds : (KeyExclusive informer ∧ Counted informer) ∧ Fresh keyOf informer := by
    apply run.invariant (fun state => (KeyExclusive state ∧ Counted state) ∧ Fresh keyOf state)
      ⟨⟨KeyExclusive.initial, Counted.initial⟩, fun _ _ _ found => by cases found⟩
    intro current action holds _
    have stepped := Informer.step_stepped keyOf current action
    exact ⟨⟨holds.1.1.stepped stepped, holds.1.2.stepped holds.1.1 stepped⟩,
      holds.2.stepped holds.1.1 holds.1.2 stepped⟩
  exact holds.2

/-! ### At rest -/

theorem streak_pos {record : Record Key Object} {log : List (Record Key Object)}
    (last : lastRecord key log = some record) (failed : record.failed = true) :
    0 < streak key log := by
  induction log with
  | nil => cases last
  | cons newest older inductionHypothesis =>
      by_cases same : newest.key = key
      · rw [lastRecord_self same] at last
        cases last
        rw [streak, if_pos same, if_pos failed]
        exact Nat.succ_pos _
      · rw [lastRecord_other same] at last
        rw [streak, if_neg same]
        exact inductionHypothesis last

theorem Fresh.atRest (fresh : Fresh keyOf informer)
    (running : informer.queue.work.shuttingDown = false) (rest : AtRest keyOf informer key)
    (found : informer.indexer key = some object) :
    ∃ failed, lastRecord key informer.log = some ⟨key, some object, true, failed⟩ ∧
      (failed = true → 0 < streak key informer.log ∧ streak key informer.log % 16 = 0) := by
  cases fresh running key object found with
  | owed owed => exact absurd owed rest.not_owed
  | handling worker phase =>
      exfalso
      apply rest.unheld worker
      rw [HoldsKey, phase]
      rfl
  | seen seen =>
      obtain ⟨failed, record, reason⟩ := seen.seen
      refine ⟨failed, record, fun isFailed => ⟨streak_pos record isFailed, ?_⟩⟩
      rcases reason isFailed with ⟨worker, phase⟩ | full
      · exfalso
        apply rest.unheld worker
        rw [HoldsKey, phase]
        rfl
      · exact full

/-- No update is lost, over any run, with any number of workers: when nothing is
left to do for a key, the last call for it was about what the indexer has now,
and it succeeded or was the sixteenth failure in a row, or the thirty-second,
and so on. -/
theorem observed_update_handled {allowed : Informer Key Object → Informer.Action Key Object → Prop}
    {past : List (Informer Key Object)}
    (run : Run (Informer.step keyOf) allowed Informer.initial past informer)
    (running : informer.queue.work.shuttingDown = false) (rest : AtRest keyOf informer key)
    (found : informer.indexer key = some object) :
    ∃ failed, lastRecord key informer.log = some ⟨key, some object, true, failed⟩ ∧
      (failed = true → 0 < streak key informer.log ∧ streak key informer.log % 16 = 0) :=
  (run_indexerFresh run).atRest running rest found

/-- An object is observed, changes while it is handled, and is handled again. -/
def changedInHand : List (Informer.Action String (String × Nat)) :=
  [.observe (.upsert ("job", 1)), .notify, .take 0, .read 0, .observe (.upsert ("job", 2)),
    .notify, .finish 0 false, .settle 0 0, .close 0, .take 0, .read 0, .finish 0 false,
    .settle 0 0, .close 0]

theorem observed_update_handled_changedInHand :
    lastRecord "job" (changedInHand.foldl (Informer.step Prod.fst) .initial).log =
      some ⟨"job", some ("job", 2), true, false⟩ := by
  have run : Run (Informer.step Prod.fst) (fun _ _ => True) Informer.initial _
      (changedInHand.foldl (Informer.step Prod.fst) .initial) :=
    Run.start.extend (by simp [changedInHand, Run.Permits])
  have rest : AtRest Prod.fst (changedInHand.foldl (Informer.step Prod.fst) .initial) "job" := by
    refine ⟨by decide, by decide, fun worker holds => ?_⟩
    cases worker with
    | zero => cases holds
    | succ worker => cases holds
  obtain ⟨failed, record, reason⟩ := observed_update_handled run rfl rest rfl
  cases failed with
  | false => exact record
  | true => exact absurd (reason rfl).1 (by decide)

end MXNetOperator.Property
