import MXNetOperator.Cluster.System
import MXNetOperator.Kube.Name

/-!
Contract: what can keep a job from getting its scheduler service.

Two things the operator does not control decide about the service: the error
the API server answers a creation with, and the name the user gave the job.
The first is treated as for pods unless it is a Timeout, which the service
control wraps into an error without a reason.  The second has to fit a label
value and, with a suffix, a service name; the formats differ from that of the
job's own name.
-/

namespace MXNetOperator.Property

open MXNetOperator.Kube MXNetOperator.Api MXNetOperator.Interaction MXNetOperator.Mx
  MXNetOperator.Cluster

/-! ### Errors of a creation -/

section Errors

variable {mxjob : MXJob} {rtype : MXReplicaType} {spec podSpec : MXReplicaSpec}
  {reply : Option ApiError}

/-- The end of the service pass, given the reply to its creation. -/
theorem reconcileServices_answered :
    (reconcileServices mxjob [] .scheduler spec).Path
      [⟨.createService (newService mxjob .scheduler spec), reply⟩]
      (match reply with
      | none => .done ()
      | some failure =>
          .abort (.error (.plain ("unable to create services: " ++ failure.message)))) := by
  rw [reconcileServices_eq, if_pos List.isEmpty_nil]
  refine Program.Path.append_bind (returns_ask.mpr rfl) ?_
  cases reply <;> exact .stop _

/-- A pod that can be built is submitted once; the outcome is the reply's. -/
theorem createNewPod_answered {template : PodTemplateSpec} {env : Labels}
    (hasTemplate : podSpec.template = some template)
    (hasEnv : genMXConfigEnv mxjob rtype = some env)
    (order : Nat → { order : List EnvVar // order.Perm (envVars env) }) :
    (createNewPod mxjob rtype podSpec).Returns
      [⟨.rangeMap (envVars env), order⟩,
        ⟨.createPod (newPod mxjob rtype template (envVars env) order), reply⟩]
      (ignoreTimeout (reply.map GoError.status)) := by
  rw [createNewPod_eq, hasTemplate, hasEnv]
  simp only [deref_some, Program.done_bind, Program.returns_bind, returns_ask,
    Program.returns_pure]
  exact ⟨order, [_], [_], rfl, rfl, reply, [_], [], rfl, rfl, rfl, rfl⟩

/-- Where pod and service creation treat API errors alike: on every reply but a
Timeout.  A pod creation ends without error exactly when it succeeded or timed
out and returns every other error; a service creation returns every error, the
Timeout as well. -/
theorem creation_errors_alike {trace : List Call} {error : Option GoError} {pod : PodRequest}
    (created : (createNewPod mxjob rtype podSpec).Returns trace error)
    (answered : (⟨.createPod pod, reply⟩ : Call) ∈ trace) :
    (((reconcileServices mxjob [] .scheduler spec).Returns
        [⟨.createService (newService mxjob .scheduler spec), reply⟩] () ↔ error = none) ↔
      ∀ failure, reply = some failure → failure.reason ≠ .timeout) ∧
    (error = none ↔ ∀ failure, reply = some failure → failure.reason = .timeout) ∧
    ∀ failure, reply = some failure →
      (failure.reason ≠ .timeout → error = some (.status failure)) ∧
      (reconcileServices mxjob [] .scheduler spec).Aborts
        [⟨.createService (newService mxjob .scheduler spec), reply⟩]
        (.error (.plain ("unable to create services: " ++ failure.message))) := by
  obtain ⟨env, order, submitted, given, rfl, _, rfl⟩ := createNewPod_returns created
  obtain rfl : reply = given := by
    simp only [List.mem_cons, List.not_mem_nil, or_false] at answered
    rcases answered with impossible | same
    · cases impossible
    · cases same
      rfl
  have ended := @reconcileServices_answered mxjob spec reply
  cases reply with
  | none =>
      have noFailure : ∀ failure, (none : Option ApiError) ≠ some failure := by simp
      refine ⟨iff_of_true (iff_of_true ended rfl) fun failure same => absurd same (noFailure _),
        iff_of_true rfl fun failure same => absurd same (noFailure _),
        fun failure same => absurd same (noFailure _)⟩
  | some failure =>
      have refused : ¬ (reconcileServices mxjob [] .scheduler spec).Returns
          [⟨.createService (newService mxjob .scheduler spec), some failure⟩] () := by
        intro returned
        cases reconcileServices_returns returned
      have reported : ignoreTimeout (some (GoError.status failure)) =
          if failure.reason = .timeout then none else some (.status failure) := by
        by_cases slow : failure.reason = .timeout <;>
          simp [ignoreTimeout, isTimeout, reasonForError, slow]
      rw [Option.map_some, reported]
      refine ⟨?_, by simp, ?_⟩
      · simp [refused]
      · rintro other ⟨⟩
        exact ⟨fun known => if_neg known, ended⟩

end Errors

/-- The order of the worker environment of `sampleJob` as the map holds it. -/
def sampleOrder : Nat → { order : List EnvVar //
    order.Perm (envVars ((genMXConfigEnv sampleJob .worker).getD ∅)) } :=
  fun _ => ⟨_, .refl _⟩

/-- The creation of a worker of `sampleJob`, answered by `reply`. -/
def sampleCreation (reply : Option ApiError) : List Call :=
  [⟨.rangeMap (envVars ((genMXConfigEnv sampleJob .worker).getD ∅)), sampleOrder⟩,
    ⟨.createPod (newPod sampleJob .worker ⟨none, [⟨[]⟩]⟩ _ sampleOrder), reply⟩]

theorem sampleCreation_returns (reply : Option ApiError) :
    (createNewPod sampleJob .worker (sampleReplica 1)).Returns (sampleCreation reply)
      (ignoreTimeout (reply.map GoError.status)) :=
  createNewPod_answered rfl rfl sampleOrder

theorem creation_errors_alike_conflict :
    (reconcileServices sampleJob [] .scheduler (sampleReplica 1)).Aborts
      [⟨.createService (newService sampleJob .scheduler (sampleReplica 1)),
        some ⟨.conflict, "taken"⟩⟩]
      (.error (.plain "unable to create services: taken")) :=
  ((creation_errors_alike (sampleCreation_returns (some ⟨.conflict, "taken"⟩))
    (List.mem_cons_of_mem _ List.mem_cons_self)).2.2 ⟨.conflict, "taken"⟩ rfl).2

/-- A Timeout counts as a created pod, but the service control wraps it and the
service pass returns it. -/
theorem service_timeout_returned :
    (createNewPod sampleJob .worker (sampleReplica 1)).Returns
        (sampleCreation (some ⟨.timeout, "slow"⟩)) none ∧
      (reconcileServices sampleJob [] .scheduler (sampleReplica 1)).Aborts
        [⟨.createService (newService sampleJob .scheduler (sampleReplica 1)),
          some ⟨.timeout, "slow"⟩⟩]
        (.error (.plain "unable to create services: slow")) :=
  ⟨sampleCreation_returns (some ⟨.timeout, "slow"⟩), reconcileServices_answered⟩

/-! ### Names -/

section Names

variable {mxjob : MXJob}

theorem isAlphanum_of_lower {letter : Char} (lower : isLowerAlphanum letter = true) :
    letter.isAlphanum = true := by
  simp only [isLowerAlphanum, Bool.or_eq_true] at lower
  show ((letter.isUpper || letter.isLower) || letter.isDigit) = true
  rw [Bool.or_eq_true, Bool.or_eq_true]
  exact lower.imp_left Or.inr

/-- An admitted job name fails as a label value by its length only. -/
theorem isValidLabelValue_iff {name : String} (admitted : isDNS1123Subdomain name = true) :
    isValidLabelValue name = true ↔ name.toList.length ≤ 63 := by
  obtain ⟨⟨first, isFirst, firstFits⟩, ⟨last, isLast, lastFits⟩, letters⟩ :=
    dnsText_of_subdomain admitted
  have format : matchesNameFormat name.toList = true := by
    simp only [matchesNameFormat, isFirst, isLast, Option.any_some, isAlphanum_of_lower firstFits,
      isAlphanum_of_lower lastFits, Bool.true_and, List.all_eq_true, Bool.or_eq_true, beq_iff_eq]
    intro letter member
    rcases letters letter member with lower | dash | dot
    · exact Or.inl (Or.inl (Or.inl (isAlphanum_of_lower lower)))
    · exact Or.inl (Or.inl (Or.inr dash))
    · exact Or.inr dot
  rw [isValidLabelValue, format, Bool.or_true, Bool.and_true]
  exact decide_eq_true_iff

/-- The service name is the job's name with a suffix of ten letters. -/
theorem serviceName_toList (mxjob : MXJob) :
    (serviceName mxjob .scheduler).toList = mxjob.name.toList ++ "-scheduler".toList := by
  simp [serviceName, MXReplicaType.toString]

/-- A job name that is also the beginning of a service name. -/
structure FitsService (name : String) : Prop where
  letter : ∃ first, name.toList.head? = some first ∧ first.isLower = true
  noDot : '.' ∉ name.toList
  short : name.toList.length ≤ 53

theorem serviceName_legal_iff (admitted : isDNS1123Subdomain mxjob.name = true) :
    isDNS1035Label (serviceName mxjob .scheduler) = true ↔ FitsService mxjob.name := by
  obtain ⟨⟨first, isFirst, firstFits⟩, _, letters⟩ := dnsText_of_subdomain admitted
  -- decided as a boolean over the letters, not over all of `Char`
  have checked : "-scheduler".toList.all
      (fun letter => isLowerAlphanum letter || letter == '-') = true := by decide +kernel
  have suffix : ∀ letter ∈ "-scheduler".toList,
      isLowerAlphanum letter = true ∨ letter = '-' := by
    intro letter member
    have legal := List.all_eq_true.mp checked letter member
    rwa [Bool.or_eq_true, beq_iff_eq] at legal
  have size : "-scheduler".toList.length = 10 := by decide +kernel
  have ending : "-scheduler".toList.getLast? = some 'r' := by decide +kernel
  have head : (mxjob.name.toList ++ "-scheduler".toList).head? = some first := by
    simp [isFirst]
  have last : (mxjob.name.toList ++ "-scheduler".toList).getLast? = some 'r' := by
    rw [List.getLast?_append, ending, Option.some_or]
  simp only [isDNS1035Label, Bool.and_eq_true, decide_eq_true_eq, serviceName_toList,
    List.length_append, size, dns1035LabelMaxLength, matchesDNSLabel_iff, head, last]
  constructor
  · rintro ⟨short, ⟨found, same, isLetter⟩, _, legal⟩
    refine ⟨⟨found, isFirst.trans same, isLetter⟩, ?_, by omega⟩
    intro dot
    rcases legal '.' (List.mem_append_left _ dot) with lower | dash
    · exact absurd lower (by decide)
    · exact absurd dash (by decide)
  · rintro ⟨⟨found, same, isLetter⟩, noDot, short⟩
    refine ⟨by omega, ⟨found, isFirst.symm.trans same, isLetter⟩, ⟨'r', rfl, by decide⟩, ?_⟩
    intro letter member
    rcases List.mem_append.mp member with named | added
    · rcases letters letter named with lower | dash | dot
      · exact Or.inl lower
      · exact Or.inr dash
      · exact absurd (dot ▸ named) noDot
    · exact suffix letter added

/-- Which legal job names are reconcilable: for every name the API server
admits, the selector of the job and the name of its scheduler service are legal
exactly if the name begins with a letter, contains no dot and has at most 53
letters.  Then no Sync stops because of the name. -/
theorem legal_name_iff (admitted : isDNS1123Subdomain mxjob.name = true) :
    (((∃ selector, labelSelectorAsSelector (genLabels mxjob none) = .ok selector) ∧
        isDNS1035Label (serviceName mxjob .scheduler) = true) ↔ FitsService mxjob.name) ∧
    (FitsService mxjob.name → ∀ trace reason,
      (getPodsForMXJob mxjob).Aborts trace reason ∨ (getServicesForMXJob mxjob).Aborts trace reason →
        ∃ call ∈ trace, failedCall call = true ∨ recheckRefused mxjob call = true) := by
  have selectable : FitsService mxjob.name → labelSelectorAsSelector (genLabels mxjob none) =
      .ok ⟨genLabels mxjob none⟩ := by
    intro fits
    have short := fits.short
    exact jobSelector_ok ((isValidLabelValue_iff admitted).mpr (by omega))
  refine ⟨⟨fun legal => (serviceName_legal_iff admitted).mp legal.2, fun fits => ?_⟩, ?_⟩
  · exact ⟨⟨_, selectable fits⟩, (serviceName_legal_iff admitted).mpr fits⟩
  · intro fits trace reason aborted
    have failedListing {Obj : Type} {kind : ClaimKind} {objectOf : Obj → ObjectMeta}
        {request : Request} {listing : request.Reply → Except ApiError (List Obj)}
        (stopped : (claimListed mxjob request listing (claimMatching kind objectOf)).Aborts trace
          reason)
        (fails : ∀ reply error, listing reply = .error error → failedCall ⟨request, reply⟩ = true) :
        ∃ call ∈ trace, failedCall call = true ∨ recheckRefused mxjob call = true := by
      rcases claimListed_aborts stopped with invalid | ⟨reply, error, listed, failed⟩ | cause
      · exact absurd (selectable fits) (invalid _)
      · exact ⟨_, listed, Or.inl (fails reply error failed)⟩
      · exact cause
    rcases aborted with pods | services
    · refine failedListing pods fun reply error failed => ?_
      obtain rfl : reply = .error error := failed
      rfl
    · refine failedListing services fun reply error failed => ?_
      obtain rfl : reply = .error error := failed
      rfl

end Names

theorem legal_name_iff_sampleJob :
    isDNS1035Label (serviceName sampleJob .scheduler) = true :=
  ((legal_name_iff (by decide +kernel)).1.mpr
    ⟨⟨'j', by decide, by decide⟩, by decide, by decide⟩).2

/-- `sampleJob` under another name. -/
def renamedJob (name : String) : MXJob := { sampleJob with name := name }

/-- A name of 64 letters. -/
def longName : String :=
  "a234567890123456789012345678901234567890123456789012345678901234"

/-- Admitted names under which a job is stuck: listing its pods fails before any
call, or its service cannot be created. -/
theorem legal_name_stuck :
    (isDNS1123Subdomain longName = true ∧
      (getPodsForMXJob (renamedJob longName)).Aborts []
        (.error (.plain ("couldn't convert Job selector: invalid label value: \"" ++ longName ++
          "\": must be no more than 63 characters")))) ∧
    (isDNS1123Subdomain "1job" = true ∧
      isDNS1035Label (serviceName (renamedJob "1job") .scheduler) = false) ∧
    isDNS1123Subdomain "my.job" = true ∧
      isDNS1035Label (serviceName (renamedJob "my.job") .scheduler) = false := by
  have invalid : labelSelectorAsSelector (genLabels (renamedJob longName) none) =
      .error (.plain ("invalid label value: \"" ++ longName ++
        "\": must be no more than 63 characters")) := by
    rw [jobSelector_eq, if_neg (by decide +kernel)]
    decide +kernel
  refine ⟨⟨by decide +kernel, ?_⟩, by decide +kernel, by decide +kernel, by decide +kernel⟩
  unfold getPodsForMXJob claimListed
  rw [invalid]
  exact .stop _

end MXNetOperator.Property
