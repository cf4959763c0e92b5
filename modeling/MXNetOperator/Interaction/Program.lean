import Mathlib.Data.List.Basic

/-!
Contract: programs that interact with their surroundings through typed calls.

Owns:
- the syntax of finite interaction programs with an abort channel;
- the trace semantics `Path`, which lets the surroundings answer every call
  with an arbitrary reply of its type;
- the three observations `Returns`, `Aborts` and `Issues` of a program along a
  trace, with one decomposition law per program former.

Does not own: who answers the calls, or how several programs interleave.
-/

namespace MXNetOperator.Interaction

universe u

/-- A finite program over calls `Call`.  It stops with a value, stops with an
abort, or issues one call and continues with the reply. -/
inductive Program (Call : Type) (Reply : Call → Type) (Abort : Type) (α : Type u) :
    Type u where
  | done (value : α)
  | abort (reason : Abort)
  | call (request : Call) (next : Reply request → Program Call Reply Abort α)

/-- One call together with the reply it received. -/
structure Exchange (Call : Type) (Reply : Call → Type) where
  request : Call
  reply : Reply request

namespace Program

variable {Call : Type} {Reply : Call → Type} {Abort : Type} {α β : Type}

def bind : Program Call Reply Abort α → (α → Program Call Reply Abort β) →
    Program Call Reply Abort β
  | .done value, next => next value
  | .abort reason, _ => .abort reason
  | .call request rest, next => .call request fun reply => (rest reply).bind next

instance : Monad (Program Call Reply Abort) where
  pure := .done
  bind := bind

@[simp] theorem done_bind {value : α} {next : α → Program Call Reply Abort β} :
    (pure value >>= next : Program Call Reply Abort β) = next value := rfl

theorem bind_bind {γ : Type} (program : Program Call Reply Abort α)
    (next : α → Program Call Reply Abort β) (last : β → Program Call Reply Abort γ) :
    (program >>= next) >>= last = program >>= fun value => next value >>= last := by
  induction program with
  | done value => rfl
  | abort reason => rfl
  | call request rest inductionHypothesis =>
      exact congrArg (Program.call request) (funext inductionHypothesis)

/-- Issue one call and return its reply. -/
def perform (request : Call) : Program Call Reply Abort (Reply request) :=
  .call request .done

/-! ### Traces -/

/-- `Path program trace rest`: answering the first calls of `program` as in
`trace` leaves `rest` to execute. -/
inductive Path : Program Call Reply Abort α → List (Exchange Call Reply) →
    Program Call Reply Abort α → Prop where
  | stop (program : Program Call Reply Abort α) : Path program [] program
  | step {request : Call} {next : Reply request → Program Call Reply Abort α}
      {trace : List (Exchange Call Reply)} {rest : Program Call Reply Abort α}
      (reply : Reply request) (tail : Path (next reply) trace rest) :
      Path (.call request next) (⟨request, reply⟩ :: trace) rest

/-- The program ends with `value` after exactly the calls of `trace`. -/
def Returns (program : Program Call Reply Abort α) (trace : List (Exchange Call Reply))
    (value : α) : Prop :=
  Path program trace (.done value)

/-- The program aborts with `reason` after exactly the calls of `trace`. -/
def Aborts (program : Program Call Reply Abort α) (trace : List (Exchange Call Reply))
    (reason : Abort) : Prop :=
  Path program trace (.abort reason)

/-- After the calls of `trace` the program issues `request`. -/
def Issues (program : Program Call Reply Abort α) (trace : List (Exchange Call Reply))
    (request : Call) : Prop :=
  ∃ next, Path program trace (.call request next)

variable {program : Program Call Reply Abort α} {trace : List (Exchange Call Reply)}

theorem path_done {value : α} {rest : Program Call Reply Abort α} :
    Path (.done value) trace rest ↔ trace = [] ∧ rest = .done value := by
  constructor
  · intro path
    cases path with
    | stop => exact ⟨rfl, rfl⟩
  · rintro ⟨rfl, rfl⟩
    exact .stop _

theorem path_abort {reason : Abort} {rest : Program Call Reply Abort α} :
    Path (.abort reason) trace rest ↔ trace = [] ∧ rest = .abort reason := by
  constructor
  · intro path
    cases path with
    | stop => exact ⟨rfl, rfl⟩
  · rintro ⟨rfl, rfl⟩
    exact .stop _

theorem path_call {request : Call} {next : Reply request → Program Call Reply Abort α}
    {rest : Program Call Reply Abort α} :
    Path (.call request next) trace rest ↔
      (trace = [] ∧ rest = .call request next) ∨
        ∃ reply tail, trace = ⟨request, reply⟩ :: tail ∧ Path (next reply) tail rest := by
  constructor
  · intro path
    cases path with
    | stop => exact Or.inl ⟨rfl, rfl⟩
    | step reply tail => exact Or.inr ⟨reply, _, rfl, tail⟩
  · rintro (⟨rfl, rfl⟩ | ⟨reply, tail, rfl, path⟩)
    · exact .stop _
    · exact .step reply path

/-- A path extends by answering the call it stopped at. -/
theorem Path.snoc {request : Call} {next : Reply request → Program Call Reply Abort α}
    (path : Path program trace (.call request next)) (reply : Reply request) :
    Path program (trace ++ [⟨request, reply⟩]) (next reply) := by
  generalize stopped : Program.call request next = rest at path
  induction path with
  | stop =>
      subst stopped
      exact .step reply (.stop _)
  | step first _ inductionHypothesis =>
      exact .step first (inductionHypothesis stopped)

/-- Every exchange of a trace answers a call the program issued there. -/
theorem Path.issues_of_append {front back : List (Exchange Call Reply)}
    {exchange : Exchange Call Reply} {rest : Program Call Reply Abort α}
    (path : Path program (front ++ exchange :: back) rest) :
    Issues program front exchange.request := by
  induction front generalizing program with
  | nil =>
      cases path with
      | step reply tail => exact ⟨_, .stop _⟩
  | cons head front inductionHypothesis =>
      cases path with
      | step reply tail =>
          obtain ⟨next, inner⟩ := inductionHypothesis tail
          exact ⟨next, .step reply inner⟩

theorem Path.issues_of_mem {exchange : Exchange Call Reply}
    {rest : Program Call Reply Abort α} (path : Path program trace rest)
    (member : exchange ∈ trace) :
    ∃ front back, trace = front ++ exchange :: back ∧
      Issues program front exchange.request := by
  obtain ⟨front, back, rfl⟩ := List.append_of_mem member
  exact ⟨front, back, rfl, path.issues_of_append⟩

/-- A property of every request a program can issue holds of every exchange on
its paths. -/
theorem Path.forall_request (allowed : Call → Prop) {rest : Program Call Reply Abort α}
    (path : Path program trace rest)
    (only : ∀ front request, Issues program front request → allowed request) :
    ∀ exchange ∈ trace, allowed exchange.request := by
  intro exchange member
  obtain ⟨front, _, _, issued⟩ := path.issues_of_mem member
  exact only front _ issued

/-- A path through a sequential composition either is still inside the first
program or has left it with a value. -/
theorem path_bind {next : α → Program Call Reply Abort β}
    {rest : Program Call Reply Abort β} :
    Path (program.bind next) trace rest →
      (∃ inner, Path program trace inner ∧ (∀ value, inner ≠ .done value) ∧
          rest = inner.bind next) ∨
        ∃ value front back, trace = front ++ back ∧ Returns program front value ∧
          Path (next value) back rest := by
  intro path
  induction program generalizing trace with
  | done value => exact Or.inr ⟨value, [], trace, rfl, .stop _, path⟩
  | abort reason =>
      obtain ⟨rfl, rfl⟩ := path_abort.mp path
      exact Or.inl ⟨.abort reason, .stop _, by simp, rfl⟩
  | call request first inductionHypothesis =>
      rcases path_call.mp path with ⟨rfl, rfl⟩ | ⟨reply, tail, rfl, tailPath⟩
      · exact Or.inl ⟨.call request first, .stop _, by simp, rfl⟩
      · rcases inductionHypothesis reply tailPath with
          ⟨inner, innerPath, running, restEq⟩ | ⟨value, front, back, rfl, returned, backPath⟩
        · exact Or.inl ⟨inner, .step reply innerPath, running, restEq⟩
        · exact Or.inr ⟨value, ⟨request, reply⟩ :: front, back, rfl,
            .step reply returned, backPath⟩

theorem Path.append_bind {next : α → Program Call Reply Abort β} {value : α}
    {front back : List (Exchange Call Reply)} {rest : Program Call Reply Abort β}
    (returned : Returns program front value) (path : Path (next value) back rest) :
    Path (program.bind next) (front ++ back) rest := by
  unfold Returns at returned
  generalize stopped : Program.done value = last at returned
  induction returned with
  | stop =>
      subst stopped
      exact path
  | step reply _ inductionHypothesis =>
      exact .step reply (inductionHypothesis stopped)

/-! ### Decomposition of the three observations -/

@[simp] theorem returns_pure {value result : α} :
    Returns (pure value : Program Call Reply Abort α) trace result ↔
      trace = [] ∧ value = result := by
  change Path (.done value) trace (.done result) ↔ _
  rw [path_done, Program.done.injEq, eq_comm (a := result)]

@[simp] theorem aborts_pure {value : α} {reason : Abort} :
    ¬ Aborts (pure value : Program Call Reply Abort α) trace reason := by
  intro aborts
  exact absurd (path_done.mp aborts).2 (by simp)

@[simp] theorem issues_pure {value : α} {request : Call} :
    ¬ Issues (pure value : Program Call Reply Abort α) trace request := by
  rintro ⟨next, path⟩
  exact absurd (path_done.mp path).2 (by simp)

@[simp] theorem returns_abort {reason : Abort} {result : α} :
    ¬ Returns (.abort reason : Program Call Reply Abort α) trace result := by
  intro returned
  exact absurd (path_abort.mp returned).2 (by simp)

@[simp] theorem aborts_abort {reason raised : Abort} :
    Aborts (.abort reason : Program Call Reply Abort α) trace raised ↔
      trace = [] ∧ reason = raised := by
  rw [Aborts, path_abort, Program.abort.injEq, eq_comm (a := raised)]

@[simp] theorem issues_abort {reason : Abort} {request : Call} :
    ¬ Issues (.abort reason : Program Call Reply Abort α) trace request := by
  rintro ⟨next, path⟩
  exact absurd (path_abort.mp path).2 (by simp)

@[simp] theorem returns_perform {request : Call} {result : Reply request} :
    Returns (perform request : Program Call Reply Abort (Reply request)) trace result ↔
      trace = [⟨request, result⟩] := by
  rw [Returns, perform, path_call]
  constructor
  · rintro (⟨_, impossible⟩ | ⟨reply, tail, rfl, path⟩)
    · exact absurd impossible (by simp)
    · obtain ⟨rfl, same⟩ := path_done.mp path
      cases same
      rfl
  · rintro rfl
    exact Or.inr ⟨result, [], rfl, .stop _⟩

@[simp] theorem aborts_perform {request : Call} {reason : Abort} :
    ¬ Aborts (perform request : Program Call Reply Abort (Reply request)) trace reason := by
  rw [Aborts, perform, path_call]
  rintro (⟨_, impossible⟩ | ⟨reply, tail, rfl, path⟩)
  · exact absurd impossible (by simp)
  · exact absurd (path_done.mp path).2 (by simp)

@[simp] theorem issues_perform {request issued : Call} :
    Issues (perform request : Program Call Reply Abort (Reply request)) trace issued ↔
      trace = [] ∧ issued = request := by
  constructor
  · rintro ⟨next, path⟩
    rcases path_call.mp path with ⟨rfl, same⟩ | ⟨reply, tail, rfl, tailPath⟩
    · cases same
      exact ⟨rfl, rfl⟩
    · exact absurd (path_done.mp tailPath).2 (by simp)
  · rintro ⟨rfl, rfl⟩
    exact ⟨.done, .stop _⟩

@[simp] theorem returns_bind {next : α → Program Call Reply Abort β} {result : β} :
    Returns (program >>= next) trace result ↔
      ∃ value front back, trace = front ++ back ∧ Returns program front value ∧
        Returns (next value) back result := by
  constructor
  · intro returned
    rcases path_bind returned with ⟨inner, _, running, same⟩ | split
    · cases inner with
      | done value => exact absurd rfl (running value)
      | abort reason => cases same
      | call request rest => cases same
    · exact split
  · rintro ⟨value, front, back, rfl, first, second⟩
    exact Path.append_bind first second

/-- A program whose result is only rearranged. -/
theorem returns_bind_pure {rearranged : α → β} {result : β} :
    Returns (program >>= fun value => pure (rearranged value)) trace result ↔
      ∃ value, Returns program trace value ∧ result = rearranged value := by
  rw [returns_bind]
  constructor
  · rintro ⟨value, front, back, rfl, returned, last⟩
    obtain ⟨rfl, rfl⟩ := returns_pure.mp last
    exact ⟨value, by rwa [List.append_nil], rfl⟩
  · rintro ⟨value, returned, rfl⟩
    exact ⟨value, trace, [], (List.append_nil trace).symm, returned, returns_pure.mpr ⟨rfl, rfl⟩⟩

@[simp] theorem aborts_bind {next : α → Program Call Reply Abort β} {reason : Abort} :
    Aborts (program >>= next) trace reason ↔
      Aborts program trace reason ∨
        ∃ value front back, trace = front ++ back ∧ Returns program front value ∧
          Aborts (next value) back reason := by
  constructor
  · intro aborted
    rcases path_bind aborted with ⟨inner, path, running, same⟩ | split
    · cases inner with
      | done value => exact absurd rfl (running value)
      | abort raised =>
          cases same
          exact Or.inl path
      | call request rest => cases same
    · exact Or.inr split
  · rintro (aborted | ⟨value, front, back, rfl, first, second⟩)
    · unfold Aborts at aborted ⊢
      generalize stopped : Program.abort reason = last at aborted
      induction aborted with
      | stop =>
          subst stopped
          exact .stop _
      | step reply _ inductionHypothesis =>
          exact .step reply (inductionHypothesis stopped)
    · exact Path.append_bind first second

@[simp] theorem issues_bind {next : α → Program Call Reply Abort β} {request : Call} :
    Issues (program >>= next) trace request ↔
      Issues program trace request ∨
        ∃ value front back, trace = front ++ back ∧ Returns program front value ∧
          Issues (next value) back request := by
  constructor
  · rintro ⟨rest, path⟩
    rcases path_bind path with ⟨inner, innerPath, running, same⟩ | split
    · cases inner with
      | done value => exact absurd rfl (running value)
      | abort raised => cases same
      | call issued continuation =>
          cases same
          exact Or.inl ⟨continuation, innerPath⟩
    · obtain ⟨value, front, back, rfl, first, second⟩ := split
      exact Or.inr ⟨value, front, back, rfl, first, rest, second⟩
  · rintro (⟨rest, path⟩ | ⟨value, front, back, rfl, first, rest, second⟩)
    · generalize stopped : Program.call request rest = last at path
      induction path with
      | stop =>
          subst stopped
          exact ⟨_, .stop _⟩
      | step reply _ inductionHypothesis =>
          obtain ⟨continuation, tail⟩ := inductionHypothesis stopped
          exact ⟨continuation, .step reply tail⟩
    · exact ⟨rest, Path.append_bind first second⟩

/-- A program that has returned goes no further: two complete executions along
one trace end with the same value. -/
theorem Returns.unique {first second : List (Exchange Call Reply)} {value result : α}
    {left right : List (Exchange Call Reply)} (returned : Returns program first value)
    (again : Returns program second result) (same : first ++ left = second ++ right) :
    value = result := by
  induction program generalizing first second with
  | done final =>
      obtain ⟨_, rfl⟩ := returns_pure.mp returned
      exact (returns_pure.mp again).2
  | abort reason => exact absurd returned returns_abort
  | call request next inductionHypothesis =>
      rcases path_call.mp returned with ⟨_, impossible⟩ | ⟨reply, tail, rfl, ended⟩
      · cases impossible
      · rcases path_call.mp again with ⟨_, impossible⟩ | ⟨_, other, rfl, endedAgain⟩
        · cases impossible
        · simp only [List.cons_append, List.cons.injEq] at same
          obtain ⟨sameCall, same⟩ := same
          cases sameCall
          exact inductionHypothesis reply ended endedAgain same

/-! ### Execution against fixed answers -/

/-- The execution in which every call is answered by `answer`. -/
def answered (answer : (request : Call) → Reply request) :
    Program Call Reply Abort α → List (Exchange Call Reply)
  | .done _ => []
  | .abort _ => []
  | .call request next => ⟨request, answer request⟩ :: (next (answer request)).answered answer

theorem answered_reply {answer : (request : Call) → Reply request}
    {exchange : Exchange Call Reply} (member : exchange ∈ program.answered answer) :
    exchange.reply = answer exchange.request := by
  induction program with
  | done value => cases member
  | abort reason => cases member
  | call request next inductionHypothesis =>
      rcases List.mem_cons.mp member with rfl | later
      · rfl
      · exact inductionHypothesis _ later

/-- Programs are finite: answered throughout, a program returns or aborts. -/
theorem answered_ends (answer : (request : Call) → Reply request)
    (program : Program Call Reply Abort α) :
    (∃ value, Returns program (program.answered answer) value) ∨
      ∃ reason, Aborts program (program.answered answer) reason := by
  induction program with
  | done value => exact Or.inl ⟨value, .stop _⟩
  | abort reason => exact Or.inr ⟨reason, .stop _⟩
  | call request next inductionHypothesis =>
      rcases inductionHypothesis (answer request) with ⟨value, returned⟩ | ⟨reason, aborted⟩
      · exact Or.inl ⟨value, .step _ returned⟩
      · exact Or.inr ⟨reason, .step _ aborted⟩

/-! ### Avoiding an abort -/

/-- The program never aborts for this reason, whatever it is answered. -/
def Avoids (reason : Abort) (program : Program Call Reply Abort α) : Prop :=
  ∀ trace, ¬ Aborts program trace reason

section Avoids

variable {reason : Abort}

theorem avoids_pure (value : α) : Avoids reason (pure value : Program Call Reply Abort α) :=
  fun _ => aborts_pure

theorem avoids_abort {raised : Abort} (other : raised ≠ reason) :
    Avoids reason (.abort raised : Program Call Reply Abort α) :=
  fun _ aborted => other (aborts_abort.mp aborted).2

theorem avoids_perform (request : Call) :
    Avoids reason (perform request : Program Call Reply Abort (Reply request)) :=
  fun _ => aborts_perform

theorem Avoids.bind {next : α → Program Call Reply Abort β} (first : Avoids reason program)
    (rest : ∀ {front value}, Returns program front value → Avoids reason (next value)) :
    Avoids reason (program >>= next) := by
  intro trace aborted
  rcases aborts_bind.mp aborted with inside | ⟨value, front, back, rfl, inner, outer⟩
  · exact first trace inside
  · exact rest inner back outer

end Avoids

/-! ### Stopping on a fault -/

/-- Once an exchange was faulty the program can only abort, and only for an
excused reason. -/
structure Vigilant (fault : Exchange Call Reply → Prop) (excused : Abort → Prop)
    (program : Program Call Reply Abort α) : Prop where
  returns : ∀ {trace value}, Returns program trace value →
    ∀ exchange ∈ trace, ¬ fault exchange
  aborts : ∀ {trace reason}, Aborts program trace reason → ¬ excused reason →
    ∀ exchange ∈ trace, ¬ fault exchange

section Vigilant

variable {fault : Exchange Call Reply → Prop} {excused : Abort → Prop}

theorem vigilant_pure (value : α) :
    Vigilant fault excused (pure value : Program Call Reply Abort α) where
  returns := by
    intro trace result returned
    obtain ⟨rfl, _⟩ := returns_pure.mp returned
    simp
  aborts := fun aborted => absurd aborted aborts_pure

theorem vigilant_abort (reason : Abort) :
    Vigilant fault excused (.abort reason : Program Call Reply Abort α) where
  returns := fun returned => absurd returned returns_abort
  aborts := by
    intro trace raised aborted
    obtain ⟨rfl, _⟩ := aborts_abort.mp aborted
    simp

theorem Vigilant.bind {next : α → Program Call Reply Abort β}
    (first : Vigilant fault excused program)
    (rest : ∀ {front value}, Returns program front value → Vigilant fault excused (next value)) :
    Vigilant fault excused (program >>= next) where
  returns := by
    intro trace result returned exchange member
    obtain ⟨value, front, back, rfl, inner, outer⟩ := returns_bind.mp returned
    rcases List.mem_append.mp member with early | late
    · exact first.returns inner exchange early
    · exact (rest inner).returns outer exchange late
  aborts := by
    intro trace reason aborted unexcused exchange member
    rcases aborts_bind.mp aborted with inside | ⟨value, front, back, rfl, inner, outer⟩
    · exact first.aborts inside unexcused exchange member
    · rcases List.mem_append.mp member with early | late
      · exact first.returns inner exchange early
      · exact (rest inner).aborts outer unexcused exchange late

end Vigilant

end Program

end MXNetOperator.Interaction
