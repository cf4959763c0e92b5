import MXNetOperator.Interaction.Program

/-!
Contract: threads that execute interaction programs, and the runs of a
transition system in which such threads take turns.

`Thread` carries the proof that its remaining program is what its code leaves
after its own trace, so a fact about the traces of the code is a fact about
every thread of every run.  `Run` keeps the states already passed through,
which lets an invariant speak about the past.
-/

namespace MXNetOperator.Interaction

/-! ### Threads -/

section Thread

variable {Call : Type} {Reply : Call → Type} {Abort α Input World : Type}

/-- A thread executing `code input` that has received the replies in `trace`. -/
structure Thread (code : Input → Program Call Reply Abort α) where
  input : Input
  trace : List (Exchange Call Reply)
  rest : Program Call Reply Abort α
  onPath : (code input).Path trace rest

namespace Thread

variable {code : Input → Program Call Reply Abort α}

def start (input : Input) : Thread code :=
  ⟨input, [], code input, .stop _⟩

/-- Whether the thread has no further call to make. -/
def stopped (thread : Thread code) : Bool :=
  match thread.rest with
  | .call _ _ => false
  | _ => true

/-- The call the thread waits for. -/
def pending (thread : Thread code) : Option Call :=
  match thread.rest with
  | .call request _ => some request
  | _ => none

/-- Let `serve` answer the pending call, if there is one. -/
def advance (serve : (request : Call) → World → Reply request × World)
    (thread : Thread code) (world : World) :
    Option (Exchange Call Reply × Thread code × World) :=
  match remaining : thread.rest with
  | .call request next =>
      let answer := serve request world
      some (⟨request, answer.1⟩,
        ⟨thread.input, thread.trace ++ [⟨request, answer.1⟩], next answer.1,
          (remaining ▸ thread.onPath : (code thread.input).Path thread.trace
            (.call request next)).snoc answer.1⟩,
        answer.2)
  | .done _ => none
  | .abort _ => none

/-- The pending call of a thread is one its code issues after its trace. -/
theorem advance_issues {serve : (request : Call) → World → Reply request × World}
    {thread next : Thread code} {world after : World} {exchange : Exchange Call Reply}
    (advanced : thread.advance serve world = some (exchange, next, after)) :
    (code thread.input).Issues thread.trace exchange.request ∧
      thread.pending = some exchange.request ∧
      exchange.reply = (serve exchange.request world).1 ∧
      after = (serve exchange.request world).2 ∧
      next.input = thread.input ∧ next.trace = thread.trace ++ [exchange] := by
  unfold advance at advanced
  split at advanced
  · rename_i request continuation remaining
    cases advanced
    refine ⟨⟨continuation, remaining ▸ thread.onPath⟩, ?_, rfl, rfl, rfl, rfl⟩
    rw [pending, remaining]
  · cases advanced
  · cases advanced

/-- The thread after its pending call. -/
theorem advance_of_call {serve : (request : Call) → World → Reply request × World}
    {thread : Thread code} {world : World} {request : Call}
    {next : Reply request → Program Call Reply Abort α} (remaining : thread.rest = .call request next) :
    ∃ after, thread.advance serve world =
        some (⟨request, (serve request world).1⟩, after, (serve request world).2) ∧
      after.input = thread.input ∧ after.rest = next (serve request world).1 := by
  obtain ⟨input, trace, rest, onPath⟩ := thread
  cases remaining
  exact ⟨_, rfl, rfl, rfl⟩

/-- A thread that gets the same reply gets on in the same way. -/
theorem advance_congr {serve : (request : Call) → World → Reply request × World}
    {thread : Thread code} {first second : World}
    (sameReply : ∀ request, thread.pending = some request →
      (serve request second).1 = (serve request first).1) :
    thread.advance serve second = (thread.advance serve first).map fun answered =>
      (answered.1, answered.2.1, (serve answered.1.request second).2) := by
  obtain ⟨input, trace, rest, onPath⟩ := thread
  cases rest with
  | done value => rfl
  | abort reason => rfl
  | call request next =>
      have reply := sameReply request rfl
      simp only [advance, Option.map_some]
      congr 1
      grind

theorem rest_of_pending {thread : Thread code} {request : Call}
    (waiting : thread.pending = some request) : ∃ next, thread.rest = .call request next := by
  unfold pending at waiting
  split at waiting
  · rename_i other next remaining
    cases waiting
    exact ⟨next, remaining⟩
  · cases waiting

theorem issues_of_pending {thread : Thread code} {request : Call}
    (waiting : thread.pending = some request) :
    (code thread.input).Issues thread.trace request := by
  obtain ⟨input, trace, rest, onPath⟩ := thread
  cases rest with
  | call other next =>
      cases waiting
      exact ⟨next, onPath⟩
  | done value => cases waiting
  | abort reason => cases waiting

/-- The value a finished thread returned. -/
def result (thread : Thread code) : Option α :=
  match thread.rest with
  | .done value => some value
  | _ => none

theorem returns_of_result {thread : Thread code} {value : α}
    (finished : thread.result = some value) :
    (code thread.input).Returns thread.trace value := by
  obtain ⟨input, trace, rest, onPath⟩ := thread
  cases rest with
  | done other =>
      cases finished
      exact onPath
  | abort reason => cases finished
  | call request next => cases finished

theorem stopped_of_result {thread : Thread code} {value : α}
    (finished : thread.result = some value) : thread.stopped = true := by
  unfold result at finished
  unfold stopped
  split at finished <;> simp_all

theorem result_of_pending {thread : Thread code} {request : Call}
    (waiting : thread.pending = some request) : thread.result = none := by
  unfold pending at waiting
  unfold result
  split at waiting <;> simp_all

theorem stopped_of_pending {thread : Thread code} {request : Call}
    (waiting : thread.pending = some request) : thread.stopped = false := by
  obtain ⟨next, remaining⟩ := rest_of_pending waiting
  rw [stopped, remaining]

/-- A stopped thread has returned or aborted. -/
theorem ended_of_stopped {thread : Thread code} (stopped : thread.stopped = true) :
    (∃ value, (code thread.input).Returns thread.trace value) ∨
      ∃ reason, (code thread.input).Aborts thread.trace reason := by
  obtain ⟨input, trace, rest, onPath⟩ := thread
  cases rest with
  | done value => exact Or.inl ⟨value, onPath⟩
  | abort reason => exact Or.inr ⟨reason, onPath⟩
  | call request next => cases stopped

/-- Advance at most `fuel` times. -/
def drive (serve : (request : Call) → World → Reply request × World) :
    Nat → Thread code → World → Thread code
  | 0, thread, _ => thread
  | fuel + 1, thread, world =>
      match thread.advance serve world with
      | none => thread
      | some (_, next, after) => drive serve fuel next after

theorem drive_input {serve : (request : Call) → World → Reply request × World} {fuel : Nat}
    {thread : Thread code} {world : World} :
    (drive serve fuel thread world).input = thread.input := by
  induction fuel generalizing thread world with
  | zero => rfl
  | succ fuel inductionHypothesis =>
      unfold drive
      split
      · rfl
      · rename_i advanced
        rw [inductionHypothesis, (advance_issues advanced).2.2.2.2.1]

end Thread

end Thread

/-! ### Runs -/

section Run

variable {State Action : Type}

/-- `Run step allowed first past current`: allowed steps lead from `first`
through the states `past`, newest first, to `current`. -/
inductive Run (step : State → Action → State) (allowed : State → Action → Prop)
    (first : State) : List State → State → Prop where
  | start : Run step allowed first [] first
  | step {past : List State} {current : State} (earlier : Run step allowed first past current)
      (action : Action) (permitted : allowed current action) :
      Run step allowed first (current :: past) (step current action)

namespace Run

variable {step : State → Action → State} {allowed : State → Action → Prop}
  {first current : State} {past : List State}

/-- Invariant rule for properties of the states passed so far. -/
theorem historyInvariant (holds : List State → State → Prop) (initial : holds [] first)
    (preserved : ∀ past current action, Run step allowed first past current →
      holds past current → allowed current action →
        holds (current :: past) (step current action))
    (run : Run step allowed first past current) : holds past current := by
  induction run with
  | start => exact initial
  | step earlier action permitted inductionHypothesis =>
      exact preserved _ _ action earlier inductionHypothesis permitted

/-- Invariant rule for properties of single states. -/
theorem invariant (holds : State → Prop) (initial : holds first)
    (preserved : ∀ current action, holds current → allowed current action →
      holds (step current action))
    (run : Run step allowed first past current) : holds current :=
  run.historyInvariant (fun _ state => holds state) initial
    fun _ state action _ holdsNow permitted => preserved state action holdsNow permitted

/-- Every state passed through is itself reached by a run. -/
theorem reaches_of_mem (run : Run step allowed first past current) :
    ∀ state ∈ past, ∃ before, Run step allowed first before state := by
  induction run with
  | start => simp
  | step earlier action permitted inductionHypothesis =>
      intro state member
      rcases List.mem_cons.mp member with rfl | older
      · exact ⟨_, earlier⟩
      · exact inductionHypothesis state older

/-- The states a list of actions leads through all permit the next action. -/
def Permits (step : State → Action → State) (allowed : State → Action → Prop) :
    State → List Action → Prop
  | _, [] => True
  | state, action :: rest => allowed state action ∧ Permits step allowed (step state action) rest

instance decidablePermits (step : State → Action → State) (allowed : State → Action → Prop)
    [∀ state action, Decidable (allowed state action)] :
    (state : State) → (actions : List Action) → Decidable (Permits step allowed state actions)
  | _, [] => inferInstanceAs (Decidable True)
  | state, action :: rest =>
      have := decidablePermits step allowed (step state action) rest
      inferInstanceAs (Decidable (allowed state action ∧ _))

theorem permits_append {state : State} {front back : List Action} :
    Permits step allowed state (front ++ back) ↔
      Permits step allowed state front ∧ Permits step allowed (front.foldl step state) back := by
  induction front generalizing state with
  | nil => simp [Permits]
  | cons action rest inductionHypothesis =>
      rw [List.cons_append, Permits, Permits, List.foldl_cons, inductionHypothesis, and_assoc]

/-- The states a list of actions leads through, in front of `past`. -/
def passed (step : State → Action → State) (past : List State) :
    State → List Action → List State
  | _, [] => past
  | state, action :: rest => passed step (state :: past) (step state action) rest

/-- A permitted list of actions continues a run. -/
theorem extend (run : Run step allowed first past current) {actions : List Action}
    (permits : Permits step allowed current actions) :
    Run step allowed first (passed step past current actions) (actions.foldl step current) := by
  induction actions generalizing past current with
  | nil => exact run
  | cons action rest inductionHypothesis =>
      exact inductionHypothesis (.step run action permits.1) permits.2

/-- A state passed before is still among those passed. -/
theorem mem_passed_of_past {state : State} {actions : List Action} (member : state ∈ past) :
    state ∈ passed step past current actions := by
  induction actions generalizing past current with
  | nil => exact member
  | cons action rest ih => exact ih (List.mem_cons_of_mem _ member)

/-- Every state but the last one of a run has been passed. -/
theorem mem_passed (front : List Action) (action : Action) (back : List Action) :
    front.foldl step current ∈ passed step past current (front ++ action :: back) := by
  induction front generalizing past current with
  | nil =>
      show current ∈ passed step (current :: past) (step current action) back
      exact mem_passed_of_past List.mem_cons_self
  | cons first rest ih => exact ih

theorem prepend {before : State} {action : Action} (permitted : allowed before action)
    (run : Run step allowed (step before action) past current) :
    Run step allowed before (past ++ [before]) current := by
  induction run with
  | start => exact Run.start.step action permitted
  | step _ action permitted ih => exact ih.step action permitted

/-- What holds in all states passed can be added to the side condition. -/
theorem restrict {holds : State → Prop} (run : Run step allowed first past current)
    (always : ∀ earlier ∈ past, holds earlier) :
    Run step (fun state action => allowed state action ∧ holds state) first past current := by
  induction run with
  | start => exact .start
  | step earlier action permitted inductionHypothesis =>
      refine .step (inductionHypothesis fun state member => ?_) action
        ⟨permitted, always _ List.mem_cons_self⟩
      exact always state (List.mem_cons_of_mem _ member)

/-- A run under a stronger side condition is a run under a weaker one. -/
theorem mono {weaker : State → Action → Prop}
    (implies : ∀ state action, allowed state action → weaker state action)
    (run : Run step allowed first past current) : Run step weaker first past current := by
  induction run with
  | start => exact .start
  | step earlier action permitted inductionHypothesis =>
      exact .step inductionHypothesis action (implies _ _ permitted)

end Run

end Run

end MXNetOperator.Interaction
