import MXNetOperator.Interaction.Program

/-!
Contract: executing an interaction program against surroundings with a state.

The surroundings answer every call, so an execution always ends, with a value or
with an abort.  Owns the execution, its law for sequential composition and its
agreement with the trace semantics.
-/

namespace MXNetOperator.Interaction

/-- How an execution ended: the exchanges made, the value or the abort, and the
state of the surroundings. -/
structure Execution (Call : Type) (Reply : Call → Type) (Abort World α : Type) where
  trace : List (Exchange Call Reply)
  outcome : Except Abort α
  world : World

namespace Execution

variable {Call : Type} {Reply : Call → Type} {Abort World α β : Type}

/-- The execution with one exchange more in front. -/
def prepend (exchange : Exchange Call Reply) (rest : Execution Call Reply Abort World α) :
    Execution Call Reply Abort World α :=
  ⟨exchange :: rest.trace, rest.outcome, rest.world⟩

/-- Go on where an execution ended, unless it aborted. -/
def andThen (first : Execution Call Reply Abort World α)
    (next : α → World → Execution Call Reply Abort World β) :
    Execution Call Reply Abort World β :=
  match first.outcome with
  | .ok value =>
      let rest := next value first.world
      ⟨first.trace ++ rest.trace, rest.outcome, rest.world⟩
  | .error reason => ⟨first.trace, .error reason, first.world⟩

theorem prepend_andThen {exchange : Exchange Call Reply}
    {first : Execution Call Reply Abort World α}
    {next : α → World → Execution Call Reply Abort World β} :
    (first.andThen next).prepend exchange = (first.prepend exchange).andThen next := by
  obtain ⟨trace, outcome, world⟩ := first
  cases outcome <;> rfl

end Execution

namespace Program

variable {Call : Type} {Reply : Call → Type} {Abort World α β : Type}
  {serve : (request : Call) → World → Reply request × World}
  {program : Program Call Reply Abort α} {next : α → Program Call Reply Abort β}
  {world : World}

def execute (serve : (request : Call) → World → Reply request × World) :
    Program Call Reply Abort α → World → Execution Call Reply Abort World α
  | .done value, world => ⟨[], .ok value, world⟩
  | .abort reason, world => ⟨[], .error reason, world⟩
  | .call request next, world =>
      let answer := serve request world
      ((next answer.1).execute serve answer.2).prepend ⟨request, answer.1⟩

@[simp] theorem execute_pure {value : α} :
    (pure value : Program Call Reply Abort α).execute serve world = ⟨[], .ok value, world⟩ := rfl

@[simp] theorem execute_perform {request : Call} :
    (perform request : Program Call Reply Abort (Reply request)).execute serve world =
      ⟨[⟨request, (serve request world).1⟩], .ok (serve request world).1,
        (serve request world).2⟩ := rfl

@[simp] theorem execute_bind :
    (program >>= next).execute serve world =
      (program.execute serve world).andThen fun value after => (next value).execute serve after := by
  induction program generalizing world with
  | done value => rfl
  | abort reason => rfl
  | call request rest inductionHypothesis =>
      show ((rest _ >>= next).execute serve _).prepend _ = _
      rw [inductionHypothesis, Execution.prepend_andThen]
      rfl

/-- The rest of a program after an execution: the value or the abort. -/
def ending : Except Abort α → Program Call Reply Abort α
  | .ok value => .done value
  | .error reason => .abort reason

/-- Executions are runs of the trace semantics. -/
theorem path_execute (program : Program Call Reply Abort α) (world : World) :
    program.Path (program.execute serve world).trace
      (ending (program.execute serve world).outcome) := by
  induction program generalizing world with
  | done value => exact .stop _
  | abort reason => exact .stop _
  | call request rest inductionHypothesis =>
      exact .step _ (inductionHypothesis (serve request world).1 (serve request world).2)

end Program

end MXNetOperator.Interaction
