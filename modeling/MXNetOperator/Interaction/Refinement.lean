import MXNetOperator.Interaction.System

/-!
Contract: a transition system whose runs are runs of a more abstract one.

Every step of the concrete system is matched by a step of the abstract one or
does not show in it.  `Run.simulates` is the rule for a relation between the two
states, `Run.refines` its case of a projection; the steps of the projection may
rely on an invariant of the concrete system.
-/

namespace MXNetOperator.Interaction

variable {Concrete Abstract ConcreteAction AbstractAction : Type}
  {step : Concrete → ConcreteAction → Concrete} {allowed : Concrete → ConcreteAction → Prop}
  {abstractStep : Abstract → AbstractAction → Abstract}
  {permits : Abstract → AbstractAction → Prop} {first current : Concrete} {past : List Concrete}

/-- A step that shows as a permitted abstract step or not at all. -/
def Shows (abstractStep : Abstract → AbstractAction → Abstract)
    (permits : Abstract → AbstractAction → Prop) (before after : Abstract) : Prop :=
  after = before ∨ ∃ action, permits before action ∧ after = abstractStep before action

theorem Run.simulates {abstractFirst : Abstract} (related : Concrete → Abstract → Prop)
    (initial : related first abstractFirst)
    (simulates : ∀ state action abstract, related state abstract → allowed state action →
      ∃ after, Shows abstractStep permits abstract after ∧ related (step state action) after)
    (run : Run step allowed first past current) :
    ∃ before reached, Run abstractStep permits abstractFirst before reached ∧
      related current reached := by
  induction run with
  | start => exact ⟨[], abstractFirst, .start, initial⟩
  | step earlier action permitted inductionHypothesis =>
      obtain ⟨before, reached, abstractRun, isRelated⟩ := inductionHypothesis
      obtain ⟨after, shows, relatedAfter⟩ := simulates _ action reached isRelated permitted
      rcases shows with rfl | ⟨abstractAction, isPermitted, rfl⟩
      · exact ⟨before, after, abstractRun, relatedAfter⟩
      · exact ⟨_, _, .step abstractRun abstractAction isPermitted, relatedAfter⟩

theorem Run.refines (project : Concrete → Abstract) (holds : Concrete → Prop)
    (initial : holds first)
    (simulates : ∀ state action, holds state → allowed state action →
      holds (step state action) ∧
        Shows abstractStep permits (project state) (project (step state action)))
    (run : Run step allowed first past current) :
    ∃ before, Run abstractStep permits (project first) before (project current) := by
  have simulated : ∃ before reached, Run abstractStep permits (project first) before reached ∧
      holds current ∧ reached = project current := by
    apply run.simulates (fun state abstract => holds state ∧ abstract = project state)
      ⟨initial, rfl⟩
    rintro state action _ ⟨holdsNow, rfl⟩ permitted
    obtain ⟨holdsNext, shows⟩ := simulates state action holdsNow permitted
    exact ⟨_, shows, holdsNext, rfl⟩
  obtain ⟨before, _, abstractRun, _, rfl⟩ := simulated
  exact ⟨before, abstractRun⟩

end MXNetOperator.Interaction
