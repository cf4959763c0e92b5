import MXNetOperator.Crd.Convert

/-!
Contract: which values the definitions and the generated schema admit.

An OpenAPI schema with a reference says what the definition says it refers to.
`Definitions` are those in which following references comes to an end; there
`Definitions.Valid` is the meaning of a schema.  A generated schema has no
references, and `JSONSchemaProps.Valid` is by recursion on the schema alone.
-/

namespace MXNetOperator.Crd

open MXNetOperator.JsonSchema

/-! ### Generated schemas -/

section Generated

variable {Sub : Type} (valid : Sub → Json → Prop)

/-- The reading of a schema in a resource definition, where references are
forbidden and no type is the empty string. -/
structure JSONSchemaFields.Valid (dialect : Dialect) (fields : JSONSchemaFields Sub)
    (value : Json) : Prop where
  inlined : fields.ref = none
  type : fields.type = "" ∨ value.hasType fields.type = true
  enum : fields.enum = [] ∨ some value ∈ fields.enum.map dialect.decode
  keywords : fields.keywords.Valid dialect value
  applicators : fields.applicators.Valid valid dialect value

end Generated

/-- A subschema of a generated schema. -/
def Inside (sub props : JSONSchemaProps) : Prop :=
  sub ∈ props.fields.applicators.children

theorem sizeOf_lt_of_inside {sub props : JSONSchemaProps} (inside : Inside sub props) :
    sizeOf sub < sizeOf props := by
  obtain ⟨fields⟩ := props
  obtain ⟨ref, type, enum, keywords, applicators⟩ := fields
  have bound := Applicators.sizeOf_lt sub inside
  simp only [JSONSchemaProps.fields] at bound
  simp only [JSONSchemaProps.mk.sizeOf_spec, JSONSchemaFields.mk.sizeOf_spec]
  omega

theorem inside_wellFounded : WellFounded Inside :=
  Subrelation.wf sizeOf_lt_of_inside (measure sizeOf).wf

def JSONSchemaProps.Valid (dialect : Dialect) : JSONSchemaProps → Json → Prop :=
  meaning inside_wellFounded fun valid props => props.fields.Valid valid dialect

theorem JSONSchemaProps.valid_iff {dialect : Dialect} {props : JSONSchemaProps} {value : Json} :
    props.Valid dialect value ↔
      props.fields.Valid (JSONSchemaProps.Valid dialect) dialect value := by
  apply meaning_iff
  intro schema left right same value holds
  exact { holds with applicators := holds.applicators.congr same }

/-! ### Definitions -/

section Source

variable {Sub : Type} (valid : Sub → Json → Prop)

def SchemaOrStringArray.Valid (dependency : SchemaOrStringArray Sub)
    (members : List (String × Json)) : Prop :=
  match dependency.schema with
  | some schema => valid schema (.object members)
  | none => ∀ name ∈ dependency.property, name ∈ members.map Prod.fst

/-- Neither `properties` nor `patternProperties` say anything about the name. -/
def Unnamed (dialect : Dialect) (applicators : Applicators Sub) (name : String) : Prop :=
  (∀ entry ∈ applicators.properties, entry.1 ≠ name) ∧
    ∀ entry ∈ applicators.patternProperties, ¬ dialect.hasPattern entry.1 name

structure SchemaProps.Valid (dialect : Dialect) (props : SchemaProps Sub) (value : Json) :
    Prop where
  type : props.type = [] ∨ ∃ name ∈ props.type, value.hasType name = true
  enum : props.enum = [] ∨ value ∈ props.enum
  keywords : props.keywords.Valid dialect value
  applicators : props.applicators.Valid valid dialect value
  additionalProperties : ∀ members, value = .object members → ∀ extra ∈ props.additionalProperties,
    ∀ member ∈ members, Unnamed dialect props.applicators member.1 → extra.Valid valid member.2
  dependencies : ∀ members, value = .object members → ∀ dependency ∈ props.dependencies,
    dependency.1 ∈ members.map Prod.fst → dependency.2.Valid valid members

end Source

def SchemaProps.children {Sub : Type} (props : SchemaProps Sub) : List Sub :=
  props.applicators.children ++ (props.additionalProperties.toList.flatMap (·.schema.toList) ++
    props.dependencies.flatMap (·.2.schema.toList))

theorem SchemaProps.Valid.congr {Sub : Type} {left right : Sub → Json → Prop} {dialect : Dialect}
    {props : SchemaProps Sub} {value : Json} (holds : props.Valid left dialect value)
    (same : ∀ schema ∈ props.children, ∀ value, left schema value ↔ right schema value) :
    props.Valid right dialect value := by
  simp only [SchemaProps.children, List.forall_mem_append, List.mem_flatMap, Option.mem_toList,
    forall_exists_index, and_imp] at same
  obtain ⟨inApplicators, inAdditional, inDependencies⟩ := same
  refine { holds with
    applicators := holds.applicators.congr inApplicators
    additionalProperties := fun members isObject extra isExtra member isMember unnamed => ?_
    dependencies := fun members isObject dependency isDependency named => ?_ }
  · apply (holds.additionalProperties members isObject extra isExtra member isMember unnamed).congr
    exact fun schema isSchema value => (inAdditional schema extra isExtra isSchema value).mp
  · have dependent := holds.dependencies members isObject dependency isDependency named
    rw [SchemaOrStringArray.Valid] at dependent ⊢
    cases isSchema : dependency.2.schema with
    | none => simpa only [isSchema] using dependent
    | some schema =>
        simp only [isSchema] at dependent ⊢
        exact (inDependencies schema dependency isDependency isSchema _).mp dependent

/-- What a schema is about: the definition it refers to, or its subschemas. -/
def Uses (openapiSpec : OpenAPISpec) (sub schema : Schema) : Prop :=
  if schema.props.ref = "" then sub ∈ schema.props.children
  else sub = openapiSpec.get schema.props.ref

/-- Definitions that do not refer to each other in a circle. -/
structure Definitions where
  openapiSpec : OpenAPISpec
  acyclic : WellFounded (Uses openapiSpec)

namespace Definitions

variable (definitions : Definitions) (dialect : Dialect)

/-- A schema says what it refers to says. -/
def Valid : Schema → Json → Prop :=
  meaning definitions.acyclic fun valid schema value =>
    (schema.props.ref = "" → schema.props.Valid valid dialect value) ∧
      (schema.props.ref ≠ "" → valid (definitions.openapiSpec.get schema.props.ref) value)

variable {definitions dialect} {schema : Schema} {value : Json}

theorem valid_iff : definitions.Valid dialect schema value ↔
    (schema.props.ref = "" →
      schema.props.Valid (definitions.Valid dialect) dialect value) ∧
    (schema.props.ref ≠ "" →
      definitions.Valid dialect (definitions.openapiSpec.get schema.props.ref) value) := by
  apply meaning_iff
  intro schema left right same value holds
  refine ⟨fun plain => (holds.1 plain).congr fun sub member => ?_, fun isRef => ?_⟩
  · exact same sub (by rwa [Uses, if_pos plain])
  · exact (same _ (by rw [Uses, if_neg isRef]) value).mp (holds.2 isRef)

theorem valid_plain (plain : schema.props.ref = "") :
    definitions.Valid dialect schema value ↔
      schema.props.Valid (definitions.Valid dialect) dialect value := by
  rw [valid_iff]
  exact ⟨fun holds => holds.1 plain, fun holds => ⟨fun _ => holds, fun isRef => absurd plain isRef⟩⟩

theorem valid_ref (isRef : schema.props.ref ≠ "") :
    definitions.Valid dialect schema value ↔
      definitions.Valid dialect (definitions.openapiSpec.get schema.props.ref) value := by
  rw [valid_iff]
  exact ⟨fun holds => holds.2 isRef, fun holds => ⟨fun plain => absurd plain isRef, fun _ => holds⟩⟩

/-- What a schema says that has keywords and applicators only. -/
theorem valid_simple_iff {type : List String} {keywords : Keywords}
    {applicators : Applicators Schema} :
    definitions.Valid dialect (.mk { type, keywords, applicators }) value ↔
      (type = [] ∨ ∃ name ∈ type, value.hasType name = true) ∧ keywords.Valid dialect value ∧
        applicators.Valid (definitions.Valid dialect) dialect value := by
  rw [valid_plain rfl]
  constructor
  · intro holds
    exact ⟨holds.type, holds.keywords, holds.applicators⟩
  · rintro ⟨typed, keyed, applied⟩
    exact ⟨typed, Or.inl rfl, keyed, applied, by simp, by simp⟩

end Definitions

/-! ### Acyclic definitions -/

theorem sizeOf_lt_of_child {sub schema : Schema} (child : sub ∈ schema.props.children) :
    sizeOf sub < sizeOf schema := by
  obtain ⟨ref, type, enum, keywords, applicators, additional, dependencies⟩ := schema
  simp only [Schema.mk.sizeOf_spec, SchemaProps.mk.sizeOf_spec]
  simp only [SchemaProps.children, Schema.props_mk, List.mem_append, List.mem_flatMap,
    Option.mem_toList] at child
  rcases child with inApplicators | ⟨extra, isExtra, isSchema⟩ | ⟨⟨name, dependency⟩, member, isSchema⟩
  · have bound := Applicators.sizeOf_lt sub inApplicators
    omega
  · have inExtra := SchemaOrBool.sizeOf_lt sub isSchema
    have bound := sizeOf_lt_of_optionMem isExtra
    omega
  · have inSchema := sizeOf_lt_of_optionMem isSchema
    have bound := List.sizeOf_lt_of_mem member
    obtain ⟨dependent, property⟩ := dependency
    simp only [Prod.mk.sizeOf_spec, SchemaOrStringArray.mk.sizeOf_spec] at bound inSchema
    omega

/-- The schema or a subschema of it refers to the name. -/
inductive Mentions (name : String) : Schema → Prop where
  | here {schema : Schema} (isRef : schema.props.ref ≠ "") (same : schema.props.ref = name) :
      Mentions name schema
  | inside {sub schema : Schema} (plain : schema.props.ref = "")
      (child : sub ∈ schema.props.children) (mentions : Mentions name sub) : Mentions name schema

theorem mentions_mk_iff {name : String} {props : SchemaProps Schema} :
    Mentions name (.mk props) ↔
      (props.ref ≠ "" ∧ props.ref = name) ∨
        (props.ref = "" ∧ ∃ sub ∈ props.children, Mentions name sub) := by
  constructor
  · intro mentions
    cases mentions with
    | here isRef same => exact Or.inl ⟨isRef, same⟩
    | inside plain child mentions => exact Or.inr ⟨plain, _, child, mentions⟩
  · rintro (⟨isRef, same⟩ | ⟨plain, sub, child, mentions⟩)
    · exact .here isRef same
    · exact .inside plain child mentions

theorem acc_of_mentions {openapiSpec : OpenAPISpec} (schema : Schema)
    (defined : ∀ name, Mentions name schema → Acc (Uses openapiSpec) (openapiSpec.get name)) :
    Acc (Uses openapiSpec) schema := by
  constructor
  intro sub uses
  by_cases plain : schema.props.ref = ""
  · rw [Uses, if_pos plain] at uses
    have smaller := sizeOf_lt_of_child uses
    exact acc_of_mentions sub fun name mentions => defined name (.inside plain uses mentions)
  · rw [Uses, if_neg plain] at uses
    rw [uses]
    exact defined _ (.here plain rfl)
termination_by sizeOf schema

theorem mem_of_lookup {name : String} {openapiSpec : OpenAPISpec} {schema : Schema}
    (found : openapiSpec.lookup name = some schema) : (name, schema) ∈ openapiSpec := by
  induction openapiSpec with
  | nil => cases found
  | cons entry rest inductionHypothesis =>
      obtain ⟨first, other⟩ := entry
      rw [List.lookup_cons] at found
      split at found
      · rename_i same
        cases found
        rw [eq_of_beq same]
        exact List.mem_cons_self
      · exact List.mem_cons_of_mem _ (inductionHypothesis found)

/-- Definitions are acyclic if each mentions definitions of lower rank only. -/
theorem acyclic_of_rank {openapiSpec : OpenAPISpec} (rank : String → Nat)
    (descends : ∀ entry ∈ openapiSpec, ∀ other, Mentions other entry.2 →
      rank other < rank entry.1) :
    WellFounded (Uses openapiSpec) := by
  have defined : ∀ bound name, rank name < bound →
      Acc (Uses openapiSpec) (openapiSpec.get name) := by
    intro bound
    induction bound with
    | zero => exact fun name impossible => absurd impossible (Nat.not_lt_zero _)
    | succ bound inductionHypothesis =>
        intro name within
        apply acc_of_mentions
        intro other mentions
        cases found : openapiSpec.lookup name with
        | none =>
            rw [OpenAPISpec.get, found] at mentions
            simp [mentions_mk_iff, SchemaProps.children, Applicators.children] at mentions
        | some schema =>
            rw [OpenAPISpec.get, found] at mentions
            have lower : rank other < rank name :=
              descends _ (mem_of_lookup found) other mentions
            exact inductionHypothesis other (by omega)
  exact ⟨fun schema => acc_of_mentions schema fun name _ => defined _ name (Nat.lt_succ_self _)⟩

theorem lookup_filter_ne {name key : String} (other : name ≠ key) (openapiSpec : OpenAPISpec) :
    (openapiSpec.filter fun entry => entry.1 != key).lookup name = openapiSpec.lookup name := by
  induction openapiSpec with
  | nil => rfl
  | cons entry rest inductionHypothesis =>
      obtain ⟨first, schema⟩ := entry
      by_cases isKey : first = key
      · subst isKey
        have skipped : (name == first) = false := beq_false_of_ne other
        simp only [List.filter_cons, bne_self_eq_false, Bool.false_eq_true, if_false,
          inductionHypothesis, List.lookup_cons, skipped]
      · have kept : (first != key) = true := bne_iff_ne.mpr isKey
        simp only [List.filter_cons, kept, if_true, List.lookup_cons, inductionHypothesis]

theorem get_fixKnownTypes (openapiSpec : OpenAPISpec) (name : String) :
    (fixKnownTypes openapiSpec).get name =
      if name = intOrString then intOrStringSchema else openapiSpec.get name := by
  rw [OpenAPISpec.get, fixKnownTypes, List.lookup_cons]
  split
  · rename_i found
    rw [if_pos (eq_of_beq found)]
    rfl
  · rename_i other
    have different : name ≠ intOrString := ne_of_beq_false other
    rw [if_neg different, lookup_filter_ne different, OpenAPISpec.get]

theorem not_mentions_intOrString {name : String} : ¬ Mentions name intOrStringSchema := by
  simp [intOrStringSchema, mentions_mk_iff, SchemaProps.children, Applicators.children]

/-- Replacing a definition by one without references closes no circle. -/
def Definitions.fixKnownTypes (definitions : Definitions) : Definitions where
  openapiSpec := Crd.fixKnownTypes definitions.openapiSpec
  acyclic := by
    constructor
    intro schema
    induction schema using definitions.acyclic.induction with
    | _ schema inductionHypothesis =>
        constructor
        intro sub uses
        by_cases plain : schema.props.ref = ""
        · rw [Uses, if_pos plain] at uses
          exact inductionHypothesis sub (by rwa [Uses, if_pos plain])
        · rw [Uses, if_neg plain, get_fixKnownTypes] at uses
          split at uses
          · rw [uses]
            exact acc_of_mentions _ fun name mentions => absurd mentions not_mentions_intOrString
          · exact inductionHypothesis sub (by rwa [Uses, if_neg plain])

end MXNetOperator.Crd
