import MXNetOperator.Crd.OpenAPI

/-!
Contract: the generated validation schema says what the definitions say after
`fixKnownTypes`, which replaces the one of `IntOrString` and leaves the others.

The conversion replaces references by definitions, keeps one type only, prints
the literals of an `enum` and leaves out `additionalProperties` and
`dependencies`.  Where nothing of that loses anything, the generated schema
admits the same values as these definitions; where only the last is lost and
nothing is negated, it admits more and never less.
-/

namespace MXNetOperator.Property

open MXNetOperator.JsonSchema
open MXNetOperator.Crd

variable {sprint : Json → String} {dialect : Dialect} {openapiSpec : OpenAPISpec} {depth : Nat}
  {schema : Schema} {value : Json}

/-! ### Termination -/

/-- The generator returns if and only if following references from the named
definition, after `fixKnownTypes`, comes to an end; otherwise it overflows every
stack. -/
theorem generation_returns_iff (sprint : Json → String) (name : String)
    (openapiSpec : OpenAPISpec) :
    (∃ depth props, getCustomResourceValidation sprint name openapiSpec depth = some props) ↔
      Acc (Visits (fixKnownTypes openapiSpec)) ((fixKnownTypes openapiSpec).get name) := by
  constructor
  · rintro ⟨depth, props, returned⟩
    exact acc_of_convert returned
  · intro acc
    exact convert_of_acc acc

/-! ### Keywords that are rewritten -/

/-- The type and the literals survive the conversion. -/
structure Faithful (dialect : Dialect) (sprint : Json → String) (props : SchemaProps Schema) :
    Prop where
  type : props.type = [] ∨ ∃ name, name ≠ "" ∧ props.type = [name]
  enum : ∀ literal ∈ props.enum, dialect.decode (sprint literal) = some literal

theorem Faithful.type_iff {props : SchemaProps Schema} (faithful : Faithful dialect sprint props) :
    (stringOrArrayToString props.type = "" ∨
        value.hasType (stringOrArrayToString props.type) = true) ↔
      (props.type = [] ∨ ∃ name ∈ props.type, value.hasType name = true) := by
  rcases faithful.type with none | ⟨name, named, single⟩
  · simp [none, stringOrArrayToString]
  · simp [single, stringOrArrayToString, named]

theorem Faithful.enum_iff {props : SchemaProps Schema} (faithful : Faithful dialect sprint props) :
    (enumJSON sprint props.enum = [] ∨
        some value ∈ (enumJSON sprint props.enum).map dialect.decode) ↔
      (props.enum = [] ∨ value ∈ props.enum) := by
  have decoded : (enumJSON sprint props.enum).map dialect.decode = props.enum.map some := by
    rw [enumJSON, List.map_map]
    exact List.map_congr_left faithful.enum
  rw [decoded, enumJSON, List.map_eq_nil_iff, List.mem_map_of_injective (Option.some_injective _)]

/-! ### Meaning -/

theorem converted_valid_iff {props : SchemaProps Schema} (faithful : Faithful dialect sprint props)
    {applicators : Applicators JSONSchemaProps} :
    (converted sprint props applicators).Valid dialect value ↔
      (props.type = [] ∨ ∃ name ∈ props.type, value.hasType name = true) ∧
      (props.enum = [] ∨ value ∈ props.enum) ∧ props.keywords.Valid dialect value ∧
      applicators.Valid (JSONSchemaProps.Valid dialect) dialect value := by
  rw [JSONSchemaProps.valid_iff, ← faithful.type_iff, ← faithful.enum_iff]
  constructor
  · intro holds
    exact ⟨holds.type, holds.enum, holds.keywords, holds.applicators⟩
  · rintro ⟨type, enum, keywords, subschemas⟩
    exact ⟨rfl, type, enum, keywords, subschemas⟩

/-- The conversion may lose parts of the schema, but not under a negation. -/
structure Positive (props : SchemaProps Schema) : Prop where
  oneOf : props.applicators.oneOf = []
  not : props.applicators.not = none

/-- Nothing is there that the conversion does not copy. -/
structure Copied (props : SchemaProps Schema) : Prop where
  additionalProperties : props.additionalProperties = none
  dependencies : props.dependencies = []

/-- The conversion can only make the schema admit more. -/
def Widened (dialect : Dialect) (sprint : Json → String) (openapiSpec : OpenAPISpec) :
    Schema → Prop :=
  Throughout openapiSpec fun sub => Faithful dialect sprint sub.props ∧ Positive sub.props

/-- The conversion loses nothing of the schema. -/
def Lossless (dialect : Dialect) (sprint : Json → String) (openapiSpec : OpenAPISpec) :
    Schema → Prop :=
  Throughout openapiSpec fun sub => Faithful dialect sprint sub.props ∧ Copied sub.props

section Conversion

variable {definitions : Definitions} {props : JSONSchemaProps}
  (returned : schemaPropsToJSONProps sprint definitions.openapiSpec true depth schema = some props)
include returned

theorem converted_admits_valid
    (widened : Widened dialect sprint definitions.openapiSpec schema)
    (valid : definitions.Valid dialect schema value) : props.Valid dialect value := by
  refine convert_induction
    (fun schema props => ∀ value, definitions.Valid dialect schema value →
      props.Valid dialect value) ?_ ?_ widened returned value valid
  · intro schema props isRef converts value holds
    exact converts value ((Definitions.valid_ref isRef).mp holds)
  · rintro schema applicators plain ⟨faithful, positive⟩ shape value holds
    have source := (Definitions.valid_plain plain).mp holds
    rw [converted_valid_iff faithful]
    refine ⟨source.type, source.enum, source.keywords, ?_⟩
    apply shape.transfer (fun _ _ implies => implies) _ source.applicators
    intro negated
    exact absurd negated (by simp [positive.oneOf, positive.not])

theorem converted_equivalent
    (lossless : Lossless dialect sprint definitions.openapiSpec schema) (value : Json) :
    props.Valid dialect value ↔ definitions.Valid dialect schema value := by
  refine convert_induction
    (fun schema props => ∀ value, props.Valid dialect value ↔
      definitions.Valid dialect schema value) ?_ ?_ lossless returned value
  · intro schema props isRef converts value
    rw [Definitions.valid_ref isRef]
    exact converts value
  · rintro schema applicators plain ⟨faithful, copied⟩ shape value
    rw [Definitions.valid_plain plain, converted_valid_iff faithful]
    constructor
    · rintro ⟨type, enum, keywords, subschemas⟩
      refine ⟨type, enum, keywords, ?_, ?_, ?_⟩
      · exact shape.swap.transfer (fun _ _ same value => (same value).mp)
          (fun _ _ _ same value => (same value).mpr) subschemas
      · intro members isObject extra isExtra
        simp [copied.additionalProperties] at isExtra
      · intro members isObject dependency isDependency
        simp [copied.dependencies] at isDependency
    · intro source
      refine ⟨source.type, source.enum, source.keywords, ?_⟩
      exact shape.transfer (fun _ _ same value => (same value).mpr)
        (fun _ _ _ same value => (same value).mp) source.applicators

end Conversion

section Lossless

variable {description name : String}

theorem lossless_typed {type format : String} (named : type ≠ "") :
    Lossless dialect sprint openapiSpec (typed description type format) := by
  refine .plain rfl ⟨⟨Or.inr ⟨type, named, rfl⟩, by simp [typed]⟩, rfl, rfl⟩ ?_
  simp [typed, Applicators.children]

theorem lossless_reference (named : name ≠ "")
    (target : Lossless dialect sprint openapiSpec (openapiSpec.get name)) :
    Lossless dialect sprint openapiSpec (reference description name) :=
  .ref named target

theorem lossless_object {required : List String} {properties : List (String × Schema)}
    (each : ∀ entry ∈ properties, Lossless dialect sprint openapiSpec entry.2) :
    Lossless dialect sprint openapiSpec
      (.mk { keywords := { description, required }, applicators := { properties } }) := by
  refine .plain rfl ⟨⟨Or.inl rfl, by simp⟩, rfl, rfl⟩ fun sub child => ?_
  obtain ⟨name, isEntry⟩ : ∃ name, (name, sub) ∈ properties := by
    simpa [Applicators.children] using child
  exact each (name, sub) isEntry

theorem lossless_listOf (element : Lossless dialect sprint openapiSpec (reference "" name)) :
    Lossless dialect sprint openapiSpec (listOf description name) := by
  refine .plain rfl ⟨⟨Or.inr ⟨"array", by decide, rfl⟩, by simp [listOf]⟩, rfl, rfl⟩
    fun sub child => ?_
  obtain rfl : sub = reference "" name := by
    simpa [listOf, Applicators.children, SchemaOrArray.children] using child
  exact element

end Lossless

section Generated

variable {definitions : Definitions} {name : String} {props : JSONSchemaProps}
  (generated : getCustomResourceValidation sprint name definitions.openapiSpec depth = some props)
include generated

/-- A generated schema admits every value that the definitions admit after
`fixKnownTypes`, if no literal or alternative type is lost and nothing is
negated. -/
theorem generated_admits_valid
    (widened : Widened dialect sprint definitions.fixKnownTypes.openapiSpec
      (definitions.fixKnownTypes.openapiSpec.get name))
    (valid : definitions.fixKnownTypes.Valid dialect
      (definitions.fixKnownTypes.openapiSpec.get name) value) :
    props.Valid dialect value := by
  have returned : schemaPropsToJSONProps sprint definitions.fixKnownTypes.openapiSpec true depth
      (definitions.fixKnownTypes.openapiSpec.get name) = some props := generated
  exact converted_admits_valid returned widened valid

end Generated

/-- A validator that knows no format and no literal. -/
def lenient : Dialect where
  hasFormat _ _ := True
  hasPattern _ _ := True
  decode _ := none

/-- A map from strings to strings. -/
def labelsSchema : Schema :=
  .mk {
    type := ["object"]
    additionalProperties := some { allows := true, schema := some (typed "" "string" "") } }

def labelsDefinitions : Definitions where
  openapiSpec := [("Labels", labelsSchema)]
  acyclic := by
    apply acyclic_of_rank fun _ => 0
    simp [labelsSchema, mentions_mk_iff, mentions_typed_iff, SchemaProps.children,
      Applicators.children]

theorem generated_admits_valid_labels :
    ∃ props, getCustomResourceValidation (fun _ => "") "Labels" labelsDefinitions.openapiSpec 3 =
        some props ∧
      props.Valid lenient (.object [("app", .string "mxnet")]) := by
  obtain ⟨props, generated⟩ := Option.isSome_iff_exists.mp (show (getCustomResourceValidation
    (fun _ => "") "Labels" labelsDefinitions.openapiSpec 3).isSome = true from rfl)
  have widened : Widened lenient (fun _ => "") labelsDefinitions.fixKnownTypes.openapiSpec
      labelsSchema :=
    .plain rfl ⟨⟨Or.inr ⟨"object", by decide, rfl⟩, by simp [labelsSchema]⟩, rfl, rfl⟩
      (by simp [labelsSchema, Applicators.children])
  have valid : labelsDefinitions.fixKnownTypes.Valid lenient labelsSchema
      (.object [("app", .string "mxnet")]) := by
    rw [Definitions.valid_plain rfl]
    refine ⟨Or.inr ⟨"object", by simp [labelsSchema], rfl⟩, Or.inl rfl,
      Keywords.valid_format_iff.mpr (Or.inl rfl), Applicators.valid_none, ?_, by simp [labelsSchema]⟩
    rintro _ ⟨⟩ extra ⟨⟩ member isMember _
    cases List.mem_singleton.mp isMember
    exact valid_typed_iff.mpr ⟨rfl, Or.inl rfl⟩
  exact ⟨props, generated, generated_admits_valid generated widened valid⟩

section Generated

variable {definitions : Definitions} {name : String} {props : JSONSchemaProps}
  (generated : getCustomResourceValidation sprint name definitions.openapiSpec depth = some props)
include generated

/-- The generated schema is equivalent to the definitions after `fixKnownTypes`
with the references followed, if nothing is lost on the way. -/
theorem generated_valid_iff
    (lossless : Lossless dialect sprint definitions.fixKnownTypes.openapiSpec
      (definitions.fixKnownTypes.openapiSpec.get name)) (value : Json) :
    props.Valid dialect value ↔ definitions.fixKnownTypes.Valid dialect
      (definitions.fixKnownTypes.openapiSpec.get name) value := by
  have returned : schemaPropsToJSONProps sprint definitions.fixKnownTypes.openapiSpec true depth
      (definitions.fixKnownTypes.openapiSpec.get name) = some props := generated
  exact converted_equivalent returned lossless value

end Generated

theorem generated_valid_iff_replicaStatus :
    ∃ props, getCustomResourceValidation (fun _ => "") mxReplicaStatusName
        (getOpenAPIDefinitions []) 3 = some props ∧
      ∀ value, props.Valid lenient value ↔ noKubernetes.definitions.fixKnownTypes.Valid lenient
        mxReplicaStatusSchema value := by
  obtain ⟨props, generated⟩ := Option.isSome_iff_exists.mp (show (getCustomResourceValidation
    (fun _ => "") mxReplicaStatusName noKubernetes.definitions.openapiSpec 3).isSome = true
    from rfl)
  have lossless : Lossless lenient (fun _ => "")
      noKubernetes.definitions.fixKnownTypes.openapiSpec mxReplicaStatusSchema :=
    lossless_object (by simp [lossless_typed])
  exact ⟨props, generated, generated_valid_iff generated lossless⟩

end MXNetOperator.Property
