import MXNetOperator.JsonSchema.Validity

/-!
Contract: the generator of the validation schema of a custom resource.

Owns the OpenAPI schemas with references, the schemas of a resource definition
without, and the conversion between them as `crd-validation` does it.  References
are replaced by what they refer to, which does not end if definitions refer to
each other in a circle: the conversion takes the depth of its call stack, and
`none` is a stack overflow.

Elements of an `enum` are written with the verb `%v`; what that prints is a
parameter.
-/

namespace MXNetOperator.Crd

open MXNetOperator.JsonSchema

/-! ### Schemas -/

/-- Either a schema or the names of properties. -/
structure SchemaOrStringArray (Sub : Type) where
  schema : Option Sub := none
  property : List String := []

/-- `spec.SchemaProps`; a schema with a nonempty `ref` stands for another one. -/
structure SchemaProps (Sub : Type) where
  ref : String := ""
  type : List String := []
  enum : List Json := []
  keywords : Keywords := {}
  applicators : Applicators Sub := {}
  additionalProperties : Option (SchemaOrBool Sub) := none
  dependencies : List (String × SchemaOrStringArray Sub) := []

/-- `spec.Schema`. -/
inductive Schema where
  | mk (props : SchemaProps Schema)

def Schema.props : Schema → SchemaProps Schema
  | .mk props => props

@[simp]
theorem Schema.props_mk (props : SchemaProps Schema) : (Schema.mk props).props = props := rfl

/-- The fields of `JSONSchemaProps` that the conversion sets; `enum` has raw texts. -/
structure JSONSchemaFields (Sub : Type) where
  ref : Option String := none
  type : String := ""
  enum : List String := []
  keywords : Keywords := {}
  applicators : Applicators Sub := {}

inductive JSONSchemaProps where
  | mk (fields : JSONSchemaFields JSONSchemaProps)

def JSONSchemaProps.fields : JSONSchemaProps → JSONSchemaFields JSONSchemaProps
  | .mk fields => fields

/-- `map[string]common.OpenAPIDefinition`, by the schemas of the definitions. -/
abbrev OpenAPISpec := List (String × Schema)

/-- A missing name gives the zero value. -/
def OpenAPISpec.get (openapiSpec : OpenAPISpec) (name : String) : Schema :=
  (openapiSpec.lookup name).getD (.mk {})

/-! ### Conversion -/

def stringOrArrayToString : List String → String
  | first :: _ => first
  | [] => ""

def enumJSON (sprint : Json → String) (enum : List Json) : List String :=
  enum.map sprint

section Subschemas

variable (convert : Schema → Option JSONSchemaProps)

def schemaPropsToJSONPropsArray (schemas : List Schema) : Option (List JSONSchemaProps) :=
  schemas.mapM convert

/-- A nil pointer stays nil. -/
def onPointer {α β : Type} (step : α → Option β) : Option α → Option (Option β)
  | none => some none
  | some target => (step target).map some

def schemaOrArrayToJSONItems (items : Option (SchemaOrArray Schema)) :
    Option (Option (SchemaOrArray JSONSchemaProps)) :=
  items |> onPointer fun schemaOrArray => do
    let schema ← onPointer convert schemaOrArray.schema
    let schemas ← schemaPropsToJSONPropsArray convert schemaOrArray.schemas
    pure ⟨schema, schemas⟩

def schemaOrBoolToJSONProps (extra : Option (SchemaOrBool Schema)) :
    Option (Option (SchemaOrBool JSONSchemaProps)) :=
  extra |> onPointer fun schemaOrBool => do
    let schema ← onPointer convert schemaOrBool.schema
    pure ⟨schemaOrBool.allows, schema⟩

def schemPropsMapToJSONMap (schemaMap : List (String × Schema)) :
    Option (List (String × JSONSchemaProps)) :=
  schemaMap.mapM fun entry => (convert entry.2).map fun props => (entry.1, props)

def convertApplicators (applicators : Applicators Schema) :
    Option (Applicators JSONSchemaProps) := do
  let items ← schemaOrArrayToJSONItems convert applicators.items
  let allOf ← schemaPropsToJSONPropsArray convert applicators.allOf
  let oneOf ← schemaPropsToJSONPropsArray convert applicators.oneOf
  let anyOf ← schemaPropsToJSONPropsArray convert applicators.anyOf
  let negated ← onPointer convert applicators.not
  let properties ← schemPropsMapToJSONMap convert applicators.properties
  let patternProperties ← schemPropsMapToJSONMap convert applicators.patternProperties
  let additionalItems ← schemaOrBoolToJSONProps convert applicators.additionalItems
  pure ⟨items, additionalItems, allOf, oneOf, anyOf, negated, properties, patternProperties⟩

/-! The subschemas are converted one by one and keep their places. -/

theorem mapM_eq_some_iff {α β : Type} {step : α → Option β} {list : List α} {result : List β} :
    list.mapM step = some result ↔
      List.Forall₂ (fun first second => step first = some second) list result := by
  induction list generalizing result with
  | nil => simp [eq_comm]
  | cons first rest inductionHypothesis =>
      simp only [List.mapM_cons, Option.bind_eq_bind, Option.bind_eq_some_iff, Option.pure_def,
        Option.some.injEq, inductionHypothesis, List.forall₂_cons_left_iff]
      constructor
      · rintro ⟨second, head, others, tail, rfl⟩
        exact ⟨second, others, head, tail, rfl⟩
      · rintro ⟨second, others, head, tail, rfl⟩
        exact ⟨second, head, others, tail, rfl⟩

theorem onPointer_eq_some_iff {α β : Type} {step : α → Option β} {pointer : Option α}
    {result : Option β} :
    onPointer step pointer = some result ↔
      Option.Rel (fun first second => step first = some second) pointer result := by
  cases pointer with
  | none =>
      constructor
      · rintro ⟨⟩
        exact .none
      · rintro ⟨⟩
        rfl
  | some target =>
      simp only [onPointer, Option.map_eq_some_iff]
      constructor
      · rintro ⟨second, isSecond, rfl⟩
        exact .some isSecond
      · intro pair
        cases pair with
        | some isSecond => exact ⟨_, isSecond, rfl⟩

variable {convert}

theorem schemPropsMap_eq_some_iff {schemaMap : List (String × Schema)}
    {result : List (String × JSONSchemaProps)} :
    schemPropsMapToJSONMap convert schemaMap = some result ↔
      List.Forall₂ (EntryRel fun schema props => convert schema = some props) schemaMap result := by
  have entry : ∀ (entry : String × Schema) (named : String × JSONSchemaProps),
      ((convert entry.2).map fun props => (entry.1, props)) = some named ↔
        EntryRel (fun schema props => convert schema = some props) entry named := by
    rintro ⟨name, schema⟩ ⟨other, props⟩
    simp [EntryRel, Option.map_eq_some_iff, and_comm]
  simp only [schemPropsMapToJSONMap, mapM_eq_some_iff, entry]

theorem schemaOrArray_eq_some_iff {items : Option (SchemaOrArray Schema)}
    {result : Option (SchemaOrArray JSONSchemaProps)} :
    schemaOrArrayToJSONItems convert items = some result ↔
      Option.Rel (SchemaOrArray.Rel fun schema props => convert schema = some props) items
        result := by
  rw [schemaOrArrayToJSONItems, onPointer_eq_some_iff]
  apply iff_of_eq
  congr
  funext left right
  simp only [Option.bind_eq_bind, Option.bind_eq_some_iff, onPointer_eq_some_iff,
    schemaPropsToJSONPropsArray, mapM_eq_some_iff, Option.pure_def, Option.some.injEq]
  apply propext
  constructor
  · rintro ⟨schema, isSchema, schemas, areSchemas, rfl⟩
    exact ⟨isSchema, areSchemas⟩
  · intro shape
    exact ⟨_, shape.schema, _, shape.schemas, rfl⟩

theorem schemaOrBool_eq_some_iff {extra : Option (SchemaOrBool Schema)}
    {result : Option (SchemaOrBool JSONSchemaProps)} :
    schemaOrBoolToJSONProps convert extra = some result ↔
      Option.Rel (SchemaOrBool.Rel fun schema props => convert schema = some props) extra
        result := by
  rw [schemaOrBoolToJSONProps, onPointer_eq_some_iff]
  apply iff_of_eq
  congr
  funext left right
  simp only [Option.bind_eq_bind, Option.bind_eq_some_iff, onPointer_eq_some_iff, Option.pure_def,
    Option.some.injEq]
  apply propext
  constructor
  · rintro ⟨schema, isSchema, rfl⟩
    exact ⟨rfl, isSchema⟩
  · intro shape
    exact ⟨_, shape.schema, by rw [shape.allows]⟩

theorem convertApplicators_eq_some_iff {applicators : Applicators Schema}
    {result : Applicators JSONSchemaProps} :
    convertApplicators convert applicators = some result ↔
      applicators.Rel (fun schema props => convert schema = some props) result := by
  simp only [convertApplicators, Option.bind_eq_bind, Option.bind_eq_some_iff,
    schemaOrArray_eq_some_iff, schemaPropsToJSONPropsArray, mapM_eq_some_iff,
    onPointer_eq_some_iff, schemPropsMap_eq_some_iff, schemaOrBool_eq_some_iff,
    Option.pure_def, Option.some.injEq]
  constructor
  · rintro ⟨items, isItems, allOf, isAllOf, oneOf, isOneOf, anyOf, isAnyOf, negated, isNegated,
      properties, areProperties, patterns, arePatterns, extra, isExtra, rfl⟩
    exact ⟨isItems, isExtra, isAllOf, isOneOf, isAnyOf, isNegated, areProperties, arePatterns⟩
  · intro shape
    exact ⟨_, shape.items, _, shape.allOf, _, shape.oneOf, _, shape.anyOf, _, shape.not, _,
      shape.properties, _, shape.patternProperties, _, shape.additionalItems, rfl⟩

end Subschemas

/-- `AdditionalProperties` and `Dependencies` are not copied. -/
def schemaPropsToJSONProps (sprint : Json → String) (openapiSpec : OpenAPISpec) (nested : Bool) :
    Nat → Schema → Option JSONSchemaProps
  | 0, _ => none
  | depth + 1, schema =>
      if schema.props.ref ≠ "" ∧ nested = true then
        schemaPropsToJSONProps sprint openapiSpec nested depth (openapiSpec.get schema.props.ref)
      else do
        let applicators ← convertApplicators
          (schemaPropsToJSONProps sprint openapiSpec nested depth) schema.props.applicators
        pure (.mk {
          ref := if schema.props.ref ≠ "" then some schema.props.ref else none
          type := stringOrArrayToString schema.props.type
          enum := enumJSON sprint schema.props.enum
          keywords := schema.props.keywords
          applicators })

section Depth

variable {sprint : Json → String} {openapiSpec : OpenAPISpec} {depth : Nat} {schema : Schema}
  {props : JSONSchemaProps}

/-- What the conversion returns for a schema without reference. -/
def converted (sprint : Json → String) (props : SchemaProps Schema)
    (applicators : Applicators JSONSchemaProps) : JSONSchemaProps :=
  .mk {
    type := stringOrArrayToString props.type
    enum := enumJSON sprint props.enum
    keywords := props.keywords
    applicators }

theorem convert_ref (isRef : schema.props.ref ≠ "") :
    schemaPropsToJSONProps sprint openapiSpec true (depth + 1) schema =
      schemaPropsToJSONProps sprint openapiSpec true depth
        (openapiSpec.get schema.props.ref) := by
  rw [schemaPropsToJSONProps, if_pos ⟨isRef, rfl⟩]

theorem convert_plain_iff (plain : schema.props.ref = "") :
    schemaPropsToJSONProps sprint openapiSpec true (depth + 1) schema = some props ↔
      ∃ applicators, schema.props.applicators.Rel (fun sub result =>
          schemaPropsToJSONProps sprint openapiSpec true depth sub = some result) applicators ∧
        converted sprint schema.props applicators = props := by
  rw [schemaPropsToJSONProps, if_neg fun isRef => isRef.1 plain]
  simp only [Option.bind_eq_bind, Option.bind_eq_some_iff, convertApplicators_eq_some_iff,
    Option.pure_def, Option.some.injEq, plain, ne_eq, not_true, if_false, converted]

theorem convert_succ
    (returned : schemaPropsToJSONProps sprint openapiSpec true depth schema = some props) :
    schemaPropsToJSONProps sprint openapiSpec true (depth + 1) schema = some props := by
  induction depth generalizing schema props with
  | zero => cases returned
  | succ depth inductionHypothesis =>
      by_cases plain : schema.props.ref = ""
      · rw [convert_plain_iff plain] at returned ⊢
        obtain ⟨applicators, shape, isResult⟩ := returned
        exact ⟨applicators, shape.imp fun _ _ => inductionHypothesis, isResult⟩
      · rw [convert_ref plain] at returned ⊢
        exact inductionHypothesis returned

theorem convert_le {more : Nat} (enough : depth ≤ more)
    (returned : schemaPropsToJSONProps sprint openapiSpec true depth schema = some props) :
    schemaPropsToJSONProps sprint openapiSpec true more schema = some props := by
  induction enough with
  | refl => exact returned
  | step _ inductionHypothesis => exact convert_succ inductionHypothesis

/-- The conversion of a schema calls itself for what is referred to, or for the
subschemas. -/
def Visits (openapiSpec : OpenAPISpec) (sub schema : Schema) : Prop :=
  if schema.props.ref = "" then sub ∈ schema.props.applicators.children
  else sub = openapiSpec.get schema.props.ref

theorem acc_of_convert
    (returned : schemaPropsToJSONProps sprint openapiSpec true depth schema = some props) :
    Acc (Visits openapiSpec) schema := by
  induction depth generalizing schema props with
  | zero => cases returned
  | succ depth inductionHypothesis =>
      constructor
      intro sub visits
      by_cases plain : schema.props.ref = ""
      · rw [Visits, if_pos plain] at visits
        obtain ⟨applicators, shape, _⟩ := (convert_plain_iff plain).mp returned
        obtain ⟨result, isResult⟩ := Applicators.each_iff.mp shape.each sub visits
        exact inductionHypothesis isResult
      · rw [Visits, if_neg plain] at visits
        rw [convert_ref plain, ← visits] at returned
        exact inductionHypothesis returned

/-- One depth is enough for all of finitely many schemas. -/
theorem exists_depth {schemas : List Schema}
    (each : ∀ sub ∈ schemas, ∃ depth result,
      schemaPropsToJSONProps sprint openapiSpec true depth sub = some result) :
    ∃ depth, ∀ sub ∈ schemas, ∃ result,
      schemaPropsToJSONProps sprint openapiSpec true depth sub = some result := by
  induction schemas with
  | nil => exact ⟨0, by simp⟩
  | cons first rest inductionHypothesis =>
      obtain ⟨head, headResult, isHead⟩ := each first List.mem_cons_self
      obtain ⟨tail, inTail⟩ := inductionHypothesis fun sub member =>
        each sub (List.mem_cons_of_mem _ member)
      refine ⟨max head tail, fun sub member => ?_⟩
      rcases List.mem_cons.mp member with rfl | later
      · exact ⟨headResult, convert_le (Nat.le_max_left _ _) isHead⟩
      · obtain ⟨result, isResult⟩ := inTail sub later
        exact ⟨result, convert_le (Nat.le_max_right _ _) isResult⟩

theorem convert_of_acc (acc : Acc (Visits openapiSpec) schema) :
    ∃ depth result, schemaPropsToJSONProps sprint openapiSpec true depth schema = some result := by
  induction acc with
  | intro schema _ inductionHypothesis =>
      by_cases plain : schema.props.ref = ""
      · have visited : ∀ sub ∈ schema.props.applicators.children, ∃ depth result,
            schemaPropsToJSONProps sprint openapiSpec true depth sub = some result :=
          fun sub member => inductionHypothesis sub (by rwa [Visits, if_pos plain])
        obtain ⟨depth, each⟩ := exists_depth visited
        obtain ⟨applicators, shape⟩ := (Applicators.each_iff.mpr each).exists_rel
        exact ⟨depth + 1, _, (convert_plain_iff plain).mpr ⟨applicators, shape, rfl⟩⟩
      · obtain ⟨depth, result, isResult⟩ :=
          inductionHypothesis (openapiSpec.get schema.props.ref) (by rw [Visits, if_neg plain])
        exact ⟨depth + 1, result, by rw [convert_ref plain, isResult]⟩

/-- The predicate holds of every schema without reference that the conversion
comes to. -/
inductive Throughout (openapiSpec : OpenAPISpec) (good : Schema → Prop) : Schema → Prop where
  | ref {schema : Schema} (isRef : schema.props.ref ≠ "")
      (target : Throughout openapiSpec good (openapiSpec.get schema.props.ref)) :
      Throughout openapiSpec good schema
  | plain {schema : Schema} (noRef : schema.props.ref = "") (here : good schema)
      (each : ∀ sub ∈ schema.props.applicators.children, Throughout openapiSpec good sub) :
      Throughout openapiSpec good schema

/-- Induction over the calls of the conversion: a relation between schemas and
results holds of a call if it holds of the calls that are made in it. -/
theorem convert_induction {good : Schema → Prop} (relates : Schema → JSONSchemaProps → Prop)
    (ofRef : ∀ schema props, schema.props.ref ≠ "" →
      relates (openapiSpec.get schema.props.ref) props → relates schema props)
    (ofPlain : ∀ schema applicators, schema.props.ref = "" → good schema →
      schema.props.applicators.Rel relates applicators →
        relates schema (converted sprint schema.props applicators))
    (throughout : Throughout openapiSpec good schema)
    (returned : schemaPropsToJSONProps sprint openapiSpec true depth schema = some props) :
    relates schema props := by
  induction depth generalizing schema props with
  | zero => cases returned
  | succ depth inductionHypothesis =>
      cases throughout with
      | ref isRef target =>
          rw [convert_ref isRef] at returned
          exact ofRef schema props isRef (inductionHypothesis target returned)
      | plain noRef here each =>
          obtain ⟨applicators, shape, rfl⟩ := (convert_plain_iff noRef).mp returned
          apply ofPlain schema applicators noRef here
          apply (shape.and (Applicators.each_iff.mpr each)).imp
          rintro sub result ⟨inSub, isResult⟩
          exact inductionHypothesis inSub isResult

end Depth

/-! ### Generation -/

def intOrString : String := "k8s.io/apimachinery/pkg/util/intstr.IntOrString"

def intOrStringSchema : Schema :=
  .mk { applicators := { anyOf := [.mk { type := ["string"] }, .mk { type := ["integer"] }] } }

def fixKnownTypes (openapiSpec : OpenAPISpec) : OpenAPISpec :=
  (intOrString, intOrStringSchema) :: openapiSpec.filter fun entry => entry.1 != intOrString

def getCustomResourceValidation (sprint : Json → String) (name : String)
    (openapiSpec : OpenAPISpec) (depth : Nat) : Option JSONSchemaProps :=
  schemaPropsToJSONProps sprint (fixKnownTypes openapiSpec) true depth
    ((fixKnownTypes openapiSpec).get name)

end MXNetOperator.Crd
