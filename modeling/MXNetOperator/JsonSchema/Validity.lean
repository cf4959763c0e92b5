import Mathlib.Data.List.Forall2
import Mathlib.Data.Option.Basic
import Mathlib.Algebra.Order.Ring.Rat

/-!
Contract: what a JSON schema says about a value.

A schema has keywords that look at the value alone and applicators that look at
it through subschemas.  `Applicators` is generic in the subschemas: what it says
is stated for any reading of them, so that schema languages with and without
references share one meaning.

`Applicators.Rel` relates two schemas that have the same shape and related
subschemas.  `Rel.transfer` is the rule for translations of schemas: validity
passes from one side to the other, and only `not` and `oneOf` need the way back.
-/

namespace MXNetOperator.JsonSchema

/-- A JSON value; the members of an object are in the order of their names. -/
inductive Json where
  | null
  | bool (value : Bool)
  | number (value : Rat)
  | string (text : String)
  | array (elements : List Json)
  | object (members : List (String × Json))

def Json.hasType : Json → String → Bool
  | .null, name => name == "null"
  | .bool _, name => name == "boolean"
  | .number value, name => name == "number" || (name == "integer" && value.isInt)
  | .string _, name => name == "string"
  | .array _, name => name == "array"
  | .object _, name => name == "object"

/-- What validators do not agree on: the formats they know, their regular
expressions, and how they read the text of a literal. -/
structure Dialect where
  hasFormat : String → Json → Prop
  hasPattern : String → String → Prop
  decode : String → Option Json

/-! ### Keywords without subschemas -/

structure Keywords where
  id : String := ""
  schemaURL : String := ""
  description : String := ""
  format : String := ""
  title : String := ""
  maximum : Option Rat := none
  exclusiveMaximum : Bool := false
  minimum : Option Rat := none
  exclusiveMinimum : Bool := false
  maxLength : Option Int := none
  minLength : Option Int := none
  pattern : String := ""
  maxItems : Option Int := none
  minItems : Option Int := none
  uniqueItems : Bool := false
  multipleOf : Option Rat := none
  maxProperties : Option Int := none
  minProperties : Option Int := none
  required : List String := []

/-- A size is within the bounds that are given. -/
def Within (least most : Option Int) (size : Nat) : Prop :=
  (∀ bound ∈ least, bound ≤ size) ∧ ∀ bound ∈ most, (size : Int) ≤ bound

structure Keywords.ValidNumber (keywords : Keywords) (value : Rat) : Prop where
  maximum : ∀ bound ∈ keywords.maximum,
    if keywords.exclusiveMaximum then value < bound else value ≤ bound
  minimum : ∀ bound ∈ keywords.minimum,
    if keywords.exclusiveMinimum then bound < value else bound ≤ value
  multipleOf : ∀ unit ∈ keywords.multipleOf, ∃ factor : Int, value = factor * unit

structure Keywords.ValidText (dialect : Dialect) (keywords : Keywords) (text : String) : Prop where
  length : Within keywords.minLength keywords.maxLength text.length
  pattern : keywords.pattern = "" ∨ dialect.hasPattern keywords.pattern text

structure Keywords.ValidElements (keywords : Keywords) (elements : List Json) : Prop where
  length : Within keywords.minItems keywords.maxItems elements.length
  unique : keywords.uniqueItems = true → elements.Nodup

structure Keywords.ValidMembers (keywords : Keywords) (members : List (String × Json)) : Prop where
  length : Within keywords.minProperties keywords.maxProperties members.length
  required : ∀ name ∈ keywords.required, name ∈ members.map Prod.fst

def Keywords.Valid (dialect : Dialect) (keywords : Keywords) (value : Json) : Prop :=
  (keywords.format = "" ∨ dialect.hasFormat keywords.format value) ∧
    match value with
    | .number number => keywords.ValidNumber number
    | .string text => keywords.ValidText dialect text
    | .array elements => keywords.ValidElements elements
    | .object members => keywords.ValidMembers members
    | _ => True

theorem within_none (size : Nat) : Within none none size := by
  constructor <;> simp

section Keywords

variable {dialect : Dialect} {description : String}

theorem Keywords.valid_format_iff {format : String} {value : Json} :
    Keywords.Valid dialect { description, format } value ↔
      format = "" ∨ dialect.hasFormat format value := by
  constructor
  · intro holds
    exact holds.1
  · intro formatted
    refine ⟨formatted, ?_⟩
    cases value with
    | number value => constructor <;> simp
    | string text => exact ⟨within_none _, Or.inl rfl⟩
    | array elements => exact ⟨within_none _, by simp⟩
    | object members => exact ⟨within_none _, by simp⟩
    | _ => trivial

theorem Keywords.valid_object_iff {required : List String} {members : List (String × Json)} :
    Keywords.Valid dialect { description, required } (.object members) ↔
      ∀ name ∈ required, name ∈ members.map Prod.fst := by
  constructor
  · intro holds
    exact holds.2.required
  · intro present
    exact ⟨Or.inl rfl, within_none _, present⟩

end Keywords

/-! ### Keywords with subschemas -/

/-- One schema for all elements of an array, or one for each of the first. -/
structure SchemaOrArray (Sub : Type) where
  schema : Option Sub := none
  schemas : List Sub := []

/-- A schema for what is left, or whether anything may be left. -/
structure SchemaOrBool (Sub : Type) where
  allows : Bool := false
  schema : Option Sub := none

structure Applicators (Sub : Type) where
  items : Option (SchemaOrArray Sub) := none
  additionalItems : Option (SchemaOrBool Sub) := none
  allOf : List Sub := []
  oneOf : List Sub := []
  anyOf : List Sub := []
  not : Option Sub := none
  properties : List (String × Sub) := []
  patternProperties : List (String × Sub) := []

/-- Exactly one member of the list satisfies the predicate. -/
def ExactlyOne {α : Type} (satisfies : α → Prop) : List α → Prop
  | [] => False
  | first :: rest =>
      (satisfies first ∧ ∀ other ∈ rest, ¬ satisfies other) ∨
        (¬ satisfies first ∧ ExactlyOne satisfies rest)

section Validity

variable {Sub : Type} (valid : Sub → Json → Prop)

def SchemaOrBool.Valid (extra : SchemaOrBool Sub) (value : Json) : Prop :=
  match extra.schema with
  | some schema => valid schema value
  | none => extra.allows = true

structure SchemaOrArray.Valid (items : SchemaOrArray Sub)
    (additionalItems : Option (SchemaOrBool Sub)) (elements : List Json) : Prop where
  schema : items.schemas = [] → ∀ schema ∈ items.schema, ∀ element ∈ elements, valid schema element
  schemas : ∀ pair ∈ items.schemas.zip elements, valid pair.1 pair.2
  additional : items.schemas ≠ [] → ∀ extra ∈ additionalItems,
    ∀ element ∈ elements.drop items.schemas.length, extra.Valid valid element

structure Applicators.Valid (dialect : Dialect) (applicators : Applicators Sub) (value : Json) :
    Prop where
  items : ∀ elements, value = .array elements → ∀ items ∈ applicators.items,
    items.Valid valid applicators.additionalItems elements
  allOf : ∀ schema ∈ applicators.allOf, valid schema value
  oneOf : applicators.oneOf ≠ [] → ExactlyOne (valid · value) applicators.oneOf
  anyOf : applicators.anyOf ≠ [] → ∃ schema ∈ applicators.anyOf, valid schema value
  not : ∀ schema ∈ applicators.not, ¬ valid schema value
  properties : ∀ members, value = .object members → ∀ entry ∈ applicators.properties,
    ∀ member ∈ members, member.1 = entry.1 → valid entry.2 member.2
  patternProperties : ∀ members, value = .object members →
    ∀ entry ∈ applicators.patternProperties, ∀ member ∈ members,
      dialect.hasPattern entry.1 member.1 → valid entry.2 member.2

section Forms

variable {valid} {dialect : Dialect} {value : Json}

theorem Applicators.valid_none : Applicators.Valid valid dialect {} value := by
  constructor <;> simp

theorem Applicators.valid_properties_iff {properties : List (String × Sub)} :
    Applicators.Valid valid dialect { properties } value ↔
      ∀ members, value = .object members → ∀ entry ∈ properties, ∀ member ∈ members,
        member.1 = entry.1 → valid entry.2 member.2 := by
  constructor
  · intro holds
    exact holds.properties
  · intro each
    constructor
    case properties => exact each
    all_goals simp

theorem Applicators.valid_items_iff {schema : Sub} :
    Applicators.Valid valid dialect { items := some { schema := some schema } } value ↔
      ∀ elements, value = .array elements → ∀ element ∈ elements, valid schema element := by
  constructor
  · intro holds elements isArray
    exact (holds.items elements isArray _ rfl).schema rfl schema rfl
  · intro each
    constructor
    case items =>
      intro elements isArray items isItems
      cases isItems
      constructor
      case schema =>
        intro _ other isSchema
        cases isSchema
        exact each elements isArray
      all_goals simp
    all_goals simp

end Forms

end Validity

/-! ### Schemas of the same shape -/

section Relation

variable {Sub Other : Type}

def EntryRel (related : Sub → Other → Prop) (left : String × Sub) (right : String × Other) : Prop :=
  left.1 = right.1 ∧ related left.2 right.2

structure SchemaOrArray.Rel (related : Sub → Other → Prop) (left : SchemaOrArray Sub)
    (right : SchemaOrArray Other) : Prop where
  schema : Option.Rel related left.schema right.schema
  schemas : List.Forall₂ related left.schemas right.schemas

structure SchemaOrBool.Rel (related : Sub → Other → Prop) (left : SchemaOrBool Sub)
    (right : SchemaOrBool Other) : Prop where
  allows : left.allows = right.allows
  schema : Option.Rel related left.schema right.schema

structure Applicators.Rel (related : Sub → Other → Prop) (left : Applicators Sub)
    (right : Applicators Other) : Prop where
  items : Option.Rel (SchemaOrArray.Rel related) left.items right.items
  additionalItems : Option.Rel (SchemaOrBool.Rel related) left.additionalItems right.additionalItems
  allOf : List.Forall₂ related left.allOf right.allOf
  oneOf : List.Forall₂ related left.oneOf right.oneOf
  anyOf : List.Forall₂ related left.anyOf right.anyOf
  not : Option.Rel related left.not right.not
  properties : List.Forall₂ (EntryRel related) left.properties right.properties
  patternProperties : List.Forall₂ (EntryRel related) left.patternProperties right.patternProperties

theorem mem_of_forall₂ {related : Sub → Other → Prop} {left : List Sub} {right : List Other}
    (pairs : List.Forall₂ related left right) :
    ∀ second ∈ right, ∃ first ∈ left, related first second := by
  induction pairs with
  | nil => simp
  | cons head _ inductionHypothesis =>
      intro second member
      rcases List.mem_cons.mp member with rfl | later
      · exact ⟨_, List.mem_cons_self, head⟩
      · obtain ⟨first, isMember, isRelated⟩ := inductionHypothesis second later
        exact ⟨first, List.mem_cons_of_mem _ isMember, isRelated⟩

theorem mem_of_optionRel {related : Sub → Other → Prop} {left : Option Sub} {right : Option Other}
    (pair : Option.Rel related left right) :
    ∀ second ∈ right, ∃ first ∈ left, related first second := by
  intro second member
  cases pair with
  | none => cases member
  | some isRelated =>
      cases Option.mem_some_iff.mp member
      exact ⟨_, rfl, isRelated⟩

theorem eq_nil_of_forall₂ {related : Sub → Other → Prop} {left : List Sub} {right : List Other}
    (pairs : List.Forall₂ related left right) (empty : right = []) : left = [] := by
  subst empty
  exact List.forall₂_nil_right_iff.mp pairs

theorem mem_zip_of_forall₂ {related : Sub → Other → Prop} {left : List Sub} {right : List Other}
    (pairs : List.Forall₂ related left right) (elements : List Json) :
    ∀ pair ∈ right.zip elements, ∃ first, (first, pair.2) ∈ left.zip elements ∧
      related first pair.1 := by
  induction pairs generalizing elements with
  | nil => simp
  | cons head _ inductionHypothesis =>
      intro pair member
      cases elements with
      | nil => cases member
      | cons element rest =>
          rw [List.zip_cons_cons] at member
          rcases List.mem_cons.mp member with rfl | later
          · exact ⟨_, List.mem_cons_self, head⟩
          · obtain ⟨first, isMember, isRelated⟩ := inductionHypothesis rest pair later
            exact ⟨first, List.mem_cons_of_mem _ isMember, isRelated⟩

theorem exactlyOne_of_forall₂ {related : Sub → Other → Prop} {left : List Sub} {right : List Other}
    {satisfies : Sub → Prop} {other : Other → Prop}
    (same : ∀ first second, related first second → (satisfies first ↔ other second))
    (pairs : List.Forall₂ related left right) (one : ExactlyOne satisfies left) :
    ExactlyOne other right := by
  induction pairs with
  | nil => exact one
  | cons head tail inductionHypothesis =>
      rcases one with ⟨here, nowhere⟩ | ⟨notHere, later⟩
      · left
        refine ⟨(same _ _ head).mp here, fun second member holds => ?_⟩
        obtain ⟨first, isMember, isRelated⟩ := mem_of_forall₂ tail second member
        exact nowhere first isMember ((same _ _ isRelated).mpr holds)
      · right
        exact ⟨fun holds => notHere ((same _ _ head).mpr holds), inductionHypothesis later⟩

section Transfer

variable {related : Sub → Other → Prop} {valid : Sub → Json → Prop} {other : Other → Json → Prop}
  (forward : ∀ first second, related first second → ∀ value, valid first value → other second value)
include forward

theorem SchemaOrBool.Rel.transfer {left : SchemaOrBool Sub} {right : SchemaOrBool Other}
    (shape : left.Rel related right) {value : Json} (holds : left.Valid valid value) :
    right.Valid other value := by
  obtain ⟨leftAllows, leftSchema⟩ := left
  obtain ⟨rightAllows, rightSchema⟩ := right
  obtain ⟨rfl, schema⟩ := shape
  cases schema with
  | none => exact holds
  | some isRelated => exact forward _ _ isRelated value holds

theorem SchemaOrArray.Rel.transfer {left : SchemaOrArray Sub} {right : SchemaOrArray Other}
    {leftExtra : Option (SchemaOrBool Sub)} {rightExtra : Option (SchemaOrBool Other)}
    (shape : left.Rel related right) (extraShape : Option.Rel (SchemaOrBool.Rel related) leftExtra
      rightExtra) {elements : List Json} (holds : left.Valid valid leftExtra elements) :
    right.Valid other rightExtra elements where
  schema := by
    intro empty second member element isElement
    obtain ⟨first, isFirst, isRelated⟩ := mem_of_optionRel shape.schema second member
    apply forward first second isRelated
    exact holds.schema (eq_nil_of_forall₂ shape.schemas empty) first isFirst element isElement
  schemas := by
    intro pair member
    obtain ⟨first, isMember, isRelated⟩ := mem_zip_of_forall₂ shape.schemas elements pair member
    exact forward first pair.1 isRelated pair.2 (holds.schemas _ isMember)
  additional := by
    intro nonempty extra member element isElement
    obtain ⟨first, isFirst, isRelated⟩ := mem_of_optionRel extraShape extra member
    rw [← shape.schemas.length_eq] at isElement
    apply SchemaOrBool.Rel.transfer forward isRelated
    refine holds.additional (fun empty => nonempty ?_) first isFirst element isElement
    exact eq_nil_of_forall₂ shape.schemas.flip empty

theorem valid_of_entries {left : List (String × Sub)} {right : List (String × Other)}
    (pairs : List.Forall₂ (EntryRel related) left right) (selects : String → Prop) {value : Json}
    (holds : ∀ entry ∈ left, selects entry.1 → valid entry.2 value) :
    ∀ entry ∈ right, selects entry.1 → other entry.2 value := by
  intro entry member selected
  obtain ⟨first, isMember, sameName, isRelated⟩ := mem_of_forall₂ pairs entry member
  rw [← sameName] at selected
  exact forward first.2 entry.2 isRelated value (holds first isMember selected)

/-- Validity passes to a schema of the same shape if it passes to the
subschemas; under `oneOf` and `not` it must pass back as well. -/
theorem Applicators.Rel.transfer {left : Applicators Sub} {right : Applicators Other}
    (shape : left.Rel related right)
    (backward : left.oneOf ≠ [] ∨ left.not ≠ none →
      ∀ first second, related first second → ∀ value, other second value → valid first value)
    {dialect : Dialect} {value : Json} (holds : left.Valid valid dialect value) :
    right.Valid other dialect value where
  items := by
    intro elements isArray items member
    obtain ⟨first, isFirst, isRelated⟩ := mem_of_optionRel shape.items items member
    exact SchemaOrArray.Rel.transfer forward isRelated shape.additionalItems
      (holds.items elements isArray first isFirst)
  allOf := by
    intro second member
    obtain ⟨first, isMember, isRelated⟩ := mem_of_forall₂ shape.allOf second member
    exact forward first second isRelated value (holds.allOf first isMember)
  oneOf := by
    intro nonempty
    have nonemptyLeft : left.oneOf ≠ [] := fun empty =>
      nonempty (eq_nil_of_forall₂ shape.oneOf.flip empty)
    apply exactlyOne_of_forall₂ _ shape.oneOf (holds.oneOf nonemptyLeft)
    intro first second isRelated
    exact ⟨forward first second isRelated value,
      backward (Or.inl nonemptyLeft) first second isRelated value⟩
  anyOf := by
    intro nonempty
    obtain ⟨first, isMember, isValid⟩ := holds.anyOf fun empty =>
      nonempty (eq_nil_of_forall₂ shape.anyOf.flip empty)
    obtain ⟨second, isSecond, isRelated⟩ := mem_of_forall₂ shape.anyOf.flip first isMember
    exact ⟨second, isSecond, forward first second isRelated value isValid⟩
  not := by
    intro second member isValid
    obtain ⟨first, isFirst, isRelated⟩ := mem_of_optionRel shape.not second member
    have negated : left.not ≠ none := Option.ne_none_iff_exists'.mpr ⟨first, isFirst⟩
    exact holds.not first isFirst (backward (Or.inr negated) first second isRelated value isValid)
  properties := by
    intro members isObject entry isEntry member isMember sameName
    exact valid_of_entries forward shape.properties (member.1 = ·)
      (fun first isFirst selected =>
        holds.properties members isObject first isFirst member isMember selected)
      entry isEntry sameName
  patternProperties := by
    intro members isObject entry isEntry member isMember matched
    exact valid_of_entries forward shape.patternProperties (dialect.hasPattern · member.1)
      (fun first isFirst selected =>
        holds.patternProperties members isObject first isFirst member isMember selected)
      entry isEntry matched

end Transfer

/-! ### Subschemas -/

/-- The subschemas, wherever they stand. -/
def SchemaOrArray.children (items : SchemaOrArray Sub) : List Sub :=
  items.schema.toList ++ items.schemas

def Applicators.children (applicators : Applicators Sub) : List Sub :=
  applicators.items.toList.flatMap SchemaOrArray.children ++
    (applicators.additionalItems.toList.flatMap (·.schema.toList) ++ (applicators.allOf ++
      (applicators.oneOf ++ (applicators.anyOf ++ (applicators.not.toList ++
        (applicators.properties.map Prod.snd ++ applicators.patternProperties.map Prod.snd))))))

structure Applicators.Each (holds : Sub → Prop) (applicators : Applicators Sub) : Prop where
  items : ∀ items ∈ applicators.items, ∀ schema ∈ items.children, holds schema
  additionalItems : ∀ extra ∈ applicators.additionalItems, ∀ schema ∈ extra.schema, holds schema
  allOf : ∀ schema ∈ applicators.allOf, holds schema
  oneOf : ∀ schema ∈ applicators.oneOf, holds schema
  anyOf : ∀ schema ∈ applicators.anyOf, holds schema
  not : ∀ schema ∈ applicators.not, holds schema
  properties : ∀ entry ∈ applicators.properties, holds entry.2
  patternProperties : ∀ entry ∈ applicators.patternProperties, holds entry.2

theorem Applicators.each_iff {holds : Sub → Prop} {applicators : Applicators Sub} :
    applicators.Each holds ↔ ∀ schema ∈ applicators.children, holds schema := by
  simp only [Applicators.children, List.forall_mem_append, List.mem_flatMap, Option.mem_toList,
    List.forall_mem_map]
  constructor
  · intro each
    refine ⟨?_, ?_, each.allOf, each.oneOf, each.anyOf, each.not, each.properties,
      each.patternProperties⟩
    · rintro schema ⟨items, isItems, member⟩
      exact each.items items isItems schema member
    · rintro schema ⟨extra, isExtra, member⟩
      exact each.additionalItems extra isExtra schema member
  · rintro ⟨items, additionalItems, allOf, oneOf, anyOf, negated, properties, patternProperties⟩
    exact {
      items := fun each isEach schema member => items schema ⟨each, isEach, member⟩
      additionalItems := fun extra isExtra schema member =>
        additionalItems schema ⟨extra, isExtra, member⟩
      allOf, oneOf, anyOf, not := negated, properties, patternProperties }

theorem exists_forall₂ {related : Sub → Other → Prop} {left : List Sub}
    (each : ∀ first ∈ left, ∃ second, related first second) :
    ∃ right, List.Forall₂ related left right := by
  induction left with
  | nil => exact ⟨[], .nil⟩
  | cons first rest inductionHypothesis =>
      obtain ⟨second, head⟩ := each first List.mem_cons_self
      obtain ⟨right, tail⟩ := inductionHypothesis fun other member =>
        each other (List.mem_cons_of_mem _ member)
      exact ⟨second :: right, .cons head tail⟩

theorem exists_optionRel {related : Sub → Other → Prop} {left : Option Sub}
    (each : ∀ first ∈ left, ∃ second, related first second) :
    ∃ right, Option.Rel related left right := by
  cases left with
  | none => exact ⟨none, .none⟩
  | some first =>
      obtain ⟨second, isRelated⟩ := each first rfl
      exact ⟨some second, .some isRelated⟩

theorem exists_entries {related : Sub → Other → Prop} {left : List (String × Sub)}
    (each : ∀ entry ∈ left, ∃ second, related entry.2 second) :
    ∃ right, List.Forall₂ (EntryRel related) left right := by
  apply exists_forall₂
  intro entry member
  obtain ⟨second, isRelated⟩ := each entry member
  exact ⟨(entry.1, second), rfl, isRelated⟩

theorem SchemaOrArray.exists_rel {related : Sub → Other → Prop} (left : SchemaOrArray Sub)
    (each : ∀ first ∈ left.children, ∃ second, related first second) :
    ∃ right, left.Rel related right := by
  simp only [SchemaOrArray.children, List.forall_mem_append, Option.mem_toList] at each
  obtain ⟨schema, isSchema⟩ := exists_optionRel each.1
  obtain ⟨schemas, areSchemas⟩ := exists_forall₂ each.2
  exact ⟨⟨schema, schemas⟩, isSchema, areSchemas⟩

theorem SchemaOrBool.exists_rel {related : Sub → Other → Prop} (left : SchemaOrBool Sub)
    (each : ∀ first ∈ left.schema, ∃ second, related first second) :
    ∃ right, left.Rel related right := by
  obtain ⟨schema, isSchema⟩ := exists_optionRel each
  exact ⟨⟨left.allows, schema⟩, rfl, isSchema⟩

/-- A schema whose subschemas have counterparts has one of the same shape. -/
theorem Applicators.Each.exists_rel {related : Sub → Other → Prop} {left : Applicators Sub}
    (each : left.Each fun first => ∃ second, related first second) :
    ∃ right, left.Rel related right := by
  obtain ⟨items, isItems⟩ := exists_optionRel fun first member =>
    SchemaOrArray.exists_rel first (each.items first member)
  obtain ⟨extra, isExtra⟩ := exists_optionRel fun first member =>
    SchemaOrBool.exists_rel first (each.additionalItems first member)
  obtain ⟨allOf, isAllOf⟩ := exists_forall₂ each.allOf
  obtain ⟨oneOf, isOneOf⟩ := exists_forall₂ each.oneOf
  obtain ⟨anyOf, isAnyOf⟩ := exists_forall₂ each.anyOf
  obtain ⟨negated, isNegated⟩ := exists_optionRel each.not
  obtain ⟨properties, areProperties⟩ := exists_entries each.properties
  obtain ⟨patterns, arePatterns⟩ := exists_entries each.patternProperties
  exact ⟨⟨items, extra, allOf, oneOf, anyOf, negated, properties, patterns⟩,
    isItems, isExtra, isAllOf, isOneOf, isAnyOf, isNegated, areProperties, arePatterns⟩

theorem swap_optionRel {related : Sub → Other → Prop} {swapped : Other → Sub → Prop}
    {left : Option Sub} {right : Option Other} (pair : Option.Rel related left right)
    (swaps : ∀ first second, related first second → swapped second first) :
    Option.Rel swapped right left := by
  cases pair with
  | none => exact .none
  | some isRelated => exact .some (swaps _ _ isRelated)

theorem swap_entries {related : Sub → Other → Prop} {left : List (String × Sub)}
    {right : List (String × Other)} (pairs : List.Forall₂ (EntryRel related) left right) :
    List.Forall₂ (EntryRel fun second first => related first second) right left := by
  induction pairs with
  | nil => exact .nil
  | cons head _ inductionHypothesis => exact .cons ⟨head.1.symm, head.2⟩ inductionHypothesis

theorem Applicators.Rel.swap {related : Sub → Other → Prop} {left : Applicators Sub}
    {right : Applicators Other} (shape : left.Rel related right) :
    right.Rel (fun second first => related first second) left where
  items := swap_optionRel shape.items fun _ _ items =>
    ⟨swap_optionRel items.schema fun _ _ => id, items.schemas.flip⟩
  additionalItems := swap_optionRel shape.additionalItems fun _ _ extra =>
    ⟨extra.allows.symm, swap_optionRel extra.schema fun _ _ => id⟩
  allOf := shape.allOf.flip
  oneOf := shape.oneOf.flip
  anyOf := shape.anyOf.flip
  not := swap_optionRel shape.not fun _ _ => id
  properties := swap_entries shape.properties
  patternProperties := swap_entries shape.patternProperties

theorem imp_optionRel {related weaker : Sub → Other → Prop} {left : Option Sub}
    {right : Option Other} (pair : Option.Rel related left right)
    (implies : ∀ first second, related first second → weaker first second) :
    Option.Rel weaker left right := by
  cases pair with
  | none => exact .none
  | some isRelated => exact .some (implies _ _ isRelated)

theorem Applicators.Rel.imp {related weaker : Sub → Other → Prop} {left : Applicators Sub}
    {right : Applicators Other} (shape : left.Rel related right)
    (implies : ∀ first second, related first second → weaker first second) :
    left.Rel weaker right where
  items := imp_optionRel shape.items fun _ _ items =>
    ⟨imp_optionRel items.schema implies, items.schemas.imp implies⟩
  additionalItems := imp_optionRel shape.additionalItems fun _ _ extra =>
    ⟨extra.allows, imp_optionRel extra.schema implies⟩
  allOf := shape.allOf.imp implies
  oneOf := shape.oneOf.imp implies
  anyOf := shape.anyOf.imp implies
  not := imp_optionRel shape.not implies
  properties := shape.properties.imp fun _ _ entry => ⟨entry.1, implies _ _ entry.2⟩
  patternProperties := shape.patternProperties.imp fun _ _ entry => ⟨entry.1, implies _ _ entry.2⟩

theorem Applicators.Rel.each {related : Sub → Other → Prop} {left : Applicators Sub}
    {right : Applicators Other} (shape : left.Rel related right) :
    left.Each fun first => ∃ second, related first second where
  items := by
    intro items isItems first member
    obtain ⟨_, _, related⟩ := mem_of_optionRel shape.swap.items items isItems
    simp only [SchemaOrArray.children, List.mem_append, Option.mem_toList] at member
    rcases member with isSingle | isMember
    · exact (mem_of_optionRel related.schema first isSingle).imp fun _ pair => pair.2
    · exact (mem_of_forall₂ related.schemas first isMember).imp fun _ pair => pair.2
  additionalItems := by
    intro extra isExtra first member
    obtain ⟨_, _, related⟩ := mem_of_optionRel shape.swap.additionalItems extra isExtra
    exact (mem_of_optionRel related.schema first member).imp fun _ pair => pair.2
  allOf first member := (mem_of_forall₂ shape.swap.allOf first member).imp fun _ pair => pair.2
  oneOf first member := (mem_of_forall₂ shape.swap.oneOf first member).imp fun _ pair => pair.2
  anyOf first member := (mem_of_forall₂ shape.swap.anyOf first member).imp fun _ pair => pair.2
  not first member := (mem_of_optionRel shape.swap.not first member).imp fun _ pair => pair.2
  properties entry member :=
    (mem_of_forall₂ shape.swap.properties entry member).elim fun named pair => ⟨named.2, pair.2.2⟩
  patternProperties entry member :=
    (mem_of_forall₂ shape.swap.patternProperties entry member).elim fun named pair =>
      ⟨named.2, pair.2.2⟩

theorem and_optionRel {related : Sub → Other → Prop} {holds : Sub → Prop} {left : Option Sub}
    {right : Option Other} (each : ∀ first ∈ left, holds first)
    (pair : Option.Rel related left right) :
    Option.Rel (fun first second => holds first ∧ related first second) left right := by
  cases pair with
  | none => exact .none
  | some isRelated => exact .some ⟨each _ rfl, isRelated⟩

theorem and_entries {related : Sub → Other → Prop} {holds : Sub → Prop}
    {left : List (String × Sub)} {right : List (String × Other)}
    (each : ∀ entry ∈ left, holds entry.2) (pairs : List.Forall₂ (EntryRel related) left right) :
    List.Forall₂ (EntryRel fun first second => holds first ∧ related first second) left right :=
  ((List.forall₂_and_left _ _).mpr ⟨each, pairs⟩).imp fun _ _ pair => ⟨pair.2.1, pair.1, pair.2.2⟩

/-- What holds of each subschema may be used to relate it. -/
theorem Applicators.Rel.and {related : Sub → Other → Prop} {holds : Sub → Prop}
    {left : Applicators Sub} {right : Applicators Other} (shape : left.Rel related right)
    (each : left.Each holds) :
    left.Rel (fun first second => holds first ∧ related first second) right where
  items := by
    apply imp_optionRel (and_optionRel each.items shape.items)
    rintro items other ⟨all, isRelated⟩
    simp only [SchemaOrArray.children, List.forall_mem_append, Option.mem_toList] at all
    exact ⟨and_optionRel all.1 isRelated.schema,
      (List.forall₂_and_left _ _).mpr ⟨all.2, isRelated.schemas⟩⟩
  additionalItems := by
    apply imp_optionRel (and_optionRel each.additionalItems shape.additionalItems)
    rintro extra other ⟨all, isRelated⟩
    exact ⟨isRelated.allows, and_optionRel all isRelated.schema⟩
  allOf := (List.forall₂_and_left _ _).mpr ⟨each.allOf, shape.allOf⟩
  oneOf := (List.forall₂_and_left _ _).mpr ⟨each.oneOf, shape.oneOf⟩
  anyOf := (List.forall₂_and_left _ _).mpr ⟨each.anyOf, shape.anyOf⟩
  not := and_optionRel each.not shape.not
  properties := and_entries each.properties shape.properties
  patternProperties := and_entries each.patternProperties shape.patternProperties

theorem optionRel_self {related : Sub → Sub → Prop} {schema : Option Sub}
    (each : ∀ first ∈ schema, related first first) : Option.Rel related schema schema := by
  cases schema with
  | none => exact .none
  | some first => exact .some (each first rfl)

theorem Applicators.Each.rel_self {related : Sub → Sub → Prop} {applicators : Applicators Sub}
    (each : applicators.Each fun schema => related schema schema) :
    applicators.Rel related applicators where
  items := optionRel_self fun items isItems => by
    have both := each.items items isItems
    simp only [SchemaOrArray.children, List.forall_mem_append, Option.mem_toList] at both
    exact ⟨optionRel_self both.1, List.forall₂_same.mpr both.2⟩
  additionalItems := optionRel_self fun extra isExtra =>
    ⟨rfl, optionRel_self (each.additionalItems extra isExtra)⟩
  allOf := List.forall₂_same.mpr each.allOf
  oneOf := List.forall₂_same.mpr each.oneOf
  anyOf := List.forall₂_same.mpr each.anyOf
  not := optionRel_self each.not
  properties := List.forall₂_same.mpr fun entry member => ⟨rfl, each.properties entry member⟩
  patternProperties := List.forall₂_same.mpr fun entry member =>
    ⟨rfl, each.patternProperties entry member⟩

/-- Validity depends on the readings of the subschemas only. -/
theorem Applicators.Valid.congr {left right : Sub → Json → Prop} {dialect : Dialect}
    {applicators : Applicators Sub} {value : Json}
    (holds : applicators.Valid left dialect value)
    (same : ∀ schema ∈ applicators.children, ∀ value, left schema value ↔ right schema value) :
    applicators.Valid right dialect value := by
  have shape : applicators.Rel
      (fun first second => first = second ∧ first ∈ applicators.children) applicators :=
    (Applicators.each_iff.mpr fun schema member => ⟨rfl, member⟩).rel_self
  refine shape.transfer ?_ (fun _ => ?_) holds
  · rintro schema _ ⟨rfl, member⟩ value
    exact (same schema member value).mp
  · rintro schema _ ⟨rfl, member⟩ value
    exact (same schema member value).mpr

theorem SchemaOrBool.Valid.congr {left right : Sub → Json → Prop} {extra : SchemaOrBool Sub}
    {value : Json} (holds : extra.Valid left value)
    (same : ∀ schema ∈ extra.schema, ∀ value, left schema value → right schema value) :
    extra.Valid right value := by
  obtain ⟨allows, schema⟩ := extra
  cases schema with
  | none => exact holds
  | some schema => exact same schema rfl value holds

end Relation

section Size

variable {Sub : Type} [SizeOf Sub]

theorem sizeOf_lt_of_optionMem {schema : Sub} {option : Option Sub} (member : schema ∈ option) :
    sizeOf schema < sizeOf option := by
  cases Option.mem_def.mp member
  simp only [Option.some.sizeOf_spec]
  omega

theorem sizeOf_lt_of_entry {entry : String × Sub} {entries : List (String × Sub)}
    (member : entry ∈ entries) : sizeOf entry.2 < sizeOf entries := by
  have bound := List.sizeOf_lt_of_mem member
  obtain ⟨name, schema⟩ := entry
  simp only [Prod.mk.sizeOf_spec] at bound ⊢
  omega

theorem SchemaOrArray.sizeOf_lt {items : SchemaOrArray Sub} :
    ∀ schema ∈ items.children, sizeOf schema < sizeOf items := by
  obtain ⟨single, several⟩ := items
  intro schema member
  simp only [SchemaOrArray.children, List.mem_append, Option.mem_toList] at member
  rw [SchemaOrArray.mk.sizeOf_spec]
  rcases member with isSingle | isMember
  · have bound := sizeOf_lt_of_optionMem isSingle
    omega
  · have bound := List.sizeOf_lt_of_mem isMember
    omega

theorem SchemaOrBool.sizeOf_lt {extra : SchemaOrBool Sub} :
    ∀ schema ∈ extra.schema, sizeOf schema < sizeOf extra := by
  obtain ⟨allows, single⟩ := extra
  intro schema isSingle
  have bound : sizeOf schema < sizeOf single := sizeOf_lt_of_optionMem isSingle
  rw [SchemaOrBool.mk.sizeOf_spec]
  omega

theorem Applicators.sizeOf_lt {applicators : Applicators Sub} :
    ∀ schema ∈ applicators.children, sizeOf schema < sizeOf applicators := by
  rw [← Applicators.each_iff]
  obtain ⟨items, extra, allOf, oneOf, anyOf, negated, properties, patterns⟩ := applicators
  constructor
  all_goals simp only [Applicators.mk.sizeOf_spec]
  · intro items isItems schema member
    have inItems := SchemaOrArray.sizeOf_lt schema member
    have bound := sizeOf_lt_of_optionMem isItems
    omega
  · intro extra isExtra schema member
    have inExtra := SchemaOrBool.sizeOf_lt schema member
    have bound := sizeOf_lt_of_optionMem isExtra
    omega
  · intro schema member
    have bound := List.sizeOf_lt_of_mem member
    omega
  · intro schema member
    have bound := List.sizeOf_lt_of_mem member
    omega
  · intro schema member
    have bound := List.sizeOf_lt_of_mem member
    omega
  · intro schema member
    have bound := sizeOf_lt_of_optionMem member
    omega
  · intro entry member
    have bound := sizeOf_lt_of_entry member
    omega
  · intro entry member
    have bound := sizeOf_lt_of_entry member
    omega

end Size

/-! ### Meaning by recursion -/

section Meaning

variable {Sub : Type} {next : Sub → Sub → Prop}

/-- The meaning of the schemas of a language, from what a schema says in terms of
the schemas next to it. -/
def meaning (wellFounded : WellFounded next)
    (check : (Sub → Json → Prop) → Sub → Json → Prop) : Sub → Json → Prop :=
  wellFounded.fix fun schema known =>
    check (fun sub value => ∃ isNext : next sub schema, known sub isNext value) schema

/-- The recursion is the equation one expects if a schema looks at the schemas
next to it only. -/
theorem meaning_iff {wellFounded : WellFounded next}
    {check : (Sub → Json → Prop) → Sub → Json → Prop}
    (inward : ∀ schema (left right : Sub → Json → Prop),
      (∀ sub, next sub schema → ∀ value, left sub value ↔ right sub value) →
        ∀ value, check left schema value → check right schema value)
    (schema : Sub) (value : Json) :
    meaning wellFounded check schema value ↔
      check (meaning wellFounded check) schema value := by
  have same : ∀ sub, next sub schema → ∀ value,
      (∃ _ : next sub schema, meaning wellFounded check sub value) ↔
        meaning wellFounded check sub value :=
    fun sub isNext value => ⟨fun known => known.2, fun holds => ⟨isNext, holds⟩⟩
  conv_lhs => rw [meaning, WellFounded.fix_eq]
  exact ⟨inward schema _ _ same value,
    inward schema _ _ (fun sub isNext value => (same sub isNext value).symm) value⟩

end Meaning

end MXNetOperator.JsonSchema
