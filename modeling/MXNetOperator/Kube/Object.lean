import Mathlib.Data.List.AList

/-!
Contract: the Kubernetes objects the operator reads and writes.

Owns:
- object metadata, owner references, pods, pod templates and services, reduced
  to the fields some modelled function reads or writes;
- API errors and the error values Go code passes on;
- label selectors, with the validation that building one performs.

All objects live in one namespace, the one of the job under consideration.
-/

namespace MXNetOperator.Kube

abbrev UID := Nat

/-- `metav1.Time` in whole seconds; texts have the number. -/
abbrev Time := Nat

/-- A Go `map[string]string`: at most one value per key. -/
abbrev Labels := AList fun _ : String => String

structure OwnerReference where
  apiVersion : String
  kind : String
  name : String
  uid : UID
  controller : Option Bool
  blockOwnerDeletion : Option Bool
deriving DecidableEq

/-- The part of `metav1.ObjectMeta` shared by pods, services and jobs. -/
structure ObjectMeta where
  name : String
  ns : String
  uid : UID
  labels : Labels
  ownerReferences : List OwnerReference
  deletionTimestamp : Option Time
deriving DecidableEq

/-- `metav1.GetControllerOf`: the first reference marked as controller. -/
def getControllerOf (object : ObjectMeta) : Option OwnerReference :=
  object.ownerReferences.find? fun reference => reference.controller == some true

/-- Whether the controller reference of `object` is the object with this uid. -/
def ObjectMeta.controlledBy (object : ObjectMeta) (owner : UID) : Bool :=
  (getControllerOf object).any fun reference => reference.uid == owner

/-! ### Pods and services -/

inductive PodPhase where
  | pending
  | running
  | succeeded
  | failed
  | unknown
deriving DecidableEq, Repr

structure EnvVar where
  name : String
  value : String
deriving DecidableEq

structure Container where
  env : List EnvVar
deriving DecidableEq

/-- `v1.PodTemplateSpec`; `labels = none` is Go's nil map. -/
structure PodTemplateSpec where
  labels : Option Labels
  containers : List Container
deriving DecidableEq

structure Pod extends ObjectMeta where
  containers : List Container
  phase : PodPhase
deriving DecidableEq

structure ServicePort where
  name : String
  port : Int32
deriving DecidableEq

structure Service extends ObjectMeta where
  selector : Labels
  ports : List ServicePort
deriving DecidableEq

/-- `controller.IsPodActive`. -/
def isPodActive (pod : Pod) : Bool :=
  pod.phase != .succeeded && pod.phase != .failed && pod.deletionTimestamp.isNone

/-- `controller.FilterActivePods`. -/
def filterActivePods (pods : List Pod) : List Pod :=
  pods.filter isPodActive

/-! ### Errors -/

/-- `metav1.StatusReason`. -/
inductive StatusReason where
  | unknown
  | unauthorized
  | forbidden
  | notFound
  | alreadyExists
  | conflict
  | gone
  | invalid
  | serverTimeout
  | timeout
  | tooManyRequests
  | badRequest
  | methodNotAllowed
  | internalError
  | expired
  | serviceUnavailable
deriving DecidableEq, Repr

/-- An error as the API client returns it.  Transport failures carry no status
and count as `unknown`. -/
structure ApiError where
  reason : StatusReason
  message : String
deriving DecidableEq

/-- A Go error value: an API status error, an error made with `fmt.Errorf`, or
an aggregate.  Only the first keeps a status reason. -/
inductive GoError where
  | status (error : ApiError)
  | plain (message : String)
  | aggregate (messages : List String)
deriving DecidableEq

def GoError.text : GoError → String
  | .status error => error.message
  | .plain message => message
  | .aggregate [] => ""
  | .aggregate [message] => message
  | .aggregate messages => "[" ++ ", ".intercalate messages ++ "]"

/-- `errors.ReasonForError`. -/
def reasonForError : GoError → StatusReason
  | .status error => error.reason
  | .plain _ => .unknown
  | .aggregate _ => .unknown

def isNotFound (error : GoError) : Bool := reasonForError error == .notFound

def isInvalid (error : GoError) : Bool := reasonForError error == .invalid

def isTimeout (error : GoError) : Bool := reasonForError error == .timeout

/-- `utilerrors.NewAggregate`: nil for the empty list. -/
def newAggregate : List GoError → Option GoError
  | [] => none
  | errors => some (.aggregate (errors.map GoError.text))

/-! ### Label selectors -/

/-- The regular expression of qualified names without a domain part:
alphanumeric at both ends, with `-`, `_` and `.` inside. -/
def matchesNameFormat (text : List Char) : Bool :=
  text.head?.any Char.isAlphanum && text.getLast?.any Char.isAlphanum &&
    text.all fun letter => letter.isAlphanum || letter == '-' || letter == '_' || letter == '.'

def labelValueMaxLength : Nat := 63

/-- `validation.IsQualifiedName` for keys without a domain part; the operator
uses no others. -/
def isQualifiedName (key : String) : Bool :=
  key.toList.length ≤ labelValueMaxLength && matchesNameFormat key.toList

/-- `validation.IsValidLabelValue`: the empty string, or a name of at most 63
characters. -/
def isValidLabelValue (value : String) : Bool :=
  value.toList.length ≤ labelValueMaxLength &&
    (value.toList.isEmpty || matchesNameFormat value.toList)

/-- A selector that requires every one of its labels. -/
structure Selector where
  matchLabels : Labels
deriving DecidableEq

/-- The verb `%q` on a printable ASCII text. -/
def quote (text : String) : String :=
  "\"" ++ String.ofList (text.toList.flatMap fun letter =>
    if letter = '"' ∨ letter = '\\' then ['\\', letter] else [letter]) ++ "\""

/-- `validation.MaxLenError`. -/
def maxLenError (length : Nat) : String :=
  "must be no more than " ++ toString length ++ " characters"

/-- `validation.RegexError` with its three examples. -/
def regexError (message format first second third : String) : String :=
  message ++ " (e.g. '" ++ first ++ "',  or '" ++ second ++ "',  or '" ++ third ++
    "', regex used for validation is '" ++ format ++ "')"

def qualifiedNameFmt : String := "([A-Za-z0-9][-A-Za-z0-9_.]*)?[A-Za-z0-9]"

def qualifiedNameErrMsg : String :=
  "must consist of alphanumeric characters, '-', '_' or '.', and must start and end with an " ++
    "alphanumeric character"

def labelValueErrMsg : String :=
  "a valid label must be an empty string or consist of alphanumeric characters, '-', '_' or " ++
    "'.', and must start and end with an alphanumeric character"

/-- The complaints of `validation.IsQualifiedName` about such a key. -/
def qualifiedNameErrors (key : String) : List String :=
  (if key.isEmpty then ["name part must be non-empty"]
    else if labelValueMaxLength < key.utf8ByteSize then
      ["name part " ++ maxLenError labelValueMaxLength]
    else []) ++
  if matchesNameFormat key.toList then []
  else ["name part " ++ regexError qualifiedNameErrMsg qualifiedNameFmt "MyName" "my.name" "123-abc"]

/-- The complaints of `validation.IsValidLabelValue`. -/
def labelValueErrors (value : String) : List String :=
  (if labelValueMaxLength < value.utf8ByteSize then [maxLenError labelValueMaxLength] else []) ++
  if value.isEmpty || matchesNameFormat value.toList then []
  else [regexError labelValueErrMsg ("(" ++ qualifiedNameFmt ++ ")?") "MyValue" "my_value" "12345"]

/-- The error of `labels.NewRequirement` for an equality. -/
def requirementError (key value : String) : Option String :=
  if isQualifiedName key = false then
    some ("invalid label key " ++ quote key ++ ": " ++ "; ".intercalate (qualifiedNameErrors key))
  else if isValidLabelValue value = false then
    some ("invalid label value: " ++ quote value ++ ": " ++
      "; ".intercalate (labelValueErrors value))
  else none

/-- `metav1.LabelSelectorAsSelector` for a selector given by `MatchLabels`.  Of
several invalid labels the source reports any. -/
def labelSelectorAsSelector (labels : Labels) : Except GoError Selector :=
  match labels.entries.findSome? fun entry => requirementError entry.1 entry.2 with
  | some message => .error (.plain message)
  | none => .ok ⟨labels⟩

def Selector.isMatch (selector : Selector) (labels : Labels) : Bool :=
  selector.matchLabels.entries.all fun entry => labels.lookup entry.1 == some entry.2

theorem Selector.isMatch_self (labels : Labels) : (⟨labels⟩ : Selector).isMatch labels = true := by
  refine List.all_eq_true.mpr fun entry member => ?_
  rw [AList.mem_lookup_iff.mpr member]
  simp

end MXNetOperator.Kube
