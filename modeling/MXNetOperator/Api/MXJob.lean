import MXNetOperator.Kube.Object

/-!
Contract: the `MXJob` custom resource of API group `ava.qiniu.com/v1alpha1`.

Pointers of the Go types become `Option`, so a nil dereference is a visible
case.  `int32` fields are `Int32` and wrap as in Go.
-/

namespace MXNetOperator.Api

open MXNetOperator.Kube

def finalizerFinishWebhook : String := "finishWebhook"

def groupName : String := "ava.qiniu.com"

/-- `SchemeGroupVersion.String()`. -/
def schemeGroupVersion : String := "ava.qiniu.com/v1alpha1"

def kindName : String := "MXJob"

inductive MXReplicaType where
  | scheduler
  | server
  | worker
deriving DecidableEq, Repr

/-- The string constant behind a replica type. -/
def MXReplicaType.toString : MXReplicaType → String
  | .scheduler => "scheduler"
  | .server => "server"
  | .worker => "worker"

/-! ### Specification -/

structure MXReplicaSpec where
  replicas : Option Int32
  template : Option PodTemplateSpec
  psRootPort : Option Int32
  psVerbose : Option Int32
deriving DecidableEq

structure MXReplicaSpecs where
  scheduler : Option MXReplicaSpec
  server : Option MXReplicaSpec
  worker : Option MXReplicaSpec
deriving DecidableEq

/-- The specification of one replica type. -/
def MXReplicaSpecs.get (specs : MXReplicaSpecs) : MXReplicaType → Option MXReplicaSpec
  | .scheduler => specs.scheduler
  | .server => specs.server
  | .worker => specs.worker

structure ServiceReference where
  ns : String
  name : String
  path : Option String
deriving DecidableEq

/-- `WebhookClientConfig` of the admission API; `none` is the nil slice. -/
structure WebhookClientConfig where
  url : Option String
  service : Option ServiceReference
  caBundle : Option (List UInt8)
deriving DecidableEq

structure Webhook where
  name : String
  clientConfig : WebhookClientConfig
deriving DecidableEq

structure MXJobSpec where
  mxReplicaSpecs : MXReplicaSpecs
  startWebhook : Option Webhook
  finishWebhook : Option Webhook
deriving DecidableEq

/-! ### Status -/

/-- The constants of `MXJobConditionType`; `other` stands for any further
string of that type. -/
inductive MXJobConditionType where
  | created
  | initialized
  | running
  | restarting
  | succeeded
  | failed
  | other (name : String)
deriving DecidableEq

/-- `v1.ConditionStatus`. -/
inductive ConditionStatus where
  | isTrue
  | isFalse
  | unknown
deriving DecidableEq

abbrev MXJobReason := String

def reasonCreated : MXJobReason := "MXJobCreated"
def reasonInitialized : MXJobReason := "MXJobInitialized"
def reasonSucceeded : MXJobReason := "MXJobSucceeded"
def reasonRunning : MXJobReason := "MXJobRunning"
def reasonFailed : MXJobReason := "MXJobFailed"

structure MXJobCondition where
  type : MXJobConditionType
  status : ConditionStatus
  reason : MXJobReason
  message : String
  lastUpdateTime : Time
  lastTransitionTime : Time
deriving DecidableEq

structure MXReplicaStatus where
  active : Int32
  succeeded : Int32
  failed : Int32
  gone : Int32
deriving DecidableEq

/-- The zero value `MXReplicaStatus{}`. -/
def MXReplicaStatus.zero : MXReplicaStatus := ⟨0, 0, 0, 0⟩

structure MXReplicaStatuses where
  scheduler : Option MXReplicaStatus
  server : Option MXReplicaStatus
  worker : Option MXReplicaStatus
deriving DecidableEq

structure MXJobStatus where
  replicaStatuses : MXReplicaStatuses
  startTime : Option Time
  completionTime : Option Time
  conditions : List MXJobCondition
deriving DecidableEq

/-- The status of a job no controller has touched yet. -/
def MXJobStatus.empty : MXJobStatus := ⟨⟨none, none, none⟩, none, none, []⟩

/-! ### Job -/

structure MXJob extends ObjectMeta where
  resourceVersion : Nat
  finalizers : List String
  spec : MXJobSpec
  status : MXJobStatus
deriving DecidableEq

/-- `metav1.NewControllerRef(mxjob, SchemeGroupVersionKind)`. -/
def newControllerRef (mxjob : MXJob) : OwnerReference where
  apiVersion := schemeGroupVersion
  kind := kindName
  name := mxjob.name
  uid := mxjob.uid
  controller := some true
  blockOwnerDeletion := some true

/-! ### Notifications -/

structure NotificationRequest where
  uid : String
  group : String
  version : String
  kind : String
  name : String
  ns : String
  status : MXJobStatus
  deletionTimestamp : Option Time
deriving DecidableEq

/-- `metav1.Status`. -/
structure Status where
  status : String
  message : String
  reason : String
  code : Int32
deriving DecidableEq

def statusSuccess : String := "Success"

structure NotificationResponse where
  uid : String
  result : Option Status
deriving DecidableEq

structure Notification where
  request : Option NotificationRequest
  response : Option NotificationResponse
deriving DecidableEq

end MXNetOperator.Api
