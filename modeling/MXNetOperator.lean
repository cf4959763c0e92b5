import MXNetOperator.Interaction.Program
import MXNetOperator.Interaction.Execution
import MXNetOperator.Interaction.System
import MXNetOperator.Interaction.Refinement
import MXNetOperator.Interaction.ForkJoin
import MXNetOperator.Interaction.Flight
import MXNetOperator.Codec.Delimited
import MXNetOperator.Codec.Json
import MXNetOperator.Cache.Lru
import MXNetOperator.Queue.Work
import MXNetOperator.Queue.Delay
import MXNetOperator.JsonSchema.Validity
import MXNetOperator.Url.Path
import MXNetOperator.Url.Escape
import MXNetOperator.Url.Parse
import MXNetOperator.Kube.Object
import MXNetOperator.Kube.Name
import MXNetOperator.Api.MXJob
import MXNetOperator.Mx.HookClient
import MXNetOperator.Mx.Condition
import MXNetOperator.Mx.Request
import MXNetOperator.Mx.Webhook
import MXNetOperator.Mx.Claim
import MXNetOperator.Mx.Pod
import MXNetOperator.Mx.Replica
import MXNetOperator.Mx.Listing
import MXNetOperator.Mx.Terminate
import MXNetOperator.Mx.Verdict
import MXNetOperator.Mx.Reconcile
import MXNetOperator.Mx.Conclusion
import MXNetOperator.Mx.Fault
import MXNetOperator.Mx.Sync
import MXNetOperator.Mx.Clock
import MXNetOperator.Mx.Patch
import MXNetOperator.Mx.Settled
import MXNetOperator.Mx.Initial
import MXNetOperator.Sdk.Informer
import MXNetOperator.Crd.Convert
import MXNetOperator.Crd.Meaning
import MXNetOperator.Crd.OpenAPI
import MXNetOperator.Crd.Status
import MXNetOperator.Cluster.Server
import MXNetOperator.Cluster.System
import MXNetOperator.Cluster.Versions
import MXNetOperator.Cluster.Pods
import MXNetOperator.Cluster.Solo
import MXNetOperator.Cluster.Objects
import MXNetOperator.Cluster.Fleet
import MXNetOperator.Cluster.Owned
import MXNetOperator.Cluster.History
import MXNetOperator.Cluster.Growth
import MXNetOperator.Cluster.Process
import MXNetOperator.Property.CreatedPod
import MXNetOperator.Property.StatusHistory
import MXNetOperator.Property.Initialization
import MXNetOperator.Property.Panic
import MXNetOperator.Property.Counters
import MXNetOperator.Property.Completion
import MXNetOperator.Property.StartTime
import MXNetOperator.Property.Verdict
import MXNetOperator.Property.Creation
import MXNetOperator.Property.Justification
import MXNetOperator.Property.Termination
import MXNetOperator.Property.Notification
import MXNetOperator.Property.Repetition
import MXNetOperator.Property.NotifiedOnce
import MXNetOperator.Property.Ownership
import MXNetOperator.Property.Isolation
import MXNetOperator.Property.Quiescence
import MXNetOperator.Property.Retry
import MXNetOperator.Property.Success
import MXNetOperator.Property.Conditions
import MXNetOperator.Property.SchedulerService
import MXNetOperator.Property.Arithmetic
import MXNetOperator.Property.Claiming
import MXNetOperator.Property.ClientCache
import MXNetOperator.Property.Delivery
import MXNetOperator.Property.HookTarget
import MXNetOperator.Property.WorkerExclusion
import MXNetOperator.Property.RetryBudget
import MXNetOperator.Property.Freshness
import MXNetOperator.Property.Reconciliation
import MXNetOperator.Property.Parallel
import MXNetOperator.Property.SingleFlight
import MXNetOperator.Property.Generation
import MXNetOperator.Property.Admission
