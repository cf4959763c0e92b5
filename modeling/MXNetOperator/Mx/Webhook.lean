import MXNetOperator.Interaction.Execution
import MXNetOperator.Mx.HookClient
import MXNetOperator.Mx.Request

/-!
Contract: delivering a notification to a webhook.

Owns the embedding of `callHookAsync` with its goroutine, of `callHook`, of
`ToStatusErr` and of `wait.ExponentialBackoff`.  A delivery talks to its
surroundings through `HookRequest`: a fresh identifier, the client of the
webhook, the round trip of a notification, the sleep between two attempts and
the send on the result channel, which is buffered and never blocks.

The verb `%q` of the source is the parameter `quote`.
-/

namespace MXNetOperator.Mx

open MXNetOperator.Api MXNetOperator.Interaction

inductive HookRequest where
  | newUUID
  | hookClient (webhook : Webhook)
  | post (client : RESTClient) (notification : Notification)
  | sleep (duration : Nat) (jitter : Rat)
  | send (result : Option HookError)
deriving DecidableEq

def HookRequest.Reply : HookRequest → Type
  | .newUUID => String
  | .hookClient _ => Except HookError RESTClient
  | .post _ _ => Except String Notification
  | .sleep _ _ => Unit
  | .send _ => Unit

abbrev HookProgram := Program HookRequest HookRequest.Reply Abort

abbrev HookExchange := Exchange HookRequest HookRequest.Reply

def askHook (request : HookRequest) : HookProgram request.Reply :=
  Program.perform request

/-! ### Source functions -/

/-- `wait.Backoff`, with durations in nanoseconds. -/
structure Backoff where
  duration : Nat
  factor : Rat
  jitter : Rat
  steps : Nat

/-- The wait before round `index`, and the duration of the next one; the jitter
adds a random share to a sleep. -/
def backoffPause (backoff : Backoff) (index duration : Nat) : HookProgram Nat :=
  if index ≠ 0 then do
    let _ ← askHook (.sleep duration backoff.jitter)
    pure ((duration : Rat) * backoff.factor).floor.toNat
  else pure duration

/-- The loop of `wait.ExponentialBackoff` from its round `index` on. -/
def exponentialBackoffFrom (backoff : Backoff)
    (condition : HookProgram (Bool × Option HookError)) :
    Nat → Nat → Nat → HookProgram (Option HookError)
  | 0, _, _ => pure (some .waitTimeout)
  | remaining + 1, index, duration => do
      let duration ← backoffPause backoff index duration
      let answer ← condition
      if answer.2.isSome || answer.1 then pure answer.2
      else exponentialBackoffFrom backoff condition remaining (index + 1) duration

def exponentialBackoff (backoff : Backoff) (condition : HookProgram (Bool × Option HookError)) :
    HookProgram (Option HookError) :=
  exponentialBackoffFrom backoff condition backoff.steps 0 backoff.duration

section Quote

variable (quote : String → String)

/-- `webhookerrors.ToStatusErr`. -/
def toStatusErr (webhookName : String) (result : Option Status) : HookError :=
  let deniedBy := "admission webhook " ++ quote webhookName ++ " denied the request"
  let result := result.getD ⟨"Failure", "", "", 0⟩
  .status { result with
    message :=
      if result.message ≠ "" then deniedBy ++ ": " ++ result.message
      else if result.reason ≠ "" then deniedBy ++ ": " ++ result.reason
      else deniedBy ++ " " ++ "without explanation" }

/-- What is sent to a webhook. -/
def notificationRequest (uid : String) (mxjob : MXJob) : Notification where
  request := some
    { uid := uid
      group := groupName
      version := "v1alpha1"
      kind := kindName
      name := mxjob.name
      ns := mxjob.ns
      status := mxjob.status
      deletionTimestamp := mxjob.deletionTimestamp }
  response := none

/-- One attempt. -/
def callHook (webhook : Webhook) (mxjob : MXJob) : HookProgram (Option HookError) := do
  let uid ← askHook .newUUID
  let client ← askHook (.hookClient webhook)
  match (client : Except HookError RESTClient) with
  | .error error => pure (some (.calling webhook.name error))
  | .ok client => do
      let reply ← askHook (.post client (notificationRequest uid mxjob))
      match (reply : Except String Notification) with
      | .error text => pure (some (.calling webhook.name (.plain text)))
      | .ok reply =>
          match reply.response with
          | none => pure (some (.calling webhook.name (.plain "Webhook response was absent")))
          | some response =>
              match response.result with
              -- `response.Response.Result.Code` reads through a nil pointer
              | none => .abort .panicked
              | some result =>
                  if 500 ≤ result.code then
                    pure (some (.calling webhook.name (.plain ("Webhook server error " ++
                      result.message ++ " (" ++ toString result.code.toInt ++ ")"))))
                  else if result.status = statusSuccess then pure none
                  else pure (some (toStatusErr quote webhook.name (some result)))

/-- The condition the backoff repeats: errors of the call itself are retried. -/
def hookCondition (webhook : Webhook) (mxjob : MXJob) : HookProgram (Bool × Option HookError) := do
  let error ← callHook quote webhook mxjob
  match error with
  | none => pure (true, none)
  | some (.calling _ _) => pure (false, none)
  | some other => pure (false, some other)

def hookBackoff : Backoff := ⟨1000000000, 3 / 2, 1 / 5, 5⟩

/-- The webhook of the spec. -/
def hookOf (mxjob : MXJob) (startOrFinish : Bool) : Option Webhook :=
  if startOrFinish then mxjob.spec.startWebhook else mxjob.spec.finishWebhook

/-- `callHookAsync` with its goroutine. -/
def callHookAsync (mxjob : MXJob) (startOrFinish : Bool) : HookProgram Unit :=
  match hookOf mxjob startOrFinish with
  | none => do
      let _ ← askHook (.send none)
      pure ()
  | some webhook => do
      let error ← exponentialBackoff hookBackoff (hookCondition quote webhook mxjob)
      let _ ← askHook (.send error)
      pure ()

end Quote

end MXNetOperator.Mx
