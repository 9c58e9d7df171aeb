import StayApi.JsonRoundTrip
import StayApi.Points
import StayApi.SqsUtil

/-!
# The queue utility

`sqs.util.ts` as a whole: the clients `onModuleInit` makes and `onModuleDestroy`
destroys, and the three calls, of which any number may wait for SQS at once.
What SQS answers is free. A value to be sent is of any type: `toJson` is what
`JSON.stringify` makes of it, if it is not undefined or throws.
-/

namespace StayApi

namespace SqsQueue

abbrev ClientId : Type := Nat

structure AwsSqsConfig extends StayApi.AwsSqsConfig where
  region : String
  visibilityTimeout : Nat

structure SendMessageCommandInput where
  DelaySeconds : Nat
  MessageBody : String
  QueueUrl : String

structure ReceiveMessageCommandInput where
  AttributeNames : List String
  MaxNumberOfMessages : Nat
  MessageAttributeNames : List String
  QueueUrl : String
  VisibilityTimeout : Nat
  WaitTimeSeconds : Nat

inductive Input where
  | send (input : SendMessageCommandInput)
  | receive (input : ReceiveMessageCommandInput)
  | delete (input : DeleteMessageBatchCommandInput)

structure Request where
  sqsClient : ClientId
  input : Input

/-- A response, as far as the utility reads it: the message's id, or the messages. -/
abbrev Response (r : Request) : Type :=
  match r.input with
  | .send _ => Option String
  | .receive _ => Option (List Message)
  | .delete _ => Unit

def DEFAULT_POOL_COUNT : Nat := 1
def MAX_MESSAGES_PER_RECEIVE : Nat := 10
def LONG_POLLING_WAIT_TIME : Nat := 10
def MESSAGE_DELAY : Nat := 1

structure Util where
  sqsConfig : AwsSqsConfig
  sqsName : String
  poolCount : Nat
  receiveOption : ReceiveMessageCommandInput
  sendSqsClient : Option ClientId
  receiveSqsClientPool : Option (List ClientId)

inductive Result where
  | sent (messageId : Option String)
  | received (messages : Option (List Message))
  | deleted
  | rejected (error : JsError)

/-- The utility and what it has done: the clients it made, each with its region,
and destroyed, the lines it logged, and the calls made of it, of which some have settled. -/
structure State where
  util : Util
  made : List String
  destroyed : List ClientId
  lines : List LogLine
  calls : Nat
  settled : List (Nat × Result)

abbrev Call (α : Type) : Type := Async State Request Response JsError α

def receiveOptions (sqsConfig : AwsSqsConfig) : ReceiveMessageCommandInput where
  AttributeNames := ["All"]
  MaxNumberOfMessages := MAX_MESSAGES_PER_RECEIVE
  MessageAttributeNames := ["All"]
  QueueUrl := sqsConfig.queueUrl
  VisibilityTimeout := sqsConfig.visibilityTimeout
  WaitTimeSeconds := LONG_POLLING_WAIT_TIME

def construct (sqsConfig : Option AwsSqsConfig) (sqsName : String) (poolCount : Option Nat) : Except JsError Util :=
  match sqsConfig with
  | none => .error ⟨"SQS configuration is required"⟩
  | some sqsConfig =>
    .ok ⟨sqsConfig, sqsName, poolCount.getD DEFAULT_POOL_COUNT, receiveOptions sqsConfig, none, none⟩

def State.start (util : Util) : State := ⟨util, [], [], [], 0, []⟩

def logLine (line : LogLine) (s : State) : State := { s with lines := s.lines ++ [line] }

def development (s : State) : Bool := s.util.sqsConfig.mode = some .development

/-! ## The lifecycle hooks -/

def validateConfig (s : State) : Except JsError Unit :=
  if s.util.sqsConfig.queueUrl = "" ∨ s.util.sqsConfig.region = "" then
    .error ⟨"SQS configuration error: queueUrl and region are required"⟩
  else .ok ()

/-- The clients made are the one to send with and then those of the pool. -/
def init (s : State) : Except JsError State := do
  validateConfig s
  return { s with
    util := { s.util with
      sendSqsClient := some s.made.length
      receiveSqsClientPool := some (List.range' (s.made.length + 1) s.util.poolCount) }
    made := s.made ++ List.replicate (s.util.poolCount + 1) s.util.sqsConfig.region }

def onModuleInit (s : State) : Except JsError State :=
  if development s then return logLine (.log s!"SQS running in development mode: {s.util.sqsName}") s
  else do
    let s ← init s
    return logLine (.log s!"SQS initialized: {s.util.sqsName}") s

def heldClients (s : State) : List ClientId :=
  s.util.sendSqsClient.toList ++ s.util.receiveSqsClientPool.getD []

def onModuleDestroy (s : State) : State :=
  let s := logLine (.log s!"Cleaning up SQS connections: {s.util.sqsName}") s
  { s with destroyed := s.destroyed ++ heldClients s }

def getSendClient (s : State) : Except JsError ClientId :=
  match s.util.sendSqsClient with
  | none => .error ⟨"SQS send client not initialized"⟩
  | some sqsClient => .ok sqsClient

def getReceiveClientPool (s : State) : Except JsError (List ClientId) :=
  match s.util.receiveSqsClientPool with
  | none => .error ⟨"SQS receive client pool not initialized"⟩
  | some pool => .ok pool

/-! ## The calls -/

section
variable {T : Type} (toJson : T → Except JsError (Option Json))

def jsonText (message : T) : Except JsError String :=
  (toJson message).map fun v => (v.map JsonText.stringify).getD "undefined"

/-- `JSON.stringify({data: message})`. -/
def payloadText (message : T) : Except JsError String :=
  (toJson message).map fun v => JsonText.stringify (.obj (v.map fun v => ("data", v)).toList)

def liftExcept {α : Type} : Except JsError α → Call α
  | .ok a => pure a
  | .error error => throw error

def log (message : String) : Call Unit := Async.modify (logLine (.log message))

def logError (message : String) (error : JsError) : Call Unit := Async.modify (logLine (.error message error))

def idText (messageId : Option String) : String := messageId.getD "undefined"

def send (sqsClient : ClientId) (input : SendMessageCommandInput) : Call (Option String) :=
  Async.await (⟨sqsClient, .send input⟩ : Request)

def receive (sqsClient : ClientId) (input : ReceiveMessageCommandInput) : Call (Option (List Message)) :=
  Async.await (⟨sqsClient, .receive input⟩ : Request)

def delete (sqsClient : ClientId) (input : DeleteMessageBatchCommandInput) : Call Unit :=
  Async.await (⟨sqsClient, .delete input⟩ : Request)

def sendMessage (message : T) : Call (Option String) := do
  let s ← Async.get
  if development s then
    let text ← liftExcept (jsonText toJson message)
    log s!"[DEV MODE] Send message: {text}"
    return some "dev-mode-message-id"
  match s.util.sendSqsClient with
  | none => throw ⟨"SQS send client not initialized"⟩
  | some sqsClient =>
    tryCatch
      (do
        let text ← liftExcept (payloadText toJson message)
        let messageId ← send sqsClient ⟨MESSAGE_DELAY, text, s.util.sqsConfig.queueUrl⟩
        log s!"Sent SQS message (ID: {idText messageId})"
        return messageId)
      fun error => do
        logError "Failed to send SQS message" error
        throw error

/-- `response.Messages`, unless there are none. -/
def keepMessages : Option (List Message) → Call (Option (List Message))
  | some (message :: messages) => do
    log s!"Received {(message :: messages).length} messages"
    return some (message :: messages)
  | _ => return none

def receiveMessages (sqsClient : Option ClientId) : Call (Option (List Message)) := do
  let s ← Async.get
  if development s then
    log "[DEV MODE] Receive messages"
    return none
  match sqsClient with
  | none => throw ⟨"SQS client is required"⟩
  | some sqsClient =>
    tryCatch
      (do
        let messages ← receive sqsClient s.util.receiveOption
        keepMessages messages)
      fun error => do
        logError "Failed to receive SQS messages" error
        throw error

def deleteMessages (sqsClient : Option ClientId) (messages : List Message) : Call Unit := do
  if messages.length = 0 then
    return
  let s ← Async.get
  if development s then
    log s!"[DEV MODE] Delete {messages.length} messages"
    return
  match sqsClient with
  | none => throw ⟨"SQS client is required"⟩
  | some sqsClient =>
    tryCatch
      (do
        delete sqsClient (SqsUtil.deleteParams s.util.sqsConfig.toAwsSqsConfig messages)
        log s!"Deleted {messages.length} messages")
      fun error => do
        logError "Failed to delete SQS messages" error
        throw error

end

/-! ## The utility in use -/

def settle (k : Nat) (result : Result) (s : State) : State := { s with settled := s.settled ++ [(k, result)] }

/-- The `k`-th call, whose caller learns how its promise settles. -/
def program {α : Type} (k : Nat) (result : α → Result) (call : Call α) : Proc State Request Response JsError :=
  call (fun a => .write (settle k (result a)) .done) fun error => .write (settle k (.rejected error)) .done

abbrev World : Type := Process Nat State Request Response JsError

inductive Event (T : Type) where
  | onModuleInit
  | onModuleDestroy
  | sendMessage (message : T)
  | receiveMessages (sqsClient : Option ClientId)
  | deleteMessages (sqsClient : Option ClientId) (messages : List Message)
  /-- SQS answers the `i`-th request under way. -/
  | exec (i : Nat) (answer : (r : Request) → Except JsError (Response r))
  | resume (j : Nat)

def World.start (util : Util) : World := Process.start (State.start util)

def World.call {α : Type} (result : α → Result) (call : Call α) (w : World) : World :=
  let k := w.state.calls
  Process.call k (program k result call) { w with state := { w.state with calls := k + 1 } }

def step {T : Type} (toJson : T → Except JsError (Option Json)) (w : World) : Event T → Option World
  | .onModuleInit =>
    match onModuleInit w.state with
    | .ok s => some { w with state := s }
    | .error error => some { w with unhandled := w.unhandled ++ [error] }
  | .onModuleDestroy => some { w with state := onModuleDestroy w.state }
  | .sendMessage message => some (w.call .sent (sendMessage toJson message))
  | .receiveMessages sqsClient => some (w.call .received (receiveMessages sqsClient))
  | .deleteMessages sqsClient messages => some (w.call (fun _ => .deleted) (deleteMessages sqsClient messages))
  | .exec i answer => (w.answer (fun r d => some (d, answer r)) i ()).map Prod.snd
  | .resume j => w.resume j

end SqsQueue

end StayApi
