import StayApi.Async
import StayApi.Json
import StayApi.Holder

/-!
# The MongoDB connection and the BullMQ queues

`mg.mongoose.ts` and `bullmq.util.ts`: the hooks Nest calls on them and what
they hand out. Whoever calls a hook awaits it, so a call of a hook is one step;
a model taken while the hook is pending is taken before that step.
-/

namespace StayApi

def APPLICATION_LOG : String := "ApplicationLog"
def AUDIT_LOG : String := "AuditLog"
def PERFORMANCE_METRIC : String := "PerformanceMetric"

structure MongoConfig where
  uri : String
  database : String
  options : Json

abbrev Schema : Type := Nat

/-- A model belongs to the connection it was compiled on. -/
structure Model where
  connection : Nat
  name : String
  schema : Schema
  deriving DecidableEq

/-- The connections mongoose has opened, numbered from 0, which of them are closed, and their models. -/
structure Mongoose where
  opened : Nat
  closed : List Nat
  models : List Model

inductive MongoCommand where
  | createConnection (uri dbName : String) (options : Json)
  | close (connection : Nat)

@[reducible] def MongoReply : MongoCommand → Type
  | .createConnection .. => Nat
  | .close _ => Unit

def serveMongo : (c : MongoCommand) → Mongoose → Mongoose × Except JsError (MongoReply c)
  | .createConnection _ _ _, d => ({ d with opened := d.opened + 1 }, .ok d.opened)
  | .close connection, d => ({ d with closed := d.closed ++ [connection] }, .ok ())

structure MongoUtil where
  mongoConfig : MongoConfig
  connection : Option Nat

namespace MongoUtil

abbrev Hook : Type := Async MongoUtil MongoCommand MongoReply JsError Unit

def command (c : MongoCommand) : Async MongoUtil MongoCommand MongoReply JsError (MongoReply c) := Async.await c

def onModuleInit : Hook := do
  let cfg := (← Async.get).mongoConfig
  tryCatch
    (do
      let connection : Nat ← command (.createConnection cfg.uri cfg.database cfg.options)
      Async.modify fun s => { s with connection := some connection })
    fun error => throw error

def onModuleDestroy : Hook := do
  match (← Async.get).connection with
  | some connection => command (.close connection)
  | none => pure ()

def getModel (name : String) (schema : Schema) (s : MongoUtil) (d : Mongoose) : Except JsError (Model × Mongoose) :=
  match s.connection with
  | none => .error ⟨"MongoDB connection not initialized."⟩
  | some connection =>
    match d.models.find? fun m => m.connection = connection ∧ m.name = name with
    | some m => .ok (m, d)
    | none => .ok (⟨connection, name, schema⟩, { d with models := d.models ++ [⟨connection, name, schema⟩] })

end MongoUtil

structure BullMqRedis where
  host : String
  port : Nat
  password : Option String
  db : Option Nat

structure BullMqConfig where
  redis : BullMqRedis
  defaultJobOptions : Option Json

structure QueueOptions where
  connection : BullMqRedis
  defaultJobOptions : Option Json

/-- The queues made, in order, and which of them are closed. -/
structure BullMq where
  queues : List (String × QueueOptions)
  closed : List Nat

inductive QueueCommand where
  | close (queue : Nat)

@[reducible] def QueueReply : QueueCommand → Type := fun _ => Unit

def serveQueue : (c : QueueCommand) → BullMq → BullMq × Except JsError (QueueReply c)
  | .close queue, d => ({ d with closed := d.closed ++ [queue] }, .ok ())

structure BullMqUtil where
  queue : Option Nat
  queueName : String
  bullMqConfig : BullMqConfig

namespace BullMqUtil

def onModuleInit (s : BullMqUtil) (d : BullMq) : BullMqUtil × BullMq :=
  let queueOptions : QueueOptions := ⟨s.bullMqConfig.redis, s.bullMqConfig.defaultJobOptions⟩
  ({ s with queue := some d.queues.length }, { d with queues := d.queues ++ [(s.queueName, queueOptions)] })

def command (c : QueueCommand) : Async BullMqUtil QueueCommand QueueReply JsError (QueueReply c) := Async.await c

def onModuleDestroy : Async BullMqUtil QueueCommand QueueReply JsError Unit := do
  match (← Async.get).queue with
  | some queue => command (.close queue)
  | none => throw ⟨"Cannot read properties of undefined"⟩

def getQueue (s : BullMqUtil) : Except JsError Nat :=
  match s.queue with
  | none => .error ⟨"BullMQ queue not initialized"⟩
  | some queue => .ok queue

end BullMqUtil

/-! ## Sequences of calls -/

structure MongoWorld where
  util : MongoUtil
  mongoose : Mongoose
  handedOut : List Model

/-- A connection that is refused is not opened; a `close` that is rejected may
have closed the connection. -/
inductive MongoCall where
  | onModuleInit (failure : Option JsError)
  | getModel (name : String) (schema : Schema)
  | onModuleDestroy (outcome : Outcome JsError)

namespace MongoWorld

def start (config : MongoConfig) : MongoWorld := ⟨⟨config, none⟩, ⟨0, [], []⟩, []⟩

def hook (p : MongoUtil.Hook) (outcome : Outcome JsError) (w : MongoWorld) : MongoWorld :=
  let finished := p.detached.drive serveMongo [outcome] w.util w.mongoose
  { w with util := finished.state, mongoose := finished.store }

def step (w : MongoWorld) : MongoCall → Option MongoWorld
  | .onModuleInit none => some (w.hook MongoUtil.onModuleInit .answered)
  | .onModuleInit (some error) => some (w.hook MongoUtil.onModuleInit (.rejected false error))
  | .getModel name schema =>
    match w.util.getModel name schema w.mongoose with
    | .ok (m, d) => some { w with mongoose := d, handedOut := w.handedOut ++ [m] }
    | .error _ => some w
  | .onModuleDestroy outcome => some (w.hook MongoUtil.onModuleDestroy outcome)

def allClosed (w : MongoWorld) : Prop := ∀ c < w.mongoose.opened, c ∈ w.mongoose.closed

def modelsCurrent (w : MongoWorld) : Prop := ∀ m ∈ w.handedOut, w.util.connection = some m.connection

/-- A hook connects only if no open connection is held and no model was handed out. -/
def connectsOnce (w : MongoWorld) : MongoCall → Bool
  | .onModuleInit none => (w.util.connection.all fun c => c ∈ w.mongoose.closed) && w.handedOut.isEmpty
  | _ => true

def holder (w : MongoWorld) : Holder :=
  ⟨w.util.connection, w.mongoose.opened, w.mongoose.closed, w.handedOut.map Model.connection⟩

end MongoWorld

def MongoCall.use : MongoCall → Holder.Use
  | onModuleInit none => .acquire
  | onModuleInit (some _) => .idle
  | getModel _ _ => .lend
  | onModuleDestroy outcome => if outcome.carriedOut then .release else .idle

structure QueueWorld where
  util : BullMqUtil
  bullMq : BullMq
  handedOut : List Nat

inductive QueueCall where
  | onModuleInit
  | getQueue
  | onModuleDestroy (outcome : Outcome JsError)

namespace QueueWorld

def start (config : BullMqConfig) (queueName : String) : QueueWorld := ⟨⟨none, queueName, config⟩, ⟨[], []⟩, []⟩

def step (w : QueueWorld) : QueueCall → Option QueueWorld
  | .onModuleInit => some { w with util := (w.util.onModuleInit w.bullMq).1, bullMq := (w.util.onModuleInit w.bullMq).2 }
  | .getQueue =>
    match w.util.getQueue with
    | .ok queue => some { w with handedOut := w.handedOut ++ [queue] }
    | .error _ => some w
  | .onModuleDestroy outcome =>
    let finished := BullMqUtil.onModuleDestroy.detached.drive serveQueue [outcome] w.util w.bullMq
    some { w with util := finished.state, bullMq := finished.store }

def allClosed (w : QueueWorld) : Prop := ∀ q < w.bullMq.queues.length, q ∈ w.bullMq.closed

def queuesCurrent (w : QueueWorld) : Prop := ∀ q ∈ w.handedOut, w.util.queue = some q

def makesOnce (w : QueueWorld) : QueueCall → Bool
  | .onModuleInit => (w.util.queue.all fun q => q ∈ w.bullMq.closed) && w.handedOut.isEmpty
  | _ => true

def holder (w : QueueWorld) : Holder := ⟨w.util.queue, w.bullMq.queues.length, w.bullMq.closed, w.handedOut⟩

end QueueWorld

def QueueCall.use : QueueCall → Holder.Use
  | onModuleInit => .acquire
  | getQueue => .lend
  | onModuleDestroy outcome => if outcome.carriedOut then .release else .idle

end StayApi
