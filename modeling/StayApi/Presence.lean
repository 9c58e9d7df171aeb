import StayApi.Process
import StayApi.Run
import StayApi.WebsocketGateway

/-!
# The presence system

One server process after `onModuleInit`, the Redis it talks to, and the
expired-events Redis has published to it and it has not yet received. An event
of the system is a callback of the process, a change in Redis, or a command
being carried out or answered; handlers interleave at every `await`.
-/

namespace StayApi

inductive Origin where
  | message (client : WebSocket) (data : RawData)
  | pong (client : WebSocket)
  | expired (key : String)

structure World where
  redis : Redis
  published : List String
  process : Process Origin Server Command Reply JsError

inductive Event where
  | message (client : WebSocket) (data : RawData)
  | pong (client : WebSocket)
  | disconnect (client : WebSocket)
  | pingTick
  /-- The time of a key set by the program is up. -/
  | expire (key : String)
  /-- A key of some other program expires in the same Redis. -/
  | expireOther (key : String)
  /-- The process receives the `i`-th published event. -/
  | deliver (i : Nat)
  | exec (i : Nat)
  /-- A command fails, for the caller; it may have been carried out. -/
  | reject (i : Nat) (carriedOut : Bool) (error : JsError)
  | resume (j : Nat)

namespace World

def start : World := ⟨.empty, [], .start .start⟩

def server (w : World) : Server := w.process.state

def clients (w : World) : OrdMap WebSocket TrackedClient := w.server.clients

/-- What the program did to the outside between two states of a run. -/
def effects (w w' : World) : List Effect := w'.server.trace.drop w.server.trace.length

def hash (w : World) : OrdMap String String := w.redis.hashes USER_STATUS_HASH_KEY

def leased (w : World) (uid : String) : Bool := (w.redis.expiring.get (ttlKey uid)).isSome

def Idle (w : World) : Prop := w.process.idle

def call (l : Origin) (p : Handler Unit) (w : World) : World :=
  { w with process := w.process.call l p.detached }

def update (f : Server → Server) (w : World) : World :=
  { w with process := { w.process with state := f w.process.state } }

end World

/-- The socket is gone: `ws` marks it closed and calls `handleDisconnect`. -/
def disconnect (client : WebSocket) (s : Server) : Server :=
  StayWebSocketGateway.handleDisconnect client
    { s with readyState := fun c => if c = client then .CLOSED else s.readyState c }

def step (users : Users) (w : World) : Event → Option World
  | .message client data =>
    if w.server.readyState client = .CLOSED then none
    else some (w.call (.message client data) (StayWebSocketGateway.handleMessage client data))
  | .pong client =>
    if w.server.readyState client = .CLOSED then none
    else some (w.call (.pong client) (StayWebSocketGateway.handlePong client))
  | .disconnect client =>
    if w.server.readyState client = .CLOSED then none
    else some (w.update (disconnect client))
  | .pingTick => some (w.update UserStatusMessage.ping)
  | .expire key =>
    match w.redis.expiring.get key with
    | none => none
    | some _ => some { w with redis := w.redis.expire key, published := w.published ++ [key] }
  | .expireOther key =>
    if UserStatusMessage.startsWith key USER_STATUS_HASH_TTL_KEY then none
    else some { w with published := w.published ++ [key] }
  | .deliver i =>
    match w.published[i]? with
    | none => none
    | some key =>
      some (({ w with published := w.published.eraseIdx i } : World).call (.expired key)
        (UserStatusMessage.handleRedisExpiration key))
  | .exec i =>
    (w.process.answer (fun c R => some (serve users c R)) i w.redis).map fun (R, P) =>
      { w with redis := R, process := P }
  | .reject i carriedOut error =>
    (w.process.answer (fun c R => some ((Outcome.rejected carriedOut error).settle R (serve users c R))) i
      w.redis).map fun (R, P) => { w with redis := R, process := P }
  | .resume j => (w.process.resume j).map fun P => { w with process := P }

/-- The command that a step carries out, whether or not its caller comes to know. -/
def World.carriesOut (w : World) : Event → Option (Thread Origin Server Command Reply JsError)
  | .exec i => w.process.issued[i]?
  | .reject i true _ => w.process.issued[i]?
  | _ => none

/-! ## What a frame asks for -/

inductive Kind where
  | subscribe
  | unsubscribe
  | other
  deriving DecidableEq

def kindOf (connectType : Option Json) : Kind :=
  if Json.isText connectType WEBSOCKET_SUBSCRIBE then .subscribe
  else if Json.isText connectType WEBSOCKET_UNSUBSCRIBE then .unsubscribe
  else .other

/-- A frame by what the gateway and the channel make of it before any lookup. -/
inductive Request where
  | refused
  | unknownChannel
  | guest (connectType : Option Json)
  | user (connectType : Option Json) (userUid : String) (reset : Option Json)

def requestOfMessage (message : Json) : Request :=
  match message.field "user_uid" with
  | none => .guest (message.field "connect_type")
  | some .null => .guest (message.field "connect_type")
  | some (.str userUid) => .user (message.field "connect_type") userUid (message.field "reset")
  | some _ => .refused

def request : RawData → Request
  | .malformed => .refused
  | .json .null => .refused
  | .json message =>
    match (Json.propertyKey (message.field "channel")).map StayWebSocketGateway.channelGateways with
    | some (some .userStatusMessage) => requestOfMessage message
    | some none => .unknownChannel
    | _ => .refused

/-- The frame is a message of kind `k` that carries `userUid`. -/
def asks (data : RawData) (k : Kind) (userUid : Option String) : Bool :=
  match request data with
  | .guest connectType => kindOf connectType = k ∧ userUid = none
  | .user connectType uid _ => kindOf connectType = k ∧ userUid = some uid
  | _ => false

def frameKind (data : RawData) : Kind :=
  match request data with
  | .guest connectType => kindOf connectType
  | .user connectType _ _ => kindOf connectType
  | _ => .other

def frameUid (data : RawData) : Option String :=
  match request data with
  | .user _ uid _ => some uid
  | _ => none

def frame (connectType : String) (userUid : Option String) (reset : Bool) : RawData :=
  .json (.obj [("connect_type", .str connectType), ("channel", .str WEBSOCKET_CHANNEL_USER_STATUS),
    ("user_uid", (userUid.map Json.str).getD .null), ("reset", .bool reset)])

def everyUser : Users := fun _ => .ok (some true)

def oneUser (uid : String) : Users := fun u => .ok (some (u = uid))

def subscribeRun (client : WebSocket) (uid : String) : List Event :=
  [.message client (frame "subscribe" (some uid) true), .exec 0, .resume 0, .exec 0, .resume 0, .exec 0, .resume 0,
    .exec 0, .resume 0]

def unsubscribeRun (client : WebSocket) (uid : String) : List Event :=
  [.message client (frame "unsubscribe" (some uid) false), .exec 0, .resume 0, .exec 0, .resume 0]

end StayApi
