import StayApi.UserStatusMessage

/-!
# Websocket gateway

`websocket.gateway.ts`: the listeners on a socket and the registered channels.
-/

namespace StayApi

namespace StayWebSocketGateway

open WebsocketChannel

/-- What a lookup in `channelGateways` finds: the registered channel, or a
member every object inherits, which has no `handleMessage`. -/
inductive Gateway where
  | userStatusMessage
  | inherited

def inheritedNames : List String :=
  ["constructor", "__defineGetter__", "__defineSetter__", "hasOwnProperty", "__lookupGetter__",
    "__lookupSetter__", "isPrototypeOf", "propertyIsEnumerable", "toString", "valueOf", "__proto__",
    "toLocaleString"]

/-- `this.channelGateways[channel]` after `onModuleInit`. -/
def channelGateways (channel : String) : Option Gateway :=
  if channel = WEBSOCKET_CHANNEL_USER_STATUS then some .userStatusMessage
  else if channel ∈ inheritedNames then some .inherited
  else none

def parse : RawData → Handler Json
  | .malformed => throw ⟨"Unexpected token in JSON"⟩
  | .json v => pure v

def channelOf : Json → Handler (Option Json)
  | .null => throw ⟨"Cannot read properties of null"⟩
  | message => pure (message.field "channel")

def gatewayOf (channel : Option Json) : Handler (Option Gateway) :=
  match Json.propertyKey channel with
  | some key => pure (channelGateways key)
  | none => throw ⟨"Cannot convert object to primitive value"⟩

def handleMessage (client : WebSocket) (data : RawData) : Handler Unit :=
  tryCatch
    (do
      let message ← parse data
      let channel ← channelOf message
      let gateway ← gatewayOf channel
      match gateway with
      | some .userStatusMessage => UserStatusMessage.handleMessage client message
      | some .inherited => throw ⟨"gateway.handleMessage is not a function"⟩
      | none => Async.modify (close client 4004 "Bad Subscription Request"))
    fun _ => Async.modify (close client 1011 "Internal Server Error")

/-- `handleDisconnect` visits the one registered channel. -/
def handleDisconnect (client : WebSocket) (s : Server) : Server := deleteClient client s

/-- The call of `pong` is not awaited. -/
def handlePong (client : WebSocket) : Handler Unit := Async.start (UserStatusMessage.pong client)

end StayWebSocketGateway

end StayApi
