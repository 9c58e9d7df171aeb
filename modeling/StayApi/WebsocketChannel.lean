import StayApi.UserStatusService

/-!
# Websocket channel

`websocket.channel.ts`: the tracked clients and what is sent to them. A socket
stands for the object the `ws` server hands over after the handshake, so it is
open until the program closes it or it disconnects.
-/

namespace StayApi

abbrev WebSocket : Type := Nat

inductive ReadyState where
  | CONNECTING
  | OPEN
  | CLOSING
  | CLOSED
  deriving DecidableEq

def WEBSOCKET_SUBSCRIBE : String := "subscribe"
def WEBSOCKET_UNSUBSCRIBE : String := "unsubscribe"
def WEBSOCKET_CHANNEL_USER_STATUS : String := "user_status"

structure WebsocketCloseMessage where
  name : String
  status : Nat
  message : String
  deriving DecidableEq

inductive SendData where
  | statuses (info : BroadcastUserStatusInfo)
  | connectType (connectType : String)

/-- The call of `sendClientMessage` a frame comes from. -/
inductive Via where
  | broadcast
  /-- all online users, in answer to a subscribe with `reset` -/
  | snapshot
  /-- the answer to a subscribe without `reset` -/
  | own
  /-- the answer to an unsubscribe -/
  | unsubscribed
  deriving DecidableEq

/-- What the program does to the outside, in order. A call of `broadcastStatus`
is recorded before the frames it sends. -/
inductive Effect where
  | broadcast (connectedClient : Option WebSocket) (broadcastInfo : BroadcastUserStatusInfo)
  | send (via : Via) (client : WebSocket) (channel : String) (data : SendData)
  | close (client : WebSocket) (status : Nat) (reason : String)
  | ping (client : WebSocket)

structure TrackedClient where
  socket : WebSocket
  userUid : Option String
  isAlive : Bool
  deriving DecidableEq

/-- The tracked clients, the state `ws` keeps for each socket, and the effects so far. -/
structure Server where
  clients : OrdMap WebSocket TrackedClient
  readyState : WebSocket → ReadyState
  trace : List Effect

def Server.start : Server := ⟨.empty, fun _ => .OPEN, []⟩

abbrev Handler (α : Type) : Type := Async Server Command Reply JsError α

namespace WebsocketChannel

def deleteClient (client : WebSocket) (s : Server) : Server :=
  match s.clients.get client with
  | some _ => { s with clients := s.clients.delete client }
  | none => s

def sendClientMessage (via : Via) (client : WebSocket) (channel : String) (data : SendData) (s : Server) :
    Server :=
  { s with trace := s.trace ++ [.send via client channel data] }

/-- The body of `broadcastStatus`'s loop for one tracked client. -/
def broadcastTo (connectedClient : Option WebSocket) (channel : String)
    (broadcastInfo : BroadcastUserStatusInfo) (s : Server) (client : TrackedClient) : Server :=
  if connectedClient = some client.socket then s
  else if s.readyState client.socket = .OPEN then
    sendClientMessage .broadcast client.socket channel (.statuses broadcastInfo) s
  else s

def broadcastStatus (connectedClient : Option WebSocket) (channel : String)
    (broadcastInfo : BroadcastUserStatusInfo) (s : Server) : Server :=
  (s.clients.entries.map Prod.snd).foldl (broadcastTo connectedClient channel broadcastInfo)
    { s with trace := s.trace ++ [.broadcast connectedClient broadcastInfo] }

/-- `client.close`: an open socket starts closing. -/
def close (client : WebSocket) (status : Nat) (reason : String) (s : Server) : Server :=
  { s with
    readyState := fun c => if c = client ∧ s.readyState c = .OPEN then .CLOSING else s.readyState c
    trace := s.trace ++ [.close client status reason] }

def handleClose (client : WebSocket) (data : WebsocketCloseMessage) (s : Server) : Server :=
  close client data.status (data.name ++ " : " ++ data.message) s

end WebsocketChannel

end StayApi
