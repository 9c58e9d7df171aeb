import StayApi.Json
import StayApi.WebsocketChannel

/-!
# User status messages

`user-status.message.ts`.
-/

namespace StayApi

namespace UserStatusMessage

open WebsocketChannel

def trackClient (client : WebSocket) (userUid : Option String) (s : Server) : Server :=
  { s with clients := s.clients.set client ⟨client, userUid, true⟩ }

def untrackClient (client : WebSocket) (s : Server) : Server :=
  { s with clients := s.clients.delete client }

/-- The end of `subscribeMessage`, from `clients.set` on. -/
def trackAndAnswer (client : WebSocket) (userUid : Option String) (reset : Option Json)
    (dataInfo : BroadcastUserStatusInfo) : Handler Unit := do
  Async.modify (trackClient client userUid)
  if Json.isTrue reset then
    let onlineUsers ← UserStatusService.getOnlineUsers
    Async.modify (sendClientMessage .snapshot client WEBSOCKET_CHANNEL_USER_STATUS (.statuses onlineUsers))
  else
    Async.modify (sendClientMessage .own client WEBSOCKET_CHANNEL_USER_STATUS (.statuses dataInfo))

def subscribeMessage (client : WebSocket) (userUid : Option String) (reset : Option Json) : Handler Unit := do
  let mut dataInfo : BroadcastUserStatusInfo := .empty
  if let some userUid := userUid then
    dataInfo ← UserStatusService.setStatus userUid ONLINE
    let broadcastInfo := OrdMap.empty.set userUid ONLINE
    Async.modify (broadcastStatus (some client) WEBSOCKET_CHANNEL_USER_STATUS broadcastInfo)
  trackAndAnswer client userUid reset dataInfo

def unsubscribeMessage (client : WebSocket) (userUid : Option String) : Handler Unit := do
  let tracked := (← Async.get).clients.get client
  if tracked.isSome then
    if let some userUid := userUid then
      let _ ← UserStatusService.delStatus userUid
      let broadcastInfo := OrdMap.empty.set userUid OFFLINE
      Async.modify (broadcastStatus (some client) WEBSOCKET_CHANNEL_USER_STATUS broadcastInfo)
    Async.modify (untrackClient client)
  Async.modify (sendClientMessage .unsubscribed client WEBSOCKET_CHANNEL_USER_STATUS
    (.connectType WEBSOCKET_UNSUBSCRIBE))

def invalidUid : WebsocketCloseMessage := ⟨"user-status", 4001, "invalid user_uid format"⟩
def unknownUid : WebsocketCloseMessage := ⟨"user-status", 4004, "not user_uid found"⟩

/-- What `handleMessage` does once the lookup has answered. The calls of
`subscribeMessage` and `unsubscribeMessage` are not awaited. -/
def answerLookup (client : WebSocket) (connectType : Option Json) (userUid : String) (reset : Option Json)
    (userExists : Option Bool) : Handler Unit :=
  if userExists = none then
    Async.modify (handleClose client invalidUid)
  else if userExists = some false then
    Async.modify (handleClose client unknownUid)
  else if Json.isText connectType WEBSOCKET_SUBSCRIBE then
    Async.start (subscribeMessage client (some userUid) reset)
  else if Json.isText connectType WEBSOCKET_UNSUBSCRIBE then
    Async.start (unsubscribeMessage client (some userUid))
  else
    pure ()

def handleUserMessage (client : WebSocket) (connectType : Option Json) (userUid : String)
    (reset : Option Json) : Handler Unit := do
  let userExists ← UserStatusService.checkUserInfo userUid
  answerLookup client connectType userUid reset userExists

/-- The body of `handleMessage` without a `user_uid`. -/
def handleGuestMessage (client : WebSocket) (connectType : Option Json) : Handler Unit :=
  if Json.isText connectType WEBSOCKET_SUBSCRIBE then
    Async.start (subscribeMessage client none (some (.bool true)))
  else if Json.isText connectType WEBSOCKET_UNSUBSCRIBE then
    Async.start (unsubscribeMessage client none)
  else
    pure ()

def handleMessage (client : WebSocket) (message : Json) : Handler Unit :=
  let connectType := message.field "connect_type"
  let userUid := message.field "user_uid"
  let reset := message.field "reset"
  tryCatch
    (match userUid with
      | none => handleGuestMessage client connectType
      | some .null => handleGuestMessage client connectType
      | some (.str userUid) => handleUserMessage client connectType userUid reset
      -- the lookup rejects an id that is not a text
      | some _ => throw ⟨"invalid input syntax for type uuid"⟩)
    fun error => throw error

/-- The body of `ping`'s loop for one tracked client. -/
def pingClient (s : Server) (client : TrackedClient) : Server :=
  if client.isAlive = false then
    { s with clients := s.clients.delete client.socket }
  else
    { s with
      clients := s.clients.modify client.socket fun c => { c with isAlive := false }
      trace := s.trace ++ [.ping client.socket] }

/-- Each client tracked when the tick starts is visited once: the loop only
deletes the entry it is at. -/
def ping (s : Server) : Server := (s.clients.entries.map Prod.snd).foldl pingClient s

def markAlive (client : WebSocket) (s : Server) : Server :=
  { s with clients := s.clients.modify client fun c => { c with isAlive := true } }

def pong (client : WebSocket) : Handler Unit := do
  let tracked := (← Async.get).clients.get client
  tryCatch
    (match tracked with
      | none => pure ()
      | some tracked => do
        Async.modify (markAlive client)
        match tracked.userUid with
        | none => pure ()
        | some userUid =>
          let _ ← UserStatusService.setStatus userUid ONLINE)
    fun _ => pure ()

/-- `s.split(sep)` for a one-character separator. -/
def split (s : String) (sep : Char) : List String := (s.toList.splitOn sep).map String.ofList

/-- `s.startsWith(p)`. -/
def startsWith (s p : String) : Bool := p.toList.isPrefixOf s.toList

/-- `expiredKey.split(':')[4]`; a key with the prefix has a part 4. -/
def uidOfKey (expiredKey : String) : String := ((split expiredKey ':')[4]?).getD "undefined"

def handleRedisExpiration (expiredKey : String) : Handler Unit := do
  if startsWith expiredKey USER_STATUS_HASH_TTL_KEY then
    let userUid := uidOfKey expiredKey
    let result ← UserStatusService.delStatus userUid
    if result > 0 then
      let broadcastInfo := OrdMap.empty.set userUid OFFLINE
      Async.modify (broadcastStatus none WEBSOCKET_CHANNEL_USER_STATUS broadcastInfo)

end UserStatusMessage

end StayApi
