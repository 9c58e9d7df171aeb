import StayApi.Points
import StayApi.Presence

/-!
# Control points of the presence handlers

The eight `await`s at which a presence handler can be suspended, and what the
process does when each of them is answered. `next_names`, `message_names`,
`pong_names` and `expired_names` say that the handlers do just that.
-/

namespace StayApi

open WebsocketChannel UserStatusMessage

inductive Point where
  | lookup (client : WebSocket) (data : RawData) (connectType : Option Json) (uid : String)
      (reset : Option Json)
  | subscribeHSet (client : WebSocket) (data : RawData) (uid : String) (reset : Option Json)
  | subscribeSet (client : WebSocket) (data : RawData) (uid : String) (reset : Option Json)
  | snapshot (client : WebSocket) (data : RawData)
  | unsubscribeHDel (client : WebSocket) (data : RawData) (uid : String)
  | pongHSet (client : WebSocket) (uid : String)
  | pongSet (client : WebSocket) (uid : String)
  | expiryHDel (key : String)

namespace Point

def origin : Point → Origin
  | lookup client data _ _ _ => .message client data
  | subscribeHSet client data _ _ => .message client data
  | subscribeSet client data _ _ => .message client data
  | snapshot client data => .message client data
  | unsubscribeHDel client data _ => .message client data
  | pongHSet client _ => .pong client
  | pongSet client _ => .pong client
  | expiryHDel key => .expired key

@[reducible] def cmd : Point → Command
  | lookup _ _ _ uid _ => .poolExists uid
  | subscribeHSet _ _ uid _ => .hSet USER_STATUS_HASH_KEY uid ONLINE.text
  | subscribeSet _ _ uid _ => .set (ttlKey uid) ONLINE.text TTL_EXPIRATION_TIME
  | snapshot _ _ => .hGetAll USER_STATUS_HASH_KEY
  | unsubscribeHDel _ _ uid => .hDel USER_STATUS_HASH_KEY uid
  | pongHSet _ uid => .hSet USER_STATUS_HASH_KEY uid ONLINE.text
  | pongSet _ uid => .set (ttlKey uid) ONLINE.text TTL_EXPIRATION_TIME
  | expiryHDel key => .hDel USER_STATUS_HASH_KEY (uidOfKey key)

end Point

def onlineInfo (uid : String) : BroadcastUserStatusInfo := OrdMap.empty.set uid ONLINE
def offlineInfo (uid : String) : BroadcastUserStatusInfo := OrdMap.empty.set uid OFFLINE

def internalError (client : WebSocket) (s : Server) : Server := close client 1011 "Internal Server Error" s

def announceOnline (client : WebSocket) (uid : String) (s : Server) : Server :=
  broadcastStatus (some client) WEBSOCKET_CHANNEL_USER_STATUS (onlineInfo uid) s

def announceOffline (client : Option WebSocket) (uid : String) (s : Server) : Server :=
  broadcastStatus client WEBSOCKET_CHANNEL_USER_STATUS (offlineInfo uid) s

def sendSnapshot (client : WebSocket) (values : OrdMap String String) (s : Server) : Server :=
  sendClientMessage .snapshot client WEBSOCKET_CHANNEL_USER_STATUS (.statuses (.fill values.keys ONLINE)) s

def sendOwn (client : WebSocket) (info : BroadcastUserStatusInfo) (s : Server) : Server :=
  sendClientMessage .own client WEBSOCKET_CHANNEL_USER_STATUS (.statuses info) s

def sendUnsubscribed (client : WebSocket) (s : Server) : Server :=
  sendClientMessage .unsubscribed client WEBSOCKET_CHANNEL_USER_STATUS (.connectType WEBSOCKET_UNSUBSCRIBE) s

abbrev Program : Type := Proc Server Command Reply JsError

def finished : Unit → Program := fun _ => .done

def refuse (client : WebSocket) : JsError → Program := fun _ => .write (internalError client) .done

def Point.cont : (p : Point) → Except JsError (Reply p.cmd) → Program
  | .lookup client _ connectType uid reset =>
    Async.settle (fun userExists => answerLookup client connectType uid reset userExists finished (refuse client))
      (refuse client)
  | .subscribeHSet client _ uid reset =>
    Async.settle (fun _ => .await (.set (ttlKey uid) ONLINE.text TTL_EXPIRATION_TIME)
      (Async.settle (fun _ => .write (announceOnline client uid)
        (trackAndAnswer client (some uid) reset (onlineInfo uid) finished .rejected)) .rejected)) .rejected
  | .subscribeSet client _ uid reset =>
    Async.settle (fun _ => .write (announceOnline client uid)
      (trackAndAnswer client (some uid) reset (onlineInfo uid) finished .rejected)) .rejected
  | .snapshot client _ => Async.settle (fun values => .write (sendSnapshot client values) .done) .rejected
  | .unsubscribeHDel client _ uid =>
    Async.settle (fun _ => .write (announceOffline (some client) uid)
      (.write (untrackClient client) (.write (sendUnsubscribed client) .done))) .rejected
  | .pongHSet _ uid =>
    Async.settle (fun _ => .await (.set (ttlKey uid) ONLINE.text TTL_EXPIRATION_TIME)
      (Async.settle (fun _ => .done) fun _ => .done)) fun _ => .done
  | .pongSet _ _ => Async.settle (fun _ => .done) fun _ => .done
  | .expiryHDel key =>
    Async.settle (fun result =>
      (if (result : Nat) > 0 then Async.modify (announceOffline none (uidOfKey key)) else pure () : Handler Unit)
        finished .rejected) .rejected

@[reducible] def Point.thread (p : Point) : Thread Origin Server Command Reply JsError :=
  ⟨p.origin, p.cmd, p.cont⟩

abbrev Move : Type := PointTurn Point Server JsError

def trackMove (client : WebSocket) (data : RawData) (uid : Option String) (reset : Bool)
    (info : BroadcastUserStatusInfo) (s : Server) : Move :=
  if reset then ⟨trackClient client uid s, [.snapshot client data], []⟩
  else ⟨sendOwn client info (trackClient client uid s), [], []⟩

def unsubscribeMove (client : WebSocket) (data : RawData) (uid : String) (s : Server) : Move :=
  match s.clients.get client with
  | some _ => ⟨s, [.unsubscribeHDel client data uid], []⟩
  | none => ⟨sendUnsubscribed client s, [], []⟩

def guestUnsubscribeMove (client : WebSocket) (s : Server) : Move :=
  match s.clients.get client with
  | some _ => ⟨sendUnsubscribed client (untrackClient client s), [], []⟩
  | none => ⟨sendUnsubscribed client s, [], []⟩

def lookupMove (client : WebSocket) (data : RawData) (connectType : Option Json) (uid : String)
    (reset : Option Json) (userExists : Option Bool) (s : Server) : Move :=
  match userExists with
  | none => ⟨handleClose client invalidUid s, [], []⟩
  | some false => ⟨handleClose client unknownUid s, [], []⟩
  | some true =>
    match kindOf connectType with
    | .subscribe => ⟨s, [.subscribeHSet client data uid reset], []⟩
    | .unsubscribe => unsubscribeMove client data uid s
    | .other => ⟨s, [], []⟩

def expiryMove (key : String) (removed : Nat) (s : Server) : Move :=
  if removed > 0 then ⟨announceOffline none (uidOfKey key) s, [], []⟩ else ⟨s, [], []⟩

def Point.next : (p : Point) → Except JsError (Reply p.cmd) → Server → Move
  | .lookup client data connectType uid reset, .ok userExists, s =>
    lookupMove client data connectType uid reset userExists s
  | .lookup client _ _ _ _, .error _, s => ⟨internalError client s, [], []⟩
  | .subscribeHSet client data uid reset, .ok _, s => ⟨s, [.subscribeSet client data uid reset], []⟩
  | .subscribeHSet _ _ _ _, .error e, s => ⟨s, [], [e]⟩
  | .subscribeSet client data uid reset, .ok _, s =>
    trackMove client data (some uid) (Json.isTrue reset) (onlineInfo uid) (announceOnline client uid s)
  | .subscribeSet _ _ _ _, .error e, s => ⟨s, [], [e]⟩
  | .snapshot client _, .ok values, s => ⟨sendSnapshot client values s, [], []⟩
  | .snapshot _ _, .error e, s => ⟨s, [], [e]⟩
  | .unsubscribeHDel client _ uid, .ok _, s =>
    ⟨sendUnsubscribed client (untrackClient client (announceOffline (some client) uid s)), [], []⟩
  | .unsubscribeHDel _ _ _, .error e, s => ⟨s, [], [e]⟩
  | .pongHSet client uid, .ok _, s => ⟨s, [.pongSet client uid], []⟩
  | .pongHSet _ _, .error _, s => ⟨s, [], []⟩
  | .pongSet _ _, _, s => ⟨s, [], []⟩
  | .expiryHDel key, .ok result, s => expiryMove key result s
  | .expiryHDel _, .error e, s => ⟨s, [], [e]⟩

def presencePoints : Points Point Origin Server Command Reply JsError := ⟨Point.thread, Point.next⟩

/-- A frame's listener, up to the first `await`. -/
def messageMove (client : WebSocket) (data : RawData) (s : Server) : Move :=
  match request data with
  | .refused => ⟨internalError client s, [], []⟩
  | .unknownChannel => ⟨close client 4004 "Bad Subscription Request" s, [], []⟩
  | .guest connectType =>
    match kindOf connectType with
    | .subscribe => trackMove client data none true .empty s
    | .unsubscribe => guestUnsubscribeMove client s
    | .other => ⟨s, [], []⟩
  | .user connectType uid reset => ⟨s, [.lookup client data connectType uid reset], []⟩

def pongMove (client : WebSocket) (s : Server) : Move :=
  match s.clients.get client with
  | none => ⟨s, [], []⟩
  | some tracked =>
    match tracked.userUid with
    | none => ⟨markAlive client s, [], []⟩
    | some uid => ⟨markAlive client s, [.pongHSet client uid], []⟩

def expiredMove (key : String) (s : Server) : Move :=
  if startsWith key USER_STATUS_HASH_TTL_KEY then ⟨s, [.expiryHDel key], []⟩ else ⟨s, [], []⟩

/-! ## The moves are what the programs do -/

theorem trackMove_names (client : WebSocket) (data : RawData) (uid : Option String) (reset : Option Json)
    (info : BroadcastUserStatusInfo) (s : Server) :
    presencePoints.Names (.message client data) (trackMove client data uid (Json.isTrue reset) info s)
      ((trackAndAnswer client uid reset info finished .rejected).run s) := by
  cases h : Json.isTrue reset
  · simp only [trackAndAnswer, h]; exact ⟨rfl, rfl, rfl⟩
  · simp only [trackAndAnswer, h]; exact ⟨rfl, rfl, rfl⟩

theorem unsubscribeMove_names (client : WebSocket) (data : RawData) (uid : String) (s : Server) :
    presencePoints.Names (.message client data) (unsubscribeMove client data uid s)
      ((unsubscribeMessage client (some uid)).detached.run s) := by
  unfold unsubscribeMove
  simp only [unsubscribeMessage, Async.detached, Async.bind_apply, Async.get_apply, Proc.run_read]
  cases s.clients.get client with
  | none => exact ⟨rfl, rfl, rfl⟩
  | some _ => exact ⟨rfl, rfl, rfl⟩

theorem guestUnsubscribeMove_names (client : WebSocket) (data : RawData) (s : Server) :
    presencePoints.Names (.message client data) (guestUnsubscribeMove client s)
      ((unsubscribeMessage client none).detached.run s) := by
  unfold guestUnsubscribeMove
  simp only [unsubscribeMessage, Async.detached, Async.bind_apply, Async.get_apply, Proc.run_read]
  cases s.clients.get client with
  | none => exact ⟨rfl, rfl, rfl⟩
  | some _ => exact ⟨rfl, rfl, rfl⟩

theorem kindOf_cases (connectType : Option Json) :
    (kindOf connectType = .subscribe ∧ Json.isText connectType WEBSOCKET_SUBSCRIBE = true) ∨
    (kindOf connectType = .unsubscribe ∧ Json.isText connectType WEBSOCKET_SUBSCRIBE = false ∧
      Json.isText connectType WEBSOCKET_UNSUBSCRIBE = true) ∨
    (kindOf connectType = .other ∧ Json.isText connectType WEBSOCKET_SUBSCRIBE = false ∧
      Json.isText connectType WEBSOCKET_UNSUBSCRIBE = false) := by
  unfold kindOf
  cases Json.isText connectType WEBSOCKET_SUBSCRIBE <;>
    cases Json.isText connectType WEBSOCKET_UNSUBSCRIBE <;> simp

theorem lookupMove_names (client : WebSocket) (data : RawData) (connectType : Option Json) (uid : String)
    (reset : Option Json) (userExists : Option Bool) (s : Server) :
    presencePoints.Names (.message client data) (lookupMove client data connectType uid reset userExists s)
      ((answerLookup client connectType uid reset userExists finished (refuse client)).run s) := by
  unfold lookupMove answerLookup
  rcases userExists with _ | _ | _
  · exact ⟨rfl, rfl, rfl⟩
  · exact ⟨rfl, rfl, rfl⟩
  · rcases kindOf_cases connectType with ⟨hk, h1⟩ | ⟨hk, h1, h2⟩ | ⟨hk, h1, h2⟩
    · simp only [hk, h1]
      exact ⟨rfl, rfl, rfl⟩
    · simp only [hk, h1, h2]
      exact Proc.run_fork_done (unsubscribeMessage client (some uid)).detached s ▸
        unsubscribeMove_names client data uid s
    · simp only [hk, h1, h2]
      exact ⟨rfl, rfl, rfl⟩

theorem expiryMove_names (key : String) (removed : Nat) (s : Server) :
    presencePoints.Names (.expired key) (expiryMove key removed s)
      (((Point.expiryHDel key).cont (.ok removed)).run s) := by
  unfold expiryMove
  simp only [Point.cont, Async.settle_ok]
  split
  · exact ⟨rfl, rfl, rfl⟩
  · exact ⟨rfl, rfl, rfl⟩

theorem next_names : presencePoints.Sound := by
  intro p r s
  cases p with
  | lookup client data connectType uid reset =>
    cases r with
    | ok userExists => exact lookupMove_names client data connectType uid reset userExists s
    | error e => exact ⟨rfl, rfl, rfl⟩
  | subscribeHSet client data uid reset => cases r <;> exact ⟨rfl, rfl, rfl⟩
  | subscribeSet client data uid reset =>
    cases r with
    | ok _ => exact trackMove_names client data (some uid) reset (onlineInfo uid) (announceOnline client uid s)
    | error e => exact ⟨rfl, rfl, rfl⟩
  | snapshot client data => cases r <;> exact ⟨rfl, rfl, rfl⟩
  | unsubscribeHDel client data uid => cases r <;> exact ⟨rfl, rfl, rfl⟩
  | pongHSet client uid => cases r <;> exact ⟨rfl, rfl, rfl⟩
  | pongSet client uid => cases r <;> exact ⟨rfl, rfl, rfl⟩
  | expiryHDel key =>
    cases r with
    | error e => exact ⟨rfl, rfl, rfl⟩
    | ok result => exact expiryMove_names key result s

theorem guest_names (client : WebSocket) (data : RawData) (connectType : Option Json) (s : Server) :
    presencePoints.Names (.message client data)
      (match kindOf connectType with
        | .subscribe => trackMove client data none true .empty s
        | .unsubscribe => guestUnsubscribeMove client s
        | .other => ⟨s, [], []⟩)
      ((handleGuestMessage client connectType finished (refuse client)).run s) := by
  unfold handleGuestMessage
  rcases kindOf_cases connectType with ⟨hk, h1⟩ | ⟨hk, h1, h2⟩ | ⟨hk, h1, h2⟩
  · simp only [hk, h1]
    exact ⟨rfl, rfl, rfl⟩
  · simp only [hk, h1, h2]
    exact Proc.run_fork_done (unsubscribeMessage client none).detached s ▸
      guestUnsubscribeMove_names client data s
  · simp only [hk, h1, h2]
    exact ⟨rfl, rfl, rfl⟩

theorem userMessage_names (client : WebSocket) (data : RawData) (connectType : Option Json) (uid : String)
    (reset : Option Json) (s : Server) :
    presencePoints.Names (.message client data) ⟨s, [.lookup client data connectType uid reset], []⟩
      ((handleUserMessage client connectType uid reset finished (refuse client)).run s) :=
  ⟨rfl, rfl, rfl⟩

theorem json_names (client : WebSocket) {v : Json} (s : Server)
    (hc : StayWebSocketGateway.channelOf v = pure (v.field "channel")) (hv : v ≠ .null) :
    presencePoints.Names (.message client (.json v)) (messageMove client (.json v) s)
      ((StayWebSocketGateway.handleMessage client (.json v)).detached.run s) := by
  unfold messageMove
  rw [request.eq_3 v hv]
  simp only [StayWebSocketGateway.handleMessage, StayWebSocketGateway.parse, StayWebSocketGateway.gatewayOf,
    Async.detached, hc, Async.tryCatch_apply, Async.bind_apply, Async.pure_apply]
  cases Json.propertyKey (v.field "channel") with
  | none => exact ⟨rfl, rfl, rfl⟩
  | some key =>
    simp only [Option.map_some, Async.pure_apply]
    cases StayWebSocketGateway.channelGateways key with
    | none => exact ⟨rfl, rfl, rfl⟩
    | some gateway =>
      cases gateway with
      | inherited => exact ⟨rfl, rfl, rfl⟩
      | userStatusMessage =>
        simp only [requestOfMessage, UserStatusMessage.handleMessage, Async.tryCatch_apply]
        cases v.field "user_uid" with
        | none => exact guest_names client _ _ s
        | some u =>
          cases u with
          | null => exact guest_names client _ _ s
          | str uid => exact userMessage_names client _ _ uid _ s
          | _ => exact ⟨rfl, rfl, rfl⟩

theorem message_names (client : WebSocket) (data : RawData) (s : Server) :
    presencePoints.Names (.message client data) (messageMove client data s)
      ((StayWebSocketGateway.handleMessage client data).detached.run s) := by
  cases data with
  | malformed => exact ⟨rfl, rfl, rfl⟩
  | json v =>
    cases v with
    | null => exact ⟨rfl, rfl, rfl⟩
    | _ => exact json_names client s rfl (by simp)

theorem pong_names (client : WebSocket) (s : Server) :
    presencePoints.Names (.pong client) (pongMove client s)
      ((StayWebSocketGateway.handlePong client).detached.run s) := by
  have hr : (StayWebSocketGateway.handlePong client).detached.run s = (pong client).detached.run s :=
    Proc.run_fork_done _ s
  rw [hr]
  unfold pongMove
  simp only [pong, Async.detached, Async.bind_apply, Async.get_apply, Proc.run_read, Async.tryCatch_apply]
  cases s.clients.get client with
  | none => exact ⟨rfl, rfl, rfl⟩
  | some tracked =>
    simp only [Async.bind_apply, Async.modify_apply, Proc.run_write]
    cases tracked.userUid with
    | none => exact ⟨rfl, rfl, rfl⟩
    | some uid => exact ⟨rfl, rfl, rfl⟩

theorem expired_names (key : String) (s : Server) :
    presencePoints.Names (.expired key) (expiredMove key s)
      ((handleRedisExpiration key).detached.run s) := by
  unfold expiredMove handleRedisExpiration
  split
  · exact ⟨rfl, rfl, rfl⟩
  · exact ⟨rfl, rfl, rfl⟩

end StayApi
