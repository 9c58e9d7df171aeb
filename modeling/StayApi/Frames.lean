import StayApi.Effects
import StayApi.JsonRoundTrip
import StayApi.Known

/-!
# The frames as texts

`sendClientMessage` writes `JSON.stringify({channel, data})`; the gateway reads
what a client wrote with `JSON.parse`. Whatever is sent is read back, and means
on the other side what it meant on this one.
-/

namespace StayApi

open WebsocketChannel UserStatusMessage

/-! ## What the server writes -/

def SendData.json (data : SendData) : Json :=
  match data with
  | .statuses info => .obj (info.entries.map fun e => (e.1, .str e.2.text))
  | .connectType t => .str t

/-- The text `sendClientMessage` hands to `client.send`. -/
def frameText (channel : String) (data : SendData) : String :=
  JsonText.stringify (.obj [("channel", .str channel), ("data", data.json)])

def readStatus : Json → Option UserStatusType
  | .str s => if s = ONLINE.text then some ONLINE else if s = OFFLINE.text then some OFFLINE else none
  | _ => none

def readStatuses : List (String × Json) → Option (List (String × UserStatusType))
  | [] => some []
  | (uid, x) :: fields =>
    match readStatus x, readStatuses fields with
    | some status, some info => some ((uid, status) :: info)
    | _, _ => none

def readData : Json → Option SendData
  | .str connectType => some (.connectType connectType)
  | .obj fields =>
    match readStatuses fields with
    | some info => if h : (info.map Prod.fst).Nodup then some (.statuses ⟨info, h⟩) else none
    | none => none
  | _ => none

def readFrame (text : String) : Option (String × SendData) :=
  match JsonText.parse text with
  | none => none
  | some v =>
    match v.field "channel", v.field "data" with
    | some (.str channel), some data => (readData data).map fun d => (channel, d)
    | _, _ => none

def sentTo (c : WebSocket) : Effect → Option (String × SendData)
  | .send _ client channel data => if client = c then some (channel, data) else none
  | _ => none

def Server.sends (c : WebSocket) (s : Server) : List (String × SendData) := s.trace.filterMap (sentTo c)

def Server.texts (c : WebSocket) (s : Server) : List String := (s.sends c).map fun d => frameText d.1 d.2

section

theorem fields_statuses (info : List (String × UserStatusType)) :
    JsonText.fieldsWellFormed (info.map fun e => (e.1, .str e.2.text)) = true := by
  induction info with
  | nil => rfl
  | cons e info ih => exact ih

theorem wellFormed_data (data : SendData) : JsonText.wellFormed data.json = true := by
  cases data with
  | connectType connectType => rfl
  | statuses info =>
    refine Bool.and_eq_true_iff.mpr ⟨decide_eq_true ?_, fields_statuses info.entries⟩
    rw [List.map_map]
    exact info.nodup

theorem readStatuses_map (info : List (String × UserStatusType)) :
    readStatuses (info.map fun e => (e.1, .str e.2.text)) = some info := by
  induction info with
  | nil => rfl
  | cons e info ih =>
    obtain ⟨uid, status⟩ := e
    have hs : readStatus (.str status.text) = some status := by cases status <;> decide
    simp only [List.map_cons, readStatuses, hs, ih]

theorem readData_json (data : SendData) : readData data.json = some data := by
  cases data with
  | connectType connectType => rfl
  | statuses info =>
    simp only [SendData.json, readData, readStatuses_map]
    rw [dif_pos info.nodup]

theorem readFrame_frameText (channel : String) (data : SendData) :
    readFrame (frameText channel data) = some (channel, data) := by
  have hw : JsonText.wellFormed (.obj [("channel", .str channel), ("data", data.json)]) = true := by
    simp [JsonText.wellFormed, JsonText.fieldsWellFormed, wellFormed_data]
  unfold readFrame frameText
  rw [JsonText.parse_stringify hw]
  have hc : Json.field (.obj [("channel", .str channel), ("data", data.json)]) "channel" = some (.str channel) := rfl
  have hd : Json.field (.obj [("channel", .str channel), ("data", data.json)]) "data" = some data.json := rfl
  simp only [hc, hd, readData_json, Option.map_some]

theorem texts_read (c : WebSocket) (s : Server) : (s.texts c).map readFrame = (s.sends c).map some := by
  unfold Server.texts
  rw [List.map_map]
  apply List.map_congr_left
  intro d _
  rw [Function.comp_apply, readFrame_frameText]

end

/-! ## What the frames tell -/

/-- The statuses are of users of the table; a text is the answer to an unsubscribe. -/
def Told (users : Users) (d : String × SendData) : Prop :=
  d.1 = WEBSOCKET_CHANNEL_USER_STATUS ∧
    match d.2 with
    | .statuses info => ∀ uid, (info.get uid).isSome → users uid = .ok (some true)
    | .connectType t => t = WEBSOCKET_UNSUBSCRIBE

def Tells (users : Users) : Effect → Prop
  | .send _ _ channel data => Told users (channel, data)
  | _ => True

/-- What Redis answers about a uid it has of a user. -/
def Reported (users : Users) : Answered → Prop
  | ⟨.snapshot _ _, .ok values⟩ => ∀ uid, (OrdMap.get values uid).isSome → users uid = .ok (some true)
  | ⟨.expiryHDel key, .ok removed⟩ => removed > 0 → users (uidOfKey key) = .ok (some true)
  | _ => True

section
variable {users : Users} {s : Server} {uid : String}

theorem onlineInfo_known (h : users uid = .ok (some true)) {u : String} (hu : ((onlineInfo uid).get u).isSome) :
    users u = .ok (some true) := by
  rw [onlineInfo, OrdMap.get_set] at hu
  by_cases he : u = uid
  · rw [he]
    exact h
  · rw [if_neg he] at hu
    cases hu

theorem offlineInfo_known (h : users uid = .ok (some true)) {u : String} (hu : ((offlineInfo uid).get u).isSome) :
    users u = .ok (some true) := by
  rw [offlineInfo, OrdMap.get_set] at hu
  by_cases he : u = uid
  · rw [he]
    exact h
  · rw [if_neg he] at hu
    cases hu

theorem tells_broadcast {conn : Option WebSocket} {info : BroadcastUserStatusInfo}
    (h : ∀ uid, (info.get uid).isSome → users uid = .ok (some true)) :
    Adds (Tells users) s (broadcastStatus conn WEBSOCKET_CHANNEL_USER_STATUS info s) :=
  adds_broadcast trivial fun _ => ⟨rfl, h⟩

theorem trackMove_tells (client : WebSocket) (data : RawData) (uid : Option String) (reset : Bool)
    {info : BroadcastUserStatusInfo} (h : ∀ uid, (info.get uid).isSome → users uid = .ok (some true)) :
    Adds (Tells users) s (trackMove client data uid reset info s).state := by
  unfold trackMove
  split
  · exact adds_same rfl
  · exact adds_one rfl ⟨rfl, h⟩

theorem guestUnsubscribeMove_tells (client : WebSocket) :
    Adds (Tells users) s (guestUnsubscribeMove client s).state := by
  unfold guestUnsubscribeMove
  cases s.clients.get client with
  | none => exact adds_one rfl ⟨rfl, rfl⟩
  | some t => exact adds_one rfl ⟨rfl, rfl⟩

theorem messageMove_tells (client : WebSocket) (data : RawData) :
    Adds (Tells users) s (messageMove client data s).state := by
  unfold messageMove
  cases request data with
  | refused => exact adds_one rfl trivial
  | unknownChannel => exact adds_one rfl trivial
  | user connectType uid reset => exact adds_same rfl
  | guest connectType =>
    dsimp only
    cases kindOf connectType with
    | subscribe => exact trackMove_tells _ _ _ _ (fun _ hu => by cases hu)
    | unsubscribe => exact guestUnsubscribeMove_tells ..
    | other => exact adds_same rfl

theorem lookupMove_tells (client : WebSocket) (data : RawData) (connectType : Option Json) (uid : String)
    (reset : Option Json) (userExists : Option Bool) :
    Adds (Tells users) s (lookupMove client data connectType uid reset userExists s).state := by
  unfold lookupMove
  rcases userExists with _ | _ | _
  · exact adds_one rfl trivial
  · exact adds_one rfl trivial
  · cases kindOf connectType with
    | subscribe => exact adds_same rfl
    | other => exact adds_same rfl
    | unsubscribe =>
      unfold unsubscribeMove
      dsimp only
      cases s.clients.get client with
      | none => exact adds_one rfl ⟨rfl, rfl⟩
      | some t => exact adds_same rfl

theorem next_tells {a : Answered} (hp : PointOk users a.1) (ha : Reported users a) :
    Adds (Tells users) s (a.1.next a.2 s).state := by
  obtain ⟨p, r⟩ := a
  cases p with
  | lookup client data connectType uid reset =>
    cases r with
    | ok v => exact lookupMove_tells ..
    | error error => exact adds_one rfl trivial
  | subscribeSet client data uid reset =>
    cases r with
    | ok v =>
      have hk : ∀ u, ((onlineInfo uid).get u).isSome → users u = .ok (some true) :=
        fun u hu => onlineInfo_known (hp.1 uid rfl) hu
      exact adds_trans (tells_broadcast hk) (trackMove_tells _ _ _ _ hk)
    | error error => exact adds_same rfl
  | snapshot client data =>
    cases r with
    | ok values =>
      refine adds_one rfl ⟨rfl, ?_⟩
      intro uid hu
      rw [OrdMap.get_fill] at hu
      split at hu
      · rename_i hm
        exact ha uid (OrdMap.mem_keys.mp hm.1)
      · cases hu
    | error error => exact adds_same rfl
  | unsubscribeHDel client data uid =>
    cases r with
    | ok v =>
      exact adds_trans (tells_broadcast fun u hu => offlineInfo_known (hp.1 uid rfl) hu) (adds_one rfl ⟨rfl, rfl⟩)
    | error error => exact adds_same rfl
  | expiryHDel key =>
    cases r with
    | ok removed =>
      simp only [Point.next, expiryMove]
      split
      · rename_i hr
        exact tells_broadcast fun u hu => offlineInfo_known (ha hr) hu
      · exact adds_same rfl
    | error error => exact adds_same rfl
  | subscribeHSet client data uid reset => cases r <;> exact adds_same rfl
  | pongHSet client uid => cases r <;> exact adds_same rfl
  | pongSet client uid => exact adds_same rfl

theorem step_tells {m m' : Mirror} {e : Event} (h : Known users m) (hr : ∀ a ∈ m.replied, Reported users a)
    (hs : Stepped users m e m') : Adds (Tells users) m.server m'.server := by
  cases hs with
  | message _ => exact messageMove_tells ..
  | pong _ => exact adds_same (pongMove_trace ..)
  | disconnect _ => exact adds_same (disconnect_trace ..)
  | pingTick =>
    obtain ⟨l, hl, hp⟩ := ping_adds m.server
    refine ⟨l, hl, ?_⟩
    intro x hx
    obtain ⟨c, rfl⟩ := hp x hx
    trivial
  | expire _ => exact adds_same rfl
  | expireOther _ => exact adds_same rfl
  | @deliver l₁ l₂ key _ => exact adds_same (congrArg Server.trace (expiredMove_state key m.server))
  | exec _ => exact adds_same rfl
  | reject _ => exact adds_same rfl
  | @resume l₁ l₂ a hi =>
    have hm : a ∈ m.replied := by rw [hi]; simp
    exact next_tells (h.replied a hm) (hr a hm)

theorem serve_reported {R : Redis}
    (hR : ∀ u, ((R.hashes USER_STATUS_HASH_KEY).get u).isSome → users u = .ok (some true)) (p : Point) :
    Reported users ⟨p, (serve users p.cmd R).2⟩ := by
  cases p with
  | snapshot client data => exact hR
  | expiryHDel key =>
    intro hremoved
    apply hR
    by_contra hn
    exact absurd hremoved (by simp [Redis.hDel, hn])
  | _ => trivial

theorem reported_error (p : Point) (error : JsError) : Reported users ⟨p, .error error⟩ := by
  cases p <;> trivial

theorem step_reported {m m' : Mirror} {e : Event} (h : Known users m) (hr : ∀ a ∈ m.replied, Reported users a)
    (hs : Stepped users m e m') : ∀ a ∈ m'.replied, Reported users a := by
  cases hs with
  | @exec l₁ l₂ p _ => exact List.forall_mem_append.mpr ⟨hr, by simpa using serve_reported h.hash p⟩
  | @reject l₁ l₂ p carriedOut error _ => exact List.forall_mem_append.mpr ⟨hr, by simpa using reported_error p error⟩
  | @resume l₁ l₂ a hi =>
    intro b hb
    exact hr b (hi ▸ mem_unskip hb)
  | _ => exact hr

end

structure Telling (users : Users) (m : Mirror) : Prop where
  known : Known users m
  reported : ∀ a ∈ m.replied, Reported users a
  trace : ∀ x ∈ m.server.trace, Tells users x

theorem telling_step {users : Users} {m m' : Mirror} {e : Event} (h : Telling users m) (hs : Stepped users m e m') :
    Telling users m' := by
  refine ⟨known_step h.known hs, step_reported h.known h.reported hs, ?_⟩
  obtain ⟨l, hl, hp⟩ := step_tells h.known h.reported hs
  rw [hl]
  exact List.forall_mem_append.mpr ⟨h.trace, hp⟩

/-- **What a client reads is what it was told.** The texts a socket has been sent
are read, one by one and in order, as the data they were written for, on the one
channel; statuses are of uids of the table only, each uid once. -/
theorem texts_told (users : Users) {es : List Event} {w : World} (hr : run (step users) World.start es = some w)
    (c : WebSocket) :
    (w.server.texts c).map readFrame = (w.server.sends c).map some ∧ ∀ d ∈ w.server.sends c, Told users d := by
  refine ⟨texts_read c w.server, ?_⟩
  have hstart : Telling users Mirror.start :=
    ⟨known_start users, fun a h => (by cases h), fun x h => (by cases h)⟩
  obtain ⟨m, hm, rfl⟩ := presence_invariant hstart (fun m e m' h _ hs => telling_step h hs)
    (along_true World.start es) hr
  intro d hd
  obtain ⟨x, hx, hs⟩ := List.mem_filterMap.mp hd
  have hx : Tells users x := hm.trace x hx
  cases x with
  | send via client channel data =>
    simp only [sentTo] at hs
    split at hs
    · obtain rfl := Option.some.inj hs
      exact hx
    · cases hs
  | _ => cases hs

theorem texts_told_subscribe :
    ∃ w, run (step everyUser) World.start (subscribeRun 0 "a") = some w ∧
      (w.server.texts 0).map readFrame = (w.server.sends 0).map some ∧ (w.server.sends 0).length = 1 := by
  obtain ⟨w, hw⟩ := Option.isSome_iff_exists.mp
    (show (run (step everyUser) World.start (subscribeRun 0 "a")).isSome = true by decide)
  have hone : (run (step everyUser) World.start (subscribeRun 0 "a")).map (fun w => (w.server.sends 0).length) =
      some 1 := by decide
  rw [hw] at hone
  exact ⟨w, hw, (texts_told everyUser hw 0).1, Option.some.inj hone⟩

/-! ## What a client writes -/

/-- `JSON.parse(data.toString())`. -/
def RawData.ofText (text : String) : RawData :=
  match JsonText.parse text with
  | some v => .json v
  | none => .malformed

inductive WebsocketConnectType where
  | subscribe
  | unsubscribe

def WebsocketConnectType.text : WebsocketConnectType → String
  | .subscribe => "subscribe"
  | .unsubscribe => "unsubscribe"

structure WebsocketSubscribeMessage where
  connect_type : WebsocketConnectType
  user_uid : Option String
  reset : Option Bool

namespace WebsocketSubscribeMessage

/-- The members of the message; the channel has one value, and what is undefined is left out. -/
def members (m : WebsocketSubscribeMessage) : List (String × Json) :=
  ("connect_type", .str m.connect_type.text) :: ("channel", .str WEBSOCKET_CHANNEL_USER_STATUS) ::
    ((m.user_uid.map fun uid => ("user_uid", Json.str uid)).toList ++
      (m.reset.map fun reset => ("reset", Json.bool reset)).toList)

def request (m : WebsocketSubscribeMessage) : Request :=
  match m.user_uid with
  | none => .guest (some (.str m.connect_type.text))
  | some uid => .user (some (.str m.connect_type.text)) uid (m.reset.map .bool)

end WebsocketSubscribeMessage

/-- The object has the members of the message, wherever they stand, and any others. -/
def Says (fields : List (String × Json)) (m : WebsocketSubscribeMessage) : Prop :=
  ∀ key ∈ ["connect_type", "channel", "user_uid", "reset"], fields.lookup key = m.members.lookup key

section
variable {fields : List (String × Json)} {m : WebsocketSubscribeMessage}

theorem says_members (m : WebsocketSubscribeMessage) : Says m.members m := fun _ _ => rfl

theorem ofText_stringify {v : Json} (h : JsonText.wellFormed v = true) :
    RawData.ofText (JsonText.stringify v) = .json v := by
  unfold RawData.ofText
  rw [JsonText.parse_stringify h]

theorem members_lookup (m : WebsocketSubscribeMessage) :
    m.members.lookup "connect_type" = some (.str m.connect_type.text) ∧
      m.members.lookup "channel" = some (.str WEBSOCKET_CHANNEL_USER_STATUS) ∧
      m.members.lookup "user_uid" = m.user_uid.map .str ∧ m.members.lookup "reset" = m.reset.map .bool := by
  obtain ⟨t, uid, reset⟩ := m
  cases uid <;> cases reset <;> exact ⟨rfl, rfl, rfl, rfl⟩

theorem request_says (h : Says fields m) : request (.json (.obj fields)) = m.request := by
  obtain ⟨ht, hc, hu, hr⟩ := members_lookup m
  have ht : fields.lookup "connect_type" = some (.str m.connect_type.text) := (h _ (by decide)).trans ht
  have hc : fields.lookup "channel" = some (.str WEBSOCKET_CHANNEL_USER_STATUS) := (h _ (by decide)).trans hc
  have hu : fields.lookup "user_uid" = m.user_uid.map .str := (h _ (by decide)).trans hu
  have hr : fields.lookup "reset" = m.reset.map .bool := (h _ (by decide)).trans hr
  have hg : StayWebSocketGateway.channelGateways WEBSOCKET_CHANNEL_USER_STATUS = some .userStatusMessage := if_pos rfl
  simp only [request, Json.field, hc, Json.propertyKey, Json.text, Option.map_some, hg, requestOfMessage, hu,
    WebsocketSubscribeMessage.request]
  cases m.user_uid with
  | none => simp [ht]
  | some uid => simp [ht, hr]

end

/-- A text is malformed, or of a well-formed value and as good as that value's own text. -/
theorem ofText_cases (text : String) :
    RawData.ofText text = .malformed ∨
      ∃ v, JsonText.wellFormed v = true ∧ RawData.ofText text = .json v ∧
        RawData.ofText (JsonText.stringify v) = .json v := by
  cases hp : JsonText.parse text with
  | none =>
    left
    simp only [RawData.ofText, hp]
  | some v =>
    right
    have hv := JsonText.wellFormed_of_parse hp
    refine ⟨v, hv, ?_, ofText_stringify hv⟩
    simp only [RawData.ofText, hp]

/-- **A frame means what its writer meant.** The text of an object that has the
members of a message, in any order and among any others, is to the gateway the
request of that message. -/
theorem frames_understood (m : WebsocketSubscribeMessage) (fields : List (String × Json))
    (hw : JsonText.wellFormed (.obj fields) = true) (hm : Says fields m) :
    request (RawData.ofText (JsonText.stringify (.obj fields))) = m.request := by
  rw [ofText_stringify hw, request_says hm]

theorem frames_understood_subscribe :
    request (RawData.ofText (JsonText.stringify (.obj (WebsocketSubscribeMessage.members ⟨.subscribe, some "a", some true⟩)))) =
      .user (some (.str "subscribe")) "a" (some (.bool true)) :=
  frames_understood ⟨.subscribe, some "a", some true⟩ _ (by decide) (says_members _)

end StayApi
