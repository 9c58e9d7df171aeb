import StayApi.Mirror

/-!
# What the channel's operations change

The clients, the socket states and the effects after each operation on the
server state.
-/

namespace StayApi

open WebsocketChannel UserStatusMessage

def recipients (connectedClient : Option WebSocket) (s : Server) : List WebSocket :=
  ((s.clients.entries.map Prod.snd).filter fun t =>
    connectedClient ≠ some t.socket ∧ s.readyState t.socket = .OPEN).map TrackedClient.socket

def broadcastFrame (channel : String) (info : BroadcastUserStatusInfo) (c : WebSocket) : Effect :=
  .send .broadcast c channel (.statuses info)

theorem foldl_broadcastTo (conn : Option WebSocket) (channel : String) (info : BroadcastUserStatusInfo)
    (l : List TrackedClient) (s : Server) :
    l.foldl (broadcastTo conn channel info) s =
      { s with
        trace := s.trace ++ ((l.filter fun t => conn ≠ some t.socket ∧ s.readyState t.socket = .OPEN).map
          TrackedClient.socket).map (broadcastFrame channel info) } := by
  induction l generalizing s with
  | nil => simp
  | cons t l ih =>
    rw [List.foldl_cons, ih]
    unfold broadcastTo sendClientMessage
    by_cases hc : conn = some t.socket
    · simp [hc]
    · by_cases ho : s.readyState t.socket = .OPEN
      · simp [hc, ho, broadcastFrame]
      · simp [hc, ho]

theorem broadcastStatus_eq (conn : Option WebSocket) (channel : String) (info : BroadcastUserStatusInfo)
    (s : Server) : broadcastStatus conn channel info s =
      { s with
        trace := s.trace ++
          .broadcast conn info :: (recipients conn s).map (broadcastFrame channel info) } := by
  unfold broadcastStatus
  rw [foldl_broadcastTo]
  simp [recipients]

theorem mem_recipients {conn : Option WebSocket} {s : Server} {c : WebSocket} {t : TrackedClient}
    (ht : s.clients.get c = some t) (hs : t.socket = c) (hc : conn ≠ some c) (ho : s.readyState c = .OPEN) :
    c ∈ recipients conn s := by
  refine List.mem_map.mpr ⟨t, ?_, hs⟩
  refine List.mem_filter.mpr ⟨List.mem_map.mpr ⟨(c, t), OrdMap.mem_of_get ht, rfl⟩, ?_⟩
  simp [hs, hc, ho]

section
variable (c : WebSocket) (s : Server)

@[simp] theorem broadcastStatus_clients (conn : Option WebSocket) (channel : String)
    (info : BroadcastUserStatusInfo) : (broadcastStatus conn channel info s).clients = s.clients := by
  rw [broadcastStatus_eq]

@[simp] theorem broadcastStatus_readyState (conn : Option WebSocket) (channel : String)
    (info : BroadcastUserStatusInfo) : (broadcastStatus conn channel info s).readyState = s.readyState := by
  rw [broadcastStatus_eq]

@[simp] theorem announceOnline_clients (uid : String) : (announceOnline c uid s).clients = s.clients :=
  broadcastStatus_clients s _ _ _

@[simp] theorem announceOnline_readyState (uid : String) :
    (announceOnline c uid s).readyState = s.readyState :=
  broadcastStatus_readyState s _ _ _

@[simp] theorem announceOffline_clients (conn : Option WebSocket) (uid : String) :
    (announceOffline conn uid s).clients = s.clients :=
  broadcastStatus_clients s _ _ _

@[simp] theorem announceOffline_readyState (conn : Option WebSocket) (uid : String) :
    (announceOffline conn uid s).readyState = s.readyState :=
  broadcastStatus_readyState s _ _ _

@[simp] theorem sendUnsubscribed_clients : (sendUnsubscribed c s).clients = s.clients := rfl

@[simp] theorem sendUnsubscribed_readyState : (sendUnsubscribed c s).readyState = s.readyState := rfl

@[simp] theorem trackClient_clients (uid : Option String) :
    (trackClient c uid s).clients = s.clients.set c ⟨c, uid, true⟩ := rfl

@[simp] theorem untrackClient_clients : (untrackClient c s).clients = s.clients.delete c := rfl

@[simp] theorem untrackClient_readyState : (untrackClient c s).readyState = s.readyState := rfl

@[simp] theorem markAlive_clients :
    (markAlive c s).clients = s.clients.modify c fun t => { t with isAlive := true } := rfl

theorem close_open {status : Nat} {reason : String} {d : WebSocket}
    (h : (close c status reason s).readyState d = .OPEN) : s.readyState d = .OPEN := by
  simp only [close] at h
  split at h
  · cases h
  · exact h

theorem deleteClient_get (d : WebSocket) :
    (deleteClient c s).clients.get d = if d = c then none else s.clients.get d := by
  unfold deleteClient
  cases h : s.clients.get c with
  | none =>
    simp only
    split
    · rename_i hd; rw [hd, h]
    · rfl
  | some t => exact OrdMap.get_delete _ _ _

theorem disconnect_get (d : WebSocket) :
    (disconnect c s).clients.get d = if d = c then none else s.clients.get d :=
  deleteClient_get c _ d

theorem disconnect_open {d : WebSocket} (h : (disconnect c s).readyState d = .OPEN) :
    s.readyState d = .OPEN := by
  have hr : (disconnect c s).readyState d = if d = c then .CLOSED else s.readyState d := by
    unfold disconnect StayWebSocketGateway.handleDisconnect deleteClient
    split <;> rfl
  rw [hr] at h
  split at h
  · cases h
  · exact h

theorem disconnect_trace : (disconnect c s).trace = s.trace := by
  unfold disconnect StayWebSocketGateway.handleDisconnect deleteClient
  split <;> rfl

end

/-! ## The ping tick -/

/-- What a tick makes of one entry: an entry not marked alive since the last tick goes. -/
def ticked (t : TrackedClient) : Option TrackedClient :=
  if t.isAlive then some { t with isAlive := false } else none

theorem pingClient_get {s : Server} {t : TrackedClient} (ht : s.clients.get t.socket = some t) (c : WebSocket) :
    (pingClient s t).clients.get c = if c = t.socket then ticked t else s.clients.get c := by
  unfold pingClient ticked
  cases t.isAlive with
  | false => simp only [OrdMap.get_delete, if_true]; rfl
  | true => simp [OrdMap.get_modify, ht]

theorem foldl_pingClient {l : List (WebSocket × TrackedClient)} (hn : (l.map Prod.fst).Nodup)
    (hs : ∀ e ∈ l, e.2.socket = e.1) {s : Server} (hg : ∀ e ∈ l, s.clients.get e.1 = some e.2)
    (c : WebSocket) : ((l.map Prod.snd).foldl pingClient s).clients.get c =
      if c ∈ l.map Prod.fst then (s.clients.get c).bind ticked else s.clients.get c := by
  induction l generalizing s with
  | nil => simp
  | cons e l ih =>
    rw [List.map_cons, List.nodup_cons] at hn
    have he : e.2.socket = e.1 := hs e (List.mem_cons_self ..)
    have hge : s.clients.get e.2.socket = some e.2 := he ▸ hg e (List.mem_cons_self ..)
    have hstep := pingClient_get hge
    have hl : ∀ f ∈ l, (pingClient s e.2).clients.get f.1 = some f.2 := by
      intro f hf
      have hne : f.1 ≠ e.1 := fun h => hn.1 (h ▸ List.mem_map.mpr ⟨f, hf, rfl⟩)
      rw [hstep, he, if_neg hne]
      exact hg f (List.mem_cons_of_mem _ hf)
    rw [List.map_cons, List.foldl_cons, ih hn.2 (fun f hf => hs f (List.mem_cons_of_mem _ hf)) hl, hstep, he,
      List.map_cons]
    by_cases hc : c = e.1
    · subst hc
      have : s.clients.get e.1 = some e.2 := hg e (List.mem_cons_self ..)
      simp [hn.1, this]
    · simp only [hc, if_false, List.mem_cons, false_or]

/-- A tick keeps exactly the entries marked alive, and unmarks them. -/
theorem ping_get {s : Server} (hs : ∀ c t, s.clients.get c = some t → t.socket = c) (c : WebSocket) :
    (ping s).clients.get c = (s.clients.get c).bind ticked := by
  unfold ping
  rw [foldl_pingClient s.clients.nodup (fun e he => hs e.1 e.2 (OrdMap.get_of_mem he))
    fun e he => OrdMap.get_of_mem he]
  split
  · rfl
  · rename_i hc
    have : s.clients.get c = none := by
      have hk : ¬ (s.clients.get c).isSome := fun h => hc (OrdMap.mem_keys.mpr h)
      simpa using hk
    rw [this]; rfl

theorem pingClient_readyState (s : Server) (t : TrackedClient) :
    (pingClient s t).readyState = s.readyState := by
  unfold pingClient
  split <;> rfl

theorem ping_readyState (s : Server) : (ping s).readyState = s.readyState := by
  unfold ping
  generalize s.clients.entries.map Prod.snd = l
  induction l generalizing s with
  | nil => rfl
  | cons t l ih => rw [List.foldl_cons, ih, pingClient_readyState]

/-! ## The moves -/

theorem next_origin (p : Point) (r : Except JsError (Reply p.cmd)) (s : Server) :
    ∀ q ∈ (p.next r s).suspended, q.origin = p.origin :=
  Points.names_origin (next_names p r s)

theorem messageMove_origin (client : WebSocket) (data : RawData) (s : Server) :
    ∀ q ∈ (messageMove client data s).suspended, q.origin = .message client data :=
  Points.names_origin (message_names client data s)

theorem pongMove_origin (client : WebSocket) (s : Server) :
    ∀ q ∈ (pongMove client s).suspended, q.origin = .pong client :=
  Points.names_origin (pong_names client s)

theorem expiredMove_origin (key : String) (s : Server) :
    ∀ q ∈ (expiredMove key s).suspended, q.origin = .expired key :=
  Points.names_origin (expired_names key s)

/-- The point an answered point's handler goes on to. -/
inductive Follows : Answered → Point → Prop
  | subscribe {client : WebSocket} {data : RawData} {connectType reset : Option Json} {uid : String}
    (hk : kindOf connectType = .subscribe) :
    Follows ⟨.lookup client data connectType uid reset, .ok (some true)⟩ (.subscribeHSet client data uid reset)
  | unsubscribe {client : WebSocket} {data : RawData} {connectType reset : Option Json} {uid : String}
    (hk : kindOf connectType = .unsubscribe) :
    Follows ⟨.lookup client data connectType uid reset, .ok (some true)⟩ (.unsubscribeHDel client data uid)
  | lease {client : WebSocket} {data : RawData} {reset : Option Json} {uid : String} {added : Nat} :
    Follows ⟨.subscribeHSet client data uid reset, .ok added⟩ (.subscribeSet client data uid reset)
  | snapshot {client : WebSocket} {data : RawData} {reset : Option Json} {uid : String}
    (hr : Json.isTrue reset = true) :
    Follows ⟨.subscribeSet client data uid reset, .ok ()⟩ (.snapshot client data)
  | renew {client : WebSocket} {uid : String} {added : Nat} :
    Follows ⟨.pongHSet client uid, .ok added⟩ (.pongSet client uid)

section
variable {client : WebSocket} {data : RawData} {s : Server} {p : Point}

theorem trackMove_suspended {uid : Option String} {reset : Bool} {info : BroadcastUserStatusInfo}
    (hp : p ∈ (trackMove client data uid reset info s).suspended) : reset = true ∧ p = .snapshot client data := by
  unfold trackMove at hp
  split at hp
  · exact ⟨‹_›, List.mem_singleton.mp hp⟩
  · cases hp

theorem messageMove_suspended (hp : p ∈ (messageMove client data s).suspended) :
    (∃ connectType uid reset, request data = .user connectType uid reset ∧
      p = .lookup client data connectType uid reset) ∨
    (∃ connectType, request data = .guest connectType ∧ kindOf connectType = .subscribe ∧
      p = .snapshot client data) := by
  unfold messageMove at hp
  cases hr : request data with
  | refused => rw [hr] at hp; cases hp
  | unknownChannel => rw [hr] at hp; cases hp
  | user connectType uid reset =>
    rw [hr] at hp
    exact .inl ⟨connectType, uid, reset, rfl, List.mem_singleton.mp hp⟩
  | guest connectType =>
    rw [hr] at hp
    dsimp only at hp
    cases hk : kindOf connectType with
    | other => rw [hk] at hp; cases hp
    | subscribe =>
      rw [hk] at hp
      exact .inr ⟨connectType, rfl, hk, (trackMove_suspended hp).2⟩
    | unsubscribe =>
      rw [hk] at hp
      unfold guestUnsubscribeMove at hp
      cases hc : s.clients.get client with
      | none => rw [hc] at hp; cases hp
      | some t => rw [hc] at hp; cases hp

theorem pongMove_suspended (hp : p ∈ (pongMove client s).suspended) :
    ∃ t uid, s.clients.get client = some t ∧ t.userUid = some uid ∧ p = .pongHSet client uid := by
  unfold pongMove at hp
  cases hc : s.clients.get client with
  | none => rw [hc] at hp; cases hp
  | some t =>
    rw [hc] at hp
    cases hu : t.userUid with
    | none => simp [hu] at hp
    | some uid =>
      simp only [hu, List.mem_singleton] at hp
      exact ⟨t, uid, rfl, hu, hp⟩

theorem expiredMove_suspended {key : String} (hp : p ∈ (expiredMove key s).suspended) :
    startsWith key USER_STATUS_HASH_TTL_KEY = true ∧ p = .expiryHDel key := by
  unfold expiredMove at hp
  split at hp
  · exact ⟨‹_›, List.mem_singleton.mp hp⟩
  · cases hp

theorem next_follows {a : Answered} (hp : p ∈ (a.1.next a.2 s).suspended) : Follows a p := by
  obtain ⟨q, r⟩ := a
  cases q with
  | lookup client data connectType uid reset =>
    cases r with
    | error error => cases hp
    | ok userExists =>
      simp only [Point.next, lookupMove] at hp
      rcases userExists with _ | _ | _
      · cases hp
      · cases hp
      · cases hk : kindOf connectType with
        | other => simp [hk] at hp
        | subscribe =>
          simp only [hk, List.mem_singleton] at hp
          rw [hp]
          exact .subscribe hk
        | unsubscribe =>
          simp only [hk, unsubscribeMove] at hp
          cases hc : s.clients.get client with
          | none => rw [hc] at hp; cases hp
          | some t =>
            rw [hc] at hp
            rw [List.mem_singleton.mp hp]
            exact .unsubscribe hk
  | subscribeHSet client data uid reset =>
    cases r with
    | error error => cases hp
    | ok added =>
      rw [List.mem_singleton.mp hp]
      exact .lease
  | subscribeSet client data uid reset =>
    cases r with
    | error error => cases hp
    | ok _ =>
      obtain ⟨hr, rfl⟩ := trackMove_suspended hp
      exact .snapshot hr
  | pongHSet client uid =>
    cases r with
    | error error => cases hp
    | ok added =>
      rw [List.mem_singleton.mp hp]
      exact .renew
  | expiryHDel key =>
    cases r with
    | error error => cases hp
    | ok removed =>
      simp only [Point.next, expiryMove] at hp
      split at hp
      · cases hp
      · cases hp
  | snapshot client data => cases r <;> cases hp
  | unsubscribeHDel client data uid => cases r <;> cases hp
  | pongSet client uid => cases r <;> cases hp

end

theorem lookupMove_clients (client : WebSocket) (data : RawData) (connectType : Option Json) (uid : String)
    (reset : Option Json) (userExists : Option Bool) (s : Server) :
    (lookupMove client data connectType uid reset userExists s).state.clients = s.clients := by
  unfold lookupMove
  rcases userExists with _ | _ | _
  · rfl
  · rfl
  · cases kindOf connectType with
    | subscribe => rfl
    | other => rfl
    | unsubscribe =>
      unfold unsubscribeMove
      dsimp only
      cases s.clients.get client <;> rfl

theorem trackMove_clients (client : WebSocket) (data : RawData) (uid : Option String) (reset : Bool)
    (info : BroadcastUserStatusInfo) (s : Server) :
    (trackMove client data uid reset info s).state.clients = s.clients.set client ⟨client, uid, true⟩ := by
  unfold trackMove
  split <;> rfl

theorem guestUnsubscribeMove_get (client : WebSocket) (s : Server) (d : WebSocket) :
    (guestUnsubscribeMove client s).state.clients.get d = if d = client then none else s.clients.get d := by
  unfold guestUnsubscribeMove
  cases h : s.clients.get client with
  | none =>
    by_cases hd : d = client
    · rw [if_pos hd, hd]; exact h
    · rw [if_neg hd]; rfl
  | some t => exact OrdMap.get_delete ..

section
variable {c : WebSocket}

theorem messageMove_foreign {client : WebSocket} (hc : client ≠ c) (data : RawData) (s : Server) :
    (messageMove client data s).state.clients.get c = s.clients.get c := by
  unfold messageMove
  cases request data with
  | refused => rfl
  | unknownChannel => rfl
  | user connectType uid reset => rfl
  | guest connectType =>
    dsimp only
    cases kindOf connectType with
    | other => rfl
    | subscribe =>
      dsimp only
      rw [trackMove_clients, OrdMap.get_set_ne _ hc.symm]
    | unsubscribe =>
      dsimp only
      rw [guestUnsubscribeMove_get, if_neg hc.symm]

theorem pongMove_tracked (client : WebSocket) (s : Server) (d : WebSocket) :
    ((pongMove client s).state.clients.get d).isSome = (s.clients.get d).isSome := by
  have ha : ((markAlive client s).clients.get d).isSome = (s.clients.get d).isSome := by
    rw [markAlive_clients, OrdMap.get_modify]
    by_cases hd : d = client
    · rw [if_pos hd, hd, Option.isSome_map]
    · rw [if_neg hd]
  unfold pongMove
  cases s.clients.get client with
  | none => rfl
  | some t =>
    dsimp only
    cases t.userUid with
    | none => exact ha
    | some uid => exact ha

theorem expiredMove_state (key : String) (s : Server) : (expiredMove key s).state = s := by
  unfold expiredMove
  split <;> rfl

theorem next_foreign {p : Point} (h : ∀ data, p.origin ≠ .message c data) (r : Except JsError (Reply p.cmd))
    (s : Server) : (p.next r s).state.clients.get c = s.clients.get c := by
  cases p with
  | lookup client data connectType uid reset =>
    cases r with
    | ok v => exact congrArg (fun l => OrdMap.get l c) (lookupMove_clients ..)
    | error error => rfl
  | subscribeSet client data uid reset =>
    have hc : c ≠ client := fun hc => h data (by rw [hc]; rfl)
    cases r with
    | ok v =>
      show (trackMove ..).state.clients.get c = _
      rw [trackMove_clients, OrdMap.get_set_ne _ hc, announceOnline_clients]
    | error error => rfl
  | unsubscribeHDel client data uid =>
    have hc : c ≠ client := fun hc => h data (by rw [hc]; rfl)
    cases r with
    | ok v =>
      show (sendUnsubscribed ..).clients.get c = _
      rw [sendUnsubscribed_clients, untrackClient_clients, OrdMap.get_delete_ne _ hc, announceOffline_clients]
    | error error => rfl
  | expiryHDel key =>
    cases r with
    | ok v =>
      simp only [Point.next, expiryMove]
      split
      · rw [announceOffline_clients]
      · rfl
    | error error => rfl
  | subscribeHSet client data uid reset => cases r <;> rfl
  | snapshot client data => cases r <;> rfl
  | pongHSet client uid => cases r <;> rfl
  | pongSet client uid => cases r <;> rfl

end

end StayApi
