import StayApi.ServerLemmas

/-!
# What a step sends

The effects a step adds to the trace, and which uids a step turns up or down in
the clients: a uid is announced offline by the end of an unsubscribe or of an
expiry only, and a socket is tracked under a uid by the end of a subscribe only.
-/

namespace StayApi

open WebsocketChannel UserStatusMessage

/-- `s'` is `s` with further effects, all of which satisfy `P`. -/
def Adds (P : Effect → Prop) (s s' : Server) : Prop := ∃ l, s'.trace = s.trace ++ l ∧ ∀ x ∈ l, P x

section
variable {P : Effect → Prop} {s s' s'' : Server}

theorem adds_same (h : s'.trace = s.trace) : Adds P s s' :=
  ⟨[], by rw [h, List.append_nil], fun _ hx => absurd hx List.not_mem_nil⟩

theorem adds_one {x : Effect} (h : s'.trace = s.trace ++ [x]) (hx : P x) : Adds P s s' :=
  ⟨[x], h, fun y hy => by rw [List.mem_singleton.mp hy]; exact hx⟩

theorem adds_trans (h : Adds P s s') (h' : Adds P s' s'') : Adds P s s'' := by
  obtain ⟨l, hl, hp⟩ := h
  obtain ⟨l', hl', hp'⟩ := h'
  refine ⟨l ++ l', by rw [hl', hl, List.append_assoc], fun x hx => ?_⟩
  rcases List.mem_append.mp hx with hx | hx
  · exact hp x hx
  · exact hp' x hx

theorem adds_mem {x : Effect} (h : Adds P s s') (hx : x ∈ s'.trace.drop s.trace.length) : P x := by
  obtain ⟨l, hl, hp⟩ := h
  rw [hl, List.drop_left] at hx
  exact hp x hx

theorem adds_broadcast {conn : Option WebSocket} {info : BroadcastUserStatusInfo}
    (hb : P (.broadcast conn info)) (hf : ∀ c, P (broadcastFrame WEBSOCKET_CHANNEL_USER_STATUS info c)) :
    Adds P s (broadcastStatus conn WEBSOCKET_CHANNEL_USER_STATUS info s) := by
  rw [broadcastStatus_eq]
  refine ⟨_, rfl, fun x hx => ?_⟩
  rcases List.mem_cons.mp hx with rfl | hx
  · exact hb
  · obtain ⟨c, -, rfl⟩ := List.mem_map.mp hx
    exact hf c

end

/-! ## Offline broadcasts -/

def SparesOnline (u : String) (x : Effect) : Prop :=
  ∀ conn info, x = .broadcast conn info → info.get u ≠ some OFFLINE

section
variable {u : String} {s : Server}

theorem spares_send {via : Via} {c : WebSocket} {channel : String} {data : SendData} :
    SparesOnline u (.send via c channel data) := fun _ _ h => by cases h

theorem spares_close {c : WebSocket} {status : Nat} {reason : String} : SparesOnline u (.close c status reason) :=
  fun _ _ h => by cases h

/-- `P` leaves out nothing but what announces `u` offline. -/
structure Neutral (u : String) (P : Effect → Prop) : Prop where
  record : ∀ conn info, info.get u ≠ some OFFLINE → P (.broadcast conn info)
  frame : ∀ info c, info.get u ≠ some OFFLINE → P (broadcastFrame WEBSOCKET_CHANNEL_USER_STATUS info c)
  answer : ∀ via c channel data, via ≠ .broadcast → P (.send via c channel data)
  close : ∀ c status reason, P (.close c status reason)
  ping : ∀ c, P (.ping c)

theorem sparesOnline_neutral : Neutral u (SparesOnline u) := by
  refine ⟨?_, ?_, ?_, ?_, ?_⟩
  · intro conn info hi conn' info' h
    obtain ⟨-, rfl⟩ := Effect.broadcast.inj h
    exact hi
  · intro info c _
    exact spares_send
  · intro via c channel data _
    exact spares_send
  · intro c status reason
    exact spares_close
  · intro c conn info h
    cases h

theorem onlineInfo_get (v : String) : (onlineInfo v).get u ≠ some OFFLINE := by
  intro hg
  rw [onlineInfo, OrdMap.get_set] at hg
  split at hg
  · cases hg
  · cases hg

theorem offlineInfo_get (v : String) : (offlineInfo v).get u = some OFFLINE ↔ v = u := by
  rw [offlineInfo, OrdMap.get_set]
  by_cases h : u = v
  · simp [h]
  · simp [h, Ne.symm h]

section
variable {P : Effect → Prop} (hP : Neutral u P)
include hP

theorem announce_adds {conn : Option WebSocket} {info : BroadcastUserStatusInfo} (hi : info.get u ≠ some OFFLINE) :
    Adds P s (broadcastStatus conn WEBSOCKET_CHANNEL_USER_STATUS info s) :=
  adds_broadcast (hP.record conn info hi) fun c => hP.frame info c hi

theorem trackMove_adds (client : WebSocket) (data : RawData) (uid : Option String) (reset : Bool)
    (info : BroadcastUserStatusInfo) : Adds P s (trackMove client data uid reset info s).state := by
  unfold trackMove
  split
  · exact adds_same rfl
  · exact adds_one rfl (hP.answer _ _ _ _ (by simp))

theorem guestUnsubscribeMove_adds (client : WebSocket) : Adds P s (guestUnsubscribeMove client s).state := by
  unfold guestUnsubscribeMove
  cases s.clients.get client with
  | none => exact adds_one rfl (hP.answer _ _ _ _ (by simp))
  | some t => exact adds_one rfl (hP.answer _ _ _ _ (by simp))

theorem messageMove_adds (client : WebSocket) (data : RawData) : Adds P s (messageMove client data s).state := by
  unfold messageMove
  cases request data with
  | refused => exact adds_one rfl (hP.close _ _ _)
  | unknownChannel => exact adds_one rfl (hP.close _ _ _)
  | user connectType uid reset => exact adds_same rfl
  | guest connectType =>
    dsimp only
    cases kindOf connectType with
    | subscribe => exact trackMove_adds hP ..
    | unsubscribe => exact guestUnsubscribeMove_adds hP ..
    | other => exact adds_same rfl

theorem lookupMove_adds (client : WebSocket) (data : RawData) (connectType : Option Json) (uid : String)
    (reset : Option Json) (userExists : Option Bool) :
    Adds P s (lookupMove client data connectType uid reset userExists s).state := by
  unfold lookupMove
  rcases userExists with _ | _ | _
  · exact adds_one rfl (hP.close _ _ _)
  · exact adds_one rfl (hP.close _ _ _)
  · cases kindOf connectType with
    | subscribe => exact adds_same rfl
    | other => exact adds_same rfl
    | unsubscribe =>
      unfold unsubscribeMove
      dsimp only
      cases s.clients.get client with
      | none => exact adds_one rfl (hP.answer _ _ _ _ (by simp))
      | some t => exact adds_same rfl

end

theorem pongMove_trace (client : WebSocket) (s : Server) : (pongMove client s).state.trace = s.trace := by
  unfold pongMove
  cases s.clients.get client with
  | none => rfl
  | some t =>
    dsimp only
    cases t.userUid <;> rfl

theorem ping_adds (s : Server) : Adds (fun x => ∃ c, x = .ping c) s (ping s) := by
  unfold ping
  generalize s.clients.entries.map Prod.snd = l
  induction l generalizing s with
  | nil => exact adds_same rfl
  | cons t l ih =>
    have h : Adds (fun x => ∃ c, x = .ping c) s (pingClient s t) := by
      unfold pingClient
      split
      · exact adds_same rfl
      · exact adds_one rfl ⟨t.socket, rfl⟩
    exact adds_trans h (ih _)

/-- The handlers whose end announces `u` offline, and the socket left out of the broadcast. -/
inductive OfflineBy (u : String) : Answered → Option WebSocket → Prop
  | unsubscribe (c : WebSocket) (data : RawData) (v : Nat) :
    OfflineBy u ⟨.unsubscribeHDel c data u, .ok v⟩ (some c)
  | expiry {key : String} {v : Nat} (hk : uidOfKey key = u) (hv : v > 0) : OfflineBy u ⟨.expiryHDel key, .ok v⟩ none

theorem offline_mem {conn conn' : Option WebSocket} {v : String} {info : BroadcastUserStatusInfo} {s' : Server}
    (hs : Adds (SparesOnline u) (announceOffline conn v s) s')
    (hm : .broadcast conn' info ∈ s'.trace.drop s.trace.length) (hu : info.get u = some OFFLINE) :
    conn' = conn ∧ v = u := by
  obtain ⟨l, hl, hp⟩ := hs
  rw [hl, announceOffline, broadcastStatus_eq, List.append_assoc, List.drop_left] at hm
  rcases List.mem_append.mp hm with hm | hm
  · rcases List.mem_cons.mp hm with hm | hm
    · obtain ⟨rfl, rfl⟩ := Effect.broadcast.inj hm
      exact ⟨rfl, (offlineInfo_get v).mp hu⟩
    · obtain ⟨c, -, hc⟩ := List.mem_map.mp hm
      cases hc
  · exact absurd hu (hp _ hm _ _ rfl)

theorem next_adds {P : Effect → Prop} (hP : Neutral u P) (a : Answered) :
    Adds P s (a.1.next a.2 s).state ∨ ∃ conn, OfflineBy u a conn := by
  obtain ⟨p, r⟩ := a
  cases p with
  | lookup client data connectType uid reset =>
    cases r with
    | ok v => exact .inl (lookupMove_adds hP ..)
    | error error => exact .inl (adds_one rfl (hP.close _ _ _))
  | subscribeSet client data uid reset =>
    cases r with
    | ok v => exact .inl (adds_trans (announce_adds hP (onlineInfo_get uid)) (trackMove_adds hP ..))
    | error error => exact .inl (adds_same rfl)
  | snapshot client data =>
    cases r with
    | ok v => exact .inl (adds_one rfl (hP.answer _ _ _ _ (by simp)))
    | error error => exact .inl (adds_same rfl)
  | unsubscribeHDel client data uid =>
    cases r with
    | ok v =>
      by_cases hv : uid = u
      · rw [hv]
        exact .inr ⟨_, .unsubscribe client data v⟩
      · have hi : (offlineInfo uid).get u ≠ some OFFLINE := fun h => hv ((offlineInfo_get uid).mp h)
        exact .inl (adds_trans (announce_adds hP hi) (adds_one rfl (hP.answer _ _ _ _ (by simp))))
    | error error => exact .inl (adds_same rfl)
  | expiryHDel key =>
    cases r with
    | ok v =>
      simp only [Point.next, expiryMove]
      split
      · by_cases hk : uidOfKey key = u
        · exact .inr ⟨_, .expiry hk ‹_›⟩
        · exact .inl (announce_adds hP fun h => hk ((offlineInfo_get _).mp h))
      · exact .inl (adds_same rfl)
    | error error => exact .inl (adds_same rfl)
  | subscribeHSet client data uid reset => cases r <;> exact .inl (adds_same rfl)
  | pongHSet client uid => cases r <;> exact .inl (adds_same rfl)
  | pongSet client uid => exact .inl (adds_same rfl)

theorem next_offline {a : Answered} {conn : Option WebSocket} {info : BroadcastUserStatusInfo}
    (hm : .broadcast conn info ∈ (a.1.next a.2 s).state.trace.drop s.trace.length)
    (hu : info.get u = some OFFLINE) : OfflineBy u a conn := by
  rcases next_adds (s := s) sparesOnline_neutral a with h | ⟨conn', h⟩
  · exact absurd hu (adds_mem h hm conn info rfl)
  · cases h with
    | unsubscribe c data v =>
      obtain ⟨rfl, -⟩ := offline_mem (adds_one rfl spares_send) hm hu
      exact .unsubscribe c data v
    | @expiry key v hk hv =>
      simp only [Point.next, expiryMove, if_pos hv] at hm
      obtain ⟨rfl, -⟩ := offline_mem (adds_same rfl) hm hu
      exact .expiry hk hv

/-- A step that is not the end of an unsubscribe or expiry of `u` adds no announcement of it. -/
theorem step_adds {P : Effect → Prop} (hP : Neutral u P) {users : Users} {m m' : Mirror} {e : Event}
    (hs : Stepped users m e m') : Adds P m.server m'.server ∨
      ∃ l₁ a l₂ conn, m.replied = l₁ ++ a :: l₂ ∧ e = .resume l₁.length ∧ m' = m.resumed l₁ a l₂ ∧
        OfflineBy u a conn := by
  cases hs with
  | message _ => exact .inl (messageMove_adds hP ..)
  | pong _ => exact .inl (adds_same (pongMove_trace ..))
  | disconnect _ => exact .inl (adds_same (disconnect_trace ..))
  | pingTick =>
    obtain ⟨l, hl, hp⟩ := ping_adds m.server
    refine .inl ⟨l, hl, ?_⟩
    intro x hx
    obtain ⟨c, rfl⟩ := hp x hx
    exact hP.ping c
  | expire _ => exact .inl (adds_same rfl)
  | expireOther _ => exact .inl (adds_same rfl)
  | @deliver l₁ l₂ key _ => exact .inl (adds_same (congrArg Server.trace (expiredMove_state key m.server)))
  | exec _ => exact .inl (adds_same rfl)
  | reject _ => exact .inl (adds_same rfl)
  | @resume l₁ l₂ a hr =>
    rcases next_adds (s := m.server) hP a with h | ⟨conn, h⟩
    · exact .inl h
    · exact .inr ⟨l₁, a, l₂, conn, hr, rfl, rfl, h⟩

theorem step_grows {users : Users} {m m' : Mirror} {e : Event} (hs : Stepped users m e m') :
    ∃ l, m'.server.trace = m.server.trace ++ l := by
  have hP : Neutral "" fun _ => True := by refine ⟨?_, ?_, ?_, ?_, ?_⟩ <;> simp
  rcases step_adds hP hs with ⟨l, hl, -⟩ | ⟨l₁, a, l₂, conn, -, -, rfl, hby⟩
  · exact ⟨l, hl⟩
  · cases hby with
    | unsubscribe c data v =>
      have h : (m.resumed l₁ ⟨.unsubscribeHDel c data "", .ok v⟩ l₂).server.trace =
          (announceOffline (some c) "" m.server).trace ++ [.send .unsubscribed c WEBSOCKET_CHANNEL_USER_STATUS
            (.connectType WEBSOCKET_UNSUBSCRIBE)] := rfl
      rw [h, announceOffline, broadcastStatus_eq, List.append_assoc]
      exact ⟨_, rfl⟩
    | @expiry key v _ hv =>
      have h : (m.resumed l₁ ⟨.expiryHDel key, .ok v⟩ l₂).server.trace = (expiryMove key v m.server).state.trace := rfl
      rw [h, expiryMove, if_pos hv, announceOffline, broadcastStatus_eq]
      exact ⟨_, rfl⟩

theorem offline_cases {users : Users} {m m' : Mirror} {e : Event} {conn : Option WebSocket}
    {info : BroadcastUserStatusInfo} (hs : Stepped users m e m')
    (hm : .broadcast conn info ∈ m.world.effects m'.world) (hu : info.get u = some OFFLINE) :
    ∃ l₁ a l₂, m.replied = l₁ ++ a :: l₂ ∧ e = .resume l₁.length ∧ m' = m.resumed l₁ a l₂ ∧ OfflineBy u a conn := by
  rcases step_adds sparesOnline_neutral hs with h | ⟨l₁, a, l₂, conn', hr, he, rfl, -⟩
  · exact absurd hu (adds_mem h hm conn info rfl)
  · exact ⟨l₁, a, l₂, hr, he, rfl, next_offline hm hu⟩

end

/-! ## Sockets tracked under a uid -/

def Server.tracksAs (s : Server) (c : WebSocket) (u : String) : Prop :=
  ∃ t, s.clients.get c = some t ∧ t.userUid = some u

section
variable {c : WebSocket} {u : String} {s : Server}

theorem tracksAs_congr {s' : Server} (h : s'.clients = s.clients) : s'.tracksAs c u ↔ s.tracksAs c u := by
  unfold Server.tracksAs
  rw [h]

theorem tracksAs_disconnect {d : WebSocket} (h : (disconnect d s).tracksAs c u) : s.tracksAs c u := by
  obtain ⟨t, ht, hu⟩ := h
  rw [disconnect_get] at ht
  split at ht
  · cases ht
  · exact ⟨t, ht, hu⟩

theorem tracksAs_ping (hs : ∀ c t, s.clients.get c = some t → t.socket = c) (h : (ping s).tracksAs c u) :
    s.tracksAs c u := by
  obtain ⟨t, ht, hu⟩ := h
  rw [ping_get hs] at ht
  obtain ⟨t', ht', hb⟩ := Option.bind_eq_some_iff.mp ht
  unfold ticked at hb
  split at hb
  · cases hb
    exact ⟨t', ht', hu⟩
  · cases hb

theorem tracksAs_markAlive {d : WebSocket} (h : (markAlive d s).tracksAs c u) : s.tracksAs c u := by
  obtain ⟨t, ht, hu⟩ := h
  rw [markAlive_clients, OrdMap.get_modify] at ht
  split at ht
  · rename_i hc
    obtain ⟨t', ht', rfl⟩ := Option.map_eq_some_iff.mp ht
    exact ⟨t', hc ▸ ht', hu⟩
  · exact ⟨t, ht, hu⟩

theorem tracksAs_pongMove {d : WebSocket} (h : (pongMove d s).state.tracksAs c u) : s.tracksAs c u := by
  unfold pongMove at h
  cases hd : s.clients.get d with
  | none => rw [hd] at h; exact h
  | some t =>
    rw [hd] at h
    cases hu : t.userUid with
    | none => simp only [hu] at h; exact tracksAs_markAlive h
    | some uid => simp only [hu] at h; exact tracksAs_markAlive h

theorem tracksAs_trackMove {client : WebSocket} {data : RawData} {uid : Option String} {reset : Bool}
    {info : BroadcastUserStatusInfo} (h : (trackMove client data uid reset info s).state.tracksAs c u) :
    s.tracksAs c u ∨ (client = c ∧ uid = some u) := by
  obtain ⟨t, ht, hu⟩ := h
  rw [trackMove_clients, OrdMap.get_set] at ht
  split at ht
  · rename_i hc
    cases ht
    exact .inr ⟨hc.symm, hu⟩
  · exact .inl ⟨t, ht, hu⟩

theorem tracksAs_messageMove {client : WebSocket} {data : RawData}
    (h : (messageMove client data s).state.tracksAs c u) : s.tracksAs c u := by
  unfold messageMove at h
  cases hr : request data with
  | refused => rw [hr] at h; exact h
  | unknownChannel => rw [hr] at h; exact h
  | user connectType uid reset => rw [hr] at h; exact h
  | guest connectType =>
    rw [hr] at h
    dsimp only at h
    cases hk : kindOf connectType with
    | other => rw [hk] at h; exact h
    | subscribe =>
      rw [hk] at h
      rcases tracksAs_trackMove h with h | ⟨-, h⟩
      · exact h
      · cases h
    | unsubscribe =>
      rw [hk] at h
      obtain ⟨t, ht, hu⟩ := h
      dsimp only at ht
      rw [guestUnsubscribeMove_get] at ht
      split at ht
      · cases ht
      · exact ⟨t, ht, hu⟩

theorem next_tracksAs {a : Answered} (h : (a.1.next a.2 s).state.tracksAs c u) :
    s.tracksAs c u ∨ ∃ data reset v, a = ⟨.subscribeSet c data u reset, .ok v⟩ := by
  obtain ⟨p, r⟩ := a
  cases p with
  | lookup client data connectType uid reset =>
    cases r with
    | ok v => exact .inl ((tracksAs_congr (lookupMove_clients ..)).mp h)
    | error error => exact .inl h
  | subscribeSet client data uid reset =>
    cases r with
    | ok v =>
      rcases tracksAs_trackMove h with h | ⟨rfl, hu⟩
      · exact .inl ((tracksAs_congr (announceOnline_clients ..)).mp h)
      · obtain rfl := Option.some.inj hu
        exact .inr ⟨data, reset, v, rfl⟩
    | error error => exact .inl h
  | unsubscribeHDel client data uid =>
    cases r with
    | ok v =>
      obtain ⟨t, ht, hu⟩ := h
      refine .inl ⟨t, ?_, hu⟩
      simp only [Point.next, sendUnsubscribed_clients, untrackClient_clients, announceOffline_clients] at ht
      rw [OrdMap.get_delete] at ht
      split at ht
      · cases ht
      · exact ht
    | error error => exact .inl h
  | expiryHDel key =>
    cases r with
    | ok v =>
      simp only [Point.next, expiryMove] at h
      split at h
      · exact .inl ((tracksAs_congr (announceOffline_clients ..)).mp h)
      · exact .inl h
    | error error => exact .inl h
  | subscribeHSet client data uid reset => cases r <;> exact .inl h
  | snapshot client data => cases r <;> exact .inl h
  | pongHSet client uid => cases r <;> exact .inl h
  | pongSet client uid => cases r <;> exact .inl h

end

end StayApi
