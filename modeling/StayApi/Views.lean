import StayApi.Effects
import StayApi.Known
import StayApi.Replay

/-!
# What a subscriber sees

A socket that subscribed with `reset` has a view of the statuses: the last
snapshot it was sent, updated by the broadcasts after it. Here is what one
step of the process does to the view of a socket that listens.
-/

namespace StayApi

open WebsocketChannel UserStatusMessage

/-- What an effect is to the view of `c`: the answer to a subscribe without `reset` is no part of it. -/
def frameOf (c : WebSocket) : Effect → Option (Frame String UserStatusType)
  | .send .snapshot d _ (.statuses info) => if d = c then some (.snapshot info) else none
  | .send .broadcast d _ (.statuses info) => if d = c then some (.delta info) else none
  | _ => none

namespace Server

def view (c : WebSocket) (s : Server) : Option BroadcastUserStatusInfo :=
  replay none (s.trace.filterMap (frameOf c))

/-- `c` has been answered a subscribe without `reset`. -/
def answeredOwn (s : Server) (c : WebSocket) : Prop := ∃ channel data, .send .own c channel data ∈ s.trace

/-- `c` is open and tracked: it gets the broadcasts. -/
def listening (s : Server) (c : WebSocket) : Prop := s.readyState c = .OPEN ∧ (s.clients.get c).isSome

end Server

/-- What the end of a handler announces about `u`. -/
def announcement (u : String) : Answered → Option UserStatusType
  | ⟨.subscribeSet _ _ v _, .ok _⟩ => (onlineInfo v).get u
  | ⟨.unsubscribeHDel _ _ v, .ok _⟩ => (offlineInfo v).get u
  | ⟨.expiryHDel key, .ok removed⟩ => if removed > 0 then (offlineInfo (uidOfKey key)).get u else none
  | _ => none

/-- A move that announces `x` about `u`, as `c` sees it: a snapshot of `c` is on
its way, or `c` has no view yet, or `c` has listened to the announcement. -/
inductive Sees (c : WebSocket) (u : String) (x : Option UserStatusType) (s : Server) (t : Move) : Prop
  | asked {data : RawData} (h : .snapshot c data ∈ t.suspended)
  | blank (h : t.state.view c = none) (ho : t.state.answeredOwn c)
  | kept (hl : s.listening c)
    (hv : (t.state.view c).map (fun m => m.get u) = (s.view c).map fun m => x.or (m.get u))

section
variable {c : WebSocket} {u : String} {s s' : Server}

/-- A view that went through an update is still one, and is still none if it was none. -/
theorem kept_cases {a b : Option BroadcastUserStatusInfo} {x : Option UserStatusType}
    (h : a.map (fun m => m.get u) = b.map fun m => x.or (m.get u)) :
    (b = none → a = none) ∧ ∀ v, b = some v → ∃ v', a = some v' ∧ v'.get u = x.or (v.get u) := by
  constructor
  · rintro rfl
    cases a with
    | none => rfl
    | some v => cases h
  · rintro v rfl
    cases a with
    | none => cases h
    | some v' => exact ⟨v', rfl, Option.some.inj h⟩

theorem view_append {l : List Effect} (h : s'.trace = s.trace ++ l) :
    s'.view c = replay (s.view c) (l.filterMap (frameOf c)) := by
  unfold Server.view
  rw [h, List.filterMap_append, replay_append]

theorem view_adds (h : Adds (fun x => frameOf c x = none) s s') : s'.view c = s.view c := by
  obtain ⟨l, hl, hp⟩ := h
  rw [view_append hl, List.filterMap_eq_nil_iff.mpr hp]
  rfl

theorem frames_broadcast (channel : String) (info : BroadcastUserStatusInfo) (l : List WebSocket) :
    (l.map (broadcastFrame channel info)).filterMap (frameOf c) = List.replicate (l.count c) (.delta info) := by
  induction l with
  | nil => rfl
  | cons d l ih =>
    rw [List.map_cons]
    by_cases hd : d = c
    · have hf : frameOf c (broadcastFrame channel info d) = some (.delta info) := if_pos hd
      rw [List.filterMap_cons_some hf, ih, hd, List.count_cons_self, List.replicate_succ]
    · have hf : frameOf c (broadcastFrame channel info d) = none := if_neg hd
      rw [List.filterMap_cons_none hf, ih, List.count_cons_of_ne hd]

theorem view_broadcast (conn : Option WebSocket) (info : BroadcastUserStatusInfo) (hl : s.listening c)
    (hs : ∀ c t, s.clients.get c = some t → t.socket = c) (hc : conn ≠ some c) :
    ((broadcastStatus conn WEBSOCKET_CHANNEL_USER_STATUS info s).view c).map (fun m => m.get u) =
      (s.view c).map fun m => (info.get u).or (m.get u) := by
  obtain ⟨ho, ht⟩ := hl
  obtain ⟨t, ht⟩ := Option.isSome_iff_exists.mp ht
  have hr : c ∈ recipients conn s := mem_recipients ht (hs c t ht) hc ho
  obtain ⟨n, hn⟩ := Nat.exists_eq_add_of_lt (List.count_pos_iff.mpr hr)
  rw [view_append (congrArg Server.trace (broadcastStatus_eq ..)), List.filterMap_cons_none rfl, frames_broadcast, hn,
    Nat.zero_add]
  exact replay_deltas ..

theorem sees_quiet {t : Move} (ha : Adds (fun x => frameOf c x = none) s t.state)
    (hg : t.state.clients.get c = s.clients.get c) (ho : t.state.readyState c = .OPEN → s.readyState c = .OPEN)
    (hl : t.state.listening c) : Sees c u none s t := by
  refine .kept ⟨ho hl.1, hg ▸ hl.2⟩ ?_
  rw [view_adds ha]
  rfl

theorem sees_kept {t : Move} (h : s.listening c ∧ t.state.view c = s.view c) : Sees c u none s t := by
  refine .kept h.1 ?_
  rw [h.2]
  rfl

theorem sees_same {l : List Point} {e : List JsError} (hl : s.listening c) : Sees c u none s ⟨s, l, e⟩ :=
  sees_quiet (adds_same rfl) rfl (fun h => h) hl

theorem sees_close {client : WebSocket} {status : Nat} {reason : String} {l : List Point} {e : List JsError}
    (hl : (close client status reason s).listening c) : Sees c u none s ⟨close client status reason s, l, e⟩ :=
  sees_quiet (adds_one rfl rfl) rfl (close_open client s) hl

/-- The answer to an unsubscribe of a socket that is not tracked. -/
theorem sees_unsubscribed {client : WebSocket} (hl : s.listening c) :
    Sees c u none s ⟨sendUnsubscribed client s, [], []⟩ :=
  sees_quiet (adds_one rfl rfl) rfl (fun h => h) hl

theorem sees_trackOther {client : WebSocket} {data : RawData} {uid : Option String} {reset : Bool}
    {info : BroadcastUserStatusInfo} (hc : client ≠ c) (hl : s.listening c) :
    Sees c u none s (trackMove client data uid reset info s) := by
  have hg : (trackClient client uid s).clients.get c = s.clients.get c := OrdMap.get_set_ne _ hc.symm _
  unfold trackMove
  split
  · exact sees_quiet (adds_same rfl) hg (fun h => h) ⟨hl.1, hg ▸ hl.2⟩
  · exact sees_quiet (adds_one rfl rfl) hg (fun h => h) ⟨hl.1, hg ▸ hl.2⟩

/-- A subscribe of `c` itself ends, so as not to spoil a view that `c` has. -/
theorem sees_trackSelf {data : RawData} {uid : String} {reset : Bool} {info : BroadcastUserStatusInfo}
    {s₀ : Server} (hv : s.view c = s₀.view c)
    (hk : reset = true ∨ ∀ v, s₀.view c = some v → s₀.listening c ∧ v.get uid = some ONLINE) :
    Sees c u ((onlineInfo uid).get u) s₀ (trackMove c data (some uid) reset info s) := by
  rcases hk with rfl | hk
  · exact .asked (List.mem_singleton_self _)
  · cases reset with
    | true => exact .asked (List.mem_singleton_self _)
    | false =>
      have hsame : (sendOwn c info (trackClient c (some uid) s)).view c = s₀.view c :=
        (view_adds (s := s) (adds_one rfl rfl)).trans hv
      cases hview : s₀.view c with
      | none => exact .blank (hsame.trans hview) ⟨_, _, List.mem_append_right _ (List.mem_singleton_self _)⟩
      | some v =>
        obtain ⟨hl, hon⟩ := hk v hview
        refine .kept hl ?_
        show ((sendOwn c info (trackClient c (some uid) s)).view c).map _ = _
        rw [hsame, hview]
        show some (v.get u) = some (((onlineInfo uid).get u).or (v.get u))
        rw [onlineInfo, OrdMap.get_set]
        by_cases hu : u = uid
        · rw [if_pos hu, hu, hon]
          rfl
        · rw [if_neg hu]
          rfl

theorem trackMove_readyState {client : WebSocket} {data : RawData} {uid : Option String} {reset : Bool}
    {info : BroadcastUserStatusInfo} : (trackMove client data uid reset info s).state.readyState = s.readyState := by
  cases reset <;> rfl

theorem trackOther_listening {client : WebSocket} {data : RawData} {uid : Option String} {reset : Bool}
    {info : BroadcastUserStatusInfo} (hc : client ≠ c)
    (hl : (trackMove client data uid reset info s).state.listening c) : s.listening c := by
  obtain ⟨ho, ht⟩ := hl
  rw [trackMove_clients, OrdMap.get_set_ne _ hc.symm] at ht
  rw [trackMove_readyState] at ho
  exact ⟨ho, ht⟩

theorem messageMove_sees {client : WebSocket} {data : RawData} (hl : (messageMove client data s).state.listening c) :
    Sees c u none s (messageMove client data s) := by
  unfold messageMove at hl ⊢
  cases hr : request data with
  | refused => rw [hr] at hl; exact sees_close hl
  | unknownChannel => rw [hr] at hl; exact sees_close hl
  | user connectType uid reset => rw [hr] at hl; exact sees_same hl
  | guest connectType =>
    rw [hr] at hl
    dsimp only at hl ⊢
    cases hk : kindOf connectType with
    | other => rw [hk] at hl; exact sees_same hl
    | subscribe =>
      rw [hk] at hl
      by_cases hc : client = c
      · subst hc
        exact .asked (List.mem_singleton_self _)
      · exact sees_trackOther hc (trackOther_listening hc hl)
    | unsubscribe =>
      rw [hk] at hl
      have hg := guestUnsubscribeMove_get client s c
      by_cases hc : client = c
      · rw [if_pos hc.symm] at hg
        have ht := hl.2
        dsimp only at ht
        rw [hg] at ht
        cases ht
      · rw [if_neg (Ne.symm hc)] at hg
        dsimp only at hl ⊢
        refine sees_quiet ?_ hg ?_ hl
        · unfold guestUnsubscribeMove
          cases s.clients.get client with
          | none => exact adds_one rfl rfl
          | some t => exact adds_one rfl rfl
        · unfold guestUnsubscribeMove
          cases s.clients.get client with
          | none => exact fun h => h
          | some t => exact fun h => h

theorem pongMove_sees {client : WebSocket} (hl : (pongMove client s).state.listening c) :
    Sees c u none s (pongMove client s) := by
  refine sees_kept ⟨⟨?_, ?_⟩, view_adds (adds_same (pongMove_trace client s))⟩
  · have ho := hl.1
    unfold pongMove at ho
    cases hc : s.clients.get client with
    | none => rw [hc] at ho; exact ho
    | some t =>
      rw [hc] at ho
      dsimp only at ho
      cases hu : t.userUid with
      | none => rw [hu] at ho; exact ho
      | some uid => rw [hu] at ho; exact ho
  · rw [← pongMove_tracked client s c]
    exact hl.2

theorem ping_sees (hs : ∀ c t, s.clients.get c = some t → t.socket = c) (hl : (ping s).listening c) :
    s.listening c ∧ (ping s).view c = s.view c := by
  refine ⟨⟨?_, ?_⟩, ?_⟩
  · rw [← ping_readyState s]
    exact hl.1
  · have ht := hl.2
    rw [ping_get hs] at ht
    cases hc : s.clients.get c with
    | none => rw [hc] at ht; cases ht
    | some t => rfl
  · obtain ⟨l, hl, hp⟩ := ping_adds s
    refine view_adds ⟨l, hl, fun x hx => ?_⟩
    obtain ⟨d, rfl⟩ := hp x hx
    rfl

theorem unsubscribeMove_sees {client : WebSocket} {data : RawData} {uid : String}
    (hl : (unsubscribeMove client data uid s).state.listening c) : Sees c u none s (unsubscribeMove client data uid s) := by
  unfold unsubscribeMove at hl ⊢
  cases hc : s.clients.get client with
  | none => rw [hc] at hl; exact sees_unsubscribed hl
  | some t => rw [hc] at hl; exact sees_same hl

theorem lookupMove_sees {client : WebSocket} {data : RawData} {connectType reset : Option Json} {uid : String}
    {userExists : Option Bool} (hl : (lookupMove client data connectType uid reset userExists s).state.listening c) :
    Sees c u none s (lookupMove client data connectType uid reset userExists s) := by
  unfold lookupMove at hl ⊢
  rcases userExists with _ | _ | _
  · exact sees_close hl
  · exact sees_close hl
  · dsimp only at hl ⊢
    cases hk : kindOf connectType with
    | subscribe => rw [hk] at hl; exact sees_same hl
    | unsubscribe => rw [hk] at hl; exact unsubscribeMove_sees hl
    | other => rw [hk] at hl; exact sees_same hl

/-- The broadcasts on behalf of `c` are not for `c`. -/
theorem view_announceOnline (uid : String) : (announceOnline c uid s).view c = s.view c := by
  have hn : c ∉ recipients (some c) s := by
    intro hm
    obtain ⟨t, ht, hsock⟩ := List.mem_map.mp hm
    have hne := of_decide_eq_true (List.mem_filter.mp ht).2
    exact hne.1 (congrArg some hsock.symm)
  unfold announceOnline
  rw [view_append (congrArg Server.trace (broadcastStatus_eq ..)), List.filterMap_cons_none rfl, frames_broadcast,
    List.count_eq_zero_of_not_mem hn]
  rfl

theorem subscribeSet_sees {client : WebSocket} {data : RawData} {uid : String} {reset : Bool}
    {info : BroadcastUserStatusInfo} (hs : ∀ c t, s.clients.get c = some t → t.socket = c)
    (hk : client = c → reset = true ∨ ∀ v, s.view c = some v → s.listening c ∧ v.get uid = some ONLINE)
    (hl : (trackMove client data (some uid) reset info (announceOnline client uid s)).state.listening c) :
    Sees c u ((onlineInfo uid).get u) s
      (trackMove client data (some uid) reset info (announceOnline client uid s)) := by
  by_cases hc : client = c
  · subst hc
    exact sees_trackSelf (view_announceOnline uid) (hk rfl)
  · have hl₁ := trackOther_listening hc hl
    have hl₀ : s.listening c := by
      refine ⟨?_, ?_⟩
      · rw [← announceOnline_readyState client s uid]
        exact hl₁.1
      · rw [← announceOnline_clients client s uid]
        exact hl₁.2
    have hv := view_broadcast (u := u) (some client) (onlineInfo uid) hl₀ hs
      fun h => hc (Option.some.inj h)
    have hsame : (trackMove client data (some uid) reset info (announceOnline client uid s)).state.view c =
        (announceOnline client uid s).view c := by
      unfold trackMove
      split
      · exact view_adds (adds_same rfl)
      · exact view_adds (adds_one rfl rfl)
    refine .kept hl₀ ?_
    rw [hsame]
    exact hv

theorem unsubscribeHDel_sees {client : WebSocket} {uid : String} {l : List Point} {e : List JsError}
    (hs : ∀ c t, s.clients.get c = some t → t.socket = c)
    (hl : (sendUnsubscribed client (untrackClient client (announceOffline (some client) uid s))).listening c) :
    Sees c u ((offlineInfo uid).get u) s
      ⟨sendUnsubscribed client (untrackClient client (announceOffline (some client) uid s)), l, e⟩ := by
  have ht := hl.2
  rw [sendUnsubscribed_clients, untrackClient_clients, OrdMap.get_delete] at ht
  by_cases hc : c = client
  · rw [if_pos hc] at ht
    cases ht
  · rw [if_neg hc, announceOffline_clients] at ht
    have ho := hl.1
    rw [sendUnsubscribed_readyState, untrackClient_readyState, announceOffline_readyState] at ho
    have hv := view_broadcast (u := u) (some client) (offlineInfo uid) ⟨ho, ht⟩ hs
      fun h => hc (Option.some.inj h).symm
    have hsame : (sendUnsubscribed client (untrackClient client (announceOffline (some client) uid s))).view c =
        (announceOffline (some client) uid s).view c :=
      view_adds (adds_one rfl rfl)
    refine .kept ⟨ho, ht⟩ ?_
    dsimp only
    rw [hsame]
    exact hv

theorem expiryMove_sees {key : String} {removed : Nat} (hs : ∀ c t, s.clients.get c = some t → t.socket = c)
    (hl : (expiryMove key removed s).state.listening c) :
    Sees c u (if removed > 0 then (offlineInfo (uidOfKey key)).get u else none) s (expiryMove key removed s) := by
  unfold expiryMove at hl ⊢
  by_cases hr : removed > 0
  · rw [if_pos hr] at hl ⊢
    rw [if_pos hr]
    have hl₀ : s.listening c := by
      refine ⟨?_, ?_⟩
      · rw [← announceOffline_readyState s none (uidOfKey key)]
        exact hl.1
      · rw [← announceOffline_clients s none (uidOfKey key)]
        exact hl.2
    exact .kept hl₀ (view_broadcast none _ hl₀ hs (by simp))
  · rw [if_neg hr] at hl ⊢
    rw [if_neg hr]
    exact sees_same hl

theorem subscribeSet_open {a : Answered} {data : RawData} {uid : String} {reset : Option Json} {r : Unit}
    (ha : a = ⟨.subscribeSet c data uid reset, .ok r⟩) (ho : (a.1.next a.2 s).state.readyState c = .OPEN) :
    s.readyState c = .OPEN := by
  subst ha
  change (trackMove c data (some uid) (Json.isTrue reset) (onlineInfo uid) (announceOnline c uid s)).state.readyState c =
    .OPEN at ho
  rw [trackMove_readyState, announceOnline_readyState] at ho
  exact ho

theorem next_sees {a : Answered} (hs : ∀ c t, s.clients.get c = some t → t.socket = c)
    (ha : ∀ data values, a ≠ ⟨.snapshot c data, .ok values⟩)
    (hk : ∀ data uid reset v, a = ⟨.subscribeSet c data uid reset, .ok v⟩ →
      Json.isTrue reset = true ∨ ∀ v, s.view c = some v → s.listening c ∧ v.get uid = some ONLINE)
    (hl : (a.1.next a.2 s).state.listening c) : Sees c u (announcement u a) s (a.1.next a.2 s) := by
  obtain ⟨p, r⟩ := a
  cases p with
  | lookup client data connectType uid reset =>
    cases r with
    | ok v => exact lookupMove_sees hl
    | error error => exact sees_close hl
  | subscribeSet client data uid reset =>
    cases r with
    | ok v => exact subscribeSet_sees hs (fun hc => hk data uid reset v (hc ▸ rfl)) hl
    | error error => exact sees_same hl
  | snapshot client data =>
    cases r with
    | error error => exact sees_same hl
    | ok values =>
      have hc : client ≠ c := fun hc => ha data values (hc ▸ rfl)
      exact sees_quiet (adds_one rfl (if_neg hc)) rfl (fun h => h) hl
  | unsubscribeHDel client data uid =>
    cases r with
    | ok v => exact unsubscribeHDel_sees hs hl
    | error error => exact sees_same hl
  | expiryHDel key =>
    cases r with
    | ok v => exact expiryMove_sees hs hl
    | error error => exact sees_same hl
  | subscribeHSet client data uid reset => cases r <;> exact sees_same hl
  | pongHSet client uid => cases r <;> exact sees_same hl
  | pongSet client uid => cases r <;> exact sees_same hl

theorem sendSnapshot_view (values : OrdMap String String) :
    (sendSnapshot c values s).view c = some (.fill values.keys ONLINE) := by
  rw [view_append (s := s) rfl]
  simp [frameOf, replay, Frame.apply]

theorem disconnect_sees {client : WebSocket} (hl : (disconnect client s).listening c) :
    s.listening c ∧ (disconnect client s).view c = s.view c := by
  refine ⟨⟨disconnect_open client s hl.1, ?_⟩, view_adds (adds_same (disconnect_trace client s))⟩
  have ht := hl.2
  rw [disconnect_get] at ht
  split at ht
  · cases ht
  · exact ht

end

end StayApi
