import StayApi.ServerLemmas

/-!
# What every reachable state has in common

The uids in play, those of the tracked clients, the suspended handlers and the
hash, are uids the lookup has found; each entry of `clients` is filed under its
own socket; and each handler's thread belongs to a frame that asks for it.
-/

namespace StayApi

open WebsocketChannel UserStatusMessage

namespace Point

/-- The uid a handler past its lookup works for. -/
def uid : Point → Option String
  | subscribeHSet _ _ uid _ => some uid
  | subscribeSet _ _ uid _ => some uid
  | unsubscribeHDel _ _ uid => some uid
  | pongHSet _ uid => some uid
  | pongSet _ uid => some uid
  | _ => none

def hSets : Point → Option String
  | subscribeHSet _ _ uid _ => some uid
  | pongHSet _ uid => some uid
  | _ => none

def leases : Point → Option String
  | subscribeSet _ _ uid _ => some uid
  | pongSet _ uid => some uid
  | _ => none

def hDels : Point → Option String
  | unsubscribeHDel _ _ uid => some uid
  | expiryHDel key => some (uidOfKey key)
  | _ => none

/-- The frame a thread of `message` belongs to asks for what the thread does. -/
def Fits : Point → Prop
  | lookup _ data connectType uid reset => request data = .user connectType uid reset
  | subscribeHSet _ data uid reset => ∃ connectType, request data = .user connectType uid reset ∧
    kindOf connectType = .subscribe
  | subscribeSet _ data uid reset => ∃ connectType, request data = .user connectType uid reset ∧
    kindOf connectType = .subscribe
  | snapshot _ data => ∃ uid, asks data .subscribe uid
  | unsubscribeHDel _ data uid => asks data .unsubscribe (some uid)
  | expiryHDel key => startsWith key USER_STATUS_HASH_TTL_KEY = true
  | _ => True

end Point

/-! ## What a command does to Redis -/

section
variable (users : Users) (p : Point) (R : Redis)

theorem serve_hash :
    (serve users p.cmd R).1.hashes USER_STATUS_HASH_KEY =
      match p.hSets, p.hDels with
      | some u, _ => (R.hashes USER_STATUS_HASH_KEY).set u ONLINE.text
      | none, some u => (R.hashes USER_STATUS_HASH_KEY).delete u
      | none, none => R.hashes USER_STATUS_HASH_KEY := by
  cases p <;> simp [serve, Point.hSets, Point.hDels, Redis.hSet, Redis.hDel, Redis.set]

theorem serve_expiring :
    (serve users p.cmd R).1.expiring =
      match p.leases with
      | some u => R.expiring.set (ttlKey u) (ONLINE.text, TTL_EXPIRATION_TIME)
      | none => R.expiring := by
  cases p <;> simp [serve, Point.leases, Redis.hSet, Redis.hDel, Redis.set]

variable {users p R} {u : String}

/-- A lookup leaves Redis as it is, whether or not it is carried out. -/
theorem lost_lookup (carriedOut : Bool) (h : p.cmd.toRedis = false) :
    (if carriedOut then (serve users p.cmd R).1 else R) = R := by
  cases p with
  | lookup client data connectType uid reset => exact ite_self R
  | _ => cases h

theorem hDels_hSets (hd : p.hDels = some u) : p.hSets = none := by
  cases p <;> first | rfl | cases hd

theorem hash_added (hs : p.hSets = some u) :
    (((serve users p.cmd R).1.hashes USER_STATUS_HASH_KEY).get u).isSome := by
  rw [serve_hash, hs]
  simp only [OrdMap.get_set_self, Option.isSome_some]

theorem hash_removed (hd : p.hDels = some u) :
    ((serve users p.cmd R).1.hashes USER_STATUS_HASH_KEY).get u = none := by
  rw [serve_hash, hDels_hSets hd, hd]
  exact OrdMap.get_delete_self _ _

theorem hash_other (hs : p.hSets ≠ some u) (hd : p.hDels ≠ some u) :
    ((serve users p.cmd R).1.hashes USER_STATUS_HASH_KEY).get u = (R.hashes USER_STATUS_HASH_KEY).get u := by
  rw [serve_hash]
  cases hv : p.hSets with
  | some v =>
    have hne : u ≠ v := fun he => hs (by rw [hv, he])
    exact OrdMap.get_set_ne _ hne _
  | none =>
    cases hv' : p.hDels with
    | none => rfl
    | some v =>
      have hne : u ≠ v := fun he => hd (by rw [hv', he])
      exact OrdMap.get_delete_ne _ hne

theorem hash_kept (hd : p.hDels ≠ some u) (h : ((R.hashes USER_STATUS_HASH_KEY).get u).isSome) :
    (((serve users p.cmd R).1.hashes USER_STATUS_HASH_KEY).get u).isSome := by
  by_cases hs : p.hSets = some u
  · exact hash_added hs
  · rw [hash_other hs hd]
    exact h

theorem hash_before (hs : p.hSets ≠ some u)
    (h : (((serve users p.cmd R).1.hashes USER_STATUS_HASH_KEY).get u).isSome) :
    ((R.hashes USER_STATUS_HASH_KEY).get u).isSome ∧ p.hDels ≠ some u := by
  by_cases hd : p.hDels = some u
  · rw [hash_removed hd] at h
    cases h
  · rw [hash_other hs hd] at h
    exact ⟨h, hd⟩

end

/-! ## The tracked clients -/

/-- Every entry is filed under its own socket, and its uid is one the lookup finds. -/
def ClientsOk (users : Users) (clients : OrdMap WebSocket TrackedClient) : Prop :=
  ∀ c t, clients.get c = some t → t.socket = c ∧ ∀ u, t.userUid = some u → users u = .ok (some true)

section
variable {users : Users} {clients : OrdMap WebSocket TrackedClient} (h : ClientsOk users clients)
include h

theorem clientsOk_set {c : WebSocket} {uid : Option String} {alive : Bool}
    (hu : ∀ u, uid = some u → users u = .ok (some true)) : ClientsOk users (clients.set c ⟨c, uid, alive⟩) := by
  intro d t ht
  rw [OrdMap.get_set] at ht
  split at ht
  · cases ht
    exact ⟨Eq.symm ‹_›, hu⟩
  · exact h d t ht

theorem clientsOk_delete (c : WebSocket) : ClientsOk users (clients.delete c) := by
  intro d t ht
  rw [OrdMap.get_delete] at ht
  split at ht
  · cases ht
  · exact h d t ht

theorem clientsOk_alive (c : WebSocket) (alive : Bool) :
    ClientsOk users (clients.modify c fun t => { t with isAlive := alive }) := by
  intro d t ht
  rw [OrdMap.get_modify] at ht
  split at ht
  · obtain ⟨t', ht', rfl⟩ := Option.map_eq_some_iff.mp ht
    subst d
    exact h c t' ht'
  · exact h d t ht

end

theorem clientsOk_ping {users : Users} {s : Server} (h : ClientsOk users s.clients) :
    ClientsOk users (ping s).clients := by
  intro c t ht
  rw [ping_get (fun c t ht => (h c t ht).1)] at ht
  obtain ⟨t', ht', hb⟩ := Option.bind_eq_some_iff.mp ht
  unfold ticked at hb
  split at hb
  · cases hb
    exact h c t' ht'
  · cases hb

theorem clientsOk_disconnect {users : Users} {s : Server} (h : ClientsOk users s.clients) (c : WebSocket) :
    ClientsOk users (disconnect c s).clients := by
  intro d t ht
  rw [disconnect_get] at ht
  split at ht
  · cases ht
  · exact h d t ht

/-! ## The moves -/

def PointOk (users : Users) (p : Point) : Prop :=
  (∀ u, p.uid = some u → users u = .ok (some true)) ∧ p.Fits

def MoveOk (users : Users) (t : Move) : Prop :=
  ClientsOk users t.state.clients ∧ ∀ p ∈ t.suspended, PointOk users p

section
variable {users : Users} {s : Server}

theorem moveOk_none {e : List JsError} (h : ClientsOk users s.clients) : MoveOk users ⟨s, [], e⟩ :=
  ⟨h, fun _ hp => by cases hp⟩

theorem moveOk_single {p : Point} {e : List JsError} (h : ClientsOk users s.clients) (hp : PointOk users p) :
    MoveOk users ⟨s, [p], e⟩ :=
  ⟨h, fun _ hq => List.mem_singleton.mp hq ▸ hp⟩

theorem asks_guest {data : RawData} {connectType : Option Json} {k : Kind}
    (h : request data = .guest connectType) (hk : kindOf connectType = k) : asks data k none := by
  simp [asks, h, hk]

theorem asks_user {data : RawData} {connectType reset : Option Json} {u : String} {k : Kind}
    (h : request data = .user connectType u reset) (hk : kindOf connectType = k) : asks data k (some u) := by
  simp [asks, h, hk]

theorem asks_cases {data : RawData} {k : Kind} {uid : Option String} (h : asks data k uid = true) :
    (uid = none ∧ ∃ connectType, request data = .guest connectType ∧ kindOf connectType = k) ∨
      ∃ u connectType reset, uid = some u ∧ request data = .user connectType u reset ∧ kindOf connectType = k := by
  unfold asks at h
  cases hr : request data with
  | guest connectType =>
    rw [hr] at h
    obtain ⟨hk, hu⟩ := of_decide_eq_true h
    exact .inl ⟨hu, connectType, rfl, hk⟩
  | user connectType u reset =>
    rw [hr] at h
    obtain ⟨hk, hu⟩ := of_decide_eq_true h
    exact .inr ⟨u, connectType, reset, hu, rfl, hk⟩
  | refused => rw [hr] at h; cases h
  | unknownChannel => rw [hr] at h; cases h

theorem asks_kind {data : RawData} {k : Kind} {uid : Option String} (h : asks data k uid = true) :
    frameKind data = k := by
  unfold frameKind
  rcases asks_cases h with ⟨-, connectType, hr, hk⟩ | ⟨u, connectType, reset, -, hr, hk⟩
  · rw [hr]
    exact hk
  · rw [hr]
    exact hk

theorem trackMove_ok {client : WebSocket} {data : RawData} {uid : Option String} {reset : Bool}
    {info : BroadcastUserStatusInfo} (h : ClientsOk users s.clients) (ha : asks data .subscribe uid)
    (hu : ∀ u, uid = some u → users u = .ok (some true)) :
    MoveOk users (trackMove client data uid reset info s) := by
  unfold trackMove
  split
  · exact moveOk_single (clientsOk_set h hu) ⟨by simp [Point.uid], uid, ha⟩
  · exact moveOk_none (clientsOk_set h hu)

theorem unsubscribeMove_ok {client : WebSocket} {data : RawData} {u : String} (h : ClientsOk users s.clients)
    (ha : asks data .unsubscribe (some u)) (hu : users u = .ok (some true)) :
    MoveOk users (unsubscribeMove client data u s) := by
  unfold unsubscribeMove
  split
  · exact moveOk_single h ⟨fun v hv => Option.some.inj hv ▸ hu, ha⟩
  · exact moveOk_none h

theorem guestUnsubscribeMove_ok {client : WebSocket} (h : ClientsOk users s.clients) :
    MoveOk users (guestUnsubscribeMove client s) := by
  unfold guestUnsubscribeMove
  split
  · exact moveOk_none (clientsOk_delete h client)
  · exact moveOk_none h

theorem messageMove_ok (client : WebSocket) (data : RawData) (h : ClientsOk users s.clients) :
    MoveOk users (messageMove client data s) := by
  unfold messageMove
  cases hr : request data with
  | refused => exact moveOk_none h
  | unknownChannel => exact moveOk_none h
  | guest connectType =>
    cases hk : kindOf connectType with
    | subscribe => simp only [hk]; exact trackMove_ok h (asks_guest hr hk) (by simp)
    | unsubscribe => simp only [hk]; exact guestUnsubscribeMove_ok h
    | other => simp only [hk]; exact moveOk_none h
  | user connectType u reset => exact moveOk_single h ⟨by simp [Point.uid], hr⟩

theorem pongMove_ok (client : WebSocket) (h : ClientsOk users s.clients) : MoveOk users (pongMove client s) := by
  unfold pongMove
  cases hc : s.clients.get client with
  | none => exact moveOk_none h
  | some t =>
    have ha : ClientsOk users (markAlive client s).clients := clientsOk_alive h client true
    cases hu : t.userUid with
    | none => simp only [hu]; exact moveOk_none ha
    | some u =>
      simp only [hu]
      exact moveOk_single ha ⟨fun v hv => (h client t hc).2 v (hv ▸ hu), trivial⟩

theorem expiredMove_ok (key : String) (h : ClientsOk users s.clients) : MoveOk users (expiredMove key s) := by
  unfold expiredMove
  split
  · exact moveOk_single h ⟨by simp [Point.uid], ‹_›⟩
  · exact moveOk_none h

/-- A lookup's answer `true` is what the users table says. -/
def Truthful (users : Users) (a : Answered) : Prop :=
  match a with
  | ⟨.lookup _ _ _ u _, .ok (some true)⟩ => users u = .ok (some true)
  | _ => True

theorem lookupMove_ok {client : WebSocket} {data : RawData} {connectType reset : Option Json} {u : String}
    {userExists : Option Bool} (h : ClientsOk users s.clients) (hr : request data = .user connectType u reset)
    (hu : userExists = some true → users u = .ok (some true)) :
    MoveOk users (lookupMove client data connectType u reset userExists s) := by
  unfold lookupMove
  rcases userExists with _ | _ | _
  · exact moveOk_none h
  · exact moveOk_none h
  · cases hk : kindOf connectType with
    | subscribe =>
      exact moveOk_single h ⟨fun v hv => Option.some.inj hv ▸ hu rfl, connectType, hr, hk⟩
    | unsubscribe => exact unsubscribeMove_ok h (asks_user hr hk) (hu rfl)
    | other => exact moveOk_none h

theorem next_ok {a : Answered} (h : ClientsOk users s.clients) (hp : PointOk users a.1)
    (ht : Truthful users a) : MoveOk users (a.1.next a.2 s) := by
  obtain ⟨p, r⟩ := a
  cases p with
  | lookup client data connectType u reset =>
    cases r with
    | ok userExists =>
      refine lookupMove_ok h hp.2 fun he => ?_
      subst he; exact ht
    | error e => exact moveOk_none h
  | subscribeHSet client data u reset =>
    cases r with
    | ok _ => exact moveOk_single h hp
    | error e => exact moveOk_none h
  | subscribeSet client data u reset =>
    cases r with
    | ok _ =>
      obtain ⟨connectType, hr, hk⟩ := hp.2
      exact trackMove_ok (by rw [announceOnline_clients]; exact h) (asks_user hr hk)
        fun v hv => hp.1 v (by rw [← hv]; rfl)
    | error e => exact moveOk_none h
  | snapshot client data => cases r <;> exact moveOk_none h
  | unsubscribeHDel client data u =>
    cases r with
    | ok _ =>
      refine moveOk_none ?_
      simp only [sendUnsubscribed_clients, untrackClient_clients, announceOffline_clients]
      exact clientsOk_delete h client
    | error e => exact moveOk_none h
  | pongHSet client u =>
    cases r with
    | ok _ => exact moveOk_single h hp
    | error e => exact moveOk_none h
  | pongSet client u => cases r <;> exact moveOk_none h
  | expiryHDel key =>
    cases r with
    | ok removed =>
      simp only [Point.next, expiryMove]
      split
      · exact moveOk_none (by rw [announceOffline_clients]; exact h)
      · exact moveOk_none h
    | error e => exact moveOk_none h

end

/-! ## The invariant -/

structure Known (users : Users) (m : Mirror) : Prop where
  clients : ClientsOk users m.clients
  issued : ∀ p ∈ m.issued, PointOk users p
  replied : ∀ a ∈ m.replied, PointOk users a.1
  truthful : ∀ a ∈ m.replied, Truthful users a
  hash : ∀ u, (m.hash.get u).isSome → users u = .ok (some true)

theorem known_start (users : Users) : Known users Mirror.start := by
  refine ⟨?_, ?_, ?_, ?_, ?_⟩
  · intro c t h; cases h
  · intro p h; cases h
  · intro a h; cases h
  · intro a h; cases h
  · intro u h; cases h

theorem known_turn {users : Users} {m : Mirror} {t : Move} (h : Known users m) (ht : MoveOk users t) :
    Known users (m.turn t) := by
  exact ⟨ht.1, turn_issued h.issued ht.2, h.replied, h.truthful, h.hash⟩

theorem known_answered {users : Users} {m : Mirror} {l₁ l₂ : List Point} {a : Answered} {R : Redis}
    (h : Known users m) (hi : m.issued = l₁ ++ a.1 :: l₂) (ht : Truthful users a)
    (hR : ∀ u, ((R.hashes USER_STATUS_HASH_KEY).get u).isSome → users u = .ok (some true)) :
    Known users (m.answered l₁ l₂ R a) := by
  have ha : PointOk users a.1 := h.issued a.1 (by rw [hi]; simp)
  exact ⟨h.clients, answered_issued hi h.issued, answered_replied h.replied ha, answered_replied h.truthful ht, hR⟩

theorem serve_truthful (users : Users) (p : Point) (R : Redis) :
    Truthful users ⟨p, (serve users p.cmd R).2⟩ := by
  cases p with
  | lookup client data connectType u reset =>
    unfold Truthful
    simp only [serve]
    split
    · rename_i h
      simp only [Sigma.mk.injEq, Point.lookup.injEq] at h
      obtain ⟨⟨-, -, -, rfl, -⟩, h⟩ := h
      exact eq_of_heq h
    · trivial
  | _ => trivial

theorem serve_known {users : Users} {p : Point} {R : Redis}
    (hR : ∀ u, ((R.hashes USER_STATUS_HASH_KEY).get u).isSome → users u = .ok (some true))
    (hp : PointOk users p) (u : String)
    (h : (((serve users p.cmd R).1.hashes USER_STATUS_HASH_KEY).get u).isSome) :
    users u = .ok (some true) := by
  by_cases hs : p.hSets = some u
  · exact hp.1 u (by cases p <;> simp_all [Point.hSets, Point.uid])
  · exact hR u (hash_before hs h).1

theorem known_step {users : Users} {m m' : Mirror} {e : Event} (h : Known users m) (hs : Stepped users m e m') :
    Known users m' := by
  cases hs with
  | message _ => exact known_turn h (messageMove_ok _ _ h.clients)
  | pong _ => exact known_turn h (pongMove_ok _ h.clients)
  | disconnect _ => exact ⟨clientsOk_disconnect h.clients _, h.issued, h.replied, h.truthful, h.hash⟩
  | pingTick => exact ⟨clientsOk_ping h.clients, h.issued, h.replied, h.truthful, h.hash⟩
  | expire _ => exact ⟨h.clients, h.issued, h.replied, h.truthful, h.hash⟩
  | expireOther _ => exact ⟨h.clients, h.issued, h.replied, h.truthful, h.hash⟩
  | deliver _ =>
    exact known_turn ⟨h.clients, h.issued, h.replied, h.truthful, h.hash⟩ (expiredMove_ok _ h.clients)
  | exec hi =>
    exact known_answered h hi (serve_truthful ..)
      (serve_known h.hash (h.issued _ (by rw [hi]; simp)))
  | @reject l₁ l₂ p carriedOut error hi =>
    refine known_answered h hi ?_ ?_
    · cases p <;> trivial
    · cases carriedOut with
      | true => exact serve_known h.hash (h.issued _ (by rw [hi]; simp))
      | false => exact h.hash
  | @resume l₁ l₂ a hr =>
    have ha : a ∈ m.replied := by rw [hr]; simp
    have hk : Known users { m with handlers := { m.handlers with replied := l₁ ++ l₂ } } :=
      ⟨h.clients, h.issued, resumed_replied hr h.replied, resumed_replied hr h.truthful, h.hash⟩
    exact known_turn hk (next_ok h.clients (h.replied a ha) (h.truthful a ha))

end StayApi
