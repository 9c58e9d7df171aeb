import StayApi.Effects
import StayApi.Known

/-!
# Tracked users are online

Presence is stored per uid, `clients` per socket: an unsubscribe takes its uid
out of the hash and announces it offline, whatever other sockets are tracked
under it. With handlers run one after another and no unsubscribe of a uid that
a second socket is tracked under, tracked users are online.
-/

namespace StayApi

open WebsocketChannel UserStatusMessage

def World.isIdle (w : World) : Bool := w.process.issued.isEmpty && w.process.replied.isEmpty

def deletes : Command → Bool
  | .hDel .. => true
  | _ => false

/-- Every handler has finished before the next message or pong, none is cut off
by the loss of the reply to its `hDel`, and no TTL key expires. -/
def oneByOne (w : World) : Event → Bool
  | .message _ _ => w.isIdle
  | .pong _ => w.isIdle
  | .reject i true _ => (w.process.issued[i]?).all fun t => !deletes t.cmd
  | .expire _ => false
  | _ => true

/-- An unsubscribe of `uid` comes from the only socket tracked under it, if any is. -/
def soleSocket (uid : String) (w : World) : Event → Bool
  | .message client data =>
    if asks data .unsubscribe (some uid) then
      w.clients.entries.all fun e => e.2.userUid ≠ some uid ∨ e.1 = client
    else true
  | _ => true

def ownUid (w : World) : Event → Bool
  | .message client data =>
    if frameKind data = .unsubscribe then (w.clients.get client).all fun t => t.userUid = frameUid data else true
  | _ => true

/-! ## The invariant -/

def Solo (m : Mirror) (c : WebSocket) (u : String) : Prop := ∀ d, m.server.tracksAs d u → d = c

/-- What a handler in progress relies on about `u`. -/
def Fair (u : String) (m : Mirror) : Point → Prop
  | .lookup c _ connectType v _ => v = u → kindOf connectType = .unsubscribe → Solo m c u
  | .unsubscribeHDel c _ v => v = u → Solo m c u
  | .subscribeSet _ _ v _ => v = u → (m.hash.get u).isSome = true
  | .expiryHDel _ => False
  | _ => True

structure Steady (u : String) (m : Mirror) : Prop where
  single : m.issued.length + m.replied.length ≤ 1
  published : ∀ k ∈ m.published, startsWith k USER_STATUS_HASH_TTL_KEY = false
  issued : ∀ p ∈ m.issued, Fair u m p
  replied : ∀ a ∈ m.replied, Fair u m a.1
  added : ∀ c data reset v, ⟨.subscribeHSet c data u reset, .ok v⟩ ∈ m.replied → (m.hash.get u).isSome = true
  tracked : ∀ c, m.server.tracksAs c u →
    (m.hash.get u).isSome = true ∨ ∃ data v, ⟨.unsubscribeHDel c data u, .ok v⟩ ∈ m.replied

section
variable {users : Users} {u : String} {m m' : Mirror}

theorem fair_mono {p : Point} (hh : (m.hash.get u).isSome = true → (m'.hash.get u).isSome = true)
    (ht : ∀ d, m'.server.tracksAs d u → m.server.tracksAs d u) (h : Fair u m p) : Fair u m' p := by
  cases p with
  | lookup c data connectType v reset => exact fun hv hk d hd => h hv hk d (ht d hd)
  | unsubscribeHDel c data v => exact fun hv d hd => h hv d (ht d hd)
  | subscribeSet c data v reset => exact fun hv => hh (h hv)
  | expiryHDel key => exact h
  | _ => trivial

theorem steady_mono (h : Steady u m) (hi : m'.issued = m.issued) (hr : m'.replied = m.replied)
    (hh : m'.hash = m.hash) (ht : ∀ d, m'.server.tracksAs d u → m.server.tracksAs d u)
    (hp : ∀ k ∈ m'.published, startsWith k USER_STATUS_HASH_TTL_KEY = false) : Steady u m' := by
  have hf : ∀ p, Fair u m p → Fair u m' p := fun p => fair_mono (fun h => by rw [hh]; exact h) ht
  refine ⟨by rw [hi, hr]; exact h.single, hp, fun p hq => hf p (h.issued p (hi ▸ hq)),
    fun a ha => hf a.1 (h.replied a (hr ▸ ha)), ?_, fun c hc => ?_⟩
  · rw [hr, hh]
    exact h.added
  · rw [hr, hh]
    exact h.tracked c (ht c hc)

theorem messageMove_single (client : WebSocket) (data : RawData) (s : Server) :
    (messageMove client data s).suspended.length ≤ 1 := by
  unfold messageMove
  cases request data with
  | refused => exact Nat.zero_le _
  | unknownChannel => exact Nat.zero_le _
  | user connectType uid reset => exact Nat.le_refl _
  | guest connectType =>
    dsimp only
    cases kindOf connectType with
    | other => exact Nat.zero_le _
    | subscribe => exact Nat.le_refl _
    | unsubscribe =>
      unfold guestUnsubscribeMove
      cases s.clients.get client <;> exact Nat.zero_le _

theorem pongMove_single (client : WebSocket) (s : Server) : (pongMove client s).suspended.length ≤ 1 := by
  unfold pongMove
  cases s.clients.get client with
  | none => exact Nat.zero_le _
  | some t =>
    dsimp only
    cases t.userUid with
    | none => exact Nat.zero_le _
    | some uid => exact Nat.le_refl _

theorem next_single (p : Point) (r : Except JsError (Reply p.cmd)) (s : Server) :
    (p.next r s).suspended.length ≤ 1 := by
  cases p with
  | lookup client data connectType uid reset =>
    cases r with
    | error error => exact Nat.zero_le _
    | ok v =>
      show (lookupMove ..).suspended.length ≤ 1
      unfold lookupMove
      rcases v with _ | _ | _
      · exact Nat.zero_le _
      · exact Nat.zero_le _
      · cases kindOf connectType with
        | subscribe => exact Nat.le_refl _
        | other => exact Nat.zero_le _
        | unsubscribe =>
          unfold unsubscribeMove
          dsimp only
          cases s.clients.get client with
          | none => exact Nat.zero_le _
          | some t => exact Nat.le_refl _
  | subscribeSet client data uid reset =>
    cases r with
    | error error => exact Nat.zero_le _
    | ok v =>
      show (trackMove ..).suspended.length ≤ 1
      unfold trackMove
      split
      · exact Nat.le_refl _
      · exact Nat.zero_le _
  | expiryHDel key =>
    cases r with
    | error error => exact Nat.zero_le _
    | ok v =>
      show (expiryMove ..).suspended.length ≤ 1
      unfold expiryMove
      split <;> exact Nat.zero_le _
  | subscribeHSet client data uid reset => cases r <;> simp [Point.next]
  | snapshot client data => cases r <;> simp [Point.next]
  | unsubscribeHDel client data uid => cases r <;> simp [Point.next]
  | pongHSet client uid => cases r <;> simp [Point.next]
  | pongSet client uid => simp [Point.next]

theorem idle_world : m.world.isIdle = true ↔ m.issued = [] ∧ m.replied = [] := by
  unfold World.isIdle
  rw [Bool.and_eq_true, List.isEmpty_iff, List.isEmpty_iff]
  exact and_congr List.map_eq_nil_iff List.map_eq_nil_iff

theorem steady_turn {t : Move} (h : Steady u m) (hidle : m.world.isIdle = true) (hn : t.suspended.length ≤ 1)
    (ht : ∀ d, t.state.tracksAs d u → m.server.tracksAs d u)
    (hf : ∀ p ∈ t.suspended, Fair u (m.turn t) p) : Steady u (m.turn t) := by
  obtain ⟨hi, hr⟩ := idle_world.mp hidle
  have hi' : (m.turn t).issued = t.suspended := by
    show m.issued ++ t.suspended = t.suspended
    rw [hi, List.nil_append]
  have hr' : (m.turn t).replied = [] := hr
  refine ⟨by rw [hi', hr']; simpa using hn, h.published, fun p hp => hf p (hi' ▸ hp), ?_, ?_, fun c hc => ?_⟩
  · rw [hr']
    exact fun a ha => absurd ha List.not_mem_nil
  · rw [hr']
    exact fun _ _ _ _ ha => absurd ha List.not_mem_nil
  · rcases h.tracked c (ht c hc) with hu | ⟨data, v, hv⟩
    · exact .inl hu
    · rw [hr] at hv
      exact absurd hv List.not_mem_nil

theorem steady_message {client : WebSocket} {data : RawData} (h : Steady u m) (hidle : m.world.isIdle = true)
    (hs : soleSocket u m.world (.message client data) = true) : Steady u (m.turn (messageMove client data m.server)) := by
  refine steady_turn h hidle (messageMove_single ..) (fun d => tracksAs_messageMove) fun p hp => ?_
  rcases messageMove_suspended hp with ⟨connectType, uid, reset, hr, rfl⟩ | ⟨connectType, -, -, rfl⟩
  · rintro rfl hk d hd
    obtain ⟨t, ht, hu⟩ := tracksAs_messageMove hd
    have ha : asks data .unsubscribe (some uid) = true := asks_user hr hk
    simp only [soleSocket, ha, if_true] at hs
    have he := List.all_eq_true.mp hs (d, t) (OrdMap.mem_of_get ht)
    simpa [hu] using he
  · trivial

theorem steady_answered {l₁ l₂ : List Point} {p : Point} {r : Except JsError (Reply p.cmd)} {R : Redis}
    (h : Steady u m) (hi : m.issued = l₁ ++ p :: l₂)
    (hR : (m.hash.get u).isSome = true → ((R.hashes USER_STATUS_HASH_KEY).get u).isSome = true ∨
      ∃ c data v, (⟨p, r⟩ : Answered) = ⟨.unsubscribeHDel c data u, .ok v⟩)
    (hset : ∀ c data reset v, (⟨p, r⟩ : Answered) = ⟨.subscribeHSet c data u reset, .ok v⟩ →
      ((R.hashes USER_STATUS_HASH_KEY).get u).isSome = true) : Steady u (m.answered l₁ l₂ R ⟨p, r⟩) := by
  have hlen := h.single
  rw [hi] at hlen
  simp only [List.length_append, List.length_cons] at hlen
  have hr : m.replied = [] := List.length_eq_zero_iff.mp (by omega)
  have hi' : (m.answered l₁ l₂ R ⟨p, r⟩).issued = [] := by
    show l₁ ++ l₂ = []
    rw [List.length_eq_zero_iff.mp (show l₁.length = 0 by omega), List.length_eq_zero_iff.mp (show l₂.length = 0 by omega)]
    rfl
  have hr' : (m.answered l₁ l₂ R ⟨p, r⟩).replied = [⟨p, r⟩] := by
    show m.replied ++ [⟨p, r⟩] = [⟨p, r⟩]
    rw [hr, List.nil_append]
  have hp : Fair u m p := h.issued p (by rw [hi]; simp)
  refine ⟨by rw [hi', hr']; exact Nat.le_refl _, h.published, ?_, ?_, ?_, fun c hc => ?_⟩
  · rw [hi']
    exact fun q hq => absurd hq List.not_mem_nil
  · rw [hr']
    intro a ha
    obtain rfl := List.mem_singleton.mp ha
    cases p with
    | subscribeSet c data v reset =>
      intro hv
      rcases hR (hp hv) with hu | ⟨c', data', v', he⟩
      · exact hu
      · cases he
    | lookup c data connectType v reset => exact hp
    | unsubscribeHDel c data v => exact hp
    | expiryHDel key => exact hp
    | _ => trivial
  · rw [hr']
    intro c data reset v ha
    exact hset c data reset v (List.mem_singleton.mp ha).symm
  · have hu : (m.hash.get u).isSome = true := by
      rcases h.tracked c hc with hu | ⟨data, v, hv⟩
      · exact hu
      · rw [hr] at hv
        exact absurd hv List.not_mem_nil
    rcases hR hu with hu' | ⟨d, data, v, he⟩
    · exact .inl hu'
    · obtain rfl : p = .unsubscribeHDel d data u := congrArg Sigma.fst he
      obtain rfl : c = d := hp rfl c hc
      exact .inr ⟨data, v, by rw [hr', he]; exact List.mem_singleton_self _⟩

theorem steady_exec {l₁ l₂ : List Point} {p : Point} (h : Steady u m) (hi : m.issued = l₁ ++ p :: l₂) :
    Steady u (m.answered l₁ l₂ (serve users p.cmd m.redis).1 ⟨p, (serve users p.cmd m.redis).2⟩) := by
  have hp : Fair u m p := h.issued p (by rw [hi]; simp)
  refine steady_answered h hi ?_ ?_
  · intro hu
    by_cases hd : p.hDels = some u
    · cases p with
      | unsubscribeHDel c data v =>
        obtain rfl := Option.some.inj hd
        exact .inr ⟨c, data, _, rfl⟩
      | expiryHDel key => exact hp.elim
      | _ => cases hd
    · exact .inl (hash_kept hd hu)
  · intro c data reset v he
    obtain rfl : p = .subscribeHSet c data u reset := congrArg Sigma.fst he
    exact hash_added rfl

theorem hDels_deletes {l₁ l₂ : List Point} {p : Point} {error : JsError} (hi : m.issued = l₁ ++ p :: l₂)
    (ho : oneByOne m.world (.reject l₁.length true error) = true) : p.hDels ≠ some u := by
  simp only [oneByOne, issued_world hi, Option.all_some] at ho
  cases p with
  | unsubscribeHDel c data v => cases ho
  | expiryHDel key => cases ho
  | _ => exact fun h => by cases h

theorem unsubscribed_tracksAs {c : WebSocket} {data : RawData} {v : Nat} {s : Server} :
    ¬ ((Point.unsubscribeHDel c data u).next (.ok v) s).state.tracksAs c u := by
  rintro ⟨t, ht, -⟩
  simp only [Point.next, sendUnsubscribed_clients, untrackClient_clients, announceOffline_clients,
    OrdMap.get_delete_self] at ht
  cases ht

theorem steady_next {a : Answered} (hp : Fair u m a.1)
    (hadd : ∀ c data reset v, a = ⟨.subscribeHSet c data u reset, .ok v⟩ → (m.hash.get u).isSome = true)
    (hh : m'.hash = m.hash) (hs : m'.server = (a.1.next a.2 m.server).state) :
    ∀ q ∈ (a.1.next a.2 m.server).suspended, Fair u m' q := by
  intro q hq
  cases next_follows hq with
  | subscribe _ => trivial
  | @unsubscribe c data connectType reset v hk =>
    intro hv d hd
    rw [hs] at hd
    exact hp hv hk d ((tracksAs_congr (lookupMove_clients ..)).mp hd)
  | @lease c data reset v added =>
    intro hv
    rw [hh]
    exact hadd c data reset added (by rw [hv])
  | snapshot _ => trivial
  | renew => trivial

theorem steady_resume {l₁ l₂ : List Answered} {a : Answered} (h : Steady u m) (hr : m.replied = l₁ ++ a :: l₂) :
    Steady u (m.resumed l₁ a l₂) := by
  have hlen := h.single
  rw [hr] at hlen
  simp only [List.length_append, List.length_cons] at hlen
  have hi : m.issued = [] := List.length_eq_zero_iff.mp (by omega)
  have h1 : l₁ = [] := List.length_eq_zero_iff.mp (by omega)
  have h2 : l₂ = [] := List.length_eq_zero_iff.mp (by omega)
  subst h1 h2
  have ha : a ∈ m.replied := by rw [hr]; simp
  have hi' : (m.resumed [] a []).issued = (a.1.next a.2 m.server).suspended := by
    show m.issued ++ _ = _
    rw [hi, List.nil_append]
  have hr' : (m.resumed [] a []).replied = [] := rfl
  have hadd : ∀ c data reset v, a = ⟨.subscribeHSet c data u reset, .ok v⟩ → (m.hash.get u).isSome = true :=
    fun c data reset v he => h.added c data reset v (he ▸ ha)
  refine ⟨by rw [hi', hr']; simpa using next_single a.1 a.2 m.server, h.published, ?_, ?_, ?_, fun c hc => ?_⟩
  · rw [hi']
    exact steady_next (h.replied a ha) hadd rfl rfl
  · exact fun b hb => absurd hb List.not_mem_nil
  · exact fun _ _ _ _ hb => absurd hb List.not_mem_nil
  · have hc' : (a.1.next a.2 m.server).state.tracksAs c u := hc
    rcases next_tracksAs hc' with ht | ⟨data, reset, v, he⟩
    · rcases h.tracked c ht with hu | ⟨data, v, hv⟩
      · exact .inl hu
      · rw [hr, List.nil_append] at hv
        obtain rfl := List.mem_singleton.mp hv
        exact absurd hc' unsubscribed_tracksAs
    · have hp := h.replied a ha
      rw [he] at hp
      exact .inl (hp rfl)

theorem steady_step {e : Event} (hk : Known users m) (h : Steady u m) (ho : oneByOne m.world e = true)
    (hs : soleSocket u m.world e = true) (hst : Stepped users m e m') : Steady u m' := by
  cases hst with
  | message _ => exact steady_message h ho hs
  | @pong client _ =>
    refine steady_turn h ho (pongMove_single ..) (fun d => tracksAs_pongMove) fun p hp => ?_
    unfold pongMove at hp
    cases hc : m.server.clients.get client with
    | none => rw [hc] at hp; cases hp
    | some t =>
      rw [hc] at hp
      cases hu : t.userUid with
      | none => simp only [hu] at hp; cases hp
      | some uid =>
        simp only [hu] at hp
        rw [List.mem_singleton.mp hp]
        trivial
  | disconnect _ => exact steady_mono h rfl rfl rfl (fun d => tracksAs_disconnect) h.published
  | pingTick =>
    exact steady_mono h rfl rfl rfl (fun d => tracksAs_ping fun c t ht => (hk.clients c t ht).1) h.published
  | expire _ => cases ho
  | @expireOther key hkey =>
    refine steady_mono h rfl rfl rfl (fun d => id) fun k hk' => ?_
    rcases List.mem_append.mp hk' with hk' | hk'
    · exact h.published k hk'
    · rw [List.mem_singleton.mp hk']; exact hkey
  | @deliver l₁ l₂ key hp =>
    have hkey : startsWith key USER_STATUS_HASH_TTL_KEY = false := h.published key (by rw [hp]; simp)
    have hm : expiredMove key m.server = ⟨m.server, [], []⟩ := by
      unfold expiredMove
      rw [if_neg (by rw [hkey]; simp)]
    have hi : (m.received (l₁ ++ l₂) key).issued = m.issued := by
      show m.issued ++ (expiredMove key m.server).suspended = m.issued
      rw [hm, List.append_nil]
    have hsv : (m.received (l₁ ++ l₂) key).server = m.server := congrArg PointTurn.state hm
    refine steady_mono h hi rfl rfl (fun d hd => by rw [hsv] at hd; exact hd) fun k hk' => ?_
    exact h.published k (hp ▸ mem_unskip hk')
  | exec hi => exact steady_exec h hi
  | @reject l₁ l₂ p carriedOut error hi =>
    refine steady_answered h hi (fun hu => .inl ?_) fun c data reset v he => by cases he
    cases carriedOut with
    | true => exact hash_kept (hDels_deletes hi ho) hu
    | false => exact hu
  | resume hr => exact steady_resume h hr

theorem steady_start (u : String) : Steady u Mirror.start := by
  refine ⟨Nat.zero_le _, fun k hk => absurd hk List.not_mem_nil, fun p hp => absurd hp List.not_mem_nil,
    fun a ha => absurd ha List.not_mem_nil, fun _ _ _ _ ha => absurd ha List.not_mem_nil, ?_⟩
  rintro c ⟨t, ht, -⟩
  cases ht

end

/-- **Tracked users are online.** With one handler at a time, no expiry, and
no unsubscribe of `uid` while a second socket is tracked under it: `uid` is in
the hash as long as a socket is tracked under it, and no broadcast announces it
offline while a socket other than the one left out is tracked under it. -/
theorem tracked_online (users : Users) (uid : String) (es : List Event) (w : World)
    (ho : Along (step users) (fun w e => oneByOne w e) World.start es)
    (hs : Along (step users) (fun w e => soleSocket uid w e) World.start es)
    (hr : run (step users) World.start es = some w) :
    (w.Idle → ∀ c t, w.clients.get c = some t → t.userUid = some uid → (w.hash.get uid).isSome) ∧
      ∀ e w', step users w e = some w' → ∀ conn info, .broadcast conn info ∈ w.effects w' →
        info.get uid = some OFFLINE → ∀ d t, w.clients.get d = some t → t.userUid = some uid → conn = some d := by
  obtain ⟨m, ⟨-, hm⟩, rfl⟩ := presence_invariant (I := fun m => Known users m ∧ Steady uid m)
    ⟨known_start users, steady_start uid⟩
    (fun m e m' hI hk hst => ⟨known_step hI.1 hst, steady_step hI.1 hI.2 hk.1 hk.2 hst⟩)
    (along_and.mpr ⟨ho, hs⟩) hr
  constructor
  · rintro ⟨-, hidle⟩ c t ht hu
    rcases hm.tracked c ⟨t, ht, hu⟩ with h | ⟨data, v, hv⟩
    · exact h
    · have hnil : m.replied = [] := List.map_eq_nil_iff.mp hidle
      rw [hnil] at hv
      exact absurd hv List.not_mem_nil
  · intro e w' hst conn info hb hoff d t ht hu
    obtain ⟨m', rfl, hs'⟩ := world_step hst
    obtain ⟨l₁, a, l₂, hrep, -, -, hby⟩ := offline_cases hs' hb hoff
    have hf : Fair uid m a.1 := hm.replied a (by rw [hrep]; simp)
    cases hby with
    | unsubscribe c data v => rw [hf rfl d ⟨t, ht, hu⟩]
    | expiry hk hv => exact hf.elim

def twoUsersRun : List Event := subscribeRun 0 "a" ++ subscribeRun 1 "b" ++ unsubscribeRun 0 "a"

theorem tracked_online_two_users :
    ∃ w, run (step everyUser) World.start twoUsersRun = some w ∧
      (w.Idle → ∀ c t, w.clients.get c = some t → t.userUid = some "b" → (w.hash.get "b").isSome) :=
  ⟨_, rfl, (tracked_online everyUser "b" twoUsersRun _ (by decide) (by decide) rfl).1⟩

def oneUserRun : List Event := subscribeRun 0 "a" ++ subscribeRun 1 "a" ++ unsubscribeRun 0 "a"

/-- The second socket is still tracked, and its user offline. -/
theorem unsubscribe_offlines_other :
    Along (step everyUser) (fun w e => oneByOne w e) World.start oneUserRun ∧
      Along (step everyUser) (fun w e => ownUid w e) World.start oneUserRun ∧
      ∃ w, run (step everyUser) World.start oneUserRun = some w ∧ w.Idle ∧
        (∃ t, w.clients.get 1 = some t ∧ t.userUid = some "a") ∧ w.hash.get "a" = none :=
  ⟨by decide, by decide, _, rfl, ⟨rfl, rfl⟩, ⟨_, rfl, rfl⟩, by decide⟩

end StayApi
