import StayApi.Known

/-!
# The heartbeat

A tick keeps the tracked sockets it has heard of since the last one: those that
subscribed or answered a ping. What it keeps it pings, and marks as not heard of.
-/

namespace StayApi

open WebsocketChannel UserStatusMessage

/-- The end of a `subscribeMessage` of `c`: its TTL key is set, and `clients.set` comes next. -/
def concludesSubscribe (c : WebSocket) : Replied Origin Server Command Reply JsError → Bool
  | ⟨⟨.message client _, .set _ _ _, _⟩, .ok _⟩ => client = c
  | _ => false

/-- The step runs the `clients.set` of a subscribe of `c`. -/
def tracksClient (c : WebSocket) (w : World) : Event → Bool
  | .message client data => client = c ∧ asks data .subscribe none
  | .resume j => (w.process.replied[j]?).any (concludesSubscribe c)
  | _ => false

/-- A subscribe of `c` tracks it, or a pong of `c` finds it tracked. -/
def hears (c : WebSocket) (w : World) : Event → Bool
  | .pong client => client = c ∧ (w.clients.get c).isSome
  | e => tracksClient c w e

def Effect.pings (c : WebSocket) : Effect → Bool
  | .ping client => client = c
  | _ => false

/-! ## One step -/

/-- What a step that is no tick does to the entry of `c`: one that hears of `c`
leaves it marked alive, and any other leaves it as it is or takes it away. -/
structure Heard (c : WebSocket) (heard : Prop) (s s' : Server) : Prop where
  alive : heard → ∀ t, s'.clients.get c = some t → t.isAlive = true
  kept : ¬ heard → s'.clients.get c = none ∨ s'.clients.get c = s.clients.get c

section
variable {c : WebSocket} {p : Prop} {s s' : Server}

theorem heard_same (hp : ¬ p) (h : s'.clients.get c = s.clients.get c) : Heard c p s s' := by
  constructor
  · intro hheard
    exact absurd hheard hp
  · intro _
    exact .inr h

theorem heard_gone (h : s'.clients.get c = none) : Heard c p s s' := by
  constructor
  · intro _ t ht
    rw [h] at ht
    cases ht
  · intro _
    exact .inl h

theorem heard_alive {t : TrackedClient} (hp : p) (h : s'.clients.get c = some t) (ht : t.isAlive = true) :
    Heard c p s s' := by
  constructor
  · intro _ u hu
    rw [h] at hu
    obtain rfl := Option.some.inj hu
    exact ht
  · intro hn
    exact absurd hp hn

theorem heard_message (client : WebSocket) (data : RawData) :
    Heard c (client = c ∧ asks data .subscribe none = true) s (messageMove client data s).state := by
  by_cases hc : client = c
  · subst hc
    unfold messageMove
    cases hr : request data with
    | refused => exact heard_same (by simp [asks, hr]) rfl
    | unknownChannel => exact heard_same (by simp [asks, hr]) rfl
    | user connectType uid reset => exact heard_same (by simp [asks, hr]) rfl
    | guest connectType =>
      dsimp only
      cases hk : kindOf connectType with
      | other => exact heard_same (by simp [asks, hr, hk]) rfl
      | unsubscribe =>
        apply heard_gone
        dsimp only
        rw [guestUnsubscribeMove_get, if_pos rfl]
      | subscribe =>
        apply heard_alive ⟨rfl, asks_guest hr hk⟩
        · dsimp only
          rw [trackMove_clients, OrdMap.get_set_self]
        · rfl
  · apply heard_same
    · intro h
      exact hc h.1
    · exact messageMove_foreign hc data s

theorem pongMove_get (client : WebSocket) (s : Server) (d : WebSocket) :
    (pongMove client s).state.clients.get d =
      if d = client then (s.clients.get client).map fun t => { t with isAlive := true } else s.clients.get d := by
  unfold pongMove
  cases ht : s.clients.get client with
  | none =>
    by_cases hd : d = client
    · rw [if_pos hd, hd]
      exact ht
    · rw [if_neg hd]
  | some t =>
    have ha : (markAlive client s).clients.get d =
        if d = client then (some t).map fun t => { t with isAlive := true } else s.clients.get d := by
      rw [markAlive_clients, OrdMap.get_modify, ht]
    dsimp only
    cases t.userUid with
    | none => exact ha
    | some uid => exact ha

theorem heard_pong (client : WebSocket) :
    Heard c (client = c ∧ (s.clients.get c).isSome = true) s (pongMove client s).state := by
  have hget := pongMove_get client s c
  by_cases hc : c = client
  · subst hc
    rw [if_pos rfl] at hget
    cases ht : s.clients.get c with
    | none =>
      rw [ht] at hget
      exact heard_gone hget
    | some t =>
      rw [ht] at hget
      exact heard_alive ⟨rfl, rfl⟩ hget rfl
  · rw [if_neg hc] at hget
    apply heard_same _ hget
    intro h
    exact hc h.1.symm

theorem concludesSubscribe_set {client : WebSocket} {data : RawData} {uid : String} {reset : Option Json} {v : Unit} :
    concludesSubscribe c ⟨(Point.subscribeSet client data uid reset).thread, .ok v⟩ = true ↔ client = c :=
  decide_eq_true_iff

theorem heard_next (a : Answered) :
    Heard c (concludesSubscribe c ⟨a.1.thread, a.2⟩ = true) s (a.1.next a.2 s).state := by
  obtain ⟨p, r⟩ := a
  cases p with
  | subscribeSet client data uid reset =>
    cases r with
    | error error => exact heard_same Bool.false_ne_true rfl
    | ok v =>
      have hget : ((Point.subscribeSet client data uid reset).next (.ok v) s).state.clients.get c =
          if c = client then some ⟨client, some uid, true⟩ else s.clients.get c := by
        simp only [Point.next, trackMove_clients, announceOnline_clients, OrdMap.get_set]
      by_cases hc : c = client
      · rw [if_pos hc] at hget
        exact heard_alive (concludesSubscribe_set.mpr hc.symm) hget rfl
      · rw [if_neg hc] at hget
        apply heard_same _ hget
        intro h
        exact hc (concludesSubscribe_set.mp h).symm
  | unsubscribeHDel client data uid =>
    cases r with
    | error error => exact heard_same Bool.false_ne_true rfl
    | ok v =>
      have hget : ((Point.unsubscribeHDel client data uid).next (.ok v) s).state.clients.get c =
          if c = client then none else s.clients.get c := by
        simp only [Point.next, sendUnsubscribed_clients, untrackClient_clients, announceOffline_clients,
          OrdMap.get_delete]
      by_cases hc : c = client
      · rw [if_pos hc] at hget
        exact heard_gone hget
      · rw [if_neg hc] at hget
        exact heard_same Bool.false_ne_true hget
  | lookup client data connectType uid reset =>
    apply heard_same
    · exact Bool.false_ne_true
    · cases r with
      | ok v => exact congrArg (fun l => OrdMap.get l c) (lookupMove_clients ..)
      | error error => rfl
  | expiryHDel key =>
    apply heard_same
    · exact Bool.false_ne_true
    · cases r with
      | ok v =>
        simp only [Point.next, expiryMove]
        split
        · rw [announceOffline_clients]
        · rfl
      | error error => rfl
  | subscribeHSet client data uid reset => cases r <;> exact heard_same Bool.false_ne_true rfl
  | snapshot client data => cases r <;> exact heard_same Bool.false_ne_true rfl
  | pongHSet client uid => cases r <;> exact heard_same Bool.false_ne_true rfl
  | pongSet client uid => cases r <;> exact heard_same Bool.false_ne_true rfl

theorem heard_congr {q : Prop} (hpq : p ↔ q) (h : Heard c p s s') : Heard c q s s' := by
  constructor
  · intro hq
    exact h.alive (hpq.mpr hq)
  · intro hq
    exact h.kept fun hp => hq (hpq.mp hp)

theorem heard_step {users : Users} {m m' : Mirror} {e : Event} (he : e ≠ .pingTick) (hs : Stepped users m e m') :
    Heard c (hears c m.world e = true) m.server m'.server := by
  cases hs with
  | @message client data _ => exact heard_congr decide_eq_true_iff.symm (heard_message client data)
  | @pong client _ => exact heard_congr decide_eq_true_iff.symm (heard_pong client)
  | @disconnect client _ =>
    have hget := disconnect_get client m.server c
    by_cases hc : c = client
    · rw [if_pos hc] at hget
      exact heard_gone hget
    · rw [if_neg hc] at hget
      exact heard_same Bool.false_ne_true hget
  | pingTick => exact absurd rfl he
  | expire _ => exact heard_same Bool.false_ne_true rfl
  | expireOther _ => exact heard_same Bool.false_ne_true rfl
  | @deliver l₁ l₂ key _ =>
    apply heard_same Bool.false_ne_true
    show (expiredMove key m.server).state.clients.get c = _
    rw [expiredMove_state]
  | exec _ => exact heard_same Bool.false_ne_true rfl
  | reject _ => exact heard_same Bool.false_ne_true rfl
  | @resume l₁ l₂ a hr =>
    have hiff : concludesSubscribe c ⟨a.1.thread, a.2⟩ = true ↔ hears c m.world (.resume l₁.length) = true := by
      show _ ↔ (m.world.process.replied[l₁.length]?).any (concludesSubscribe c) = true
      rw [replied_world hr]
      rfl
    exact heard_congr hiff (heard_next a)

end

/-! ## Between two ticks -/

def Silent (c : WebSocket) (m : Mirror) : Prop := ∀ t, m.clients.get c = some t → t.isAlive = false

def Alive (c : WebSocket) (m : Mirror) : Prop := ∀ t, m.clients.get c = some t → t.isAlive = true

section
variable {users : Users} {c : WebSocket} {m m' : Mirror} {e : Event}

theorem silent_step (h : Silent c m) (hn : hears c m.world e = false) (he : e ≠ .pingTick)
    (hs : Stepped users m e m') : Silent c m' := by
  intro t ht
  rcases (heard_step he hs).kept (by rw [hn]; exact Bool.false_ne_true) with hnone | hsame
  · have hnone' : m'.clients.get c = none := hnone
    rw [hnone'] at ht
    cases ht
  · apply h
    rw [← ht]
    exact hsame.symm

theorem alive_step (h : Alive c m ∨ hears c m.world e = true) (he : e ≠ .pingTick) (hs : Stepped users m e m') :
    Alive c m' := by
  intro t ht
  have hheard := heard_step (c := c) he hs
  by_cases hh : hears c m.world e = true
  · exact hheard.alive hh t ht
  · rcases h with h | h
    · rcases hheard.kept hh with hnone | hsame
      · have hnone' : m'.clients.get c = none := hnone
        rw [hnone'] at ht
        cases ht
      · apply h
        rw [← ht]
        exact hsame.symm
    · exact absurd h hh

theorem alive_iff {es : List Event} (h₀ : Silent c m) (hm : run (mirrorStep users) m es = some m')
    (hes : ∀ e ∈ es, e ≠ .pingTick) {t : TrackedClient} (ht : m'.clients.get c = some t) :
    t.isAlive = true ↔ ¬ Along (mirrorStep users) (fun m e => hears c m.world e = false) m es := by
  constructor
  · intro halive hquiet
    have hsilent : Silent c m' := by
      refine run_invariant (I := Silent c) ?_ h₀ (along_and.mpr ⟨hquiet, along_of_forall hes m⟩) hm
      intro m e m' hi ho hs
      exact silent_step hi ho.1 ho.2 (mirror_cases hs)
    rw [hsilent t ht] at halive
    cases halive
  · intro hheard
    -- from the last step that hears of `c` on, its entry is marked alive
    obtain ⟨es₁, e, es₂, m₁, rfl, hm₁, hh⟩ := not_along hm hheard
    obtain ⟨m₁', hm₁', hm₂⟩ := run_append.mp hm
    obtain rfl : m₁ = m₁' := Option.some.inj (hm₁.symm.trans hm₁')
    obtain ⟨m₂, hs, hrest⟩ := run_cons hm₂
    have he : e ≠ .pingTick := hes e (by simp)
    have halive : Alive c m₂ := alive_step (.inr (by simpa using hh)) he (mirror_cases hs)
    have hes₂ : ∀ f ∈ es₂, f ≠ .pingTick := by
      intro f hf
      apply hes
      simp [hf]
    have hend : Alive c m' := by
      refine run_invariant (I := Alive c) ?_ halive (along_of_forall hes₂ m₂) hrest
      intro m e m' hi ho hs
      exact alive_step (.inl hi) ho (mirror_cases hs)
    exact hend t ht

end

/-! ## The tick -/

theorem foldl_pingClient_trace (l : List TrackedClient) (s : Server) :
    (l.foldl pingClient s).trace = s.trace ++ (l.filter fun t => t.isAlive).map fun t => .ping t.socket := by
  induction l generalizing s with
  | nil => simp
  | cons t l ih =>
    rw [List.foldl_cons, ih]
    unfold pingClient
    cases ht : t.isAlive with
    | false => simp [ht]
    | true => simp [ht]

theorem ping_pings {s : Server} (hs : ∀ c t, s.clients.get c = some t → t.socket = c) (c : WebSocket) :
    ((ping s).trace.drop s.trace.length).countP (Effect.pings c) =
      ((s.clients.get c).any fun t => t.isAlive).toNat := by
  unfold ping
  rw [foldl_pingClient_trace, List.drop_left, ← OrdMap.countP_entries, List.countP_map, List.countP_filter,
    List.countP_map]
  apply List.countP_congr
  intro e he
  have hsocket : e.2.socket = e.1 := hs e.1 e.2 (OrdMap.get_of_mem he)
  simp [Effect.pings, hsocket]

theorem ping_silent {users : Users} {m : Mirror} (hk : Known users m) (c : WebSocket) :
    Silent c (m.update ping) := by
  intro t ht
  have hget : (ping m.server).clients.get c = (m.clients.get c).bind ticked :=
    ping_get (fun c t ht => (hk.clients c t ht).1) c
  change (ping m.server).clients.get c = some t at ht
  rw [hget] at ht
  obtain ⟨t', -, hb⟩ := Option.bind_eq_some_iff.mp ht
  unfold ticked at hb
  split at hb
  · cases hb
    rfl
  · cases hb

/-- The state a run leaves that is empty or ends with a tick. -/
theorem silent_since {users : Users} {es : List Event} {m : Mirror}
    (hlast : ∀ e ∈ es.getLast?, e = .pingTick) (hm : run (mirrorStep users) Mirror.start es = some m)
    (c : WebSocket) : Silent c m := by
  rcases List.eq_nil_or_concat es with rfl | ⟨fs, e, rfl⟩
  · obtain rfl : Mirror.start = m := by simpa [run] using hm
    intro t ht
    cases ht
  · obtain rfl : e = .pingTick := hlast e (by simp)
    rw [List.concat_eq_append] at hm
    obtain ⟨m₁, hm₁, htick⟩ := run_append.mp hm
    have hk : Known users m₁ :=
      run_invariant (fun m e m' hi _ hs => known_step hi (mirror_cases hs)) (known_start users)
        (along_true _ _) hm₁
    obtain rfl : m₁.update ping = m := by simpa [run, mirrorStep] using htick
    exact ping_silent hk c

/-- **The heartbeat evicts exactly the silent sockets.** A tick keeps the tracked
sockets that were tracked anew or answered a ping since the last tick (or since
the start); it pings each of these once and marks it silent, and pings no other. -/
theorem ping_keeps_heard (users : Users) (es₀ es : List Event) (w₀ w w' : World)
    (h₀ : run (step users) World.start es₀ = some w₀) (hlast : ∀ e ∈ es₀.getLast?, e = .pingTick)
    (h : run (step users) w₀ es = some w) (hes : ∀ e ∈ es, e ≠ .pingTick)
    (h' : step users w .pingTick = some w') (c : WebSocket) :
    (c ∈ w'.clients.keys ↔
      c ∈ w.clients.keys ∧ ¬ Along (step users) (fun w e => hears c w e = false) w₀ es) ∧
    (∀ t, w'.clients.get c = some t → t.isAlive = false) ∧
    (w.effects w').countP (Effect.pings c) = if c ∈ w'.clients.keys then 1 else 0 := by
  obtain ⟨m₀, hm₀, rfl⟩ := run_lift (t := Mirror.start) (step_mirror users) h₀
  obtain ⟨m, hm, rfl⟩ := run_lift (t := m₀) (step_mirror users) h
  have hk : Known users m := by
    refine run_invariant (fun m e m' hi _ hs => known_step hi (mirror_cases hs)) (known_start users)
      (along_true _ (es₀ ++ es)) (run_append.mpr ⟨m₀, hm₀, hm⟩)
  obtain rfl : (m.update ping).world = w' := Option.some.inj h'
  have hsocket : ∀ c t, m.server.clients.get c = some t → t.socket = c := fun c t ht => (hk.clients c t ht).1
  have hget : (m.update ping).world.clients.get c = (m.clients.get c).bind ticked := ping_get hsocket c
  have hpings : (m.world.effects (m.update ping).world).countP (Effect.pings c) =
      ((m.clients.get c).any fun t => t.isAlive).toNat := ping_pings hsocket c
  have hsilent : Silent c m₀ := silent_since hlast hm₀ c
  have hkey : c ∈ (m.update ping).world.clients.keys ↔ ((m.clients.get c).bind ticked).isSome := by
    rw [OrdMap.mem_keys, hget]
  refine ⟨?_, fun t ht => ping_silent hk c t ht, ?_⟩
  · rw [hkey, OrdMap.mem_keys, along_map (t := m₀) (step_mirror users)]
    show _ ↔ (m.clients.get c).isSome ∧ _
    cases ht : m.clients.get c with
    | none => simp
    | some t =>
      rw [← alive_iff hsilent hm hes ht]
      cases hal : t.isAlive <;> simp [ticked, hal]
  · rw [hpings]
    simp only [hkey]
    cases ht : m.clients.get c with
    | none => simp
    | some t => cases hal : t.isAlive <;> simp [ticked, hal]

theorem ping_keeps_heard_ponged :
    ∃ w₀ w w', run (step everyUser) World.start (subscribeRun 0 "a" ++ subscribeRun 1 "b" ++ [.pingTick]) = some w₀ ∧
      run (step everyUser) w₀ [.pong 0] = some w ∧ step everyUser w .pingTick = some w' ∧
      0 ∈ w'.clients.keys ∧ 1 ∉ w'.clients.keys := by
  refine ⟨_, _, _, rfl, rfl, rfl, ?_, ?_⟩
  · exact (ping_keeps_heard everyUser (subscribeRun 0 "a" ++ subscribeRun 1 "b" ++ [.pingTick]) [.pong 0] _ _ _ rfl
      (by simp) rfl (by simp) rfl 0).1.mpr (by decide)
  · intro h
    have hheard := ((ping_keeps_heard everyUser (subscribeRun 0 "a" ++ subscribeRun 1 "b" ++ [.pingTick]) [.pong 0] _ _
      _ rfl (by simp) rfl (by simp) rfl 1).1.mp h).2
    exact hheard (by decide)

end StayApi
