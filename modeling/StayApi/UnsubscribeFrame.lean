import StayApi.Effects
import StayApi.Known

/-!
# What an unsubscribe touches

`unsubscribeMessage` looks its socket up in `clients` but works for the uid of
the message. Here one unsubscribe is followed from any reachable state to its
end, the other handlers standing still.
-/

namespace StayApi

open WebsocketChannel UserStatusMessage

/-- A step of a handler that started after `n` commands were issued and `k` answered. -/
def laterStep (n k : Nat) : Event → Bool
  | .exec i => n ≤ i
  | .resume j => k ≤ j
  | _ => false

def World.finished (w w' : World) : Prop :=
  w'.process.issued.length = w.process.issued.length ∧ w'.process.replied.length = w.process.replied.length

def World.tracksAs (w : World) (c : WebSocket) (u : String) : Prop :=
  ∃ t, w.clients.get c = some t ∧ t.userUid = some u

/-- What handling an unsubscribe of a socket `c` tracked under `a` should come to. -/
structure OwnOffline (w w' : World) (c : WebSocket) (a : Option String) : Prop where
  frame : ∀ f, a ≠ some f → w'.hash.get f = w.hash.get f
  offline : ∀ u, a = some u → (∀ d, d ≠ c → ¬ w.tracksAs d u) → w'.hash.get u = none
  announced : ∀ conn info u, .broadcast conn info ∈ w.effects w' → info.get u = some OFFLINE → a = some u

/-! ## The handler on its own -/

section
variable {users : Users} {m m' : Mirror}

section
variable {n k : Nat} {es : List Event}

/-- A list is split at its last element, if not before it, in one way. -/
theorem split_last {α : Type} {I l₁ l₂ : List α} {p q : α} (h : I ++ [p] = l₁ ++ q :: l₂) (hle : I.length ≤ l₁.length) :
    I = l₁ ∧ p = q ∧ l₂ = [] := by
  have hlen := congrArg List.length h
  simp only [List.length_append, List.length_cons, List.length_nil] at hlen
  obtain rfl : l₂ = [] := List.length_eq_zero_iff.mp (by omega)
  obtain ⟨hI, hp⟩ := List.append_inj h (by omega)
  exact ⟨hI, (List.cons.inj hp).1, rfl⟩

theorem later_none (hn : m.issued.length = n) (hk : m.replied.length = k) (he : es.all (laterStep n k) = true)
    (hr : run (mirrorStep users) m es = some m') : m' = m := by
  cases es with
  | nil => exact (Option.some.inj hr).symm
  | cons e es =>
    obtain ⟨m₁, hs, -⟩ := run_cons hr
    have hl := List.all_eq_true.mp he e List.mem_cons_self
    cases mirror_cases hs with
    | @exec l₁ l₂ p hi =>
      have hle : n ≤ l₁.length := of_decide_eq_true hl
      rw [hi, List.length_append, List.length_cons] at hn
      omega
    | @resume l₁ l₂ a ha =>
      have hle : k ≤ l₁.length := of_decide_eq_true hl
      rw [ha, List.length_append, List.length_cons] at hk
      omega
    | _ => cases hl

theorem later_exec {I : List Point} {p : Point} (hi : m.issued = I ++ [p]) (hn : I.length = n)
    (hk : m.replied.length = k) (he : es.all (laterStep n k) = true)
    (hr : run (mirrorStep users) m es = some m') (hd : m'.issued.length = n) :
    ∃ es', es'.all (laterStep n k) = true ∧
      run (mirrorStep users) (m.answered I [] (serve users p.cmd m.redis).1 ⟨p, (serve users p.cmd m.redis).2⟩) es' =
        some m' := by
  cases es with
  | nil =>
    obtain rfl := Option.some.inj hr
    rw [hi, List.length_append, List.length_singleton] at hd
    omega
  | cons e es =>
    obtain ⟨m₁, hs, hr⟩ := run_cons hr
    rw [List.all_cons, Bool.and_eq_true] at he
    cases mirror_cases hs with
    | @exec l₁ l₂ q hq =>
      have hle : n ≤ l₁.length := of_decide_eq_true he.1
      obtain ⟨rfl, rfl, rfl⟩ := split_last (hi.symm.trans hq) (hn ▸ hle)
      exact ⟨es, he.2, hr⟩
    | @resume l₁ l₂ a ha =>
      have hle : k ≤ l₁.length := of_decide_eq_true he.1
      rw [ha, List.length_append, List.length_cons] at hk
      omega
    | _ => cases he.1

theorem later_resume {A : List Answered} {a : Answered} (ha : m.replied = A ++ [a]) (hn : m.issued.length = n)
    (hk : A.length = k) (he : es.all (laterStep n k) = true)
    (hr : run (mirrorStep users) m es = some m') (hd : m'.replied.length = k) :
    ∃ es', es'.all (laterStep n k) = true ∧ run (mirrorStep users) (m.resumed A a []) es' = some m' := by
  cases es with
  | nil =>
    obtain rfl := Option.some.inj hr
    rw [ha, List.length_append, List.length_singleton] at hd
    omega
  | cons e es =>
    obtain ⟨m₁, hs, hr⟩ := run_cons hr
    rw [List.all_cons, Bool.and_eq_true] at he
    cases mirror_cases hs with
    | @resume l₁ l₂ b hb =>
      have hle : k ≤ l₁.length := of_decide_eq_true he.1
      obtain ⟨rfl, rfl, rfl⟩ := split_last (ha.symm.trans hb) (hk ▸ hle)
      exact ⟨es, he.2, hr⟩
    | @exec l₁ l₂ q hq =>
      have hle : n ≤ l₁.length := of_decide_eq_true he.1
      rw [hq, List.length_append, List.length_cons] at hn
      omega
    | _ => cases he.1

/-- The later handler's command is carried out and its reply arrives. -/
theorem later_round {I : List Point} {p : Point} (hi : m.issued = I ++ [p]) (hn : I.length = n)
    (hk : m.replied.length = k) (he : es.all (laterStep n k) = true)
    (hr : run (mirrorStep users) m es = some m') (hdi : m'.issued.length = n) (hdr : m'.replied.length = k) :
    ∃ m₁ es', es'.all (laterStep n k) = true ∧ run (mirrorStep users) m₁ es' = some m' ∧
      m₁.server = (p.next (serve users p.cmd m.redis).2 m.server).state ∧
      m₁.redis = (serve users p.cmd m.redis).1 ∧
      m₁.issued = I ++ (p.next (serve users p.cmd m.redis).2 m.server).suspended ∧ m₁.replied = m.replied := by
  obtain ⟨es₁, he₁, hr₁⟩ := later_exec hi hn hk he hr hdi
  obtain ⟨es₂, he₂, hr₂⟩ :=
    later_resume (m := m.answered I [] (serve users p.cmd m.redis).1 ⟨p, (serve users p.cmd m.redis).2⟩)
      (A := m.replied) rfl ((congrArg List.length (List.append_nil I)).trans hn) hk he₁ hr₁ hdr
  refine ⟨_, es₂, he₂, hr₂, rfl, rfl, ?_, List.append_nil _⟩
  show I ++ [] ++ _ = _
  rw [List.append_nil]
  rfl

end

theorem guest_handled {c : WebSocket} {t : TrackedClient} {data : RawData} {es : List Event}
    (ht : m.server.clients.get c = some t) (ha : asks data .unsubscribe none = true)
    (he : es.all (laterStep m.issued.length m.replied.length) = true)
    (hr : run (mirrorStep users) m (.message c data :: es) = some m') :
    m'.hash = m.hash ∧ m'.server = sendUnsubscribed c (untrackClient c m.server) := by
  have hm : messageMove c data m.server = ⟨sendUnsubscribed c (untrackClient c m.server), [], []⟩ := by
    rcases asks_cases ha with ⟨-, connectType, hq, hk⟩ | ⟨u, connectType, reset, hu, -, -⟩
    · simp [messageMove, hq, hk, guestUnsubscribeMove, ht]
    · cases hu
  obtain ⟨m₁, hs, hr⟩ := run_cons hr
  cases mirror_cases hs with
  | message _ =>
    have hi : (m.turn (messageMove c data m.server)).issued.length = m.issued.length := by
      show (m.issued ++ (messageMove c data m.server).suspended).length = _
      rw [hm, List.append_nil]
    obtain rfl := later_none hi rfl he hr
    refine ⟨rfl, ?_⟩
    show (messageMove c data m.server).state = _
    rw [hm]

theorem user_handled {c : WebSocket} {t : TrackedClient} {data : RawData} {u : String} {es : List Event}
    (ht : m.server.clients.get c = some t) (ha : asks data .unsubscribe (some u) = true)
    (hu : users u = .ok (some true)) (he : es.all (laterStep m.issued.length m.replied.length) = true)
    (hr : run (mirrorStep users) m (.message c data :: es) = some m')
    (hdi : m'.issued.length = m.issued.length) (hdr : m'.replied.length = m.replied.length) :
    m'.hash = m.hash.delete u ∧
      m'.server = sendUnsubscribed c (untrackClient c (announceOffline (some c) u m.server)) := by
  obtain ⟨connectType, reset, hq, hk⟩ : ∃ connectType reset, request data = .user connectType u reset ∧
      kindOf connectType = .unsubscribe := by
    rcases asks_cases ha with ⟨hu, -⟩ | ⟨v, connectType, reset, hu, hq, hk⟩
    · cases hu
    · obtain rfl := Option.some.inj hu
      exact ⟨connectType, reset, hq, hk⟩
  have hm : messageMove c data m.server = ⟨m.server, [.lookup c data connectType u reset], []⟩ := by
    simp [messageMove, hq]
  have hl : lookupMove c data connectType u reset (some true) m.server =
      ⟨m.server, [.unsubscribeHDel c data u], []⟩ := by
    simp [lookupMove, hk, unsubscribeMove, ht]
  obtain ⟨m₁, hs, hr⟩ := run_cons hr
  cases mirror_cases hs with
  | message _ =>
    rw [hm] at hr
    obtain ⟨m₂, es₂, he₂, hr₂, hs₂, hR₂, hi₂, ha₂⟩ :=
      later_round (m := m.turn ⟨m.server, [.lookup c data connectType u reset], []⟩) (I := m.issued) rfl rfl rfl he hr
        hdi hdr
    have hl₂ : Point.next (.lookup c data connectType u reset) (users u) m.server =
        ⟨m.server, [.unsubscribeHDel c data u], []⟩ := by
      rw [hu]
      exact hl
    replace hs₂ : m₂.server = m.server := hs₂.trans (congrArg PointTurn.state hl₂)
    replace hi₂ : m₂.issued = m.issued ++ [.unsubscribeHDel c data u] :=
      hi₂.trans (congrArg (fun t => m.issued ++ PointTurn.suspended t) hl₂)
    obtain ⟨m₃, es₃, he₃, hr₃, hs₃, hR₃, hi₃, ha₃⟩ :=
      later_round hi₂ rfl (congrArg List.length ha₂) he₂ hr₂ hdi hdr
    have hi₃' : m₃.issued = m.issued := hi₃.trans (List.append_nil _)
    obtain rfl := later_none (congrArg List.length hi₃') (congrArg List.length (ha₃.trans ha₂)) he₃ hr₃
    constructor
    · show m'.redis.hashes USER_STATUS_HASH_KEY = _
      rw [hR₃, serve_hash, hR₂]
      rfl
    · rw [hs₃, hs₂]
      rfl

end

/-! ## The iff -/

section
variable {m m' : Mirror} {c : WebSocket}

theorem guest_ownOffline {a : Option String} (hh : m'.hash = m.hash)
    (hs : m'.server = sendUnsubscribed c (untrackClient c m.server)) :
    OwnOffline m.world m'.world c a ↔
      ∀ u, a = some u → (∃ d, d ≠ c ∧ m.world.tracksAs d u) ∨ m.world.hash.get u = none := by
  have hsp : ∀ u, Adds (SparesOnline u) m.server m'.server := fun u => by
    rw [hs]
    exact adds_one rfl spares_send
  constructor
  · intro h u hu
    by_cases hd : ∃ d, d ≠ c ∧ m.world.tracksAs d u
    · exact .inl hd
    · have hoff := h.offline u hu fun d hdc ht => hd ⟨d, hdc, ht⟩
      change m'.hash.get u = none at hoff
      rw [hh] at hoff
      exact .inr hoff
  · intro h
    refine ⟨fun f _ => ?_, fun u hu hd => ?_, fun conn info u hm hg => ?_⟩
    · show m'.hash.get f = m.hash.get f
      rw [hh]
    · rcases h u hu with ⟨d, hdc, ht⟩ | hn
      · exact absurd ht (hd d hdc)
      · show m'.hash.get u = none
        rw [hh]
        exact hn
    · exact absurd hg (adds_mem (hsp u) hm conn info rfl)

theorem user_ownOffline {a : Option String} {u : String} (hh : m'.hash = m.hash.delete u)
    (hs : m'.server = sendUnsubscribed c (untrackClient c (announceOffline (some c) u m.server))) :
    OwnOffline m.world m'.world c a ↔ a = some u := by
  constructor
  · intro h
    refine h.announced (some c) (offlineInfo u) u ?_ ((offlineInfo_get u).mpr rfl)
    show _ ∈ m'.server.trace.drop m.server.trace.length
    rw [hs]
    simp [sendUnsubscribed, sendClientMessage, untrackClient, announceOffline, broadcastStatus_eq]
  · rintro rfl
    refine ⟨fun f hf => ?_, fun v hv _ => ?_, fun conn info v hm hg => ?_⟩
    · show m'.hash.get f = m.hash.get f
      rw [hh, OrdMap.get_delete_ne _ fun h => hf (by rw [h])]
    · obtain rfl := Option.some.inj hv
      show m'.hash.get u = none
      rw [hh, OrdMap.get_delete_self]
    · change _ ∈ m'.server.trace.drop m.server.trace.length at hm
      rw [hs] at hm
      rw [(offline_mem (adds_one rfl spares_send) hm hg).2]

end

/-- **When an unsubscribe keeps to its own user.** In every reachable state, an
unsubscribe of a tracked socket comes to what it should exactly if it carries
the uid the socket is tracked under, or carries none while that uid need not
go: another socket is tracked under it, or it is not in the hash. -/
theorem unsubscribe_own_iff (users : Users) (es es' : List Event) (w w' : World) (c : WebSocket) (t : TrackedClient)
    (data : RawData) (b : Option String) (hr : run (step users) World.start es = some w)
    (ht : w.clients.get c = some t) (ha : asks data .unsubscribe b) (hb : ∀ u, b = some u → users u = .ok (some true))
    (he : es'.all (laterStep w.process.issued.length w.process.replied.length))
    (hr' : run (step users) w (.message c data :: es') = some w') (hd : w.finished w') :
    OwnOffline w w' c t.userUid ↔
      b = t.userUid ∨ (b = none ∧ ∀ u, t.userUid = some u →
        (∃ d, d ≠ c ∧ w.tracksAs d u) ∨ w.hash.get u = none) := by
  obtain ⟨m, -, rfl⟩ := run_lift (t := Mirror.start) (step_mirror users) hr
  obtain ⟨m', hm', rfl⟩ := run_lift (t := m) (step_mirror users) hr'
  have hi : m.world.process.issued.length = m.issued.length := List.length_map _
  have hrep : m.world.process.replied.length = m.replied.length := List.length_map _
  rw [hi, hrep] at he
  cases b with
  | none =>
    obtain ⟨hh, hs⟩ := guest_handled ht ha he hm'
    rw [guest_ownOffline hh hs]
    constructor
    · exact fun h => .inr ⟨rfl, h⟩
    · rintro (h | ⟨-, h⟩)
      · intro u hu
        rw [hu] at h
        cases h
      · exact h
  | some u =>
    have hdi : m'.issued.length = m.issued.length :=
      (List.length_map _).symm.trans (hd.1.trans hi)
    have hdr : m'.replied.length = m.replied.length :=
      (List.length_map _).symm.trans (hd.2.trans hrep)
    obtain ⟨hh, hs⟩ := user_handled ht ha (hb u rfl) he hm' hdi hdr
    rw [user_ownOffline hh hs]
    constructor
    · exact fun h => .inl h.symm
    · rintro (h | ⟨h, -⟩)
      · exact h.symm
      · cases h

theorem unsubscribe_own_iff_matching :
    ∃ w t w', run (step everyUser) World.start (subscribeRun 0 "a") = some w ∧ w.clients.get 0 = some t ∧
      t.userUid = some "a" ∧ run (step everyUser) w (unsubscribeRun 0 "a") = some w' ∧
      OwnOffline w w' 0 t.userUid :=
  ⟨_, _, _, rfl, rfl, rfl, rfl,
    (unsubscribe_own_iff everyUser (subscribeRun 0 "a") [.exec 0, .resume 0, .exec 0, .resume 0] _ _ 0 _
      (frame "unsubscribe" (some "a") false) (some "a") rfl rfl rfl (fun _ _ => rfl) rfl rfl ⟨rfl, rfl⟩).mpr (.inl rfl)⟩

/-- Socket 0, tracked as `a`, unsubscribes under the uid of another user. -/
theorem unsubscribe_takes_other_offline :
    ∃ w t w', run (step everyUser) World.start (subscribeRun 1 "b" ++ subscribeRun 0 "a") = some w ∧
      w.clients.get 0 = some t ∧ t.userUid = some "a" ∧
      run (step everyUser) w (unsubscribeRun 0 "b") = some w' ∧ w.finished w' ∧
      (w.hash.get "b").isSome ∧ w'.hash.get "b" = none ∧ (w'.hash.get "a").isSome ∧
      .broadcast (some 0) (offlineInfo "b") ∈ w.effects w' ∧ ¬ OwnOffline w w' 0 t.userUid := by
  refine ⟨_, _, _, rfl, rfl, rfl, rfl, ⟨rfl, rfl⟩, by decide, by decide, by decide, List.mem_cons_self, fun h => ?_⟩
  have hb := h.frame "b" (by decide)
  revert hb
  decide

end StayApi
