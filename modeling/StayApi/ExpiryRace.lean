import StayApi.Cluster
import StayApi.Renewal
import StayApi.ViewsAgree

/-!
# One expired-event, several processes

All processes receive the expired-event of a uid and race to delete it from the
hash. Only the one whose `hDel` removed the field announces the uid offline, and
only to its own clients.
-/

namespace StayApi

open WebsocketChannel UserStatusMessage

def setsOnline (uid : String) (t : Thread Origin Server Command Reply JsError) : Bool :=
  match t.cmd with
  | .hSet key field _ => key = USER_STATUS_HASH_KEY ∧ field = uid
  | _ => false

def unsubscribes (uid : String) : Thread Origin Server Command Reply JsError → Bool
  | ⟨.message _ _, .hDel key field, _⟩ => key = USER_STATUS_HASH_KEY ∧ field = uid
  | _ => false

namespace World

/-- No renewal of `uid` is carried out, no unsubscribe of it is carried out or
ends, and no `hDel` of an expiry callback for it fails. -/
def unrenewed (uid : String) (w : World) : Event → Bool
  | .exec i => (w.process.issued[i]?).all fun t => !setsOnline uid t && !unsubscribes uid t
  | .reject i carriedOut _ => (w.process.issued[i]?).all fun t =>
    !expires uid t && (!carriedOut || (!setsOnline uid t && !unsubscribes uid t))
  | .resume j => (w.process.replied[j]?).all fun t => !unsubscribes uid t.toThread
  | _ => true

def concludingExpiry (uid : String) (w : World) : Prop := ∃ t ∈ w.process.replied, expires uid t.toThread = true

/-- An expired-event of `uid` is on its way or being handled. -/
def awaitsExpiry (uid : String) (w : World) : Prop :=
  ttlKey uid ∈ w.published ∨ (∃ t ∈ w.process.issued, expires uid t = true) ∨ w.concludingExpiry uid

def reaches (c : WebSocket) (w : World) : Prop := c ∈ w.clients.keys ∧ w.server.readyState c = .OPEN

instance decidableConcludingExpiry (uid : String) (w : World) : Decidable (w.concludingExpiry uid) :=
  inferInstanceAs (Decidable (∃ t ∈ w.process.replied, expires uid t.toThread = true))

instance decidableAwaitsExpiry (uid : String) (w : World) : Decidable (w.awaitsExpiry uid) :=
  inferInstanceAs (Decidable (_ ∨ (∃ t ∈ w.process.issued, expires uid t = true) ∨ w.concludingExpiry uid))

instance decidableReaches (c : WebSocket) (w : World) : Decidable (w.reaches c) :=
  inferInstanceAs (Decidable (_ ∧ _))

end World

def Cluster.unrenewed {n : Nat} (uid : String) (C : Cluster n) : ClusterEvent n → Bool
  | .own i e => (C.world i).unrenewed uid e
  | _ => true

/-- Among the effects is a `broadcastStatus` of an expiry callback that says that `uid` is offline. -/
def AnnouncedOffline (uid : String) (l : List Effect) : Prop :=
  ∃ info, info.get uid = some OFFLINE ∧ .broadcast none info ∈ l

/-- Among the effects is a broadcast to `c` that says that `uid` is offline. -/
def ToldOffline (uid : String) (c : WebSocket) (l : List Effect) : Prop :=
  ∃ info, info.get uid = some OFFLINE ∧ broadcastFrame WEBSOCKET_CHANNEL_USER_STATUS info c ∈ l

/-! ## One process -/

/-- The effect belongs to a broadcast that says that `uid` is offline. -/
def TellsOffline (uid : String) (x : Effect) : Prop :=
  ∃ info, info.get uid = some OFFLINE ∧
    ((∃ conn, x = .broadcast conn info) ∨ ∃ c, x = broadcastFrame WEBSOCKET_CHANNEL_USER_STATUS info c)

theorem tellsOffline_neutral (uid : String) : Neutral uid fun x => ¬ TellsOffline uid x := by
  refine ⟨?_, ?_, ?_, ?_, ?_⟩
  · rintro conn info hi ⟨info', hi', ⟨conn', h⟩ | ⟨c, h⟩⟩
    · obtain ⟨-, rfl⟩ := Effect.broadcast.inj h
      exact hi hi'
    · cases h
  · rintro info c hi ⟨info', hi', ⟨conn', h⟩ | ⟨d, h⟩⟩
    · cases h
    · obtain ⟨-, -, -, h⟩ := Effect.send.inj h
      obtain rfl := SendData.statuses.inj h
      exact hi hi'
  · rintro via c channel data hv ⟨info, -, ⟨conn, h⟩ | ⟨d, h⟩⟩
    · cases h
    · exact hv (Effect.send.inj h).1
  · rintro c status reason ⟨info, -, ⟨conn, h⟩ | ⟨d, h⟩⟩
    · cases h
    · cases h
  · rintro c ⟨info, -, ⟨conn, h⟩ | ⟨d, h⟩⟩
    · cases h
    · cases h

namespace Mirror

/-- An expired-event of `u` is on its way, or its callback has not yet done its `hDel`. -/
def Owes (u : String) (m : Mirror) : Prop :=
  ttlKey u ∈ m.published ∨ ∃ key, .expiryHDel key ∈ m.issued ∧ uidOfKey key = u

def Pending (u : String) (m : Mirror) : Prop :=
  ∃ (key : String) (removed : Nat), ⟨.expiryHDel key, .ok removed⟩ ∈ m.replied ∧ uidOfKey key = u ∧ removed > 0

/-- The process has said that `u` is offline since its trace had length `k`. -/
def Told (u : String) (k : Nat) (m : Mirror) : Prop := ∃ x ∈ m.server.trace.drop k, TellsOffline u x

def Took (u : String) (k : Nat) (m : Mirror) : Prop := m.Pending u ∨ m.Told u k

end Mirror

section
variable {users : Users} {u : String} {k : Nat} {m m' : Mirror} {e : Event}

theorem setsOnline_thread {p : Point} : setsOnline u p.thread = true ↔ p.hSets = some u := by
  cases p <;> simp [setsOnline, Point.hSets]

theorem unsubscribes_thread {p : Point} :
    unsubscribes u p.thread = true ↔ ∃ c data, p = .unsubscribeHDel c data u := by
  cases p with
  | unsubscribeHDel client data uid =>
    show decide (USER_STATUS_HASH_KEY = USER_STATUS_HASH_KEY ∧ uid = u) = true ↔ _
    simp
  | _ => simp [unsubscribes, Point.origin]

theorem unrenewed_served {p : Point} (h : setsOnline u p.thread = false ∧ unsubscribes u p.thread = false) :
    p.hSets ≠ some u ∧ ∀ c data, p ≠ .unsubscribeHDel c data u := by
  constructor
  · intro hs
    rw [setsOnline_thread.mpr hs] at h
    cases h.1
  · intro c data hp
    rw [unsubscribes_thread.mpr ⟨c, data, hp⟩] at h
    cases h.2

theorem unrenewed_exec {l₁ l₂ : List Point} {p : Point} (hi : m.issued = l₁ ++ p :: l₂)
    (h : m.world.unrenewed u (.exec l₁.length) = true) :
    p.hSets ≠ some u ∧ ∀ c data, p ≠ .unsubscribeHDel c data u := by
  simp only [World.unrenewed, issued_world hi, Option.all_some, Bool.and_eq_true, Bool.not_eq_true'] at h
  exact unrenewed_served h

theorem unrenewed_reject {l₁ l₂ : List Point} {p : Point} {carriedOut : Bool} {error : JsError}
    (hi : m.issued = l₁ ++ p :: l₂) (h : m.world.unrenewed u (.reject l₁.length carriedOut error) = true) :
    (∀ key, uidOfKey key = u → p ≠ .expiryHDel key) ∧
      (carriedOut = true → p.hSets ≠ some u ∧ ∀ c data, p ≠ .unsubscribeHDel c data u) := by
  simp only [World.unrenewed, issued_world hi, Option.all_some, Bool.and_eq_true, Bool.or_eq_true,
    Bool.not_eq_true'] at h
  constructor
  · rintro key hk rfl
    rw [(expires_expiryHDel key).mpr hk] at h
    cases h.1
  · rintro rfl
    exact unrenewed_served (h.2.resolve_left Bool.noConfusion)

/-- What an expiry callback's `hDel` is the only one to do while `u` is not renewed. -/
theorem hash_unrenewed {p : Point} {R : Redis} (hs : p.hSets ≠ some u) (hu : ∀ c data, p ≠ .unsubscribeHDel c data u)
    (he : ∀ key, uidOfKey key = u → p ≠ .expiryHDel key) :
    ((serve users p.cmd R).1.hashes USER_STATUS_HASH_KEY).get u = (R.hashes USER_STATUS_HASH_KEY).get u := by
  refine hash_other hs fun hd => ?_
  cases p with
  | expiryHDel key => exact he key (Option.some.inj hd) rfl
  | unsubscribeHDel c data v => exact hu c data (by rw [Option.some.inj hd])
  | _ => cases hd

theorem unrenewed_resume {l₁ l₂ : List Answered} {a : Answered} (hr : m.replied = l₁ ++ a :: l₂)
    (h : m.world.unrenewed u (.resume l₁.length) = true) : ∀ c data, a.1 ≠ .unsubscribeHDel c data u := by
  simp only [World.unrenewed, replied_world hr, Option.all_some, Bool.not_eq_true'] at h
  intro c data ha
  rw [unsubscribes_thread.mpr ⟨c, data, ha⟩] at h
  cases h

theorem told_adds (hk : k ≤ m.server.trace.length) (h : Adds (fun x => ¬ TellsOffline u x) m.server m'.server) :
    m'.Told u k ↔ m.Told u k := by
  obtain ⟨l, hl, hp⟩ := h
  unfold Mirror.Told
  rw [hl, List.drop_append_of_le_length hk]
  constructor
  · rintro ⟨x, hx, ht⟩
    rcases List.mem_append.mp hx with hx | hx
    · exact ⟨x, hx, ht⟩
    · exact absurd ht (hp x hx)
  · rintro ⟨x, hx, ht⟩
    exact ⟨x, List.mem_append_left _ hx, ht⟩

theorem took_adds (hk : k ≤ m.server.trace.length) (hr : m'.replied = m.replied)
    (ha : Adds (fun x => ¬ TellsOffline u x) m.server m'.server) : m'.Took u k ↔ m.Took u k := by
  unfold Mirror.Took Mirror.Pending
  rw [told_adds hk ha, hr]

theorem took_answered {l₁ l₂ : List Point} {a : Answered} {R : Redis}
    (ha : ∀ (key : String) (removed : Nat), a = ⟨.expiryHDel key, .ok removed⟩ → uidOfKey key = u → removed = 0) :
    (m.answered l₁ l₂ R a).Took u k ↔ m.Took u k := by
  have hpend : (m.answered l₁ l₂ R a).Pending u ↔ m.Pending u := by
    constructor
    · rintro ⟨key, removed, hm, hkey, hpos⟩
      rcases List.mem_append.mp hm with hm | hm
      · exact ⟨key, removed, hm, hkey, hpos⟩
      · have := ha key removed (List.mem_singleton.mp hm).symm hkey
        omega
    · rintro ⟨key, removed, hm, hkey, hpos⟩
      exact ⟨key, removed, List.mem_append_left _ hm, hkey, hpos⟩
  exact or_congr hpend Iff.rfl

theorem expiry_reply {key : String} {R : Redis} : (serve users (Point.expiryHDel key).cmd R).2 =
    .ok (if ((R.hashes USER_STATUS_HASH_KEY).get (uidOfKey key)).isSome then 1 else 0) := rfl

/-- A step of a process in the race for `u`: nothing happens to it, or the process takes `u` out of the hash. -/
def RaceStep (u : String) (k : Nat) (m m' : Mirror) : Prop :=
  (((m'.hash.get u).isSome ↔ (m.hash.get u).isSome) ∧ (m'.Took u k ↔ m.Took u k)) ∨
    ((m.hash.get u).isSome ∧ ¬ (m'.hash.get u).isSome ∧ m'.Took u k)

theorem told_expiry {l₁ l₂ : List Answered} {key : String} {removed : Nat} (hk : k ≤ m.server.trace.length)
    (hkey : uidOfKey key = u) (hpos : removed > 0) :
    (m.resumed l₁ ⟨.expiryHDel key, .ok removed⟩ l₂).server.trace.drop k =
      m.server.trace.drop k ++ .broadcast none (offlineInfo u) ::
        (recipients none m.server).map (broadcastFrame WEBSOCKET_CHANNEL_USER_STATUS (offlineInfo u)) := by
  have h : (m.resumed l₁ ⟨.expiryHDel key, .ok removed⟩ l₂).server = (expiryMove key removed m.server).state := rfl
  rw [h, expiryMove, if_pos hpos, hkey, announceOffline, broadcastStatus_eq]
  exact List.drop_append_of_le_length hk

theorem race_exec {l₁ l₂ : List Point} {p : Point} (hi : m.issued = l₁ ++ p :: l₂)
    (hq : m.world.unrenewed u (.exec l₁.length) = true) :
    RaceStep u k m (m.answered l₁ l₂ (serve users p.cmd m.redis).1 ⟨p, (serve users p.cmd m.redis).2⟩) := by
  obtain ⟨hset, hunsub⟩ := unrenewed_exec hi hq
  by_cases hd : p.hDels = some u
  · obtain ⟨key, rfl⟩ : ∃ key, p = .expiryHDel key := by
      cases p with
      | expiryHDel key => exact ⟨key, rfl⟩
      | unsubscribeHDel c data v =>
        obtain rfl := Option.some.inj hd
        exact absurd rfl (hunsub c data)
      | _ => cases hd
    have hkey : uidOfKey key = u := Option.some.inj hd
    have hgone : ((serve users (Point.expiryHDel key).cmd m.redis).1.hashes USER_STATUS_HASH_KEY).get u = none :=
      hash_removed hd
    by_cases hon : (m.hash.get u).isSome
    · have hone : (serve users (Point.expiryHDel key).cmd m.redis).2 = .ok 1 := by
        rw [expiry_reply, hkey]
        exact congrArg Except.ok (if_pos hon)
      refine .inr ⟨hon, ?_, .inl ⟨key, 1, ?_, hkey, Nat.one_pos⟩⟩
      · show ¬ (((serve users (Point.expiryHDel key).cmd m.redis).1.hashes USER_STATUS_HASH_KEY).get u).isSome
        simp [hgone]
      · rw [hone]
        exact List.mem_append_right _ (List.mem_singleton_self _)
    · have hzero : (serve users (Point.expiryHDel key).cmd m.redis).2 = .ok 0 := by
        rw [expiry_reply, hkey]
        exact congrArg Except.ok (if_neg hon)
      refine .inl ⟨?_, took_answered ?_⟩
      · show (((serve users (Point.expiryHDel key).cmd m.redis).1.hashes USER_STATUS_HASH_KEY).get u).isSome ↔ _
        simp [hgone, hon]
      · intro key' removed ha _
        rw [hzero] at ha
        obtain ⟨hp, ha⟩ := Sigma.mk.inj ha
        obtain rfl := Point.expiryHDel.inj hp
        exact (Except.ok.inj (eq_of_heq ha)).symm
  · refine .inl ⟨?_, took_answered ?_⟩
    · show (((serve users p.cmd m.redis).1.hashes USER_STATUS_HASH_KEY).get u).isSome ↔ _
      rw [hash_other hset hd]
      rfl
    · rintro key removed ha hkey
      obtain ⟨rfl, -⟩ := Sigma.mk.inj ha
      exact absurd (congrArg some hkey) hd

theorem took_resume {l₁ l₂ : List Answered} {a : Answered} (hk : k ≤ m.server.trace.length)
    (hr : m.replied = l₁ ++ a :: l₂) (hn : ∀ c data, a.1 ≠ .unsubscribeHDel c data u) :
    (m.resumed l₁ a l₂).Took u k ↔ m.Took u k := by
  by_cases ha : ∃ conn, OfflineBy u a conn
  · obtain ⟨conn, hby⟩ := ha
    cases hby with
    | unsubscribe c data v => exact absurd rfl (hn c data)
    | @expiry key removed hkey hpos =>
      have hbefore : m.Took u k := .inl ⟨key, removed, by rw [hr]; simp, hkey, hpos⟩
      have hafter : (m.resumed l₁ ⟨.expiryHDel key, .ok removed⟩ l₂).Took u k := by
        refine .inr ⟨.broadcast none (offlineInfo u), ?_, offlineInfo u, (offlineInfo_get u).mpr rfl, .inl ⟨none, rfl⟩⟩
        rw [told_expiry hk hkey hpos]
        simp
      exact ⟨fun _ => hbefore, fun _ => hafter⟩
  · have hadds : Adds (fun x => ¬ TellsOffline u x) m.server (m.resumed l₁ a l₂).server :=
      (next_adds (tellsOffline_neutral u) a).resolve_right ha
    have hpend : (m.resumed l₁ a l₂).Pending u ↔ m.Pending u := by
      constructor
      · rintro ⟨key, removed, hm, hkey, hpos⟩
        exact ⟨key, removed, hr ▸ mem_unskip hm, hkey, hpos⟩
      · rintro ⟨key, removed, hm, hkey, hpos⟩
        refine ⟨key, removed, mem_skip (hr ▸ hm) ?_, hkey, hpos⟩
        rintro rfl
        exact ha ⟨none, .expiry hkey hpos⟩
    exact or_congr hpend (told_adds hk hadds)

theorem race_step (hk : k ≤ m.server.trace.length) (hs : Stepped users m e m')
    (hq : m.world.unrenewed u e = true) : RaceStep u k m m' := by
  have hadds := step_adds (tellsOffline_neutral u) hs
  have hcall (he : ∀ j, e ≠ .resume j) (hr : m'.replied = m.replied) (hh : m'.hash = m.hash) :
      ((m'.hash.get u).isSome ↔ (m.hash.get u).isSome) ∧ (m'.Took u k ↔ m.Took u k) := by
    rw [hh]
    refine ⟨Iff.rfl, took_adds hk hr (hadds.resolve_right ?_)⟩
    rintro ⟨l₁, a, l₂, conn, -, h, -⟩
    exact he _ h
  cases hs with
  | message _ => exact .inl (hcall (by simp) rfl rfl)
  | pong _ => exact .inl (hcall (by simp) rfl rfl)
  | disconnect _ => exact .inl (hcall (by simp) rfl rfl)
  | pingTick => exact .inl (hcall (by simp) rfl rfl)
  | expire _ => exact .inl (hcall (by simp) rfl rfl)
  | expireOther _ => exact .inl (hcall (by simp) rfl rfl)
  | deliver _ => exact .inl (hcall (by simp) rfl rfl)
  | exec hi => exact race_exec hi hq
  | @reject l₁ l₂ p carriedOut error hi =>
    obtain ⟨hexp, hserved⟩ := unrenewed_reject hi hq
    refine .inl ⟨?_, took_answered ?_⟩
    · cases carriedOut with
      | true =>
        have hsame : ((serve users p.cmd m.redis).1.hashes USER_STATUS_HASH_KEY).get u = m.hash.get u :=
          hash_unrenewed (hserved rfl).1 (hserved rfl).2 hexp
        show (((serve users p.cmd m.redis).1.hashes USER_STATUS_HASH_KEY).get u).isSome ↔ _
        rw [hsame]
      | false => exact Iff.rfl
    · intro key removed ha _
      obtain ⟨rfl, ha⟩ := Sigma.mk.inj ha
      cases eq_of_heq ha
  | resume hr => exact .inl ⟨Iff.rfl, took_resume hk hr (unrenewed_resume hr hq)⟩

theorem owes_mono (hp : ∀ key ∈ m.published, key ∈ m'.published) (hi : ∀ p ∈ m.issued, p ∈ m'.issued)
    (h : m.Owes u) : m'.Owes u := by
  rcases h with h | ⟨key, h, hkey⟩
  · exact .inl (hp _ h)
  · exact .inr ⟨key, hi _ h, hkey⟩

/-- While `u` is in the hash, no process loses sight of its expired-event. -/
theorem owes_step (hc : ':' ∉ u.toList) (h : m.Owes u) (hs : Stepped users m e m')
    (hq : m.world.unrenewed u e = true) : m'.Owes u ∨ ¬ (m'.hash.get u).isSome := by
  cases hs with
  | message _ => exact .inl (owes_mono (m := m) (fun _ h => h) (fun _ h => List.mem_append_left _ h) h)
  | pong _ => exact .inl (owes_mono (m := m) (fun _ h => h) (fun _ h => List.mem_append_left _ h) h)
  | disconnect _ => exact .inl h
  | pingTick => exact .inl h
  | expire _ => exact .inl (owes_mono (m := m) (fun _ h => List.mem_append_left _ h) (fun _ h => h) h)
  | expireOther _ => exact .inl (owes_mono (m := m) (fun _ h => List.mem_append_left _ h) (fun _ h => h) h)
  | @deliver l₁ l₂ key hp =>
    rcases h with h | ⟨key', h, hkey⟩
    · by_cases hkey : ttlKey u = key
      · refine .inl (.inr ⟨key, List.mem_append_right _ ?_, ?_⟩)
        · rw [← hkey, expiredMove, if_pos (startsWith_ttlKey u)]
          exact List.mem_singleton_self _
        · rw [← hkey]
          exact uidOfKey_ttlKey hc
      · exact .inl (.inl (mem_skip (hp ▸ h) hkey))
    · exact .inl (.inr ⟨key', List.mem_append_left _ h, hkey⟩)
  | @exec l₁ l₂ p hi =>
    rcases h with h | ⟨key, h, hkey⟩
    · exact .inl (.inl h)
    · by_cases hp : .expiryHDel key = p
      · right
        have hd : p.hDels = some u := by
          rw [← hp, ← hkey]
          rfl
        show ¬ (((serve users p.cmd m.redis).1.hashes USER_STATUS_HASH_KEY).get u).isSome
        rw [hash_removed hd]
        simp
      · exact .inl (.inr ⟨key, mem_skip (hi ▸ h) hp, hkey⟩)
  | @reject l₁ l₂ p carriedOut error hi =>
    rcases h with h | ⟨key, h, hkey⟩
    · exact .inl (.inl h)
    · exact .inl (.inr ⟨key, mem_skip (hi ▸ h) ((unrenewed_reject hi hq).1 key hkey).symm, hkey⟩)
  | resume _ => exact .inl (owes_mono (m := m) (fun _ h => h) (fun _ h => List.mem_append_left _ h) h)

theorem toldOffline_append {c : WebSocket} {l : List Effect} (h : ToldOffline u c l) (l' : List Effect) :
    ToldOffline u c (l ++ l') := by
  obtain ⟨info, hi, hm⟩ := h
  exact ⟨info, hi, List.mem_append_left _ hm⟩

/-- A process that has said that `u` is offline did so in an expiry callback, and to
every socket it had all along. -/
def HeardOffline (u : String) (k : Nat) (K : WebSocket → Prop) (m : Mirror) : Prop :=
  m.Told u k → AnnouncedOffline u (m.server.trace.drop k) ∧ ∀ c, K c → ToldOffline u c (m.server.trace.drop k)

theorem heard_offline_step {K : WebSocket → Prop} (hk : k ≤ m.server.trace.length) (hknown : Known users m)
    (hK : ∀ c, K c → m.world.reaches c) (h : HeardOffline u k K m) (hs : Stepped users m e m')
    (hq : m.world.unrenewed u e = true) : HeardOffline u k K m' := by
  intro htold
  rcases step_adds (tellsOffline_neutral u) hs with hadds | ⟨l₁, a, l₂, conn, hr, rfl, rfl, hby⟩
  · obtain ⟨⟨info, hi, hm⟩, hheard⟩ := h ((told_adds hk hadds).mp htold)
    obtain ⟨l, hl, -⟩ := hadds
    rw [hl, List.drop_append_of_le_length hk]
    exact ⟨⟨info, hi, List.mem_append_left _ hm⟩, fun c hc => toldOffline_append (hheard c hc) l⟩
  · cases hby with
    | unsubscribe c data v => exact absurd rfl (unrenewed_resume hr hq c data)
    | @expiry key removed hkey hpos =>
      rw [told_expiry hk hkey hpos]
      refine ⟨⟨offlineInfo u, (offlineInfo_get u).mpr rfl, ?_⟩, fun c hc => ?_⟩
      · exact List.mem_append_right _ List.mem_cons_self
      · obtain ⟨htracked, hopen⟩ := hK c hc
        obtain ⟨t, ht⟩ := Option.isSome_iff_exists.mp (OrdMap.mem_keys.mp htracked)
        have hmem : c ∈ recipients none m.server := mem_recipients ht (hknown.clients c t ht).1 (by simp) hopen
        refine ⟨offlineInfo u, (offlineInfo_get u).mpr rfl, ?_⟩
        apply List.mem_append_right
        exact List.mem_cons_of_mem _ (List.mem_map_of_mem hmem)

end

/-! ## All processes -/

section
variable {n : Nat} {users : Users} {u : String} {k : Fin n → Nat} {F F' : Fleet n} {e : ClusterEvent n}

theorem fleet_raced (hk : ∀ i, k i ≤ (F.mirror i).server.trace.length) (hs : FleetStepped users F e F')
    (hq : F.cluster.unrenewed u e = true) :
    Raced (fun F : Fleet n => (F.hash.get u).isSome) (fun i F => (F.mirror i).Took u (k i)) F F' := by
  cases hs with
  | @own i e m _ hs =>
    have hother : ∀ j, j ≠ i → (((F.step i m).mirror j).Took u (k j) ↔ (F.mirror j).Took u (k j)) := by
      intro j hj
      rw [mirror_step_other hj]
      rfl
    rcases race_step (hk i) hs hq with ⟨hh, ht⟩ | ⟨hon, hoff, ht⟩
    · refine .idle hh ?_
      intro j
      by_cases hj : j = i
      · subst hj
        rw [mirror_step_self]
        exact ht
      · exact hother j hj
    · refine .take i hon hoff ?_ hother
      rw [mirror_step_self]
      exact ht
  | expire _ => exact .idle Iff.rfl fun _ => Iff.rfl
  | expireOther _ => exact .idle Iff.rfl fun _ => Iff.rfl

/-- The race for `u` since the traces had the lengths `k`; the sockets `K` are
open and tracked all along, and `alone` says that nobody was ahead. -/
structure Racing (users : Users) (u : String) (k : Fin n → Nat) (K : Fin n → WebSocket → Prop) (alone : Prop)
    (F : Fleet n) : Prop where
  known : ∀ i, Known users (F.mirror i)
  grown : ∀ i, k i ≤ (F.mirror i).server.trace.length
  claimed : Claimed (fun F : Fleet n => (F.hash.get u).isSome) (fun i F => (F.mirror i).Took u (k i)) F
  once : alone → ClaimedOnce (fun F : Fleet n => (F.hash.get u).isSome) (fun i F => (F.mirror i).Took u (k i)) F
  owed : (F.hash.get u).isSome → ∀ i, (F.mirror i).Owes u
  heard : ∀ i, HeardOffline u (k i) (K i) (F.mirror i)

theorem racing_step {K : Fin n → WebSocket → Prop} {alone : Prop} (hc : ':' ∉ u.toList)
    (h : Racing users u k K alone F) (hK : ∀ i c, K i c → (F.mirror i).world.reaches c)
    (hq : F.cluster.unrenewed u e = true) (hs : FleetStepped users F e F') : Racing users u k K alone F' := by
  have hraced := fleet_raced h.grown hs hq
  have hown : ∀ i f, e = .own i f ∨ f.fromRedis = true → (F.mirror i).world.unrenewed u f = true := by
    rintro i f (rfl | hf)
    · exact hq
    · cases f <;> first | rfl | cases hf
  refine ⟨fleet_known h.known hs, ?_, claimed_raced h.claimed hraced, ?_, ?_, ?_⟩
  · refine fleet_each (P := fun i m => k i ≤ m.server.trace.length) hs (fun _ _ h => h) ?_ h.grown
    intro i f m hs _ _ hlen
    obtain ⟨l, hl⟩ := step_grows hs
    rw [hl, List.length_append]
    exact Nat.le_add_right_of_le hlen
  · intro halone
    exact claimedOnce_raced (h.once halone) hraced
  · intro hon
    have hbefore : (F.hash.get u).isSome := by
      cases hraced with
      | idle hf _ => exact hf.mp hon
      | take _ _ hf' _ _ => exact absurd hon hf'
    refine fleet_each (P := fun _ m => m.Owes u) hs (fun _ _ h => h) ?_ (h.owed hbefore)
    intro i f m hs he hstore howes
    refine (owes_step hc howes hs (hown i f he)).resolve_right ?_
    intro hoff
    apply hoff
    show ((m.redis.hashes USER_STATUS_HASH_KEY).get u).isSome
    rw [hstore]
    exact hon
  · refine fleet_each (P := fun i => HeardOffline u (k i) (K i)) hs (fun _ _ h => h) ?_ h.heard
    intro i f m hs he _ hheard
    exact heard_offline_step (h.grown i) (h.known i) (hK i) hheard hs (hown i f he)

theorem concluding_pending {m : Mirror} (h : m.Pending u) : m.world.concludingExpiry u := by
  obtain ⟨key, removed, hm, hkey, -⟩ := h
  exact ⟨_, List.mem_map.mpr ⟨_, hm, rfl⟩, (expires_expiryHDel key).mpr hkey⟩

theorem awaits_owes {m : Mirror} (h : m.Owes u) : m.world.awaitsExpiry u := by
  rcases h with h | ⟨key, hm, hkey⟩
  · exact .inl h
  · exact .inr (.inl ⟨_, List.mem_map.mpr ⟨_, hm, rfl⟩, (expires_expiryHDel key).mpr hkey⟩)

theorem not_told_yet {m : Mirror} : ¬ m.Told u m.server.trace.length := by
  rintro ⟨x, hx, -⟩
  rw [List.drop_length] at hx
  cases hx

theorem racing_start {K : Fin n → WebSocket → Prop} {alone : Prop} (hknown : ∀ i, Known users (F.mirror i))
    (hon : (F.hash.get u).isSome) (halone : alone → ∀ i, ¬ (F.mirror i).world.concludingExpiry u)
    (hs : FleetStepped users F (.expire (ttlKey u)) F') :
    Racing users u (fun i => (F'.mirror i).server.trace.length) K alone F' := by
  have hknown' := fleet_known hknown hs
  cases hs with
  | expire hk =>
    refine ⟨hknown', fun _ => Nat.le_refl _, .inl hon, ?_, ?_, ?_⟩
    · intro h
      refine .inl ⟨hon, ?_⟩
      rintro i (hp | ht)
      · exact halone h i (concluding_pending (m := F.mirror i) hp)
      · exact not_told_yet ht
    · intro _ i
      exact .inl (List.mem_append_right _ (List.mem_singleton_self _))
    · intro i ht
      exact absurd ht not_told_yet

end

/-- **Who hears of an expiry.** When every process is done with the expired-event
of an online uid, and nothing renewed or unsubscribed it meanwhile, the callback
of one process has announced the uid offline, and told all open tracked sockets
of the process; and unless a callback for an earlier event was still to end, no
other process has announced it or told any of its sockets. -/
theorem expiry_told_once (users : Users) (hu : ∀ v, users v = .ok (some true) → ':' ∉ v.toList) (n : Nat)
    (hn : 0 < n) (u : String) (es₀ es : List (ClusterEvent n)) (C₀ C₁ C₂ : Cluster n)
    (h₀ : run (clusterStep users) (Cluster.start n) es₀ = some C₀) (hon : (C₀.hash.get u).isSome)
    (h₁ : clusterStep users C₀ (.expire (ttlKey u)) = some C₁) (h₂ : run (clusterStep users) C₁ es = some C₂)
    (hq : Along (clusterStep users) (fun C e => C.unrenewed u e = true) C₁ es)
    (hdone : ∀ i, ¬ (C₂.world i).awaitsExpiry u) :
    ∃ i, AnnouncedOffline u ((C₁.world i).effects (C₂.world i)) ∧
      (∀ c, Along (clusterStep users) (fun C _ => (C.world i).reaches c) C₁ es →
        ToldOffline u c ((C₁.world i).effects (C₂.world i))) ∧
      ((∀ j, ¬ (C₀.world j).concludingExpiry u) → ∀ j, j ≠ i →
        ¬ AnnouncedOffline u ((C₁.world j).effects (C₂.world j)) ∧
          ∀ c, ¬ ToldOffline u c ((C₁.world j).effects (C₂.world j))) := by
  have hsim : ∀ (F : Fleet n) e, clusterStep users F.cluster e = (fleetStep users F e).map Fleet.cluster :=
    cluster_step
  obtain ⟨F₀, hF₀, rfl⟩ := run_lift (t := Fleet.start n) hsim h₀
  rw [hsim] at h₁
  obtain ⟨F₁, hF₁, rfl⟩ := Option.map_eq_some_iff.mp h₁
  obtain ⟨F₂, hF₂, rfl⟩ := run_lift hsim h₂
  have hstart : ∀ i, Known users ((Fleet.start n).mirror i) := fun _ => known_start users
  have hknown : ∀ i, Known users (F₀.mirror i) :=
    run_invariant (I := fun F : Fleet n => ∀ i, Known users (F.mirror i))
      (fun F e F' h _ hs => fleet_known h (fleet_cases hs)) hstart (along_true _ _) hF₀
  have hc : ':' ∉ u.toList := hu u ((hknown ⟨0, hn⟩).hash u hon)
  let K : Fin n → WebSocket → Prop := fun i c =>
    Along (clusterStep users) (fun C _ => (C.world i).reaches c) F₁.cluster es
  let alone : Prop := ∀ j, ¬ (F₀.cluster.world j).concludingExpiry u
  have hK : Along (clusterStep users) (fun C _ => ∀ (x : { x : Fin n × WebSocket // K x.1 x.2 }),
      (C.world x.1.1).reaches x.1.2) F₁.cluster es := along_all.mpr fun x => x.2
  have hend : Racing users u (fun i => (F₁.mirror i).server.trace.length) K alone F₂ := by
    refine run_invariant (fun F e F' h ho hs => ?_) (racing_start hknown hon (fun h => h) (fleet_cases hF₁))
      ((along_map hsim).mp (along_and.mpr ⟨hq, hK⟩)) hF₂
    exact racing_step hc h (fun i c hKc => ho.2 ⟨(i, c), hKc⟩) ho.1 (fleet_cases hs)
  have hoff : ¬ (F₂.hash.get u).isSome := by
    intro h
    exact hdone ⟨0, hn⟩ (awaits_owes (hend.owed h ⟨0, hn⟩))
  have htold : ∀ i, (F₂.mirror i).Took u (F₁.mirror i).server.trace.length →
      AnnouncedOffline u ((F₁.cluster.world i).effects (F₂.cluster.world i)) ∧ ∀ c, K i c →
        ToldOffline u c ((F₁.cluster.world i).effects (F₂.cluster.world i)) := by
    rintro i (hp | ht)
    · exact absurd (.inr (.inr (concluding_pending hp))) (hdone i)
    · exact hend.heard i ht
  by_cases halone : alone
  · obtain ⟨i, hi, hother⟩ := claimedOnce_winner (hend.once halone) hoff
    refine ⟨i, (htold i hi).1, (htold i hi).2, fun _ j hj => ⟨?_, ?_⟩⟩
    · rintro ⟨info, hinfo, hm⟩
      exact hother j hj (.inr ⟨_, hm, info, hinfo, .inl ⟨none, rfl⟩⟩)
    · rintro c ⟨info, hinfo, hm⟩
      exact hother j hj (.inr ⟨_, hm, info, hinfo, .inr ⟨c, rfl⟩⟩)
  · obtain ⟨i, hi⟩ := claimed_winner hend.claimed hoff
    exact ⟨i, (htold i hi).1, (htold i hi).2, fun h => absurd h halone⟩

def twoInstances : List (ClusterEvent 2) :=
  (subscribeRun 0 "a").map (.own 0) ++ (guestRun 0).map (.own 1)

/-- Both processes handle one expired-event, the first of them first. -/
def bothExpire : List (ClusterEvent 2) :=
  [.own 0 (.deliver 0), .own 0 (.exec 0), .own 0 (.resume 0), .own 1 (.deliver 0), .own 1 (.exec 0), .own 1 (.resume 0)]

theorem expiry_told_once_two :
    ∃ C₀ C₁ C₂, run (clusterStep (oneUser "a")) (Cluster.start 2) twoInstances = some C₀ ∧
      clusterStep (oneUser "a") C₀ (.expire (ttlKey "a")) = some C₁ ∧
      run (clusterStep (oneUser "a")) C₁ bothExpire = some C₂ ∧
      ∃ i, AnnouncedOffline "a" ((C₁.world i).effects (C₂.world i)) ∧
        ∀ j, j ≠ i → ¬ AnnouncedOffline "a" ((C₁.world j).effects (C₂.world j)) := by
  refine ⟨_, _, _, rfl, rfl, rfl, ?_⟩
  have hu : ∀ v, oneUser "a" v = .ok (some true) → ':' ∉ v.toList := fun v h => oneUser_true h ▸ by decide
  have htold := expiry_told_once (oneUser "a") hu 2 Nat.two_pos "a" twoInstances bothExpire _ _ _ rfl
    (by decide +kernel) rfl rfl (by decide +kernel) (by decide +kernel)
  obtain ⟨i, hann, -, hi⟩ := htold
  exact ⟨i, hann, fun j hj => (hi (by decide +kernel) j hj).1⟩

/-- The open socket of the second process is not told. -/
theorem expiry_untold :
    ∃ C₀ C₁ C₂, run (clusterStep (oneUser "a")) (Cluster.start 2) twoInstances = some C₀ ∧
      (C₀.hash.get "a").isSome ∧ clusterStep (oneUser "a") C₀ (.expire (ttlKey "a")) = some C₁ ∧
      run (clusterStep (oneUser "a")) C₁ bothExpire = some C₂ ∧
      Along (clusterStep (oneUser "a")) (fun C e => C.unrenewed "a" e = true) C₁ bothExpire ∧
      (∀ i, ¬ (C₂.world i).awaitsExpiry "a") ∧
      Along (clusterStep (oneUser "a")) (fun C _ => (C.world 1).reaches 0) C₁ bothExpire ∧ (C₂.world 1).reaches 0 ∧
      ¬ ToldOffline "a" 0 ((C₁.world 1).effects (C₂.world 1)) := by
  refine ⟨_, _, _, rfl, ?_, rfl, rfl, ?_, ?_, ?_, ?_, ?_⟩
  · decide +kernel
  · decide +kernel
  · decide +kernel
  · decide +kernel
  · decide +kernel
  · rintro ⟨info, -, h⟩
    cases h

end StayApi
