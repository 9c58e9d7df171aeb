import StayApi.Effects
import StayApi.Lease

/-!
# Renewals and expiries

An expired-event speaks of a TTL key that was; `handleRedisExpiration` takes
its uid out of the hash without looking whether the key is there again. What
keeps a renewed user online is that no renewal falls into the callback.
-/

namespace StayApi

open WebsocketChannel UserStatusMessage

def noUnsubscribe (uid : String) : Event → Bool
  | .message _ data => !asks data .unsubscribe (some uid)
  | _ => true

def expires (uid : String) : Thread Origin Server Command Reply JsError → Bool
  | ⟨.expired _, .hDel key field, _⟩ => key = USER_STATUS_HASH_KEY ∧ field = uid
  | _ => false

def renews (uid : String) : Thread Origin Server Command Reply JsError → Bool
  | ⟨_, .set key _ _, _⟩ => key = ttlKey uid
  | _ => false

/-- An expiry callback whose `hDel` of `uid` removed the field: it will announce `uid` offline. -/
def announces (uid : String) : Replied Origin Server Command Reply JsError → Bool
  | ⟨⟨.expired _, .hDel key field, _⟩, .ok removed⟩ => key = USER_STATUS_HASH_KEY ∧ field = uid ∧ removed > 0
  | _ => false

instance decidableSetsField (c : Command) (uid : String) :
    Decidable (∃ value, c = .hSet USER_STATUS_HASH_KEY uid value) :=
  match c with
  | .hSet key field value =>
    decidable_of_iff (key = USER_STATUS_HASH_KEY ∧ field = uid)
      ⟨fun h => ⟨value, by rw [h.1, h.2]⟩, fun ⟨_, h⟩ => by cases h; exact ⟨rfl, rfl⟩⟩
  | .set .. | .hDel .. | .hGet .. | .hmGet .. | .hGetAll .. | .poolExists .. => .isFalse fun ⟨_, h⟩ => by cases h

instance decidableSetsLease (c : Command) (uid : String) : Decidable (∃ value EX, c = .set (ttlKey uid) value EX) :=
  match c with
  | .set key value EX =>
    decidable_of_iff (key = ttlKey uid) ⟨fun h => ⟨value, EX, by rw [h]⟩, fun ⟨_, _, h⟩ => by cases h; rfl⟩
  | .hSet .. | .hDel .. | .hGet .. | .hmGet .. | .hGetAll .. | .poolExists .. => .isFalse fun ⟨_, _, h⟩ => by cases h

instance decidableSettingStatus (w : World) (uid : String) : Decidable (w.settingStatus uid) :=
  inferInstanceAs (Decidable
    ((∃ t ∈ w.process.replied, (∃ value, t.cmd = .hSet USER_STATUS_HASH_KEY uid value) ∧ t.reply.isOk = true) ∨
      ∃ t ∈ w.process.issued, ∃ value EX, t.cmd = .set (ttlKey uid) value EX))

/-- An expiry callback's `hDel` of `uid` comes only while there is no TTL key of
`uid` and no half-done `setStatus uid`, and no write of that key comes between
the `hDel` and the callback's broadcast. -/
def apart (uid : String) (w : World) (e : Event) : Bool :=
  (w.carriesOut e).all fun t =>
    (expires uid t → w.leased uid = false ∧ ¬ w.settingStatus uid) ∧
      (renews uid t → ∀ a ∈ w.process.replied, announces uid a = false)

/-! ## The invariant -/

def NotLeaving (uid : String) (p : Point) : Prop :=
  ∀ c data, p.origin = .message c data → asks data .unsubscribe (some uid) = false

structure Renewed (uid : String) (m : Mirror) : Prop where
  online : (m.redis.expiring.get (ttlKey uid)).isSome ∨ m.Setting uid → (m.hash.get uid).isSome
  gone : ∀ key removed, ⟨.expiryHDel key, .ok removed⟩ ∈ m.replied → uidOfKey key = uid → removed > 0 →
    m.redis.expiring.get (ttlKey uid) = none
  issued : ∀ p ∈ m.issued, NotLeaving uid p
  replied : ∀ a ∈ m.replied, NotLeaving uid a.1

section
variable {users : Users} {uid : String} {m m' : Mirror}

theorem messageMove_leases {client : WebSocket} {data : RawData} {s : Server} {p : Point}
    (hp : p ∈ (messageMove client data s).suspended) : p.leases = none := by
  rcases messageMove_suspended hp with ⟨_, _, _, -, rfl⟩ | ⟨_, -, -, rfl⟩
  · rfl
  · rfl

theorem pongMove_leases {client : WebSocket} {s : Server} {p : Point} (hp : p ∈ (pongMove client s).suspended) :
    p.leases = none := by
  obtain ⟨_, _, -, -, rfl⟩ := pongMove_suspended hp
  rfl

theorem expiredMove_leases {key : String} {s : Server} {p : Point} (hp : p ∈ (expiredMove key s).suspended) :
    p.leases = none := by
  obtain ⟨-, rfl⟩ := expiredMove_suspended hp
  rfl

theorem follows_leases {a : Answered} {p : Point} (hf : Follows a p) (hl : p.leases = some uid) :
    a.1.hSets = some uid ∧ a.2.isOk = true := by
  cases hf with
  | lease => exact ⟨hl, rfl⟩
  | renew => exact ⟨hl, rfl⟩
  | subscribe _ => cases hl
  | unsubscribe _ => cases hl
  | snapshot _ => cases hl

theorem renewed_mono (h : Renewed uid m) (hi : m'.issued = m.issued) (hr : m'.replied = m.replied)
    (hh : m'.hash = m.hash) (hR : ∀ v, m'.redis.expiring.get (ttlKey uid) = some v →
      m.redis.expiring.get (ttlKey uid) = some v) : Renewed uid m' := by
  refine ⟨fun ho => ?_, fun key removed ha hu hp => ?_, hi ▸ h.issued, hr ▸ h.replied⟩
  · rw [hh]
    refine h.online ?_
    rcases ho with ho | ho
    · obtain ⟨v, hv⟩ := Option.isSome_iff_exists.mp ho
      exact .inl (Option.isSome_iff_exists.mpr ⟨v, hR v hv⟩)
    · unfold Mirror.Setting at ho ⊢
      rw [hi, hr] at ho
      exact .inr ho
  · have hg := h.gone key removed (hr ▸ ha) hu hp
    cases hv : m'.redis.expiring.get (ttlKey uid) with
    | none => rfl
    | some v =>
      rw [hR v hv] at hg
      cases hg

theorem renewed_turn {t : Move} (h : Renewed uid m) (hl : ∀ p ∈ t.suspended, p.leases ≠ some uid)
    (hn : ∀ p ∈ t.suspended, NotLeaving uid p) : Renewed uid (m.turn t) := by
  refine ⟨fun ho => h.online ?_, h.gone, turn_issued h.issued hn, h.replied⟩
  rcases ho with ho | ⟨a, ha, hs⟩ | ⟨p, hp, hu⟩
  · exact .inl ho
  · exact .inr (.inl ⟨a, ha, hs⟩)
  · rcases List.mem_append.mp hp with hp | hp
    · exact .inr (.inr ⟨p, hp, hu⟩)
    · exact absurd hu (hl p hp)

theorem renewed_resume {l₁ l₂ : List Answered} {a : Answered} (hr : m.replied = l₁ ++ a :: l₂) (h : Renewed uid m) :
    Renewed uid (m.resumed l₁ a l₂) := by
  have ha : a ∈ m.replied := by rw [hr]; simp
  have hsub : ∀ b ∈ l₁ ++ l₂, b ∈ m.replied := fun b hb => hr ▸ mem_unskip hb
  refine ⟨fun ho => h.online ?_, fun key removed hb => h.gone key removed (hsub _ hb),
    turn_issued (m := m) h.issued fun p hp => ?_, resumed_replied hr h.replied⟩
  · rcases ho with ho | ⟨b, hb, hs⟩ | ⟨p, hp, hu⟩
    · exact .inl ho
    · exact .inr (.inl ⟨b, hsub b hb, hs⟩)
    · rcases List.mem_append.mp hp with hp | hp
      · exact .inr (.inr ⟨p, hp, hu⟩)
      · exact .inr (.inl ⟨a, ha, follows_leases (next_follows hp) hu⟩)
  · intro c data ho
    rw [next_origin a.1 a.2 m.server p hp] at ho
    exact h.replied a ha c data ho

theorem apart_carriesOut {e : Event} {p : Point} (hc : m.world.carriesOut e = some p.thread)
    (ha : apart uid m.world e = true) :
    (expires uid p.thread = true → (m.redis.expiring.get (ttlKey uid)).isSome = false ∧ ¬ m.world.settingStatus uid) ∧
      (renews uid p.thread = true → ∀ a ∈ m.world.process.replied, announces uid a = false) := by
  simp only [apart, hc, Option.all_some] at ha
  exact of_decide_eq_true ha

theorem expires_expiryHDel (key : String) :
    expires uid (Point.expiryHDel key).thread = true ↔ uidOfKey key = uid := by
  show decide (USER_STATUS_HASH_KEY = USER_STATUS_HASH_KEY ∧ uidOfKey key = uid) = true ↔ _
  simp

theorem announces_expiryHDel (key : String) (removed : Nat) :
    announces uid ⟨(Point.expiryHDel key).thread, .ok removed⟩ = true ↔ uidOfKey key = uid ∧ removed > 0 := by
  show decide (USER_STATUS_HASH_KEY = USER_STATUS_HASH_KEY ∧ uidOfKey key = uid ∧ removed > 0) = true ↔ _
  simp

theorem hDels_expires {p : Point} (hp : PointOk users p) (hn : NotLeaving uid p) (hd : p.hDels = some uid) :
    expires uid p.thread = true := by
  cases p with
  | unsubscribeHDel client data u =>
    obtain rfl := Option.some.inj hd
    have ha : asks data .unsubscribe (some u) = true := hp.2
    rw [hn client data rfl] at ha
    cases ha
  | expiryHDel key =>
    exact (expires_expiryHDel key).mpr (Option.some.inj hd)
  | lookup client data connectType u reset => cases hd
  | subscribeHSet client data u reset => cases hd
  | subscribeSet client data u reset => cases hd
  | snapshot client data => cases hd
  | pongHSet client u => cases hd
  | pongSet client u => cases hd

theorem leases_renews {p : Point} (hl : p.leases = some uid) : renews uid p.thread = true := by
  cases p <;> cases hl <;> simp [renews]

/-- A command that is carried out, whatever its caller is told. -/
theorem renewed_served {l₁ l₂ : List Point} {p : Point} {e : Event} (hi : m.issued = l₁ ++ p :: l₂)
    (hk : Known users m) (h : Renewed uid m) (hc : m.world.carriesOut e = some p.thread)
    (ha : apart uid m.world e = true) (r : Except JsError (Reply p.cmd)) :
    Renewed uid (m.answered l₁ l₂ (serve users p.cmd m.redis).1 ⟨p, r⟩) := by
  have hp : p ∈ m.issued := by rw [hi]; simp
  have hsub : ∀ q ∈ l₁ ++ l₂, q ∈ m.issued := fun q hq => hi ▸ mem_unskip hq
  obtain ⟨hexp, hren⟩ := apart_carriesOut hc ha
  refine ⟨fun ho => ?_, fun key removed hm hu hpos => ?_, answered_issued hi h.issued,
    answered_replied h.replied (h.issued p hp)⟩
  · by_cases hs : p.hSets = some uid
    · exact hash_added hs
    · have hbefore : (m.redis.expiring.get (ttlKey uid)).isSome ∨ m.Setting uid := by
        rcases ho with ho | ⟨a, hm, hs', hok⟩ | ⟨q, hq, hl⟩
        · change ((serve users p.cmd m.redis).1.expiring.get (ttlKey uid)).isSome at ho
          rw [serve_expiring] at ho
          cases hl : p.leases with
          | none =>
            rw [hl] at ho
            exact .inl ho
          | some v =>
            rw [hl, OrdMap.get_set] at ho
            by_cases hv : ttlKey uid = ttlKey v
            · rw [ttlKey_injective hv]
              exact .inr (.inr ⟨p, hp, hl⟩)
            · rw [if_neg hv] at ho
              exact .inl ho
        · rcases List.mem_append.mp hm with hm | hm
          · exact .inr (.inl ⟨a, hm, hs', hok⟩)
          · rw [List.mem_singleton.mp hm] at hs'
            exact absurd hs' hs
        · exact .inr (.inr ⟨q, hsub q hq, hl⟩)
      refine hash_kept (fun hd => ?_) (h.online hbefore)
      obtain ⟨hl, hset⟩ := hexp (hDels_expires (hk.issued p hp) (h.issued p hp) hd)
      rcases hbefore with hb | hb
      · rw [hl] at hb
        cases hb
      · exact hset (settingStatus_of_mirror hb)
  · show (serve users p.cmd m.redis).1.expiring.get (ttlKey uid) = none
    rw [serve_expiring]
    rcases List.mem_append.mp hm with hm | hm
    · have hg := h.gone key removed hm hu hpos
      cases hl : p.leases with
      | none => exact hg
      | some v =>
        have hv : ttlKey uid ≠ ttlKey v := by
          intro hv
          rw [← ttlKey_injective hv] at hl
          have hno : announces uid ⟨(Point.expiryHDel key).thread, .ok removed⟩ = false :=
            hren (leases_renews hl) _ (List.mem_map.mpr ⟨_, hm, rfl⟩)
          rw [(announces_expiryHDel key removed).mpr ⟨hu, hpos⟩] at hno
          cases hno
        simp only [OrdMap.get_set_ne _ hv]
        exact hg
    · obtain ⟨rfl, -⟩ := Sigma.mk.inj (List.mem_singleton.mp hm)
      have hl := (hexp ((expires_expiryHDel key).mpr hu)).1
      show m.redis.expiring.get (ttlKey uid) = none
      simpa using hl

theorem renewed_reject {l₁ l₂ : List Point} {p : Point} {error : JsError} (hi : m.issued = l₁ ++ p :: l₂)
    (h : Renewed uid m) : Renewed uid (m.answered l₁ l₂ m.redis ⟨p, .error error⟩) := by
  have hp : p ∈ m.issued := by rw [hi]; simp
  have hsub : ∀ q ∈ l₁ ++ l₂, q ∈ m.issued := fun q hq => hi ▸ mem_unskip hq
  refine ⟨fun ho => h.online ?_, fun key removed hm => ?_, answered_issued hi h.issued,
    answered_replied h.replied (h.issued p hp)⟩
  · rcases ho with ho | ⟨a, hm, hs, hok⟩ | ⟨q, hq, hl⟩
    · exact .inl ho
    · rcases List.mem_append.mp hm with hm | hm
      · exact .inr (.inl ⟨a, hm, hs, hok⟩)
      · rw [List.mem_singleton.mp hm] at hok
        cases hok
    · exact .inr (.inr ⟨q, hsub q hq, hl⟩)
  · rcases List.mem_append.mp hm with hm | hm
    · exact h.gone key removed hm
    · obtain ⟨rfl, he⟩ := Sigma.mk.inj (List.mem_singleton.mp hm)
      cases eq_of_heq he

theorem renewed_step {e : Event} (hk : Known users m) (h : Renewed uid m)
    (ho : noUnsubscribe uid e = true ∧ apart uid m.world e = true) (hs : Stepped users m e m') : Renewed uid m' := by
  obtain ⟨hn, ha⟩ := ho
  cases hs with
  | @message client data _ =>
    refine renewed_turn h (fun p hp hl => ?_) fun p hp c data' hd => ?_
    · rw [messageMove_leases hp] at hl
      cases hl
    · rw [messageMove_origin client data m.server p hp] at hd
      obtain ⟨rfl, rfl⟩ := Origin.message.inj hd
      simpa [noUnsubscribe] using hn
  | @pong client _ =>
    refine renewed_turn h (fun p hp hl => ?_) fun p hp c data' hd => ?_
    · rw [pongMove_leases hp] at hl
      cases hl
    · rw [pongMove_origin client m.server p hp] at hd
      cases hd
  | disconnect _ => exact renewed_mono h rfl rfl rfl fun _ hv => hv
  | pingTick => exact renewed_mono h rfl rfl rfl fun _ hv => hv
  | @expire key _ =>
    refine renewed_mono h rfl rfl rfl fun v hv => ?_
    change (m.redis.expiring.delete key).get (ttlKey uid) = some v at hv
    rw [OrdMap.get_delete] at hv
    split at hv
    · cases hv
    · exact hv
  | expireOther _ => exact renewed_mono h rfl rfl rfl fun _ hv => hv
  | @deliver l₁ l₂ key _ =>
    refine renewed_turn (m := { m with published := l₁ ++ l₂ }) (renewed_mono h rfl rfl rfl fun _ hv => hv)
      (fun p hp hl => ?_) fun p hp c data hd => ?_
    · rw [expiredMove_leases hp] at hl
      cases hl
    · rw [expiredMove_origin key m.server p hp] at hd
      cases hd
  | exec hi => exact renewed_served hi hk h (carriesOut_exec hi) ha _
  | @reject l₁ l₂ p carriedOut error hi =>
    cases carriedOut with
    | true => exact renewed_served hi hk h (carriesOut_reject hi error) ha _
    | false => exact renewed_reject hi h
  | resume hr => exact renewed_resume hr h

end

theorem renewed_start (uid : String) : Renewed uid Mirror.start := by
  refine ⟨fun ho => ?_, fun key removed hm => ?_, fun p hp => ?_, fun a ha => ?_⟩
  · rcases ho with ho | ⟨a, ha, -⟩ | ⟨p, hp, -⟩
    · cases ho
    · cases ha
    · cases hp
  · cases hm
  · cases hp
  · cases ha

/-- **A stale expiry never takes a renewed user offline**, as long as renewals
and expiry callbacks of the user keep apart: the user with a TTL key is in the
hash, and is announced offline only while there is no TTL key. -/
theorem renewed_online (users : Users) (uid : String) (es : List Event) (w : World)
    (hk : Along (step users) (fun w e => noUnsubscribe uid e = true ∧ apart uid w e = true) World.start es)
    (hr : run (step users) World.start es = some w) :
    (w.leased uid = true → (w.hash.get uid).isSome) ∧
    ∀ e w' conn info, step users w e = some w' → .broadcast conn info ∈ w.effects w' →
      info.get uid = some OFFLINE → w.leased uid = false := by
  obtain ⟨m, ⟨hknown, hm⟩, rfl⟩ := presence_invariant (I := fun m => Known users m ∧ Renewed uid m)
    ⟨known_start users, renewed_start uid⟩
    (fun m e m' hi ho hs => ⟨known_step hi.1 hs, renewed_step hi.1 hi.2 ho hs⟩) hk hr
  refine ⟨fun hl => hm.online (.inl hl), fun e w' conn info hs hb hu => ?_⟩
  obtain ⟨m', rfl, hs'⟩ := world_step hs
  obtain ⟨l₁, a, l₂, hrep, -, -, hoff⟩ := offline_cases hs' hb hu
  have ha : a ∈ m.replied := by rw [hrep]; simp
  cases hoff with
  | unsubscribe c data v =>
    have hno := hm.replied _ ha c data rfl
    have hyes : asks data .unsubscribe (some uid) = true := (hknown.replied _ ha).2
    rw [hno] at hyes
    cases hyes
  | @expiry key v hkey hv =>
    have hg := hm.gone key v ha hkey hv
    show (m.redis.expiring.get (ttlKey uid)).isSome = false
    rw [hg]
    rfl

theorem renewed_online_expired :
    ∃ w w', run (step everyUser) World.start (subscribeRun 0 "a" ++ [.expire (ttlKey "a"), .deliver 0, .exec 0]) =
        some w ∧
      step everyUser w (.resume 0) = some w' ∧ .broadcast none (offlineInfo "a") ∈ w.effects w' ∧
      w.leased "a" = false :=
  ⟨_, _, rfl, rfl, List.mem_cons_self,
    (renewed_online everyUser "a" (subscribeRun 0 "a" ++ [.expire (ttlKey "a"), .deliver 0, .exec 0]) _ (by decide)
      rfl).2 (.resume 0) _ none (offlineInfo "a") rfl List.mem_cons_self (by decide)⟩

/-- The pong renews the TTL key while the expired-event of the one before is in flight. -/
theorem renewal_taken_offline :
    ∃ w w', run (step everyUser) World.start (subscribeRun 0 "a" ++ [.expire (ttlKey "a"), .pong 0, .exec 0, .resume 0,
        .exec 0, .resume 0, .deliver 0, .exec 0]) = some w ∧
      step everyUser w (.resume 0) = some w' ∧ w'.Idle ∧ w'.published = [] ∧
      w'.leased "a" = true ∧ w'.hash.get "a" = none ∧
      .broadcast none (offlineInfo "a") ∈ w.effects w' ∧ w.leased "a" = true :=
  ⟨_, _, rfl, rfl, ⟨rfl, rfl⟩, rfl, by decide, by decide, List.mem_cons_self, by decide⟩

end StayApi
