import StayApi.Known
import StayApi.TtlKey

/-!
# The lease invariant

Every uid in the hash of online users has a live TTL key, or something is under
way that will give it one or take it out of the hash: an expired-event, an
expiry handler, or the second half of a `setStatus`.
-/

namespace StayApi

open WebsocketChannel UserStatusMessage

/-- A `setStatus uid` has done its `hSet` and not yet its `set`. -/
def World.settingStatus (w : World) (uid : String) : Prop :=
  (∃ t ∈ w.process.replied, (∃ value, t.cmd = .hSet USER_STATUS_HASH_KEY uid value) ∧ t.reply.isOk = true) ∨
  ∃ t ∈ w.process.issued, ∃ value EX, t.cmd = .set (ttlKey uid) value EX

/-- A `handleRedisExpiration key` is running and has not yet done its `hDel`. -/
def World.handlingExpiry (w : World) (key : String) : Prop :=
  ∃ t ∈ w.process.issued, t.origin = .expired key

/-- No command fails but the lookups. -/
def redisAnswers (w : World) : Event → Bool
  | .reject i _ _ => (w.process.issued[i]?).all fun t => !t.cmd.toRedis
  | _ => true

/-! ## On the mirror -/

namespace Mirror

def Setting (m : Mirror) (u : String) : Prop :=
  (∃ a ∈ m.replied, a.1.hSets = some u ∧ a.2.isOk = true) ∨ ∃ p ∈ m.issued, p.leases = some u

/-- Why `u` may be in the hash. -/
inductive Covered (m : Mirror) (u : String) : Prop
  | leased (h : (m.redis.expiring.get (ttlKey u)).isSome)
  | published (h : ttlKey u ∈ m.published)
  | expiring (h : .expiryHDel (ttlKey u) ∈ m.issued)
  | setting (h : m.Setting u)

end Mirror

theorem next_leases {a : Answered} {u : String} (s : Server) (hs : a.1.hSets = some u)
    (hr : a.2.isOk = true) : ∃ p ∈ (a.1.next a.2 s).suspended, p.leases = some u := by
  obtain ⟨p, r⟩ := a
  cases r with
  | error e => cases hr
  | ok v =>
    cases p <;> simp_all [Point.hSets, Point.next, Point.leases]

section
variable {m m' : Mirror} {u : String}

theorem covered_mono (hR : m'.redis.expiring = m.redis.expiring) (hp : ∀ k ∈ m.published, k ∈ m'.published)
    (hi : ∀ p ∈ m.issued, p ∈ m'.issued) (hr : ∀ a ∈ m.replied, a ∈ m'.replied) (h : m.Covered u) :
    m'.Covered u := by
  cases h with
  | leased h => exact .leased (by rw [hR]; exact h)
  | published h => exact .published (hp _ h)
  | expiring h => exact .expiring (hi _ h)
  | setting h =>
    refine .setting ?_
    rcases h with ⟨a, ha, h⟩ | ⟨p, hq, h⟩
    · exact .inl ⟨a, hr a ha, h⟩
    · exact .inr ⟨p, hi p hq, h⟩

theorem covered_turn (t : Move) (h : m.Covered u) : (m.turn t).Covered u :=
  covered_mono (m := m) rfl (fun _ h => h) (fun _ h => List.mem_append_left _ h) (fun _ h => h) h

theorem covered_exec {users : Users} {l₁ l₂ : List Point} {p : Point} (hi : m.issued = l₁ ++ p :: l₂)
    (hp : p ≠ .expiryHDel (ttlKey u)) (h : m.Covered u) :
    (m.answered l₁ l₂ (serve users p.cmd m.redis).1 ⟨p, (serve users p.cmd m.redis).2⟩).Covered u := by
  cases h with
  | leased h =>
    refine .leased ?_
    show ((serve users p.cmd m.redis).1.expiring.get (ttlKey u)).isSome
    rw [serve_expiring]
    cases p.leases with
    | none => exact h
    | some v =>
      simp only [OrdMap.get_set]
      split
      · rfl
      · exact h
  | published h => exact .published h
  | expiring h => exact .expiring (mem_skip (hi ▸ h) hp.symm)
  | setting h =>
    rcases h with ⟨a, ha, h⟩ | ⟨q, hq, h⟩
    · exact .setting (.inl ⟨a, List.mem_append_left _ ha, h⟩)
    · by_cases hqp : q = p
      · subst hqp
        refine .leased ?_
        show ((serve users q.cmd m.redis).1.expiring.get (ttlKey u)).isSome
        rw [serve_expiring, h, OrdMap.get_set_self]; rfl
      · exact .setting (.inr ⟨q, mem_skip (hi ▸ hq) hqp, h⟩)

theorem hash_exec {users : Users} {p : Point} {R : Redis} (hc : ':' ∉ u.toList)
    (h : (((serve users p.cmd R).1.hashes USER_STATUS_HASH_KEY).get u).isSome) :
    p.hSets = some u ∨
      ((R.hashes USER_STATUS_HASH_KEY).get u).isSome ∧ p ≠ .expiryHDel (ttlKey u) := by
  by_cases hs : p.hSets = some u
  · exact .inl hs
  · obtain ⟨hb, hd⟩ := hash_before hs h
    refine .inr ⟨hb, ?_⟩
    rintro rfl
    exact hd (congrArg some (uidOfKey_ttlKey hc))

theorem hSets_answer {users : Users} {p : Point} {R : Redis} (h : p.hSets = some u) :
    (serve users p.cmd R).2.isOk = true := by
  cases p <;> simp_all [Point.hSets, serve] <;> rfl

theorem covered_reject {l₁ l₂ : List Point} {p : Point} {R : Redis} {r : Except JsError (Reply p.cmd)}
    (hi : m.issued = l₁ ++ p :: l₂) (hR : R.expiring = m.redis.expiring) (hp : p.cmd.toRedis = false)
    (h : m.Covered u) : (m.answered l₁ l₂ R ⟨p, r⟩).Covered u := by
  cases h with
  | leased h =>
    refine .leased ?_
    show (R.expiring.get (ttlKey u)).isSome
    rw [hR]; exact h
  | published h => exact .published h
  | expiring h => exact .expiring (mem_skip (hi ▸ h) fun he => by subst he; cases hp)
  | setting h =>
    refine .setting ?_
    rcases h with ⟨a, ha, h⟩ | ⟨q, hq, h⟩
    · exact .inl ⟨a, List.mem_append_left _ ha, h⟩
    · refine .inr ⟨q, mem_skip (hi ▸ hq) ?_, h⟩
      rintro rfl
      cases q <;> cases h <;> cases hp

theorem covered_resume {l₁ l₂ : List Answered} {a : Answered} (hr : m.replied = l₁ ++ a :: l₂)
    (h : m.Covered u) : (m.resumed l₁ a l₂).Covered u := by
  cases h with
  | leased h => exact .leased h
  | published h => exact .published h
  | expiring h => exact .expiring (List.mem_append_left _ h)
  | setting h =>
    refine .setting ?_
    rcases h with ⟨b, hb, hs, ho⟩ | ⟨p, hp, hl⟩
    · by_cases hba : b = a
      · subst hba
        obtain ⟨p, hp, hl⟩ := next_leases m.server hs ho
        exact .inr ⟨p, List.mem_append_right _ hp, hl⟩
      · exact .inl ⟨b, mem_skip (hr ▸ hb) hba, hs, ho⟩
    · exact .inr ⟨p, List.mem_append_left _ hp, hl⟩

end

def Leased (m : Mirror) : Prop := ∀ u, (m.hash.get u).isSome → m.Covered u

theorem covered_step {users : Users} {m m' : Mirror} {e : Event} {u : String} (hk : Known users m)
    (hu : ∀ u, users u = .ok (some true) → ':' ∉ u.toList) (h : (m.hash.get u).isSome → m.Covered u)
    (ho : redisAnswers m.world e = true) (hs : Stepped users m e m') : (m'.hash.get u).isSome → m'.Covered u := by
  intro hh
  cases hs with
  | message _ => exact covered_turn _ (h hh)
  | pong _ => exact covered_turn _ (h hh)
  | disconnect _ => exact covered_mono (m := m) rfl (fun _ h => h) (fun _ h => h) (fun _ h => h) (h hh)
  | pingTick => exact covered_mono (m := m) rfl (fun _ h => h) (fun _ h => h) (fun _ h => h) (h hh)
  | @expire key _ =>
    by_cases hkey : ttlKey u = key
    · exact .published (by rw [hkey]; exact List.mem_append_right _ (List.mem_singleton_self _))
    · cases h hh with
      | leased hl =>
        refine .leased ?_
        show ((m.redis.expiring.delete key).get (ttlKey u)).isSome
        rw [OrdMap.get_delete_ne _ hkey]; exact hl
      | published hl => exact .published (List.mem_append_left _ hl)
      | expiring hl => exact .expiring hl
      | setting hl => exact .setting hl
  | expireOther _ =>
    exact covered_mono (m := m) rfl (fun _ h => List.mem_append_left _ h) (fun _ h => h) (fun _ h => h) (h hh)
  | @deliver l₁ l₂ key hp =>
    by_cases hkey : ttlKey u = key
    · refine .expiring (List.mem_append_right _ ?_)
      rw [← hkey, expiredMove, if_pos (startsWith_ttlKey u)]
      exact List.mem_singleton_self _
    · cases h hh with
      | leased hl => exact .leased hl
      | published hl => exact .published (mem_skip (hp ▸ hl) hkey)
      | expiring hl => exact .expiring (List.mem_append_left _ hl)
      | setting hl =>
        refine .setting ?_
        rcases hl with hl | ⟨p, hq, hl⟩
        · exact .inl hl
        · exact .inr ⟨p, List.mem_append_left _ hq, hl⟩
  | @exec l₁ l₂ p hi =>
    have hc : ':' ∉ u.toList :=
      hu u (serve_known hk.hash (hk.issued p (by rw [hi]; simp)) u hh)
    rcases hash_exec hc hh with hs | ⟨hm, hp⟩
    · exact .setting (.inl ⟨_, List.mem_append_right _ (List.mem_singleton_self _), hs, hSets_answer hs⟩)
    · exact covered_exec hi hp (h hm)
  | @reject l₁ l₂ p carriedOut error hi =>
    simp only [redisAnswers, issued_world hi, Option.all_some, Bool.not_eq_true'] at ho
    have hR : (if carriedOut then (serve users p.cmd m.redis).1 else m.redis) = m.redis := lost_lookup carriedOut ho
    refine covered_reject hi (congrArg Redis.expiring hR) ho (h ?_)
    show ((m.redis.hashes USER_STATUS_HASH_KEY).get u).isSome
    rw [← hR]
    exact hh
  | resume hr => exact covered_resume hr (h hh)

theorem leased_step {users : Users} {m m' : Mirror} {e : Event} (hk : Known users m)
    (hu : ∀ u, users u = .ok (some true) → ':' ∉ u.toList) (h : Leased m) (ho : redisAnswers m.world e = true)
    (hs : Stepped users m e m') : Leased m' := by
  intro u
  exact covered_step hk hu (h u) ho hs

/-! ## On the presence system -/

theorem settingStatus_of_mirror {m : Mirror} {u : String} (h : m.Setting u) : m.world.settingStatus u := by
  rcases h with ⟨a, ha, hs, ho⟩ | ⟨p, hp, hl⟩
  · refine .inl ⟨⟨a.1.thread, a.2⟩, List.mem_map.mpr ⟨a, ha, rfl⟩, ?_, ho⟩
    obtain ⟨p, r⟩ := a
    cases p <;> cases hs <;> exact ⟨_, rfl⟩
  · refine .inr ⟨p.thread, List.mem_map.mpr ⟨p, hp, rfl⟩, ?_⟩
    cases p <;> cases hl <;> exact ⟨_, _, rfl⟩

theorem handlingExpiry_of_mirror {m : Mirror} {key : String} (h : .expiryHDel key ∈ m.issued) :
    m.world.handlingExpiry key :=
  ⟨_, List.mem_map.mpr ⟨_, h, rfl⟩, rfl⟩

/-- **No ghost-online users.** In every reachable state every uid in the hash
has a live TTL key, or an undelivered expired-event, or an expiry handler before
its `hDel`, or a half-done `setStatus`. -/
theorem online_leased (users : Users) (hu : ∀ u, users u = .ok (some true) → ':' ∉ u.toList)
    (es : List Event) (w : World) (hk : Along (step users) (fun w e => redisAnswers w e) World.start es)
    (hr : run (step users) World.start es = some w) :
    (∀ uid, (w.hash.get uid).isSome →
      w.leased uid = true ∨ ttlKey uid ∈ w.published ∨ w.handlingExpiry (ttlKey uid) ∨ w.settingStatus uid) ∧
    ((∀ uid, ttlKey uid ∉ w.published ∧ ¬ w.handlingExpiry (ttlKey uid) ∧ ¬ w.settingStatus uid) →
      ∀ uid, (w.hash.get uid).isSome → w.leased uid = true) := by
  obtain ⟨m, ⟨-, hm⟩, rfl⟩ := presence_invariant (I := fun m => Known users m ∧ Leased m)
    ⟨known_start users, fun u h => by cases h⟩
    (fun m e m' hi ho hs => ⟨known_step hi.1 hs, leased_step hi.1 hu hi.2 ho hs⟩) hk hr
  have hall : ∀ uid, (m.world.hash.get uid).isSome → m.world.leased uid = true ∨
      ttlKey uid ∈ m.world.published ∨ m.world.handlingExpiry (ttlKey uid) ∨ m.world.settingStatus uid := by
    intro uid hh
    cases hm uid hh with
    | leased h => exact .inl h
    | published h => exact .inr (.inl h)
    | expiring h => exact .inr (.inr (.inl (handlingExpiry_of_mirror h)))
    | setting h => exact .inr (.inr (.inr (settingStatus_of_mirror h)))
  refine ⟨hall, fun hq uid hh => ?_⟩
  obtain ⟨h1, h2, h3⟩ := hq uid
  rcases hall uid hh with h | h | h | h
  · exact h
  · exact absurd h h1
  · exact absurd h h2
  · exact absurd h h3

theorem oneUser_true {uid u : String} (h : oneUser uid u = .ok (some true)) : u = uid := by
  simpa [oneUser] using h

theorem online_leased_expiring :
    ∃ w, run (step (oneUser "a")) World.start (subscribeRun 0 "a" ++ [.expire (ttlKey "a"), .deliver 0]) = some w ∧
      ((w.hash.get "a").isSome → w.leased "a" = true ∨ ttlKey "a" ∈ w.published ∨
        w.handlingExpiry (ttlKey "a") ∨ w.settingStatus "a") := by
  obtain ⟨w, hw⟩ := Option.isSome_iff_exists.mp
    (show (run (step (oneUser "a")) World.start
      (subscribeRun 0 "a" ++ [.expire (ttlKey "a"), .deliver 0])).isSome = true by decide)
  exact ⟨w, hw, (online_leased (oneUser "a") (fun u h => oneUser_true h ▸ by decide) _ w (by decide) hw).1 "a"⟩

end StayApi
