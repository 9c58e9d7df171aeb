import StayApi.KeySpace
import StayApi.Known
import StayApi.TtlKey

/-!
# What the program touches in Redis

The Redis of the process may hold other data, and other programs' keys expire in
it. If the keys of the program hold nothing of another type there, a run changes
the one hash and the TTL keys only, and there writes nothing but what a `setStatus`
of a user of the table writes.
-/

namespace StayApi

open WebsocketChannel UserStatusMessage

/-- The process just started on a Redis that holds `R`. -/
def World.on (R : Redis) : World := ⟨R, [], .start .start⟩

def Mirror.on (R : Redis) : Mirror := ⟨R, [], .start .start⟩

/-- What `setStatus` of a user writes, in the hash and under the TTL key. -/
structure Written (users : Users) (R₀ R : Redis) : Prop where
  fields : ∀ uid value, (R.hashes USER_STATUS_HASH_KEY).get uid = some value →
    (R₀.hashes USER_STATUS_HASH_KEY).get uid = some value ∨ (value = ONLINE.text ∧ users uid = .ok (some true))
  keys : ∀ key entry, R.expiring.get key = some entry → R₀.expiring.get key = some entry ∨
    ∃ uid, key = ttlKey uid ∧ entry = (ONLINE.text, TTL_EXPIRATION_TIME) ∧ users uid = .ok (some true)

section
variable {users : Users} {R₀ R : Redis} {p : Point}

theorem serve_foreign {key : String} (hk : key ≠ USER_STATUS_HASH_KEY) :
    (serve users p.cmd R).1.hashes key = R.hashes key := by
  cases p <;> simp [serve, Redis.hSet, Redis.hDel, Redis.set, Redis.setHash, hk]

theorem serve_unleased {key : String} (hk : startsWith key USER_STATUS_HASH_TTL_KEY = false) :
    (serve users p.cmd R).1.expiring.get key = R.expiring.get key := by
  rw [serve_expiring]
  cases hl : p.leases with
  | none => rfl
  | some u =>
    apply OrdMap.get_set_ne
    intro h
    rw [h, startsWith_ttlKey] at hk
    cases hk

theorem leases_uid {u : String} (h : p.leases = some u) : p.uid = some u := by
  cases p <;> simp_all [Point.leases, Point.uid]

theorem hSets_uid {u : String} (h : p.hSets = some u) : p.uid = some u := by
  cases p <;> simp_all [Point.hSets, Point.uid]

theorem serve_written (hp : PointOk users p) (h : Written users R₀ R) : Written users R₀ (serve users p.cmd R).1 := by
  constructor
  · intro uid value hv
    rw [serve_hash] at hv
    cases hs : p.hSets with
    | some u =>
      simp only [hs, OrdMap.get_set] at hv
      split at hv
      · rename_i hu
        cases hv
        exact .inr ⟨rfl, hu ▸ hp.1 u (hSets_uid hs)⟩
      · exact h.fields uid value hv
    | none =>
      cases hd : p.hDels with
      | none =>
        simp only [hs, hd] at hv
        exact h.fields uid value hv
      | some u =>
        simp only [hs, hd, OrdMap.get_delete] at hv
        split at hv
        · cases hv
        · exact h.fields uid value hv
  · intro key entry hv
    rw [serve_expiring] at hv
    cases hl : p.leases with
    | none =>
      simp only [hl] at hv
      exact h.keys key entry hv
    | some u =>
      simp only [hl, OrdMap.get_set] at hv
      split at hv
      · rename_i hu
        cases hv
        exact .inr ⟨u, hu, rfl, hp.1 u (leases_uid hl)⟩
      · exact h.keys key entry hv

theorem expire_written (key : String) (h : Written users R₀ R) : Written users R₀ (R.expire key) := by
  refine ⟨h.fields, ?_⟩
  intro key' entry hv
  have hd : (R.expire key).expiring.get key' = if key' = key then none else R.expiring.get key' :=
    OrdMap.get_delete ..
  rw [hd] at hv
  split at hv
  · cases hv
  · exact h.keys key' entry hv

/-! ## The types of the keys -/

theorem ttlKey_ne_hash (uid : String) : ttlKey uid ≠ USER_STATUS_HASH_KEY := by
  intro h
  have hs := startsWith_ttlKey uid
  rw [h] at hs
  exact absurd hs (by decide)

theorem point_hashKey {key : String} (h : p.cmd.hashKey = some key) : key = USER_STATUS_HASH_KEY := by
  cases p <;> first | exact (Option.some.inj h).symm | cases h

theorem serve_apart (h : R.Apart) : (serve users p.cmd R).1.Apart := by
  refine ⟨?_, ?_, ?_⟩
  · rw [serve_unleased (by decide)]
    exact h.status
  · intro uid
    rw [serve_foreign (ttlKey_ne_hash uid)]
    exact h.leases uid
  · intro key hkey
    by_cases hk : startsWith key USER_STATUS_HASH_TTL_KEY = true
    · obtain ⟨uid, rfl⟩ := eq_ttlKey hk
      rw [serve_foreign (ttlKey_ne_hash uid)]
      exact h.leases uid
    · rw [serve_unleased (by simpa using hk)] at hkey
      have hne : key ≠ USER_STATUS_HASH_KEY := by
        rintro rfl
        rw [h.status] at hkey
        cases hkey
      rw [serve_foreign hne]
      exact h.strings key hkey

theorem expire_apart (key : String) (h : R.Apart) : (R.expire key).Apart := by
  have hget (k : String) (hk : ((R.expire key).expiring.get k).isSome) : (R.expiring.get k).isSome := by
    simp only [Redis.expire, OrdMap.get_delete] at hk
    split at hk
    · cases hk
    · exact hk
  refine ⟨?_, h.leases, fun k hk => h.strings k (hget k hk)⟩
  by_contra hstatus
  have hsome := hget _ (Option.isSome_iff_ne_none.mpr hstatus)
  rw [h.status] at hsome
  cases hsome

end

/-! ## The invariant -/

/-- `Known` says nothing about the Redis of `m` when it is put aside. -/
def Mirror.aside (m : Mirror) : Mirror := { m with redis := .empty }

theorem aside_step {users : Users} {m m' : Mirror} {e : Event} (h : Known users m.aside) (hs : Stepped users m e m') :
    Known users m'.aside := by
  have hempty : ∀ u, ((Redis.empty.hashes USER_STATUS_HASH_KEY).get u).isSome → users u = .ok (some true) := h.hash
  cases hs with
  | message ho => exact known_step h (.message ho)
  | pong ho => exact known_step h (.pong ho)
  | disconnect ho => exact known_step h (.disconnect ho)
  | pingTick => exact known_step h .pingTick
  | expire _ => exact ⟨h.clients, h.issued, h.replied, h.truthful, h.hash⟩
  | expireOther hk => exact known_step h (.expireOther hk)
  | deliver hp => exact known_step h (.deliver hp)
  | exec hi => exact known_answered h hi (serve_truthful ..) hempty
  | @reject l₁ l₂ p carriedOut error hi =>
    have hlost : Stepped users m.aside (.reject l₁.length false error) _ := .reject hi
    exact known_step h hlost
  | resume hr => exact known_step h (.resume hr)

structure Footprint (users : Users) (R : Redis) (m : Mirror) : Prop where
  known : Known users m.aside
  hashes : ∀ key, key ≠ USER_STATUS_HASH_KEY → m.redis.hashes key = R.hashes key
  written : Written users R m.redis
  apart : m.redis.Apart

theorem footprint_step {users : Users} {R : Redis} {m m' : Mirror} {e : Event} (h : Footprint users R m)
    (hs : Stepped users m e m') : Footprint users R m' := by
  refine ⟨aside_step h.known hs, ?_, ?_, ?_⟩
  · intro key hk
    have hm := h.hashes key hk
    cases redis_step hs with
    | serve _ _ hR => exact hR ▸ (serve_foreign hk).trans hm
    | expire _ hR => exact hR ▸ hm
    | same _ hR => exact hR ▸ hm
  · cases redis_step hs with
    | @serve l₁ l₂ p hi _ hR =>
      have hp : p ∈ m.issued := by rw [hi]; simp
      exact hR ▸ serve_written (h.known.issued p hp) h.written
    | expire _ hR => exact hR ▸ expire_written _ h.written
    | same _ hR => exact hR ▸ h.written
  · cases redis_step hs with
    | serve _ _ hR => exact hR ▸ serve_apart h.apart
    | expire _ hR => exact hR ▸ expire_apart _ h.apart
    | same _ hR => exact hR ▸ h.apart

theorem unleased_step {users : Users} {m m' : Mirror} {e : Event} {key : String}
    (hk : startsWith key USER_STATUS_HASH_TTL_KEY = false) (he : e ≠ .expire key) (hs : Stepped users m e m') :
    m'.redis.expiring.get key = m.redis.expiring.get key := by
  cases redis_step hs with
  | serve _ _ hR => exact hR ▸ serve_unleased hk
  | @expire key' he' hR =>
    rw [hR]
    apply OrdMap.get_delete_ne
    rintro rfl
    exact he he'
  | same _ hR => rw [hR]

/-- What a step does to the one key space, and what it answers. -/
inductive KeyStep (users : Users) (w w' : World) (e : Event) : Prop
  | execute {t : Thread Origin Server Command Reply JsError} (hc : w.carriesOut e = some t)
    (hK : KeySpace.execute users t.cmd w.redis.keySpace = (w'.redis.keySpace, (serve users t.cmd w.redis).2))
  | expire {key : String} (he : e = .expire key) (hK : w'.redis.keySpace = w.redis.keySpace.put key none)
  | same (hc : w.carriesOut e = none) (hK : w'.redis.keySpace = w.redis.keySpace)

theorem keySpace_step {users : Users} {m m' : Mirror} {e : Event} (h : m.redis.Apart)
    (hs : Stepped users m e m') : KeyStep users m.world m'.world e := by
  have hexpired : ∀ {key}, e = .expire key → (m.redis.expiring.get key).isSome := by
    rintro key rfl
    cases hs with
    | expire hkey => exact hkey
  cases redis_step hs with
  | @serve l₁ l₂ p hi hc hR =>
    refine .execute hc ?_
    have hexec : KeySpace.execute users p.cmd m.redis.keySpace = _ :=
      execute_keySpace p.cmd fun key hk => point_hashKey hk ▸ h.status
    rw [← hR] at hexec
    exact hexec
  | @expire key he hR =>
    exact .expire he ((congrArg Redis.keySpace hR).trans (Redis.keySpace_expire (h.strings key (hexpired he))))
  | same hc hR => exact .same hc (congrArg Redis.keySpace hR)

section
variable {users : Users} {R : Redis} {m : Mirror}

theorem footprint_foreign {key : String} (h : Footprint users R m) (hk : key ≠ USER_STATUS_HASH_KEY)
    (he : m.redis.expiring.get key = R.expiring.get key) : m.redis.keySpace key = R.keySpace key := by
  unfold Redis.keySpace
  rw [he, h.hashes key hk]

theorem footprint_keys {key : String} {v : Value} (hR : R.Apart) (h : Footprint users R m)
    (hk : key ≠ USER_STATUS_HASH_KEY) (hv : m.redis.keySpace key = some v) : R.keySpace key = some v ∨
      ∃ uid, key = ttlKey uid ∧ v = .string ONLINE.text TTL_EXPIRATION_TIME ∧ users uid = .ok (some true) := by
  cases hm : m.redis.expiring.get key with
  | some entry =>
    rw [Redis.keySpace_string hm] at hv
    obtain rfl := Option.some.inj hv
    rcases h.written.keys key entry hm with hkept | ⟨uid, rfl, rfl, hu⟩
    · exact .inl (Redis.keySpace_string hkept)
    · exact .inr ⟨uid, rfl, rfl, hu⟩
  | none =>
    rw [Redis.keySpace_hash hm, h.hashes key hk] at hv
    refine .inl ?_
    cases hs : R.expiring.get key with
    | none => rw [Redis.keySpace_hash hs, hv]
    | some entry =>
      rw [hR.strings key (by rw [hs]; rfl)] at hv
      cases hv

end

/-- Whatever else a Redis holds, if the hash's key holds no string there and no TTL
key a hash, a run does what it would do on the one key space, leaves every other
key as it is until its own time is up, and writes only online users of the table into
the hash and their 15 second TTL keys beside it. -/
theorem redis_footprint (users : Users) (R : Redis) (hR : R.Apart) {es : List Event} {w : World}
    (hr : run (step users) (World.on R) es = some w) :
    Along (step users) (fun w e => ∀ w', step users w e = some w' → KeyStep users w w' e) (World.on R) es ∧
      (∀ key, key ≠ USER_STATUS_HASH_KEY → startsWith key USER_STATUS_HASH_TTL_KEY = false → .expire key ∉ es →
        w.redis.keySpace key = R.keySpace key) ∧
      w.redis.keySpace.hashAt USER_STATUS_HASH_KEY = .ok w.hash ∧
      (∀ uid value, w.hash.get uid = some value → (R.hashes USER_STATUS_HASH_KEY).get uid = some value ∨
        (value = ONLINE.text ∧ users uid = .ok (some true))) ∧
      ∀ key v, key ≠ USER_STATUS_HASH_KEY → w.redis.keySpace key = some v → R.keySpace key = some v ∨
        ∃ uid, key = ttlKey uid ∧ v = .string ONLINE.text TTL_EXPIRATION_TIME ∧ users uid = .ok (some true) := by
  obtain ⟨m, hm, rfl⟩ := run_lift (t := Mirror.on R) (step_mirror users) hr
  have hstart : Footprint users R (Mirror.on R) :=
    ⟨known_start users, fun _ _ => rfl, ⟨fun _ _ h => .inl h, fun _ _ h => .inl h⟩, hR⟩
  have hpreserved : ∀ m e m', Footprint users R m → True → mirrorStep users m e = some m' → Footprint users R m' :=
    fun m e m' h _ hs => footprint_step h (mirror_cases hs)
  have hfoot : Footprint users R m := run_invariant hpreserved hstart (along_true _ es) hm
  refine ⟨?_, ?_, Redis.hashAt_keySpace hfoot.apart.status, hfoot.written.fields, fun key v => footprint_keys hR hfoot⟩
  · apply (along_map (t := Mirror.on R) (step_mirror users)).mpr
    refine along_mono ?_ (along_invariant hpreserved hstart (along_true _ es))
    rintro m e ⟨h, -⟩ w' hw
    rw [step_mirror] at hw
    obtain ⟨m', hs, rfl⟩ := Option.map_eq_some_iff.mp hw
    exact keySpace_step h.apart (mirror_cases hs)
  · intro key hne hk he
    have hes : ∀ e ∈ es, e ≠ .expire key := fun e hm heq => he (heq ▸ hm)
    have hkept : m.redis.expiring.get key = R.expiring.get key :=
      run_invariant (I := fun m => m.redis.expiring.get key = R.expiring.get key)
        (fun m e m' h ho hs => (unleased_step hk ho (mirror_cases hs)).trans h) rfl
        (along_of_forall hes (Mirror.on R)) hm
    exact footprint_foreign hfoot hne hkept

/-- A Redis with a session key of another program beside the presence data. -/
def sharedRedis : Redis := Redis.empty.set "session:1" "s" 60

theorem sharedRedis_apart : sharedRedis.Apart :=
  ⟨by decide, fun _ => rfl, fun _ _ => rfl⟩

theorem redis_footprint_shared :
    ∃ w, run (step everyUser) (World.on sharedRedis) (subscribeRun 0 "a") = some w ∧
      w.redis.keySpace "session:1" = some (.string "s" 60) ∧ w.hash.get "a" = some "online" := by
  obtain ⟨w, hw⟩ := Option.isSome_iff_exists.mp
    (show (run (step everyUser) (World.on sharedRedis) (subscribeRun 0 "a")).isSome = true by decide)
  have hone : (run (step everyUser) (World.on sharedRedis) (subscribeRun 0 "a")).map (fun w => w.hash.get "a") =
      some (some "online") := by decide
  rw [hw] at hone
  exact ⟨w, hw, (redis_footprint everyUser sharedRedis sharedRedis_apart hw).2.1 "session:1" (by decide) (by decide)
    (by simp [subscribeRun]), Option.some.inj hone⟩

end StayApi
