import StayApi.Heartbeat
import StayApi.Lease
import StayApi.UnsubscribeFrame
import StayApi.ViewsAgree

/-!
# The heartbeat and the lease, in time

The presence system with a clock in milliseconds. The ping timer fires every
`PING_INTERVAL`, a key set with `EX` lives that many seconds, and Redis answers
at once: time passes only while no command to it is under way. The heartbeat
asks for one answer between two ticks, the lease for one every
`TTL_EXPIRATION_TIME` seconds; the two agree as long as no answer takes much
longer than the one before.
-/

namespace StayApi

open WebsocketChannel UserStatusMessage

structure Timed where
  now : Nat
  /-- The time of the last tick. -/
  ticked : Nat
  world : World
  deadlines : String → Nat
  /-- How long after the tick before it the socket was last heard of. -/
  delays : WebSocket → Nat

inductive TimedEvent where
  | elapse (ms : Nat)
  | tick
  | expire (key : String)
  | serve (e : Event)

namespace World

/-- No command to Redis is under way. -/
def settled (w : World) : Bool :=
  (w.process.issued.all fun t => !t.cmd.toRedis) && w.process.replied.all fun t => !t.cmd.toRedis

/-- The seconds the step gives the key, if it sets it. -/
def givesKey (key : String) (w : World) (e : Event) : Option Nat :=
  (w.carriesOut e).bind fun t =>
    match t.cmd with
    | .set k _ EX => if k = key then some EX else none
    | _ => none

end World

namespace Timed

def start : Timed := ⟨0, 0, .start, fun _ => 0, fun _ => 0⟩

def after (T : Timed) (e : Event) (w : World) : Timed :=
  { T with
    world := w
    deadlines := fun key =>
      match T.world.givesKey key e with
      | some EX => T.now + EX * 1000
      | none => T.deadlines key
    delays := fun c => if hears c T.world e then T.now - T.ticked else T.delays c }

def serve (users : Users) (T : Timed) (e : Event) : Option Timed := (step users T.world e).map (T.after e)

/-- No key is left past its time. -/
def inTime (T : Timed) (ms : Nat) : Bool :=
  T.world.redis.expiring.keys.all fun key => T.now + ms ≤ T.deadlines key + 1

/-- The steps that are not the clock's, and in which no command to Redis fails. -/
def untimed (T : Timed) : Event → Bool
  | .pingTick => false
  | .expire _ => false
  | e => redisAnswers T.world e

end Timed

def timedStep (users : Users) (T : Timed) : TimedEvent → Option Timed
  | .elapse ms =>
    if T.world.settled ∧ T.now + ms ≤ T.ticked + PING_INTERVAL ∧ T.inTime ms then some { T with now := T.now + ms }
    else none
  | .tick =>
    if T.now = T.ticked + PING_INTERVAL then (T.serve users .pingTick).map fun T => { T with ticked := T.now } else none
  | .expire key => if T.deadlines key < T.now then T.serve users (.expire key) else none
  | .serve e => if T.untimed e then T.serve users e else none

/-- A socket's answer to a ping does not take much longer than its last answer
did, or than it was from the tick to its subscription. -/
def punctual (c : WebSocket) (T : Timed) : TimedEvent → Bool
  | .elapse ms => (T.world.clients.get c).all fun t =>
    t.isAlive || T.now + ms ≤ T.ticked + T.delays c + (TTL_EXPIRATION_TIME * 1000 - PING_INTERVAL)
  | _ => true

/-! ## Renewals under way -/

namespace Mirror

def Renewing (u : String) (m : Mirror) : Prop := (∃ p ∈ m.issued, p.hSets = some u) ∨ m.Setting u

end Mirror

section
variable {users : Users} {c : WebSocket} {u : String} {m m' : Mirror} {e : Event}

theorem toRedis_hSets {p : Point} (h : p.hSets = some u) : p.cmd.toRedis = true := by
  cases p <;> first | rfl | cases h

theorem toRedis_leases {p : Point} (h : p.leases = some u) : p.cmd.toRedis = true := by
  cases p <;> first | rfl | cases h

theorem settled_points (h : m.world.settled = true) :
    (∀ p ∈ m.issued, p.cmd.toRedis = false) ∧ ∀ a ∈ m.replied, a.1.cmd.toRedis = false := by
  unfold World.settled at h
  simp only [Bool.and_eq_true, List.all_eq_true, Bool.not_eq_true'] at h
  constructor
  · intro p hp
    exact h.1 _ (List.mem_map.mpr ⟨p, hp, rfl⟩)
  · intro a ha
    exact h.2 _ (List.mem_map.mpr ⟨a, ha, rfl⟩)

theorem settled_renewing (h : m.world.settled = true) : ¬ m.Renewing u := by
  obtain ⟨hissued, hreplied⟩ := settled_points h
  rintro (⟨p, hp, hs⟩ | ⟨a, ha, hs, -⟩ | ⟨p, hp, hl⟩)
  · exact absurd (toRedis_hSets hs) (by simp [hissued p hp])
  · exact absurd (toRedis_hSets hs) (by simp [hreplied a ha])
  · exact absurd (toRedis_leases hl) (by simp [hissued p hp])

theorem renewing_mono (hi : ∀ p ∈ m.issued, p ∈ m'.issued) (hr : ∀ a ∈ m.replied, a ∈ m'.replied)
    (h : m.Renewing u) : m'.Renewing u := by
  rcases h with ⟨p, hp, h⟩ | ⟨a, ha, h⟩ | ⟨p, hp, h⟩
  · exact .inl ⟨p, hi p hp, h⟩
  · exact .inr (.inl ⟨a, hr a ha, h⟩)
  · exact .inr (.inr ⟨p, hi p hp, h⟩)

def SetsKey (u : String) (m : Mirror) (e : Event) : Prop :=
  ∃ p ∈ m.issued, m.world.carriesOut e = some p.thread ∧ p.leases = some u

theorem renewing_step (h : m.Renewing u) (ha : redisAnswers m.world e = true) (hs : Stepped users m e m') :
    m'.Renewing u ∨ SetsKey u m e := by
  cases hs with
  | message _ => exact .inl (renewing_mono (m := m) (fun _ h => List.mem_append_left _ h) (fun _ h => h) h)
  | pong _ => exact .inl (renewing_mono (m := m) (fun _ h => List.mem_append_left _ h) (fun _ h => h) h)
  | disconnect _ => exact .inl h
  | pingTick => exact .inl h
  | expire _ => exact .inl h
  | expireOther _ => exact .inl h
  | deliver _ => exact .inl (renewing_mono (m := m) (fun _ h => List.mem_append_left _ h) (fun _ h => h) h)
  | @exec l₁ l₂ p hi =>
    rcases h with ⟨q, hq, h⟩ | ⟨a, ha, h⟩ | ⟨q, hq, h⟩
    · by_cases hqp : q = p
      · subst hqp
        exact .inl (.inr (.inl ⟨_, List.mem_append_right _ (List.mem_singleton_self _), h, hSets_answer h⟩))
      · exact .inl (.inl ⟨q, mem_skip (hi ▸ hq) hqp, h⟩)
    · exact .inl (.inr (.inl ⟨a, List.mem_append_left _ ha, h⟩))
    · by_cases hqp : q = p
      · subst hqp
        exact .inr ⟨q, hq, carriesOut_exec hi, h⟩
      · exact .inl (.inr (.inr ⟨q, mem_skip (hi ▸ hq) hqp, h⟩))
  | @reject l₁ l₂ p carriedOut error hi =>
    simp only [redisAnswers, issued_world hi, Option.all_some, Bool.not_eq_true'] at ha
    rcases h with ⟨q, hq, h⟩ | ⟨a, ha', h⟩ | ⟨q, hq, h⟩
    · refine .inl (.inl ⟨q, mem_skip (hi ▸ hq) ?_, h⟩)
      rintro rfl
      simp [toRedis_hSets h] at ha
    · exact .inl (.inr (.inl ⟨a, List.mem_append_left _ ha', h⟩))
    · refine .inl (.inr (.inr ⟨q, mem_skip (hi ▸ hq) ?_, h⟩))
      rintro rfl
      simp [toRedis_leases h] at ha
  | @resume l₁ l₂ a hr =>
    rcases h with ⟨q, hq, h⟩ | ⟨b, hb, h, ho⟩ | ⟨q, hq, h⟩
    · exact .inl (.inl ⟨q, List.mem_append_left _ hq, h⟩)
    · by_cases hba : b = a
      · subst hba
        obtain ⟨p, hp, hl⟩ := next_leases m.server h ho
        exact .inl (.inr (.inr ⟨p, List.mem_append_right _ hp, hl⟩))
      · exact .inl (.inr (.inl ⟨b, mem_skip (hr ▸ hb) hba, h, ho⟩))
    · exact .inl (.inr (.inr ⟨q, List.mem_append_left _ hq, h⟩))

/-! ## The tracked socket -/

theorem guestTracked {data : RawData} {s : Server} {t : TrackedClient} (ha : asks data .subscribe none = true)
    (ht : (messageMove c data s).state.clients.get c = some t) : t.userUid = none := by
  rcases asks_cases ha with ⟨-, connectType, hr, hk⟩ | ⟨v, _, _, hv, -⟩
  · simp only [messageMove, hr, hk, trackMove_clients, OrdMap.get_set_self] at ht
    obtain rfl := Option.some.inj ht
    rfl
  · cases hv

theorem concluded_lease {a : Answered} {s : Server} {t : TrackedClient}
    (hc : concludesSubscribe c ⟨a.1.thread, a.2⟩ = true) (ht : (a.1.next a.2 s).state.clients.get c = some t) :
    a.1.leases = t.userUid := by
  obtain ⟨p, r⟩ := a
  cases p with
  | subscribeSet client data uid reset =>
    cases r with
    | error error => cases hc
    | ok v =>
      obtain rfl := concludesSubscribe_set.mp hc
      simp only [Point.next, trackMove_clients, OrdMap.get_set_self] at ht
      obtain rfl := Option.some.inj ht
      rfl
  | _ => cases hc

/-- A socket tracked as `u` after a step was so before it and was not heard of,
or it has asked for a renewal, or it has just subscribed. -/
theorem tracked_cases (he : e ≠ .pingTick) (hs : Stepped users m e m') {t : TrackedClient}
    (ht : m'.clients.get c = some t) (hu : t.userUid = some u) :
    (hears c m.world e = false ∧ m.clients.get c = some t) ∨
      (hears c m.world e = true ∧ t.isAlive = true ∧
        ((m'.Renewing u ∧ ∃ t', m.clients.get c = some t' ∧ t'.userUid = some u) ∨
          ∃ a ∈ m.replied, a.1.leases = some u)) := by
  have hheard := heard_step (c := c) he hs
  cases hh : hears c m.world e with
  | false =>
    left
    refine ⟨rfl, ?_⟩
    rcases hheard.kept (by simp [hh]) with hnone | hsame
    · have hnone' : m'.clients.get c = none := hnone
      rw [hnone'] at ht
      cases ht
    · rw [← ht]
      exact hsame.symm
  | true =>
    right
    refine ⟨rfl, hheard.alive hh t ht, ?_⟩
    cases hs with
    | @message client data _ =>
      obtain ⟨rfl, ha⟩ := of_decide_eq_true hh
      rw [guestTracked ha ht] at hu
      cases hu
    | @pong client _ =>
      obtain ⟨rfl, hsome⟩ := of_decide_eq_true hh
      obtain ⟨t', ht'⟩ := Option.isSome_iff_exists.mp hsome
      have hget : (pongMove client m.server).state.clients.get client = some t := ht
      rw [pongMove_get, if_pos rfl, show m.server.clients.get client = some t' from ht'] at hget
      obtain rfl := Option.some.inj hget
      refine .inl ⟨.inl ⟨.pongHSet client u, List.mem_append_right _ ?_, rfl⟩, t', ht', hu⟩
      have hu' : t'.userUid = some u := hu
      simp [pongMove, show m.server.clients.get client = some t' from ht', hu']
    | @resume l₁ l₂ a hr =>
      have hconc : concludesSubscribe c ⟨a.1.thread, a.2⟩ = true := by
        have hany : (m.world.process.replied[l₁.length]?).any (concludesSubscribe c) = true := hh
        rw [replied_world hr] at hany
        exact hany
      refine .inr ⟨a, by rw [hr]; simp, ?_⟩
      rw [← hu]
      exact concluded_lease hconc ht
    | _ => cases hh

/-! ## The key -/

@[irreducible] def leaseTime : Nat := TTL_EXPIRATION_TIME * 1000

theorem leaseTime_eq : leaseTime = TTL_EXPIRATION_TIME * 1000 := by
  unfold leaseTime
  rfl

def KeyUntil (u : String) (k : Nat) (T : Timed) (m : Mirror) : Prop :=
  (m.redis.expiring.get (ttlKey u)).isSome ∧ k ≤ T.deadlines (ttlKey u)

section
variable {T : Timed} {w : World} {k : Nat}

theorem givesKey_carriesOut {p : Point} (hc : m.world.carriesOut e = some p.thread) :
    m.world.givesKey (ttlKey u) e = if p.leases = some u then some TTL_EXPIRATION_TIME else none := by
  have hinj : ∀ v, ttlKey v = ttlKey u ↔ v = u := fun v => ⟨ttlKey_injective, congrArg ttlKey⟩
  simp only [World.givesKey, hc, Option.bind_some]
  cases p <;> simp [Point.leases, hinj]

theorem deadline_sets (hw : m.world = T.world) (h : SetsKey u m e) :
    (T.after e w).deadlines (ttlKey u) = T.now + leaseTime := by
  obtain ⟨p, -, hc, hl⟩ := h
  simp only [Timed.after, ← hw, givesKey_carriesOut hc, if_pos hl, leaseTime_eq]

theorem deadline_other (hw : m.world = T.world) (hs : Stepped users m e m') (h : ¬ SetsKey u m e) :
    (T.after e w).deadlines (ttlKey u) = T.deadlines (ttlKey u) := by
  have hgives : m.world.givesKey (ttlKey u) e = none := by
    cases redis_step hs with
    | @serve l₁ l₂ p hi hc _ =>
      have hl : ¬ p.leases = some u := fun hl => h ⟨p, by rw [hi]; simp, hc, hl⟩
      rw [givesKey_carriesOut hc, if_neg hl]
    | expire he _ =>
      subst he
      rfl
    | same hc _ =>
      unfold World.givesKey
      rw [hc]
      rfl
  simp only [Timed.after, ← hw, hgives]

theorem leased_sets (hs : Stepped users m e m') (h : SetsKey u m e) :
    (m'.redis.expiring.get (ttlKey u)).isSome := by
  obtain ⟨p, -, hc, hl⟩ := h
  cases redis_step hs with
  | @serve l₁ l₂ q _ hc' hR =>
    have hgives := givesKey_carriesOut (u := u) hc
    rw [if_pos hl, givesKey_carriesOut hc', Option.ite_none_right_eq_some] at hgives
    rw [hR, serve_expiring, hgives.1]
    simp
  | expire he _ =>
    subst he
    cases hc
  | same hc' _ =>
    rw [hc'] at hc
    cases hc

theorem leased_serve (he : ∀ key, e ≠ .expire key) (hs : Stepped users m e m')
    (h : (m.redis.expiring.get (ttlKey u)).isSome) : (m'.redis.expiring.get (ttlKey u)).isSome := by
  cases redis_step hs with
  | @serve l₁ l₂ p _ _ hR =>
    rw [hR, serve_expiring]
    cases p.leases with
    | none => exact h
    | some v =>
      simp only [OrdMap.get_set]
      split
      · rfl
      · exact h
  | expire he' _ => exact absurd he' (he _)
  | same _ hR => exact hR ▸ h

theorem keyUntil_serve (hw : m.world = T.world) (he : ∀ key, e ≠ .expire key) (hs : Stepped users m e m')
    (hk : k ≤ T.now + leaseTime) (h : KeyUntil u k T m) : KeyUntil u k (T.after e w) m' := by
  refine ⟨leased_serve he hs h.1, ?_⟩
  by_cases hset : SetsKey u m e
  · rw [deadline_sets hw hset]
    exact hk
  · rw [deadline_other hw hs hset]
    exact h.2

theorem keyUntil_sets (hw : m.world = T.world) (hs : Stepped users m e m') (h : SetsKey u m e) :
    KeyUntil u (T.now + leaseTime) (T.after e w) m' :=
  ⟨leased_sets hs h, (deadline_sets hw h).ge⟩

end

/-! ## The invariant -/

/-- What an entry not marked alive is behind by: a tick. -/
def TrackedClient.behind (t : TrackedClient) : Nat := if t.isAlive then 0 else PING_INTERVAL

structure Kept (users : Users) (c : WebSocket) (u : String) (T : Timed) (m : Mirror) : Prop where
  world : m.world = T.world
  known : Known users m
  early : T.ticked ≤ T.now
  late : T.now ≤ T.ticked + PING_INTERVAL
  heard : ∀ t, m.clients.get c = some t → T.ticked + T.delays c ≤ T.now + t.behind
  fresh : ∀ a ∈ m.replied, a.1.leases = some u → KeyUntil u (T.now + leaseTime) T m
  lives : ∀ t, m.clients.get c = some t → t.userUid = some u → KeyUntil u T.now T m
  due : ∀ t, m.clients.get c = some t → t.userUid = some u → m.Renewing u ∨
    T.ticked + T.delays c + leaseTime ≤ T.deadlines (ttlKey u) + t.behind

section
variable {T T' : Timed}

theorem kept_start : Kept users c u Timed.start Mirror.start := by
  refine ⟨rfl, known_start users, Nat.le_refl _, Nat.zero_le _, ?_, ?_, ?_, ?_⟩
  · intro t ht
    cases ht
  · intro a ha
    cases ha
  · intro t ht
    cases ht
  · intro t ht
    cases ht

theorem kept_elapse {ms : Nat} (h : Kept users c u T m) (hp : punctual c T (.elapse ms) = true)
    (hset : T.world.settled = true) (hlate : T.now + ms ≤ T.ticked + PING_INTERVAL) :
    Kept users c u { T with now := T.now + ms } m := by
  have hsettled : m.world.settled = true := by
    rw [h.world]
    exact hset
  refine ⟨h.world, h.known, Nat.le_add_right_of_le h.early, hlate, ?_, ?_, ?_, ?_⟩
  · intro t ht
    have := h.heard t ht
    show T.ticked + T.delays c ≤ T.now + ms + t.behind
    omega
  · intro a ha hl
    exact absurd (toRedis_leases hl) (by simp [(settled_points hsettled).2 a ha])
  · intro t ht hu
    refine ⟨(h.lives t ht hu).1, ?_⟩
    have hdue := (h.due t ht hu).resolve_left (settled_renewing hsettled)
    have hget : T.world.clients.get c = some t := by
      rw [← h.world]
      exact ht
    simp only [punctual, hget, Option.all_some, Bool.or_eq_true, decide_eq_true_eq] at hp
    show T.now + ms ≤ T.deadlines (ttlKey u)
    simp only [TrackedClient.behind, leaseTime_eq, TTL_EXPIRATION_TIME, PING_INTERVAL] at hdue hp hlate
    rcases hp with hp | hp
    · rw [hp] at hdue
      simp only [if_true] at hdue
      omega
    · split at hdue
      · omega
      · omega
  · intro t ht hu
    exact (h.due t ht hu).imp_left fun h => h

theorem kept_tick (h : Kept users c u T m) (hnow : T.now = T.ticked + PING_INTERVAL) :
    Kept users c u { T.after .pingTick (m.update ping).world with ticked := T.now } (m.update ping) := by
  have hentry : ∀ t, (m.update ping).clients.get c = some t →
      t.isAlive = false ∧ ∃ t', m.clients.get c = some t' ∧ t'.isAlive = true ∧ t'.userUid = t.userUid := by
    intro t ht
    have hget : (ping m.server).clients.get c = (m.clients.get c).bind ticked :=
      ping_get (fun c t ht => (h.known.clients c t ht).1) c
    have ht' : (m.clients.get c).bind ticked = some t := hget ▸ ht
    obtain ⟨t', hget', hb⟩ := Option.bind_eq_some_iff.mp ht'
    unfold ticked at hb
    split at hb
    · obtain rfl := Option.some.inj hb
      exact ⟨rfl, t', hget', ‹_›, rfl⟩
    · cases hb
  refine ⟨rfl, known_step h.known .pingTick, Nat.le_refl _, Nat.le_add_right .., ?_, ?_, ?_, ?_⟩
  · intro t ht
    obtain ⟨hsilent, t', hget, halive, -⟩ := hentry t ht
    have hbefore := h.heard t' hget
    show T.now + T.delays c ≤ T.now + t.behind
    simp only [TrackedClient.behind, hsilent, halive, if_true, Bool.false_eq_true, if_false] at hbefore ⊢
    omega
  · intro a ha hl
    exact h.fresh a ha hl
  · intro t ht hu
    obtain ⟨-, t', hget, -, huid⟩ := hentry t ht
    exact h.lives t' hget (huid.trans hu)
  · intro t ht hu
    obtain ⟨hsilent, t', hget, halive, huid⟩ := hentry t ht
    refine (h.due t' hget (huid.trans hu)).imp_right ?_
    intro hdue
    show T.now + T.delays c + leaseTime ≤ T.deadlines (ttlKey u) + t.behind
    simp only [TrackedClient.behind, hsilent, halive, if_true, Bool.false_eq_true, if_false] at hdue ⊢
    omega

theorem kept_expire {key : String} (h : Kept users c u T m) (hs : Stepped users m (.expire key) m')
    (hk : T.deadlines key < T.now) : Kept users c u (T.after (.expire key) m'.world) m' := by
  cases hs with
  | expire hkey =>
    -- a key the socket relies on is not past its time
    have hother : ∀ w k, T.now ≤ k → KeyUntil u k T m →
        KeyUntil u k (T.after (.expire key) w)
          { m with redis := m.redis.expire key, published := m.published ++ [key] } := by
      intro w k hle hu
      have hne : ttlKey u ≠ key := by
        rintro rfl
        have := hu.2
        omega
      refine ⟨?_, hu.2⟩
      show ((m.redis.expiring.delete key).get (ttlKey u)).isSome
      rw [OrdMap.get_delete_ne _ hne]
      exact hu.1
    refine ⟨rfl, known_step h.known (.expire hkey), h.early, h.late, h.heard, ?_, ?_, h.due⟩
    · intro a ha hl
      exact hother _ _ (Nat.le_add_right ..) (h.fresh a ha hl)
    · intro t ht hu
      exact hother _ _ (Nat.le_refl _) (h.lives t ht hu)

theorem replied_sets {a : Answered} (ha : redisAnswers m.world e = true) (hs : Stepped users m e m')
    (hm : a ∈ m'.replied) (hl : a.1.leases = some u) : a ∈ m.replied ∨ SetsKey u m e := by
  cases hs with
  | @exec l₁ l₂ p hi =>
    rcases List.mem_append.mp hm with hm | hm
    · exact .inl hm
    · obtain rfl := List.mem_singleton.mp hm
      exact .inr ⟨p, by rw [hi]; simp, carriesOut_exec hi, hl⟩
  | @reject l₁ l₂ p carriedOut error hi =>
    rcases List.mem_append.mp hm with hm | hm
    · exact .inl hm
    · obtain rfl := List.mem_singleton.mp hm
      simp only [redisAnswers, issued_world hi, Option.all_some, Bool.not_eq_true'] at ha
      simp [toRedis_leases hl] at ha
  | resume hr => exact .inl (hr ▸ mem_unskip hm)
  | _ => exact .inl hm

theorem kept_serve (h : Kept users c u T m) (hu : T.untimed e = true) (hs : Stepped users m e m') :
    Kept users c u (T.after e m'.world) m' := by
  have htick : e ≠ .pingTick := by
    rintro rfl
    cases hu
  have hexpire : ∀ key, e ≠ .expire key := by
    rintro key rfl
    cases hu
  have hans : redisAnswers m.world e = true := by
    rw [h.world]
    cases e <;> first | exact hu | rfl
  have hdelay : (T.after e m'.world).delays c = if hears c m.world e = true then T.now - T.ticked else T.delays c := by
    rw [h.world]
    rfl
  have hearly := h.early
  refine ⟨rfl, known_step h.known hs, h.early, h.late, ?_, ?_, ?_, ?_⟩
  · intro t ht
    have hheard := heard_step (c := c) htick hs
    show T.ticked + (T.after e m'.world).delays c ≤ T.now + t.behind
    rw [hdelay]
    by_cases hh : hears c m.world e = true
    · rw [if_pos hh]
      omega
    · rw [if_neg hh]
      rcases hheard.kept hh with hnone | hsame
      · rw [show m'.clients.get c = none from hnone] at ht
        cases ht
      · exact h.heard t (hsame ▸ ht)
  · intro a ha hl
    rcases replied_sets hans hs ha hl with ha | hset
    · exact keyUntil_serve h.world hexpire hs (Nat.le_refl _) (h.fresh a ha hl)
    · exact keyUntil_sets h.world hs hset
  · intro t ht huid
    have hkept : ∀ k, T.now ≤ k → k ≤ T.now + leaseTime → KeyUntil u k T m →
        KeyUntil u T.now (T.after e m'.world) m' := by
      intro k hle hle' hk
      have := keyUntil_serve (w := m'.world) h.world hexpire hs hle' hk
      exact ⟨this.1, Nat.le_trans hle this.2⟩
    rcases tracked_cases htick hs ht huid with ⟨-, ht'⟩ | ⟨-, -, ⟨-, t', ht', hu'⟩ | ⟨a, ha, hl⟩⟩
    · exact hkept T.now (Nat.le_refl _) (Nat.le_add_right ..) (h.lives t ht' huid)
    · exact hkept T.now (Nat.le_refl _) (Nat.le_add_right ..) (h.lives t' ht' hu')
    · exact hkept _ (Nat.le_add_right ..) (Nat.le_refl _) (h.fresh a ha hl)
  · intro t ht huid
    show _ ∨ T.ticked + (T.after e m'.world).delays c + leaseTime ≤
      (T.after e m'.world).deadlines (ttlKey u) + t.behind
    rw [hdelay]
    rcases tracked_cases htick hs ht huid with ⟨hh, ht'⟩ | ⟨hh, halive, ⟨hrenewing, -⟩ | ⟨a, ha, hl⟩⟩
    · simp only [hh, Bool.false_eq_true, if_false]
      have hheard := h.heard t ht'
      by_cases hset : SetsKey u m e
      · right
        rw [deadline_sets h.world hset]
        omega
      · rw [deadline_other h.world hs hset]
        refine (h.due t ht' huid).imp_left ?_
        intro hr
        exact (renewing_step hr hans hs).resolve_right hset
    · exact .inl hrenewing
    · right
      have hfresh := (keyUntil_serve (w := m'.world) h.world hexpire hs (Nat.le_refl _) (h.fresh a ha hl)).2
      simp only [hh, if_true]
      omega

theorem serve_cases {e : Event} (hw : m.world = T.world) (h : T.serve users e = some T') :
    ∃ m', T' = T.after e m'.world ∧ Stepped users m e m' := by
  obtain ⟨w, hs, rfl⟩ := Option.map_eq_some_iff.mp h
  rw [← hw] at hs
  obtain ⟨m', rfl, hs'⟩ := world_step hs
  exact ⟨m', rfl, hs'⟩

theorem kept_step {e : TimedEvent} (h : ∃ m, Kept users c u T m) (hp : punctual c T e = true)
    (hs : timedStep users T e = some T') : ∃ m, Kept users c u T' m := by
  obtain ⟨m, h⟩ := h
  cases e with
  | elapse ms =>
    simp only [timedStep] at hs
    split at hs
    · rename_i hg
      obtain rfl := Option.some.inj hs
      exact ⟨m, kept_elapse h hp hg.1 hg.2.1⟩
    · cases hs
  | tick =>
    simp only [timedStep] at hs
    split at hs
    · rename_i hnow
      obtain ⟨T₁, hT₁, rfl⟩ := Option.map_eq_some_iff.mp hs
      obtain ⟨m', rfl, hm'⟩ := serve_cases h.world hT₁
      cases hm'
      exact ⟨m.update ping, kept_tick h hnow⟩
    · cases hs
  | expire key =>
    simp only [timedStep] at hs
    split at hs
    · rename_i hk
      obtain ⟨m', rfl, hm'⟩ := serve_cases h.world hs
      exact ⟨m', kept_expire h hm' hk⟩
    · cases hs
  | serve e =>
    simp only [timedStep] at hs
    split at hs
    · rename_i hu
      obtain ⟨m', rfl, hm'⟩ := serve_cases h.world hs
      exact ⟨m', kept_serve h hu hm'⟩
    · cases hs

end

end

/-- **A punctual socket keeps its user's lease.** As long as no answer of a
socket comes over `TTL_EXPIRATION_TIME` minus `PING_INTERVAL` later after its
ping than the answer before did after its own, the key of the uid it is tracked
under is there and does not expire. -/
theorem punctual_leased (users : Users) (c : WebSocket) (u : String) (es : List TimedEvent) (T : Timed)
    (hp : Along (timedStep users) (fun T e => punctual c T e = true) Timed.start es)
    (hr : run (timedStep users) Timed.start es = some T) :
    (T.world.tracksAs c u → T.world.leased u = true) ∧
      ∀ T', timedStep users T (.expire (ttlKey u)) = some T' → ¬ T.world.tracksAs c u := by
  obtain ⟨m, h⟩ : ∃ m, Kept users c u T m :=
    run_invariant (I := fun T => ∃ m, Kept users c u T m) (fun T e T' h hp hs => kept_step h hp hs)
      ⟨Mirror.start, kept_start⟩ hp hr
  have hlives : T.world.tracksAs c u → KeyUntil u T.now T m := by
    rintro ⟨t, ht, hu⟩
    rw [← h.world] at ht
    exact h.lives t ht hu
  constructor
  · intro htracked
    rw [← h.world]
    exact (hlives htracked).1
  · intro T' hs htracked
    have hdeadline := (hlives htracked).2
    simp only [timedStep] at hs
    split at hs
    · omega
    · cases hs

/-- The socket has answered the last ping when the next one is due. -/
def answersPings (c : WebSocket) (T : Timed) : TimedEvent → Bool
  | .tick => (T.world.clients.get c).all fun t => t.isAlive
  | _ => true

instance decidableTracksAs (w : World) (c : WebSocket) (u : String) : Decidable (w.tracksAs c u) :=
  decidable_of_iff ((w.clients.get c).any fun t => t.userUid = some u) <| by
    rw [Option.any_eq_true]
    simp [World.tracksAs]

/-- A user subscribes when the process starts, and answers the first ping at once. -/
def promptRun : List TimedEvent :=
  (subscribeRun 0 "a").map .serve ++ [.elapse 10000, .tick] ++ (pongRun 0).map .serve ++ [.elapse 10000, .tick]

theorem punctual_leased_prompt :
    ∃ T, run (timedStep everyUser) Timed.start promptRun = some T ∧ T.world.tracksAs 0 "a" ∧
      T.world.leased "a" = true := by
  have h : (run (timedStep everyUser) Timed.start promptRun).any (fun T => T.world.tracksAs 0 "a") = true := by
    decide +kernel
  obtain ⟨T, hr, ht⟩ := (Option.any_eq_true ..).mp h
  have htracked := of_decide_eq_true ht
  exact ⟨T, hr, htracked, (punctual_leased everyUser 0 "a" promptRun T (by decide +kernel) hr).1 htracked⟩

/-- The second answer takes 6 seconds: the key expires one second before it. -/
theorem late_answer_expires :
    ∃ T T' T'', run (timedStep everyUser) Timed.start (promptRun ++ [.elapse 5001]) = some T ∧
      T.world.tracksAs 0 "a" ∧ timedStep everyUser T (.expire (ttlKey "a")) = some T' ∧
      run (timedStep everyUser) T' ([.elapse 999] ++ (pongRun 0).map .serve ++ [.elapse 4000, .tick]) = some T'' ∧
      T''.world.tracksAs 0 "a" ∧
      Along (timedStep everyUser) (fun T e => answersPings 0 T e = true) Timed.start
        (promptRun ++ [.elapse 5001, .expire (ttlKey "a"), .elapse 999] ++ (pongRun 0).map .serve ++
          [.elapse 4000, .tick]) := by
  have h : (run (timedStep everyUser) Timed.start (promptRun ++ [.elapse 5001])).any (fun T =>
      T.world.tracksAs 0 "a" && (timedStep everyUser T (.expire (ttlKey "a"))).any fun T' =>
        (run (timedStep everyUser) T' ([.elapse 999] ++ (pongRun 0).map .serve ++ [.elapse 4000, .tick])).any fun T'' =>
          T''.world.tracksAs 0 "a") = true := by
    decide +kernel
  obtain ⟨T, hr, hT⟩ := (Option.any_eq_true ..).mp h
  obtain ⟨htracked, hexpire⟩ := Bool.and_eq_true_iff.mp hT
  obtain ⟨T', hs, hT'⟩ := (Option.any_eq_true ..).mp hexpire
  obtain ⟨T'', hr', hstill⟩ := (Option.any_eq_true ..).mp hT'
  refine ⟨T, T', T'', hr, of_decide_eq_true htracked, hs, hr', of_decide_eq_true hstill, ?_⟩
  decide +kernel

end StayApi
