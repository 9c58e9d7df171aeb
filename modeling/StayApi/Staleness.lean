import StayApi.TimedLease

/-!
# How long a silent user is online

The other side of the lease: nothing but a frame that names a user, or a pong of
a socket tracked as the user, renews it. From the last of these on the key lives
`TTL_EXPIRATION_TIME` seconds at most, and a socket survives two ticks.
-/

namespace StayApi

open WebsocketChannel UserStatusMessage

/-- The step brings word of `u`: a frame that names it, or a pong of a socket tracked as `u`. -/
def speaksFor (u : String) (T : Timed) : TimedEvent → Bool
  | .serve (.message _ data) => frameUid data = some u
  | .serve (.pong client) => (T.world.clients.get client).any fun t => t.userUid = some u
  | _ => false

/-- The step brings word of the socket. -/
def hearsOf (c : WebSocket) (T : Timed) : TimedEvent → Bool
  | .serve e => hears c T.world e
  | _ => false

def Command.looksUp (u : String) : Command → Bool
  | .poolExists id => id = u
  | _ => false

def World.lookingUp (u : String) (w : World) : Bool :=
  w.process.issued.any (fun t => t.cmd.looksUp u) || w.process.replied.any fun t => t.cmd.looksUp u

/-! ## The steps of the timed system -/

inductive TimedStepped (users : Users) (T : Timed) (m : Mirror) : TimedEvent → Timed → Mirror → Prop
  | elapse {ms : Nat} (hset : m.world.settled = true) (hlate : T.now + ms ≤ T.ticked + PING_INTERVAL)
    (hin : T.inTime ms = true) : TimedStepped users T m (.elapse ms) { T with now := T.now + ms } m
  | tick (hnow : T.now = T.ticked + PING_INTERVAL) :
    TimedStepped users T m .tick { T.after .pingTick (m.update ping).world with ticked := T.now } (m.update ping)
  | expire {key : String} {m' : Mirror} (hk : T.deadlines key < T.now) (hs : Stepped users m (.expire key) m') :
    TimedStepped users T m (.expire key) (T.after (.expire key) m'.world) m'
  | serve {e : Event} {m' : Mirror} (hu : T.untimed e = true) (hs : Stepped users m e m') :
    TimedStepped users T m (.serve e) (T.after e m'.world) m'

section
variable {users : Users} {c : WebSocket} {u : String} {T T' : Timed} {m m' : Mirror} {e : TimedEvent}

theorem timed_cases (hw : m.world = T.world) (h : timedStep users T e = some T') :
    ∃ m', TimedStepped users T m e T' m' := by
  cases e with
  | elapse ms =>
    simp only [timedStep] at h
    split at h
    · rename_i hg
      obtain rfl := Option.some.inj h
      exact ⟨m, .elapse (hw ▸ hg.1) hg.2.1 hg.2.2⟩
    · cases h
  | tick =>
    simp only [timedStep] at h
    split at h
    · rename_i hnow
      obtain ⟨T₁, hT₁, rfl⟩ := Option.map_eq_some_iff.mp h
      obtain ⟨m', rfl, hm'⟩ := serve_cases hw hT₁
      cases hm'
      exact ⟨m.update ping, .tick hnow⟩
    · cases h
  | expire key =>
    simp only [timedStep] at h
    split at h
    · rename_i hk
      obtain ⟨m', rfl, hm'⟩ := serve_cases hw h
      exact ⟨m', .expire hk hm'⟩
    · cases h
  | serve e =>
    simp only [timedStep] at h
    split at h
    · rename_i hu
      obtain ⟨m', rfl, hm'⟩ := serve_cases hw h
      exact ⟨m', .serve hu hm'⟩
    · cases h

theorem untimed_answers (hw : m.world = T.world) {e : Event} (hu : T.untimed e = true) :
    redisAnswers m.world e = true := by
  rw [hw]
  cases e <;> first | exact hu | rfl

/-- A key of a user is there after a step only if it was before, or the step sets it. -/
theorem leased_before {e : Event} (hs : Stepped users m e m') (hn : ¬ SetsKey u m e)
    (h : (m'.redis.expiring.get (ttlKey u)).isSome) : (m.redis.expiring.get (ttlKey u)).isSome := by
  cases redis_step hs with
  | @expire key _ hR =>
    rw [hR] at h
    change ((m.redis.expiring.delete key).get (ttlKey u)).isSome at h
    rw [OrdMap.get_delete] at h
    by_cases hk : ttlKey u = key
    · simp [hk] at h
    · simpa [hk] using h
  | @serve l₁ l₂ p hi hc hR =>
    rw [hR, serve_expiring] at h
    cases hl : p.leases with
    | none =>
      rw [hl] at h
      exact h
    | some v =>
      rw [hl] at h
      have hne : ttlKey u ≠ ttlKey v := by
        intro hk
        apply hn
        exact ⟨p, by simp [hi], hc, by rw [hl, ttlKey_injective hk]⟩
      change ((m.redis.expiring.set (ttlKey v) _).get (ttlKey u)).isSome at h
      rwa [OrdMap.get_set_ne _ hne] at h
  | same _ hR => exact hR ▸ h

/-! ## The key and the clock -/

/-- What every reachable state says of the key of `u`: its time lies within the lease, and is not past. -/
structure Clocked (users : Users) (u : String) (T : Timed) (m : Mirror) : Prop where
  world : m.world = T.world
  known : Known users m
  leased : Leased m
  early : T.ticked ≤ T.now
  late : T.now ≤ T.ticked + PING_INTERVAL
  given : (m.redis.expiring.get (ttlKey u)).isSome →
    T.deadlines (ttlKey u) ≤ T.now + leaseTime ∧ T.now ≤ T.deadlines (ttlKey u) + 1

theorem clocked_start : Clocked users u Timed.start Mirror.start := by
  refine ⟨rfl, known_start users, ?_, Nat.le_refl _, Nat.zero_le _, ?_⟩
  · intro v h
    cases h
  · intro h
    cases h

theorem clocked_event {e : Event} (w : World) (h : Clocked users u T m) (hs : Stepped users m e m')
    (hl : (m'.redis.expiring.get (ttlKey u)).isSome) :
    (T.after e w).deadlines (ttlKey u) ≤ T.now + leaseTime ∧ T.now ≤ (T.after e w).deadlines (ttlKey u) + 1 := by
  by_cases hset : SetsKey u m e
  · rw [deadline_sets h.world hset]
    omega
  · rw [deadline_other h.world hs hset]
    exact h.given (leased_before hs hset hl)

theorem clocked_step (hu : ∀ u, users u = .ok (some true) → ':' ∉ u.toList) (h : Clocked users u T m)
    (hs : TimedStepped users T m e T' m') : Clocked users u T' m' := by
  have hearly := h.early
  cases hs with
  | @elapse ms hset hlate hin =>
    refine ⟨h.world, h.known, h.leased, Nat.le_add_right_of_le h.early, hlate, ?_⟩
    intro hl
    have hkey : ttlKey u ∈ T.world.redis.expiring.keys := by
      rw [OrdMap.mem_keys, ← h.world]
      exact hl
    have hdeadline := of_decide_eq_true (List.all_eq_true.mp hin _ hkey)
    have hgiven := h.given hl
    show T.deadlines (ttlKey u) ≤ T.now + ms + leaseTime ∧ T.now + ms ≤ T.deadlines (ttlKey u) + 1
    omega
  | tick hnow =>
    refine ⟨rfl, known_step h.known .pingTick, leased_step h.known hu h.leased rfl .pingTick, Nat.le_refl _,
      Nat.le_add_right .., ?_⟩
    intro hl
    exact clocked_event (m.update ping).world h .pingTick hl
  | expire hk hs =>
    exact ⟨rfl, known_step h.known hs, leased_step h.known hu h.leased rfl hs, h.early, h.late,
      fun hl => clocked_event _ h hs hl⟩
  | serve hun hs =>
    exact ⟨rfl, known_step h.known hs, leased_step h.known hu h.leased (untimed_answers h.world hun) hs, h.early,
      h.late, fun hl => clocked_event _ h hs hl⟩

/-! ## Without word of the user -/

/-- The uid that a handler here may still set the key of. -/
def Point.renewing : Point → Option String
  | .lookup _ _ _ uid _ => some uid
  | .subscribeHSet _ _ uid _ => some uid
  | .subscribeSet _ _ uid _ => some uid
  | .pongHSet _ uid => some uid
  | .pongSet _ uid => some uid
  | _ => none

structure Unrenewed (u : String) (m : Mirror) : Prop where
  issued : ∀ p ∈ m.issued, p.renewing ≠ some u
  replied : ∀ a ∈ m.replied, a.1.renewing ≠ some u

theorem leases_renewing {p : Point} (h : p.leases = some u) : p.renewing = some u := by
  cases p <;> first | exact h | cases h

theorem trackMove_renewing {client : WebSocket} {data : RawData} {uid : Option String} {reset : Bool}
    {info : BroadcastUserStatusInfo} {s : Server} :
    ∀ p ∈ (trackMove client data uid reset info s).suspended, p.renewing = none := by
  unfold trackMove
  split <;> simp [Point.renewing]

theorem unsubscribeMove_renewing {client : WebSocket} {data : RawData} {uid : String} {s : Server} :
    ∀ p ∈ (unsubscribeMove client data uid s).suspended, p.renewing = none := by
  unfold unsubscribeMove
  split <;> simp [Point.renewing]

theorem messageMove_renewing {client : WebSocket} {data : RawData} {s : Server} :
    ∀ p ∈ (messageMove client data s).suspended, p.renewing = some u → frameUid data = some u := by
  intro p hp hu
  unfold messageMove at hp
  cases hr : request data with
  | refused => simp [hr] at hp
  | unknownChannel => simp [hr] at hp
  | user connectType uid reset =>
    simp only [hr, List.mem_singleton] at hp
    subst hp
    simpa [frameUid, hr, Point.renewing] using hu
  | guest connectType =>
    simp only [hr] at hp
    cases hk : kindOf connectType with
    | other => simp [hk] at hp
    | subscribe =>
      simp only [hk] at hp
      rw [trackMove_renewing p hp] at hu
      cases hu
    | unsubscribe =>
      simp only [hk, guestUnsubscribeMove] at hp
      split at hp <;> simp at hp

theorem pongMove_renewing {client : WebSocket} {s : Server} :
    ∀ p ∈ (pongMove client s).suspended, p.renewing = some u →
      (s.clients.get client).any (fun t => t.userUid = some u) = true := by
  intro p hp hu
  unfold pongMove at hp
  cases ht : s.clients.get client with
  | none => simp [ht] at hp
  | some t =>
    simp only [ht] at hp
    cases huid : t.userUid with
    | none => simp [huid] at hp
    | some uid =>
      simp only [huid, List.mem_singleton] at hp
      subst hp
      simpa [Point.renewing, huid] using hu

theorem next_renewing {a : Answered} {s : Server} :
    ∀ p ∈ (a.1.next a.2 s).suspended, p.renewing = some u → a.1.renewing = some u := by
  obtain ⟨q, r⟩ := a
  intro p hp hu
  cases q with
  | lookup client data connectType uid reset =>
    cases r with
    | error error => simp [Point.next] at hp
    | ok userExists =>
      simp only [Point.next, lookupMove] at hp
      rcases userExists with _ | _ | _
      · simp at hp
      · simp at hp
      · cases hk : kindOf connectType with
        | other => simp [hk] at hp
        | subscribe =>
          simp only [hk, List.mem_singleton] at hp
          subst hp
          exact hu
        | unsubscribe =>
          simp only [hk] at hp
          rw [unsubscribeMove_renewing p hp] at hu
          cases hu
  | subscribeHSet client data uid reset =>
    cases r with
    | error error => simp [Point.next] at hp
    | ok v =>
      simp only [Point.next, List.mem_singleton] at hp
      subst hp
      exact hu
  | subscribeSet client data uid reset =>
    cases r with
    | error error => simp [Point.next] at hp
    | ok v =>
      simp only [Point.next] at hp
      rw [trackMove_renewing p hp] at hu
      cases hu
  | pongHSet client uid =>
    cases r with
    | error error => simp [Point.next] at hp
    | ok v =>
      simp only [Point.next, List.mem_singleton] at hp
      subst hp
      exact hu
  | expiryHDel key =>
    cases r with
    | error error => simp [Point.next] at hp
    | ok v =>
      simp only [Point.next, expiryMove] at hp
      split at hp <;> simp at hp
  | snapshot client data => cases r <;> simp [Point.next] at hp
  | unsubscribeHDel client data uid => cases r <;> simp [Point.next] at hp
  | pongSet client uid => simp [Point.next] at hp

theorem unrenewed_turn {t : Move} (h : Unrenewed u m) (ht : ∀ p ∈ t.suspended, p.renewing ≠ some u) :
    Unrenewed u (m.turn t) :=
  ⟨turn_issued h.issued ht, h.replied⟩

theorem unrenewed_answered {l₁ l₂ : List Point} {a : Answered} {R : Redis} (hi : m.issued = l₁ ++ a.1 :: l₂)
    (h : Unrenewed u m) : Unrenewed u (m.answered l₁ l₂ R a) :=
  ⟨answered_issued hi h.issued, answered_replied h.replied (h.issued a.1 (by simp [hi]))⟩

theorem unrenewed_event {e : Event} (hw : m.world = T.world) (h : Unrenewed u m)
    (hq : speaksFor u T (.serve e) = false) (hs : Stepped users m e m') : Unrenewed u m' := by
  cases hs with
  | @message client data _ =>
    apply unrenewed_turn h
    intro p hp hu
    have := messageMove_renewing p hp hu
    simp [speaksFor, this] at hq
  | @pong client _ =>
    apply unrenewed_turn h
    intro p hp hu
    have := pongMove_renewing p hp hu
    rw [show m.server = T.world.server from congrArg World.server hw] at this
    exact absurd this (by simpa [speaksFor, World.clients] using hq)
  | disconnect _ => exact ⟨h.issued, h.replied⟩
  | pingTick => exact ⟨h.issued, h.replied⟩
  | expire _ => exact ⟨h.issued, h.replied⟩
  | expireOther _ => exact ⟨h.issued, h.replied⟩
  | @deliver l₁ l₂ key _ =>
    have hr : Unrenewed u { m with published := l₁ ++ l₂ } := ⟨h.issued, h.replied⟩
    apply unrenewed_turn hr
    intro p hp
    simp only [expiredMove] at hp
    split at hp
    · simp [List.mem_singleton.mp hp, Point.renewing]
    · cases hp
  | exec hi => exact unrenewed_answered (a := ⟨_, _⟩) hi h
  | reject hi => exact unrenewed_answered (a := ⟨_, _⟩) hi h
  | @resume l₁ l₂ a hr =>
    refine ⟨turn_issued h.issued fun p hp hu => ?_, resumed_replied hr h.replied⟩
    exact h.replied a (by simp [hr]) (next_renewing p hp hu)

theorem unrenewed_setsKey {e : Event} (h : Unrenewed u m) : ¬ SetsKey u m e := by
  rintro ⟨p, hp, -, hl⟩
  exact h.issued p hp (leases_renewing hl)

/-- Without word of `u` since `start`, its key ends with the lease it had then. -/
structure Unspoken (users : Users) (u : String) (start : Nat) (T : Timed) (m : Mirror) : Prop where
  clocked : Clocked users u T m
  unrenewed : Unrenewed u m
  ends : (m.redis.expiring.get (ttlKey u)).isSome → T.deadlines (ttlKey u) ≤ start + leaseTime

theorem unspoken_event {start : Nat} {e : Event} (w : World) (h : Unspoken users u start T m)
    (hs : Stepped users m e m') (hl : (m'.redis.expiring.get (ttlKey u)).isSome) :
    (T.after e w).deadlines (ttlKey u) ≤ start + leaseTime := by
  have hset : ¬ SetsKey u m e := unrenewed_setsKey h.unrenewed
  rw [deadline_other h.clocked.world hs hset]
  exact h.ends (leased_before hs hset hl)

theorem unspoken_step (hu : ∀ u, users u = .ok (some true) → ':' ∉ u.toList) {start : Nat}
    (h : Unspoken users u start T m) (hq : speaksFor u T e = false) (hs : TimedStepped users T m e T' m') :
    Unspoken users u start T' m' := by
  have hc := clocked_step hu h.clocked hs
  cases hs with
  | elapse hset hlate hin => exact ⟨hc, h.unrenewed, h.ends⟩
  | tick hnow => exact ⟨hc, ⟨h.unrenewed.issued, h.unrenewed.replied⟩, unspoken_event (m.update ping).world h .pingTick⟩
  | expire hk hs =>
    exact ⟨hc, unrenewed_event h.clocked.world h.unrenewed rfl hs, unspoken_event _ h hs⟩
  | serve hun hs => exact ⟨hc, unrenewed_event h.clocked.world h.unrenewed hq hs, unspoken_event _ h hs⟩

theorem unrenewed_settled (hset : m.world.settled = true) (hl : m.world.lookingUp u = false) : Unrenewed u m := by
  obtain ⟨hissued, hreplied⟩ := settled_points hset
  simp only [World.lookingUp, Bool.or_eq_false_iff, List.any_eq_false] at hl
  constructor
  · intro p hp hu
    have hc := hissued p hp
    have hn := hl.1 p.thread (List.mem_map.mpr ⟨p, hp, rfl⟩)
    cases p <;> simp_all [Point.renewing, Command.looksUp, Command.toRedis]
  · intro a ha hu
    have hc := hreplied a ha
    have hn := hl.2 ⟨a.1.thread, a.2⟩ (List.mem_map.mpr ⟨a, ha, rfl⟩)
    obtain ⟨p, r⟩ := a
    cases p <;> simp_all [Point.renewing, Command.looksUp, Command.toRedis]

/-- Past the lease, the hash holds `u` only while its event or a command is under way. -/
theorem unspoken_offline {start : Nat} (h : Unspoken users u start T m) (hset : m.world.settled = true)
    (hp : ttlKey u ∉ m.published) (hlate : start + leaseTime + 1 < T.now) : m.hash.get u = none := by
  obtain ⟨hissued, -⟩ := settled_points hset
  by_contra hg
  cases h.clocked.leased u (Option.isSome_iff_ne_none.mpr hg) with
  | leased hl =>
    have hends := h.ends hl
    have hgiven := h.clocked.given hl
    omega
  | published hl => exact hp hl
  | expiring hl => exact absurd (hissued _ hl) (by simp [Command.toRedis])
  | setting hl => exact settled_renewing hset (.inr hl)

/-! ## Without word of the socket -/

/-- Without word of `c` since the last tick was at `start`: no tick, one that left it silent, or it is gone. -/
inductive Unheard (c : WebSocket) (start : Nat) (T : Timed) (m : Mirror) : Prop
  | waiting (h : T.ticked = start)
  | silent (hs : Silent c m) (h : T.ticked = start + PING_INTERVAL)
  | gone (h : m.clients.get c = none)

theorem gone_event {e : Event} (he : e ≠ .pingTick) (hn : hears c m.world e = false) (hs : Stepped users m e m')
    (h : m.clients.get c = none) : m'.clients.get c = none := by
  rcases (heard_step he hs).kept (by rw [hn]; exact Bool.false_ne_true) with hnone | hsame
  · exact hnone
  · rw [← h]
    exact hsame

theorem unheard_event {start : Nat} {e : Event} (he : e ≠ .pingTick) (hn : hears c m.world e = false)
    (hs : Stepped users m e m') (h : Unheard c start T m) {T' : Timed} (ht : T'.ticked = T.ticked) :
    Unheard c start T' m' := by
  cases h with
  | waiting h => exact .waiting (ht.trans h)
  | silent hsilent h => exact .silent (silent_step hsilent hn he hs) (ht.trans h)
  | gone h => exact .gone (gone_event he hn hs h)

theorem unheard_step {start : Nat} (hc : Clocked users u T m) (h : Unheard c start T m) (hq : hearsOf c T e = false)
    (hs : TimedStepped users T m e T' m') : Unheard c start T' m' := by
  cases hs with
  | elapse hset hlate hin =>
    cases h with
    | waiting h => exact .waiting h
    | silent hsilent h => exact .silent hsilent h
    | gone h => exact .gone h
  | tick hnow =>
    have hget : (m.update ping).clients.get c = (m.clients.get c).bind ticked :=
      ping_get (fun c t ht => (hc.known.clients c t ht).1) c
    cases h with
    | waiting h => exact .silent (ping_silent hc.known c) (by rw [← h]; exact hnow)
    | silent hsilent _ =>
      apply Unheard.gone
      rw [hget]
      cases ht : m.clients.get c with
      | none => rfl
      | some t => simp [ticked, hsilent t ht]
    | gone h =>
      apply Unheard.gone
      rw [hget, h]
      rfl
  | expire hk hs => exact unheard_event (by simp) rfl hs h rfl
  | serve hun hs =>
    refine unheard_event ?_ ?_ hs h rfl
    · rintro rfl
      cases hun
    · rw [hc.world]
      exact hq

theorem unheard_gone {start : Nat} (hc : Clocked users u T m) (h : Unheard c start T m)
    (hlate : start + 2 * PING_INTERVAL < T.now) : m.clients.get c = none := by
  have hl := hc.late
  have hi : PING_INTERVAL = 10000 := rfl
  cases h with
  | waiting h => omega
  | silent _ h => omega
  | gone h => exact h

theorem clocked_run (hu : ∀ u, users u = .ok (some true) → ':' ∉ u.toList) {es : List TimedEvent}
    (hr : run (timedStep users) Timed.start es = some T) (u : String) : ∃ m, Clocked users u T m := by
  refine run_invariant (I := fun T => ∃ m, Clocked users u T m) ?_ ⟨Mirror.start, clocked_start⟩ (along_true _ es) hr
  rintro T e T' ⟨m, h⟩ - hs
  obtain ⟨m', hs'⟩ := timed_cases h.world hs
  exact ⟨m', clocked_step hu h hs'⟩

end

/-- **Silence shows in time.** From any reachable state on in which nothing is under way that could renew `u`: when no
frame names `u` and no socket tracked as `u` answers a ping for over `TTL_EXPIRATION_TIME` seconds, then `u` is out of
the hash as soon as the expired-event has been received and handled. And a socket not heard of for over two ping
intervals is not tracked. No uid of the table has a colon. -/
theorem silent_offline (users : Users) (hu : ∀ u, users u = .ok (some true) → ':' ∉ u.toList) (es fs : List TimedEvent)
    {T T' : Timed} (hr : run (timedStep users) Timed.start es = some T) (hr' : run (timedStep users) T fs = some T') :
    (∀ u, T.world.settled = true → T.world.lookingUp u = false →
      Along (timedStep users) (fun T e => speaksFor u T e = false) T fs →
      T.now + TTL_EXPIRATION_TIME * 1000 + 1 < T'.now → T'.world.settled = true → ttlKey u ∉ T'.world.published →
        T'.world.hash.get u = none) ∧
    ∀ c, Along (timedStep users) (fun T e => hearsOf c T e = false) T fs →
      T.now + 2 * PING_INTERVAL < T'.now → T'.world.clients.get c = none := by
  constructor
  · intro u hset hl hq hlate hset' hp
    obtain ⟨m, hc⟩ := clocked_run hu hr u
    have h₀ : Unspoken users u T.now T m := by
      refine ⟨hc, unrenewed_settled (hc.world ▸ hset) (hc.world ▸ hl), ?_⟩
      intro hleased
      exact (hc.given hleased).1
    obtain ⟨m', h⟩ : ∃ m', Unspoken users u T.now T' m' := by
      refine run_invariant (I := fun T' => ∃ m', Unspoken users u T.now T' m') ?_ ⟨m, h₀⟩ hq hr'
      rintro T₁ e T₂ ⟨m₁, h₁⟩ ho hs
      obtain ⟨m₂, hs'⟩ := timed_cases h₁.clocked.world hs
      exact ⟨m₂, unspoken_step hu h₁ ho hs'⟩
    have hw := h.clocked.world
    rw [← hw] at hset' hp ⊢
    exact unspoken_offline h hset' hp (by rwa [leaseTime_eq])
  · intro c hq hlate
    obtain ⟨m, hc⟩ := clocked_run hu hr ""
    obtain ⟨m', hc', h⟩ : ∃ m', Clocked users "" T' m' ∧ Unheard c T.ticked T' m' := by
      refine run_invariant (I := fun T' => ∃ m', Clocked users "" T' m' ∧ Unheard c T.ticked T' m') ?_
        ⟨m, hc, .waiting rfl⟩ hq hr'
      rintro T₁ e T₂ ⟨m₁, hc₁, h₁⟩ ho hs
      obtain ⟨m₂, hs'⟩ := timed_cases hc₁.world hs
      exact ⟨m₂, clocked_step hu hc₁ hs', unheard_step hc₁ h₁ ho hs'⟩
    rw [← hc'.world]
    have hearly := hc.early
    exact unheard_gone hc' h (by omega)

/-- A subscribed client is never heard of again. -/
def goneSilent : List TimedEvent :=
  [.elapse 10000, .tick, .elapse 5001, .expire (ttlKey "a"), .serve (.deliver 0), .serve (.exec 0), .serve (.resume 0),
    .elapse 4999, .tick, .elapse 1]

theorem silent_offline_subscribe :
    ∃ T T', run (timedStep (oneUser "a")) Timed.start ((subscribeRun 0 "a").map .serve) = some T ∧
      run (timedStep (oneUser "a")) T goneSilent = some T' ∧ T'.world.hash.get "a" = none ∧
      T'.world.clients.get 0 = none := by
  have h : (run (timedStep (oneUser "a")) Timed.start ((subscribeRun 0 "a").map .serve)).any (fun T =>
      T.now = 0 && T.world.settled && !T.world.lookingUp "a" &&
        decide (Along (timedStep (oneUser "a")) (fun T e => speaksFor "a" T e = false) T goneSilent) &&
        decide (Along (timedStep (oneUser "a")) (fun T e => hearsOf 0 T e = false) T goneSilent) &&
        (run (timedStep (oneUser "a")) T goneSilent).any fun T' =>
          T'.now = 20001 && T'.world.settled && T'.world.published.isEmpty) = true := by
    decide +kernel
  obtain ⟨T, hr, hT⟩ := (Option.any_eq_true ..).mp h
  simp only [Bool.and_eq_true, decide_eq_true_eq, Bool.not_eq_true'] at hT
  obtain ⟨⟨⟨⟨⟨hnow, hset⟩, hl⟩, hq⟩, hc⟩, hany⟩ := hT
  obtain ⟨T', hr', hT'⟩ := (Option.any_eq_true ..).mp hany
  simp only [Bool.and_eq_true, decide_eq_true_eq, List.isEmpty_iff] at hT'
  obtain ⟨⟨hnow', hset'⟩, hp⟩ := hT'
  obtain ⟨huser, hsocket⟩ := silent_offline (oneUser "a") (fun u h => oneUser_true h ▸ by decide) _ goneSilent hr hr'
  refine ⟨T, T', hr, hr', huser "a" hset hl hq ?_ hset' (by simp [hp]), hsocket 0 hc ?_⟩
  · rw [hnow, hnow']
    decide
  · rw [hnow, hnow']
    decide

end StayApi
