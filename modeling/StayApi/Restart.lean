import StayApi.Lease

/-!
# Stopping and starting

`onModuleInit` of the presence code, and what becomes of the hash and the TTL
keys when the process stops and another one starts on the same Redis. Redis
publishes an expired-event to those who are subscribed at that moment only.
-/

namespace StayApi

open UserStatusMessage

structure Interval where
  callback : Server → Server
  period : Nat

inductive PubSub where
  | subscribe (channel : String) (listener : String → Handler Unit)

@[reducible] def PubSub.Reply (_ : PubSub) : Type := Unit

def setInterval (callback : Server → Server) (period : Nat) :
    Async (List Interval) PubSub PubSub.Reply JsError Unit :=
  Async.modify fun intervals => intervals ++ [⟨callback, period⟩]

def UserStatusService.redisSubscriberInit (callback : String → Handler Unit) :
    Async (List Interval) PubSub PubSub.Reply JsError Unit := do
  let _ ← Async.await (.subscribe "__keyevent@0__:expired" callback)

def UserStatusMessage.onModuleInit : Async (List Interval) PubSub PubSub.Reply JsError Unit := do
  setInterval ping PING_INTERVAL
  UserStatusService.redisSubscriberInit handleRedisExpiration

/-- A process at its start-up. It has no sockets yet: the server listens once
`onModuleInit` has completed. -/
structure Startup where
  world : World
  init : Process Unit (List Interval) PubSub PubSub.Reply JsError
  subscriptions : List PubSub

namespace Startup

def begin (R : Redis) : Startup := ⟨⟨R, [], .start .start⟩, .call () onModuleInit.detached (.start []), []⟩

def listening (S : Startup) : Bool :=
  S.subscriptions.any fun | .subscribe channel _ => channel = "__keyevent@0__:expired"

def completed (S : Startup) : Bool :=
  S.init.issued.isEmpty && S.init.replied.isEmpty && S.init.unhandled.isEmpty

/-- What can happen to the process meanwhile. Replies come in the order of the
commands, and that of `onModuleInit`'s command comes first. -/
def allows (S : Startup) : Event → Bool
  | .pingTick => true
  | .deliver _ => true
  | .exec _ => true
  | .expire _ => S.listening
  | .expireOther _ => S.listening
  | _ => false

end Startup

inductive Deployment where
  | stopped (R : Redis)
  | starting (S : Startup)
  | running (w : World)

inductive LifeEvent where
  | start
  /-- Redis carries out `onModuleInit`'s `subscribe`. -/
  | subscribe
  /-- The reply to it arrives. -/
  | subscribed
  | serve (e : Event)
  /-- The process ends, with everything it holds. -/
  | stop
  /-- A key expires while nobody listens. -/
  | expireUnheard (key : String)

def lifeStep (users : Users) : Deployment → LifeEvent → Option Deployment
  | .stopped R, .start => some (.starting (.begin R))
  | .stopped R, .expireUnheard key =>
    if (R.expiring.get key).isSome then some (.stopped (R.expire key)) else none
  | .starting S, .expireUnheard key =>
    if (S.world.redis.expiring.get key).isSome && !S.listening then
      some (.starting { S with world := { S.world with redis := S.world.redis.expire key } })
    else none
  | .starting S, .subscribe =>
    (S.init.answer (fun c l => some (l ++ [c], .ok ())) 0 S.subscriptions).map fun (l, P) =>
      .starting { S with subscriptions := l, init := P }
  | .starting S, .subscribed =>
    (S.init.resume 0).map fun P =>
      let S' := { S with init := P }
      if S'.completed then .running S'.world else .starting S'
  | .starting S, .serve e =>
    if S.allows e then (step users S.world e).map fun w => .starting { S with world := w } else none
  | .starting S, .stop => some (.stopped S.world.redis)
  | .running w, .serve e => (step users w e).map .running
  | .running w, .stop => some (.stopped w.redis)
  | _, _ => none

/-! ## A process that has only expiries to handle -/

structure Booting (users : Users) (m : Mirror) : Prop where
  known : Known users m
  issued : ∀ p ∈ m.issued, ∃ key, p = .expiryHDel key
  replied : ∀ a ∈ m.replied, ∃ key, a.1 = .expiryHDel key

section
variable {users : Users} {u : String} {S : Startup} {m m' : Mirror} {e : Event}

theorem booting_step (h : Booting users m) (ha : S.allows e = true) (hs : Stepped users m e m') :
    Booting users m' := by
  refine ⟨known_step h.known hs, ?_, ?_⟩
  · cases hs with
    | pingTick => exact h.issued
    | expire _ => exact h.issued
    | expireOther _ => exact h.issued
    | @deliver l₁ l₂ key _ =>
      refine turn_issued h.issued ?_
      intro p hp
      exact ⟨key, (expiredMove_suspended hp).2⟩
    | exec hi => exact answered_issued hi h.issued
    | _ => cases ha
  · cases hs with
    | pingTick => exact h.replied
    | expire _ => exact h.replied
    | expireOther _ => exact h.replied
    | deliver _ => exact h.replied
    | @exec l₁ l₂ p hi =>
      refine answered_replied h.replied ?_
      apply h.issued
      rw [hi]
      simp
    | _ => cases ha

theorem setting_booting (h : Booting users m) : ¬ m.Setting u := by
  rintro (⟨a, ha, hs, -⟩ | ⟨p, hp, hl⟩)
  · obtain ⟨key, he⟩ := h.replied a ha
    rw [he] at hs
    cases hs
  · obtain ⟨key, rfl⟩ := h.issued p hp
    cases hl

/-- Nothing at start-up gives `u` a key or an event that it has not. -/
theorem covered_before (h : Booting users m) (ha : S.allows e = true) (hs : Stepped users m e m')
    (hcov : m'.Covered u) : m.Covered u := by
  have hb' := booting_step h ha hs
  cases hcov with
  | setting hset => exact absurd hset (setting_booting hb')
  | leased hl =>
    cases hs with
    | pingTick => exact .leased hl
    | @expire key _ =>
      change ((m.redis.expiring.delete key).get (ttlKey u)).isSome at hl
      rw [OrdMap.get_delete] at hl
      split at hl
      · cases hl
      · exact .leased hl
    | expireOther _ => exact .leased hl
    | deliver _ => exact .leased hl
    | @exec l₁ l₂ p hi =>
      obtain ⟨key, rfl⟩ := h.issued p (by rw [hi]; simp)
      exact .leased hl
    | _ => cases ha
  | published hp =>
    cases hs with
    | pingTick => exact .published hp
    | @expire key hk =>
      rcases List.mem_append.mp hp with hp | hp
      · exact .published hp
      · exact .leased (List.mem_singleton.mp hp ▸ hk)
    | @expireOther key hk =>
      rcases List.mem_append.mp hp with hp | hp
      · exact .published hp
      · rw [← List.mem_singleton.mp hp, startsWith_ttlKey] at hk
        cases hk
    | deliver hp' => exact .published (hp' ▸ mem_unskip hp)
    | exec _ => exact .published hp
    | _ => cases ha
  | expiring he =>
    cases hs with
    | pingTick => exact .expiring he
    | expire _ => exact .expiring he
    | expireOther _ => exact .expiring he
    | @deliver l₁ l₂ key hp =>
      rcases List.mem_append.mp he with he | he
      · exact .expiring he
      · obtain rfl := Point.expiryHDel.inj (expiredMove_suspended he).2
        refine .published ?_
        rw [hp]
        simp
    | exec hi => exact .expiring (hi ▸ mem_unskip he)
    | _ => cases ha

theorem covered_iff (h : Booting users m) : m.Covered u ↔
    m.world.leased u = true ∨ ttlKey u ∈ m.world.published ∨ m.world.handlingExpiry (ttlKey u) := by
  constructor
  · intro hcov
    cases hcov with
    | leased hl => exact .inl hl
    | published hp => exact .inr (.inl hp)
    | expiring he => exact .inr (.inr (handlingExpiry_of_mirror he))
    | setting hs => exact absurd hs (setting_booting h)
  · rintro (hl | hp | ⟨t, ht, ho⟩)
    · exact .leased hl
    · exact .published hp
    · obtain ⟨p, hp, rfl⟩ := List.mem_map.mp ht
      obtain ⟨key, rfl⟩ := h.issued p hp
      obtain rfl := Origin.expired.inj ho
      exact .expiring hp

end

/-! ## Whole deployments -/

def HashKnown (users : Users) (R : Redis) : Prop :=
  ∀ u, ((R.hashes USER_STATUS_HASH_KEY).get u).isSome → users u = .ok (some true)

def fresh (R : Redis) : Mirror := ⟨R, [], .start .start⟩

theorem booting_fresh {users : Users} {R : Redis} (h : HashKnown users R) : Booting users (fresh R) := by
  refine ⟨⟨?_, ?_, ?_, ?_, h⟩, ?_, ?_⟩
  · intro c t ht
    cases ht
  · intro p hp
    cases hp
  · intro a ha
    cases ha
  · intro a ha
    cases ha
  · intro p hp
    cases hp
  · intro a ha
    cases ha

/-- What one step of a deployment can do. -/
inductive LifeStepped (users : Users) : Deployment → LifeEvent → Deployment → Prop
  | start {R : Redis} : LifeStepped users (.stopped R) .start (.starting (.begin R))
  | expireStopped {R : Redis} {key : String} :
    LifeStepped users (.stopped R) (.expireUnheard key) (.stopped (R.expire key))
  | expireStarting {S : Startup} {key : String} (hn : S.listening = false) :
    LifeStepped users (.starting S) (.expireUnheard key)
      (.starting { S with world := { S.world with redis := S.world.redis.expire key } })
  | subscribe {S : Startup} {x : List PubSub × Process Unit (List Interval) PubSub PubSub.Reply JsError}
    (hx : S.init.answer (fun c l => some (l ++ [c], .ok ())) 0 S.subscriptions = some x) :
    LifeStepped users (.starting S) .subscribe (.starting { S with subscriptions := x.1, init := x.2 })
  | subscribed {S : Startup} {P : Process Unit (List Interval) PubSub PubSub.Reply JsError}
    (hP : S.init.resume 0 = some P) :
    LifeStepped users (.starting S) .subscribed
      (if { S with init := P }.completed then .running S.world else .starting { S with init := P })
  | serveStarting {S : Startup} {f : Event} {w : World} (ha : S.allows f = true) (hw : step users S.world f = some w) :
    LifeStepped users (.starting S) (.serve f) (.starting { S with world := w })
  | stopStarting {S : Startup} : LifeStepped users (.starting S) .stop (.stopped S.world.redis)
  | serveRunning {w w' : World} {f : Event} (hw : step users w f = some w') :
    LifeStepped users (.running w) (.serve f) (.running w')
  | stopRunning {w : World} : LifeStepped users (.running w) .stop (.stopped w.redis)

theorem lifeStep_cases {users : Users} {D D' : Deployment} {e : LifeEvent} (h : lifeStep users D e = some D') :
    LifeStepped users D e D' := by
  cases D with
  | stopped R =>
    cases e with
    | start => cases h; exact .start
    | expireUnheard key =>
      simp only [lifeStep] at h
      split at h
      · cases h; exact .expireStopped
      · cases h
    | _ => cases h
  | starting S =>
    cases e with
    | expireUnheard key =>
      simp only [lifeStep] at h
      split at h
      · rename_i hk
        have hn : S.listening = false := by
          simp only [Bool.and_eq_true, Bool.not_eq_true'] at hk
          exact hk.2
        cases h; exact .expireStarting hn
      · cases h
    | subscribe =>
      obtain ⟨x, hx, rfl⟩ := Option.map_eq_some_iff.mp h
      exact .subscribe hx
    | subscribed =>
      obtain ⟨P, hP, rfl⟩ := Option.map_eq_some_iff.mp h
      exact .subscribed hP
    | serve f =>
      simp only [lifeStep] at h
      split at h
      · rename_i ha
        obtain ⟨w, hw, rfl⟩ := Option.map_eq_some_iff.mp h
        exact .serveStarting ha hw
      · cases h
    | stop => cases h; exact .stopStarting
    | start => cases h
  | running w =>
    cases e with
    | serve f =>
      obtain ⟨w', hw, rfl⟩ := Option.map_eq_some_iff.mp h
      exact .serveRunning hw
    | stop => cases h; exact .stopRunning
    | _ => cases h

inductive LifeKnown (users : Users) : Deployment → Prop
  | stopped {R : Redis} (h : HashKnown users R) : LifeKnown users (.stopped R)
  | starting {S : Startup} {m : Mirror} (hm : m.world = S.world) (h : Known users m) : LifeKnown users (.starting S)
  | running {m : Mirror} (h : Known users m) : LifeKnown users (.running m.world)

section
variable {users : Users} {u : String} {D D' : Deployment} {e : LifeEvent}

theorem known_expire {m : Mirror} (h : Known users m) (key : String) :
    Known users { m with redis := m.redis.expire key } := ⟨h.clients, h.issued, h.replied, h.truthful, h.hash⟩

theorem lifeKnown_step (h : LifeKnown users D) (hs : LifeStepped users D e D') : LifeKnown users D' := by
  cases hs with
  | @start R =>
    cases h with
    | stopped h => exact .starting (m := fresh R) rfl (booting_fresh h).known
  | expireStopped =>
    cases h with
    | stopped h => exact .stopped h
  | @expireStarting S key _ =>
    cases h with
    | starting hm h =>
      exact .starting (congrArg (fun w : World => { w with redis := w.redis.expire key }) hm) (known_expire h key)
  | subscribe _ =>
    cases h with
    | starting hm h => exact .starting hm h
  | subscribed _ =>
    cases h with
    | starting hm h =>
      split
      · rw [← hm]
        exact .running h
      · exact .starting hm h
  | serveStarting _ hw =>
    cases h with
    | starting hm h =>
      rw [← hm] at hw
      obtain ⟨m', rfl, hs'⟩ := world_step hw
      exact .starting rfl (known_step h hs')
  | stopStarting =>
    cases h with
    | starting hm h =>
      rw [← hm]
      exact .stopped h.hash
  | serveRunning hw =>
    cases h with
    | running h =>
      obtain ⟨m', rfl, hs'⟩ := world_step hw
      exact .running (known_step h hs')
  | stopRunning =>
    cases h with
    | running h => exact .stopped h.hash

/-- A process whose `subscribe` Redis has not carried out has received nothing. -/
structure Deaf (S : Startup) (m : Mirror) : Prop where
  init : S.init = (Startup.begin .empty).init
  subscriptions : S.subscriptions = []
  published : m.published = []
  issued : m.issued = []

/-- From the stop of a process to the end of the next one's `onModuleInit`; `G`
says that the key of `u` was there at the stop and has not been lost since. -/
inductive Restarted (users : Users) (u : String) (G : Prop) : Deployment → Prop
  | stopped {R : Redis} (h : HashKnown users R) (hl : (R.expiring.get (ttlKey u)).isSome ↔ G) :
    Restarted users u G (.stopped R)
  | deaf {S : Startup} {m : Mirror} (hm : m.world = S.world) (h : Booting users m) (hd : Deaf S m)
    (hl : (m.redis.expiring.get (ttlKey u)).isSome ↔ G) : Restarted users u G (.starting S)
  | listening {S : Startup} {m : Mirror} (hm : m.world = S.world) (h : Booting users m) (hS : S.listening = true)
    (hc : m.Covered u → G) (hg : G → (m.hash.get u).isSome → m.Covered u) : Restarted users u G (.starting S)
  | running {w : World} : Restarted users u G (.running w)

theorem covered_deaf {S : Startup} {m : Mirror} (h : Booting users m) (hd : Deaf S m) :
    m.Covered u ↔ (m.redis.expiring.get (ttlKey u)).isSome := by
  constructor
  · intro hcov
    cases hcov with
    | leased hl => exact hl
    | published hp =>
      rw [hd.published] at hp
      cases hp
    | expiring he =>
      rw [hd.issued] at he
      cases he
    | setting hs => exact absurd hs (setting_booting h)
  · intro hl
    exact .leased hl

theorem lost_expire {R : Redis} {G : Prop} (key : String) (hl : (R.expiring.get (ttlKey u)).isSome ↔ G) :
    ((R.expire key).expiring.get (ttlKey u)).isSome ↔ G ∧ key ≠ ttlKey u := by
  show ((R.expiring.delete key).get (ttlKey u)).isSome ↔ _
  rw [OrdMap.get_delete]
  by_cases hk : ttlKey u = key
  · simp [hk]
  · simp [hk, hl, Ne.symm hk]

theorem subscriptions_answer {S : Startup} {x : List PubSub × Process Unit (List Interval) PubSub PubSub.Reply JsError}
    (h : S.init.answer (fun c l => some (l ++ [c], .ok ())) 0 S.subscriptions = some x) :
    ∃ c, x.1 = S.subscriptions ++ [c] := by
  unfold Process.answer at h
  cases hi : S.init.issued[0]? with
  | none => simp [hi] at h
  | some t =>
    simp only [hi, Option.some.injEq] at h
    exact ⟨t.cmd, by rw [← h]⟩

theorem deaf_listening {S : Startup} {m : Mirror} (hd : Deaf S m) : S.listening = false := by
  unfold Startup.listening
  rw [hd.subscriptions]
  rfl

theorem deaf_step {S : Startup} {m m' : Mirror} {f : Event} (hd : Deaf S m) (ha : S.allows f = true)
    (hs : Stepped users m f m') : Deaf S m' ∧ m'.redis = m.redis := by
  have hn := deaf_listening hd
  cases hs with
  | pingTick => exact ⟨⟨hd.init, hd.subscriptions, hd.published, hd.issued⟩, rfl⟩
  | deliver hp =>
    rw [hd.published] at hp
    simp at hp
  | exec hi =>
    rw [hd.issued] at hi
    simp at hi
  | expire _ =>
    rw [Startup.allows, hn] at ha
    cases ha
  | expireOther _ =>
    rw [Startup.allows, hn] at ha
    cases ha
  | _ => cases ha

theorem restarted_kept {G : Prop} (hne : e ≠ .expireUnheard (ttlKey u)) (h : Restarted users u G D) :
    Restarted users u (G ∧ e ≠ .expireUnheard (ttlKey u)) D := by
  have hG : G = (G ∧ e ≠ .expireUnheard (ttlKey u)) := by simp [hne]
  rw [← hG]
  exact h

theorem deaf_lives {G : Prop} {S : Startup} {m : Mirror} (hm : m.world = S.world) (h : Booting users m) (hd : Deaf S m)
    (hl : (m.redis.expiring.get (ttlKey u)).isSome ↔ G) (he : e ≠ .stop) (hs : LifeStepped users (.starting S) e D') :
    Restarted users u (G ∧ e ≠ .expireUnheard (ttlKey u)) D' := by
  cases hs with
  | @expireStarting _ key _ =>
    refine .deaf (congrArg (fun w : World => { w with redis := w.redis.expire key }) hm)
      ⟨known_expire h.known key, h.issued, h.replied⟩ ⟨hd.init, hd.subscriptions, hd.published, hd.issued⟩ ?_
    simpa using lost_expire key hl
  | subscribe hx =>
    rw [hd.init, hd.subscriptions] at hx
    obtain rfl := Option.some.inj hx
    refine restarted_kept (by simp) (.listening hm h rfl ?_ ?_)
    · intro hcov
      exact hl.mp ((covered_deaf h hd).mp hcov)
    · intro hG _
      exact .leased (hl.mpr hG)
  | subscribed hP =>
    rw [hd.init] at hP
    cases hP
  | serveStarting ha hw =>
    rw [← hm] at hw
    obtain ⟨m', rfl, hs'⟩ := world_step hw
    obtain ⟨hd', hR⟩ := deaf_step hd ha hs'
    refine restarted_kept (by simp) (.deaf rfl (booting_step h ha hs') ?_ (hR ▸ hl))
    exact ⟨hd'.init, hd'.subscriptions, hd'.published, hd'.issued⟩
  | stopStarting => exact absurd rfl he

theorem listening_lives {G : Prop} {S : Startup} {m : Mirror} (hu : ∀ v, users v = .ok (some true) → ':' ∉ v.toList)
    (hm : m.world = S.world) (h : Booting users m) (hS : S.listening = true) (hc : m.Covered u → G)
    (hg : G → (m.hash.get u).isSome → m.Covered u) (he : e ≠ .stop) (hs : LifeStepped users (.starting S) e D') :
    Restarted users u (G ∧ e ≠ .expireUnheard (ttlKey u)) D' := by
  cases hs with
  | expireStarting hn =>
    rw [hS] at hn
    cases hn
  | subscribe hx =>
    obtain ⟨c, hl⟩ := subscriptions_answer hx
    refine restarted_kept (by simp) (.listening hm h ?_ hc hg)
    unfold Startup.listening at hS ⊢
    simp [hl, List.any_append, hS]
  | subscribed _ =>
    refine restarted_kept (by simp) ?_
    split
    · exact .running
    · exact .listening hm h hS hc hg
  | @serveStarting _ f _ ha hw =>
    rw [← hm] at hw
    obtain ⟨m', rfl, hs'⟩ := world_step hw
    refine restarted_kept (by simp) (.listening rfl (booting_step h ha hs') hS ?_ ?_)
    · intro hcov
      exact hc (covered_before h ha hs' hcov)
    · intro hG
      have ho : redisAnswers m.world f = true := by cases f <;> first | rfl | cases ha
      exact covered_step h.known hu (hg hG) ho hs'
  | stopStarting => exact absurd rfl he

theorem restarted_step {G : Prop} (hu : ∀ v, users v = .ok (some true) → ':' ∉ v.toList) (h : Restarted users u G D)
    (he : e ≠ .stop) (hs : LifeStepped users D e D') : Restarted users u (G ∧ e ≠ .expireUnheard (ttlKey u)) D' := by
  cases h with
  | @stopped R h hl =>
    cases hs with
    | start => exact restarted_kept (by simp) (.deaf (m := fresh R) rfl (booting_fresh h) ⟨rfl, rfl, rfl, rfl⟩ hl)
    | @expireStopped _ key =>
      refine .stopped h ?_
      simpa using lost_expire key hl
  | deaf hm h hd hl => exact deaf_lives hm h hd hl he hs
  | listening hm h hS hc hg => exact listening_lives hu hm h hS hc hg he hs
  | running =>
    cases hs with
    | serveRunning _ => exact .running
    | stopRunning => exact absurd rfl he

end

/-- **What a restart leaves of the lease invariant.** When the next process has
completed `onModuleInit`, a uid in the hash has a live TTL key, or an expired-event
that is on its way or being handled, exactly if its key was there when the last
process stopped and did not expire before Redis had the next one's subscription. -/
theorem restart_leased_iff (users : Users) (hu : ∀ v, users v = .ok (some true) → ':' ∉ v.toList)
    (es₀ es : List LifeEvent) (w₀ w : World)
    (h₀ : run (lifeStep users) (.stopped .empty) es₀ = some (.running w₀))
    (h : run (lifeStep users) (.running w₀) (.stop :: es ++ [.subscribed]) = some (.running w)) (hes : .stop ∉ es)
    (u : String) (hon : (w.hash.get u).isSome) :
    (w.leased u = true ∨ ttlKey u ∈ w.published ∨ w.handlingExpiry (ttlKey u)) ↔
      w₀.leased u = true ∧ .expireUnheard (ttlKey u) ∉ es := by
  have hknown : LifeKnown users (.running w₀) := by
    refine run_invariant (fun D e D' h _ hs => lifeKnown_step h (lifeStep_cases hs)) (.stopped ?_) (along_true _ _) h₀
    intro v hv
    cases hv
  have hhash : HashKnown users w₀.redis := by
    cases hknown with
    | running hk => exact hk.hash
  obtain ⟨D, hD, hlast⟩ := run_append.mp h
  obtain ⟨D₀, hstop, hD⟩ := run_cons hD
  obtain rfl : Deployment.stopped w₀.redis = D₀ := Option.some.inj hstop
  have hok : Along (recorded (lifeStep users)) (fun _ e => e ≠ .stop) ([], .stopped w₀.redis) es := by
    apply along_of_forall
    rintro e he rfl
    exact hes he
  -- the history says which keys were lost so far
  have hend : Restarted users u (w₀.leased u = true ∧ .expireUnheard (ttlKey u) ∉ es) D := by
    refine run_invariant (I := fun x : List LifeEvent × Deployment =>
      Restarted users u (w₀.leased u = true ∧ .expireUnheard (ttlKey u) ∉ x.1) x.2) ?_ ?_ hok (run_recorded hD)
    · intro x e x' hx hne hs
      obtain ⟨D', hD', rfl⟩ := Option.map_eq_some_iff.mp hs
      have hG : (w₀.leased u = true ∧ .expireUnheard (ttlKey u) ∉ x.1 ++ [e]) =
          ((w₀.leased u = true ∧ .expireUnheard (ttlKey u) ∉ x.1) ∧ e ≠ .expireUnheard (ttlKey u)) := by
        rw [List.mem_append, List.mem_singleton, not_or, ← and_assoc, Ne, @eq_comm _ e]
      show Restarted users u (w₀.leased u = true ∧ .expireUnheard (ttlKey u) ∉ x.1 ++ [e]) D'
      rw [hG]
      exact restarted_step hu hx hne (lifeStep_cases hD')
    · refine .stopped hhash ?_
      simp [World.leased]
  obtain ⟨D', hsub, hD'⟩ := run_cons hlast
  obtain rfl : D' = .running w := by simpa [run] using hD'
  cases hend with
  | stopped _ _ => cases hsub
  | running => cases hsub
  | deaf _ _ hd _ =>
    simp only [lifeStep, hd.init] at hsub
    cases hsub
  | @listening S m hm hb _ hc hg =>
    obtain ⟨P, -, hP⟩ := Option.map_eq_some_iff.mp hsub
    dsimp only at hP
    split at hP
    · obtain rfl : S.world = w := Deployment.running.inj hP
      rw [← hm] at hon ⊢
      rw [← covered_iff hb]
      exact ⟨hc, fun hG => hg hG hon⟩
    · cases hP

/-- A user comes online, the process stops, the key expires, and the next process starts. -/
def ghostRun : List LifeEvent := [.start, .subscribe, .subscribed] ++ (subscribeRun 0 "a").map .serve

theorem restart_leased_iff_kept :
    ∃ w₀ w, run (lifeStep (oneUser "a")) (.stopped .empty) ghostRun = some (.running w₀) ∧
      run (lifeStep (oneUser "a")) (.running w₀) [.stop, .start, .subscribe, .serve (.expire (ttlKey "a")), .subscribed] =
        some (.running w) ∧
      (w.leased "a" = true ∨ ttlKey "a" ∈ w.published ∨ w.handlingExpiry (ttlKey "a")) := by
  refine ⟨_, _, rfl, rfl, ?_⟩
  have hu : ∀ v, oneUser "a" v = .ok (some true) → ':' ∉ v.toList := fun v h => oneUser_true h ▸ by decide
  exact (restart_leased_iff (oneUser "a") hu ghostRun [.start, .subscribe, .serve (.expire (ttlKey "a"))] _ _ rfl rfl
    (by simp) "a" (by decide)).mpr ⟨by decide, by simp⟩

theorem restart_ghost :
    ∃ w₀ w, run (lifeStep (oneUser "a")) (.stopped .empty) ghostRun = some (.running w₀) ∧
      run (lifeStep (oneUser "a")) (.running w₀)
          [.stop, .expireUnheard (ttlKey "a"), .start, .subscribe, .subscribed] = some (.running w) ∧
      w.Idle ∧ (w.hash.get "a").isSome ∧ w.leased "a" = false ∧ w.published = [] := by
  refine ⟨_, _, rfl, rfl, ⟨rfl, rfl⟩, ?_, ?_, rfl⟩
  · decide
  · decide

end StayApi
