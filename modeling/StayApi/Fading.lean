import StayApi.Cluster
import StayApi.Heartbeat
import StayApi.Lease
import StayApi.Quiescence

/-!
# When the clients fall silent

Any number of server processes with one Redis. No frame, pong or disconnect
comes any more, and no key of another program expires. What is under way can
still write TTL keys, each of these expires, and its event is received and
handled in every process: each of these steps is paid for by what is left, and
when nothing more can happen no user is online.
-/

namespace StayApi

open WebsocketChannel UserStatusMessage

/-- What a process still does without the clients: commands and replies, and events received. -/
def fades : Event → Bool
  | .exec _ => true
  | .reject _ _ _ => true
  | .resume _ => true
  | .deliver _ => true
  | _ => false

namespace ClusterEvent

variable {n : Nat}

def fades : ClusterEvent n → Bool
  | .own _ e => StayApi.fades e
  | .expire _ => true
  | .expireOther _ => false

/-- Nothing comes from the clients or from another program; the heartbeat may go on. -/
def quiet (e : ClusterEvent n) : Bool :=
  e.fades || match e with
    | .own _ .pingTick => true
    | _ => false

end ClusterEvent

namespace Cluster

variable {n : Nat}

/-- No command of any process fails but the lookups. -/
def redisAnswers (C : Cluster n) : ClusterEvent n → Bool
  | .own i e => StayApi.redisAnswers (C.world i) e
  | _ => true

/-- No handler is under way, no event is to be received, and no key of the program is left. -/
def Faded (C : Cluster n) : Prop :=
  (∀ i, (C.world i).Idle ∧ (C.world i).published = []) ∧ C.store.expiring.entries = []

end Cluster

/-- The steps that an event can lead to in a process once the clients are silent, where a key set leads to `c`. -/
def fadingOf (c : Nat) : Event → Nat
  | .message _ _ => 8 + c
  | .pong _ => 4 + c
  | _ => 0

/-- Whether a handler that waits here can still set a TTL key. -/
def Point.setsLeft : Point → Nat
  | .lookup _ _ _ _ _ => 1
  | .subscribeHSet _ _ _ _ => 1
  | .subscribeSet _ _ _ _ => 1
  | .pongHSet _ _ => 1
  | .pongSet _ _ => 1
  | _ => 0

def Point.setsAfter : Point → Nat
  | .lookup _ _ _ _ _ => 1
  | .subscribeHSet _ _ _ _ => 1
  | .pongHSet _ _ => 1
  | _ => 0

def issuedSets (l : List Point) : Nat := (l.map Point.setsLeft).sum

def repliedSets (l : List Answered) : Nat := (l.map fun a => a.1.setsAfter).sum

/-- What a process has left to do: its handlers, the keys they may set, and the events to be received. -/
def Mirror.duties (c : Nat) (m : Mirror) : Nat :=
  m.work + c * (issuedSets m.issued + repliedSets m.replied) + 3 * m.published.length

def Redis.keyCount (R : Redis) : Nat := R.expiring.entries.length

theorem OrdMap.length_set {κ ν : Type} [DecidableEq κ] (m : OrdMap κ ν) (k : κ) (v : ν) :
    (m.set k v).entries.length ≤ m.entries.length + 1 := by
  have h := congrArg List.length (OrdMap.map_fst_upsert k v m.entries)
  show (OrdMap.upsert k v m.entries).length ≤ _
  rw [List.length_map] at h
  rw [h]
  split <;> simp

theorem OrdMap.length_delete {κ ν : Type} [DecidableEq κ] {m : OrdMap κ ν} {k : κ} (h : (m.get k).isSome) :
    (m.delete k).entries.length + 1 ≤ m.entries.length := by
  obtain ⟨v, hv⟩ := Option.isSome_iff_exists.mp h
  have hlt := List.length_filter_lt_length_iff_exists (p := fun e : κ × ν => decide (e.1 ≠ k)) (l := m.entries) |>.mpr
    ⟨(k, v), OrdMap.mem_of_get hv, by simp⟩
  exact hlt

section
variable {s : Server}

theorem issuedSets_append (l l' : List Point) : issuedSets (l ++ l') = issuedSets l + issuedSets l' := by
  simp [issuedSets]

theorem repliedSets_append (l l' : List Answered) : repliedSets (l ++ l') = repliedSets l + repliedSets l' := by
  simp [repliedSets]

theorem issuedSets_cons (p : Point) (l : List Point) : issuedSets (p :: l) = p.setsLeft + issuedSets l := rfl

theorem repliedSets_cons (a : Answered) (l : List Answered) :
    repliedSets (a :: l) = a.1.setsAfter + repliedSets l := rfl

theorem setsAfter_le (p : Point) : p.setsAfter ≤ p.setsLeft := by
  cases p <;> simp [Point.setsAfter, Point.setsLeft]

theorem trackMove_sets (client : WebSocket) (data : RawData) (uid : Option String) (reset : Bool)
    (info : BroadcastUserStatusInfo) : issuedSets (trackMove client data uid reset info s).suspended = 0 := by
  unfold trackMove
  split <;> rfl

theorem unsubscribeMove_sets (client : WebSocket) (data : RawData) (uid : String) :
    issuedSets (unsubscribeMove client data uid s).suspended = 0 := by
  unfold unsubscribeMove
  cases s.clients.get client <;> rfl

theorem messageMove_sets (client : WebSocket) (data : RawData) :
    issuedSets (messageMove client data s).suspended ≤ 1 := by
  unfold messageMove
  cases request data with
  | refused => exact Nat.zero_le 1
  | unknownChannel => exact Nat.zero_le 1
  | user connectType uid reset => exact Nat.le_refl 1
  | guest connectType =>
    dsimp only
    cases kindOf connectType with
    | other => exact Nat.zero_le 1
    | subscribe => exact Nat.le_trans (Nat.le_of_eq (trackMove_sets ..)) (Nat.zero_le 1)
    | unsubscribe =>
      unfold guestUnsubscribeMove
      dsimp only
      cases s.clients.get client <;> exact Nat.zero_le 1

theorem pongMove_sets (client : WebSocket) : issuedSets (pongMove client s).suspended ≤ 1 := by
  unfold pongMove
  cases s.clients.get client with
  | none => exact Nat.zero_le 1
  | some t =>
    dsimp only
    cases t.userUid with
    | none => exact Nat.zero_le 1
    | some uid => exact Nat.le_refl 1

theorem expiredMove_sets (key : String) : issuedSets (expiredMove key s).suspended = 0 := by
  unfold expiredMove
  split <;> rfl

theorem lookupMove_sets (client : WebSocket) (data : RawData) (connectType : Option Json) (uid : String)
    (reset : Option Json) (userExists : Option Bool) :
    issuedSets (lookupMove client data connectType uid reset userExists s).suspended ≤ 1 := by
  unfold lookupMove
  rcases userExists with _ | _ | _
  · exact Nat.zero_le 1
  · exact Nat.zero_le 1
  · cases kindOf connectType with
    | subscribe => exact Nat.le_refl 1
    | other => exact Nat.zero_le 1
    | unsubscribe => exact Nat.le_trans (Nat.le_of_eq (unsubscribeMove_sets ..)) (Nat.zero_le 1)

theorem next_sets (a : Answered) : issuedSets (a.1.next a.2 s).suspended ≤ a.1.setsAfter := by
  obtain ⟨p, r⟩ := a
  cases p with
  | lookup client data connectType uid reset =>
    cases r with
    | ok v => exact lookupMove_sets ..
    | error error => exact Nat.zero_le _
  | subscribeHSet client data uid reset =>
    cases r with
    | ok v => exact Nat.le_refl 1
    | error error => exact Nat.zero_le _
  | subscribeSet client data uid reset =>
    cases r with
    | ok v => exact Nat.le_of_eq (trackMove_sets ..)
    | error error => exact Nat.zero_le _
  | pongHSet client uid =>
    cases r with
    | ok v => exact Nat.le_refl 1
    | error error => exact Nat.zero_le _
  | expiryHDel key =>
    cases r with
    | ok v =>
      simp only [Point.next, expiryMove]
      split <;> exact Nat.le_refl 0
    | error error => exact Nat.le_refl 0
  | snapshot client data => cases r <;> exact Nat.le_refl 0
  | unsubscribeHDel client data uid => cases r <;> exact Nat.le_refl 0
  | pongSet client uid => exact Nat.le_refl 0

end

/-! ## What a step of a process leaves -/

section
variable {users : Users} {m m' : Mirror} {e : Event} {c : Nat}

theorem serve_keys (users : Users) (p : Point) (R : Redis) :
    (serve users p.cmd R).1.keyCount + p.setsAfter ≤ R.keyCount + p.setsLeft := by
  unfold Redis.keyCount
  rw [serve_expiring]
  cases p with
  | subscribeSet client data uid reset => exact OrdMap.length_set ..
  | pongSet client uid => exact OrdMap.length_set ..
  | _ => exact Nat.le_refl _

theorem turn_duties (t : Move) :
    (m.turn t).duties c = m.duties c + issuedWork t.suspended + c * issuedSets t.suspended := by
  have hw := turn_work (m := m) t
  unfold Mirror.duties
  rw [hw]
  show _ + c * (issuedSets (m.issued ++ t.suspended) + repliedSets m.replied) + 3 * m.published.length = _
  rw [issuedSets_append, Nat.mul_add, Nat.mul_add, Nat.mul_add]
  omega

theorem answered_duties {l₁ l₂ : List Point} {a : Answered} {R : Redis} (hi : m.issued = l₁ ++ a.1 :: l₂)
    (hR : R.keyCount + a.1.setsAfter ≤ m.redis.keyCount + a.1.setsLeft) :
    (m.answered l₁ l₂ R a).duties c + c * R.keyCount + 1 ≤ m.duties c + c * m.redis.keyCount := by
  have hw := answered_work hi R
  have hc := Nat.mul_le_mul_left c hR
  unfold Mirror.duties
  show _ + c * (issuedSets (l₁ ++ l₂) + repliedSets (m.replied ++ [a])) + 3 * m.published.length + _ + 1 ≤ _
  rw [hi, issuedSets_append, issuedSets_append, issuedSets_cons, repliedSets_append, repliedSets_cons]
  simp only [Nat.mul_add] at hc ⊢
  show _ + (_ + _ + (_ + (_ + c * 0))) + _ + _ + 1 ≤ _
  omega

theorem resumed_duties {l₁ l₂ : List Answered} {a : Answered} (hr : m.replied = l₁ ++ a :: l₂) :
    (m.resumed l₁ a l₂).duties c + 1 ≤ m.duties c := by
  have hw := resumed_work hr
  have hn := Nat.mul_le_mul_left c (next_sets (s := m.server) a)
  unfold Mirror.duties
  show _ + c * (issuedSets (m.issued ++ (a.1.next a.2 m.server).suspended) + repliedSets (l₁ ++ l₂)) +
    3 * m.published.length + 1 ≤ _
  rw [hr, issuedSets_append, repliedSets_append, repliedSets_append, repliedSets_cons]
  simp only [Nat.mul_add]
  omega

/-- A step of a process is paid for by its duties and by the keys. -/
theorem own_duties (he : e.fromRedis = false) (hs : Stepped users m e m') :
    m'.duties c + c * m'.redis.keyCount + (if fades e then 1 else 0) ≤
      m.duties c + c * m.redis.keyCount + fadingOf c e := by
  cases hs with
  | @message client data _ =>
    have hw := messageMove_work (s := m.server) client data
    have hn := Nat.mul_le_mul_left c (messageMove_sets (s := m.server) client data)
    rw [turn_duties]
    show _ + c * m.redis.keyCount + 0 ≤ _ + (8 + c)
    omega
  | @pong client _ =>
    have hw := pongMove_work (s := m.server) client
    have hn := Nat.mul_le_mul_left c (pongMove_sets (s := m.server) client)
    rw [turn_duties]
    show _ + c * m.redis.keyCount + 0 ≤ _ + (4 + c)
    omega
  | disconnect _ => exact Nat.le_refl _
  | pingTick => exact Nat.le_refl _
  | expire _ => cases he
  | expireOther _ => cases he
  | @deliver l₁ l₂ key hp =>
    have hw := expiredMove_work (s := m.server) key
    have hn := expiredMove_sets (s := m.server) key
    have hm : ({ m with published := l₁ ++ l₂ } : Mirror).duties c + 3 = m.duties c := by
      unfold Mirror.duties
      simp only [hp, List.length_append, List.length_cons]
      show m.work + c * (issuedSets m.issued + repliedSets m.replied) + _ + 3 = _
      omega
    rw [Mirror.received, turn_duties]
    show _ + issuedWork (expiredMove key m.server).suspended +
      c * issuedSets (expiredMove key m.server).suspended + c * m.redis.keyCount + 1 ≤ _ + 0
    rw [hn, Nat.mul_zero]
    omega
  | exec hi => exact answered_duties (a := ⟨_, _⟩) hi (serve_keys ..)
  | @reject l₁ l₂ p carriedOut error hi =>
    refine answered_duties (a := ⟨p, .error error⟩) hi ?_
    cases carriedOut with
    | true => exact serve_keys ..
    | false => exact Nat.add_le_add_left (setsAfter_le p) _
  | resume hr =>
    have h := resumed_duties (c := c) hr
    show _ + c * m.redis.keyCount + 1 ≤ _
    omega

end

/-! ## What a step of the processes leaves -/

section
variable {n : Nat} {users : Users} {F F' : Fleet n} {e : ClusterEvent n}

/-- A key that is set expires once, and its event is received and handled in two steps by each process. -/
def keySteps (n : Nat) : Nat := 1 + 3 * n

def Member.duties (n : Nat) (M : Member) : Nat := Mirror.duties (keySteps n) ⟨.empty, M.published, M.handlers⟩

def Fleet.stepsLeft (F : Fleet n) : Nat := F.total (Member.duties n) + keySteps n * F.store.keyCount

def ClusterEvent.fadingOf : ClusterEvent n → Nat
  | .own _ e => StayApi.fadingOf (keySteps n) e
  | .expire _ => 0
  | .expireOther _ => 3 * n

theorem stepsLeft_start (n : Nat) : (Fleet.start n).stepsLeft = 0 := by
  have h : (Fleet.start n).total (Member.duties n) = 0 := Parties.total_zero fun _ => rfl
  unfold Fleet.stepsLeft
  rw [h, Nat.zero_add]
  rfl

theorem publish_duties (n : Nat) (key : String) (M : Member) :
    Member.duties n (Member.publish key M) = Member.duties n M + 3 := by
  simp only [Member.duties, Mirror.duties, Member.publish, List.length_append, List.length_singleton]
  show Mirror.work ⟨.empty, M.published, M.handlers⟩ + _ + _ = _
  rw [Nat.mul_succ]
  rfl

theorem fleet_stepsLeft (hs : FleetStepped users F e F') :
    F'.stepsLeft + (if e.fades then 1 else 0) ≤ F.stepsLeft + e.fadingOf := by
  cases hs with
  | @own i e m he hs =>
    have hown := own_duties (c := keySteps n) he hs
    have hstep := F.total_put (Member.duties n) i m.toMember
    change (F.step i m).total (Member.duties n) + (F.mirror i).duties (keySteps n) =
      F.total (Member.duties n) + m.duties (keySteps n) at hstep
    show (F.step i m).total (Member.duties n) + keySteps n * m.redis.keyCount + (if fades e then 1 else 0) ≤
      F.total (Member.duties n) + keySteps n * (F.mirror i).redis.keyCount + fadingOf (keySteps n) e
    omega
  | @expire key hk =>
    have hd := OrdMap.length_delete hk
    have hpub := F.total_tell (publish_duties n key) (F.store.expire key)
    have hmul := Nat.mul_le_mul_left (keySteps n) hd
    have hsteps : keySteps n = 1 + 3 * n := rfl
    rw [Nat.mul_add] at hmul
    show (F.publish (F.store.expire key) key).total (Member.duties n) +
      keySteps n * (F.store.expiring.delete key).entries.length + 1 ≤
        F.total (Member.duties n) + keySteps n * F.store.expiring.entries.length + 0
    change (F.publish (F.store.expire key) key).total (Member.duties n) = _ at hpub
    omega
  | @expireOther key hk =>
    have hpub := F.total_tell (publish_duties n key) F.store
    show (F.publish F.store key).total (Member.duties n) + keySteps n * F.store.keyCount + 0 ≤
      F.total (Member.duties n) + keySteps n * F.store.keyCount + 3 * n
    change (F.publish F.store key).total (Member.duties n) = _ at hpub
    omega

/-! ## Why a user may be online -/

/-- Some process accounts for each uid in the hash. -/
def Fleet.Leased (F : Fleet n) : Prop := ∀ u, (F.hash.get u).isSome → ∃ i, (F.mirror i).Covered u

theorem fleet_leased (hk : ∀ i, Known users (F.mirror i)) (hu : ∀ u, users u = .ok (some true) → ':' ∉ u.toList)
    (h : F.Leased) (ho : F.cluster.redisAnswers e = true) (hs : FleetStepped users F e F') : F'.Leased := by
  intro u hh
  cases hs with
  | @own i e m _ hs =>
    have hown (hc : ((F.mirror i).hash.get u).isSome → (F.mirror i).Covered u) :
        ∃ j, ((F.step i m).mirror j).Covered u := by
      refine ⟨i, ?_⟩
      rw [mirror_step_self]
      exact covered_step (hk i) hu hc ho hs hh
    by_cases hb : (F.hash.get u).isSome
    · obtain ⟨j, hj⟩ := h u hb
      by_cases hij : j = i
      · subst hij
        exact hown fun _ => hj
      · -- what a process accounts for in its own state no other takes from it
        cases hj with
        | leased hl => exact hown fun _ => .leased hl
        | published hp => exact ⟨j, by rw [mirror_step_other hij]; exact .published hp⟩
        | expiring hp => exact ⟨j, by rw [mirror_step_other hij]; exact .expiring hp⟩
        | setting hp => exact ⟨j, by rw [mirror_step_other hij]; exact .setting hp⟩
    · exact hown fun hb' => absurd hb' hb
  | expire hk' =>
    obtain ⟨i, hi⟩ := h u hh
    exact ⟨i, covered_step (hk i) hu (fun _ => hi) rfl (.expire hk') hh⟩
  | expireOther hk' =>
    obtain ⟨i, hi⟩ := h u hh
    exact ⟨i, covered_step (hk i) hu (fun _ => hi) rfl (.expireOther hk') hh⟩

theorem faded_offline (h : F.Leased) (hf : F.cluster.Faded) (u : String) : F.hash.get u = none := by
  obtain ⟨hparts, hkeys⟩ := hf
  change F.store.expiring.entries = [] at hkeys
  by_contra hg
  obtain ⟨i, hi⟩ := h u (Option.isSome_iff_ne_none.mpr hg)
  obtain ⟨hidle, hpub⟩ := hparts i
  obtain ⟨hissued, hreplied⟩ := (mirror_idle (F.mirror i)).mp hidle
  change (F.mirror i).published = [] at hpub
  cases hi with
  | leased hl =>
    obtain ⟨v, hv⟩ := Option.isSome_iff_exists.mp hl
    have hmem : _ ∈ F.store.expiring.entries := OrdMap.mem_of_get hv
    rw [hkeys] at hmem
    cases hmem
  | published hl => simp [hpub] at hl
  | expiring hl => simp [hissued] at hl
  | setting hl =>
    rcases hl with ⟨a, ha, -⟩ | ⟨p, hq, -⟩
    · simp [hreplied] at ha
    · simp [hissued] at hq

/-! ## What can still happen -/

theorem own_possible {i : Fin n} {e : Event} (he : e.fromRedis = false)
    (hs : (mirrorStep users (F.mirror i) e).isSome = true) : (fleetStep users F (.own i e)).isSome = true := by
  simp only [fleetStep, he, Bool.false_eq_true, if_false, Parties.act, Option.isSome_map]
  exact hs

theorem fleet_goes_on (users : Users) (F : Fleet n) (h : ¬ F.cluster.Faded) :
    ∃ e : ClusterEvent n, e.fades = true ∧ F.cluster.redisAnswers e = true ∧ (fleetStep users F e).isSome = true := by
  by_cases hkeys : F.store.expiring.entries = []
  · have hparts : ¬ ∀ i, (F.mirror i).world.Idle ∧ (F.mirror i).published = [] := fun hp => h ⟨hp, hkeys⟩
    obtain ⟨i, hi⟩ := Classical.not_forall.mp hparts
    by_cases hidle : (F.mirror i).world.Idle
    · have hpub : (F.mirror i).published ≠ [] := fun hp => hi ⟨hidle, hp⟩
      obtain ⟨key, l, hl⟩ := List.exists_cons_of_ne_nil hpub
      exact ⟨.own i (.deliver 0), rfl, rfl, own_possible rfl (by simp [mirrorStep, hl])⟩
    · obtain ⟨e, m', he, hs, -⟩ := mirror_drains users (F.mirror i) hidle
      have hstep : (mirrorStep users (F.mirror i) e).isSome = true := Option.isSome_of_eq_some hs
      cases e with
      | exec j => exact ⟨.own i (.exec j), rfl, rfl, own_possible rfl hstep⟩
      | resume j => exact ⟨.own i (.resume j), rfl, rfl, own_possible rfl hstep⟩
      | _ => cases he
  · obtain ⟨⟨key, v⟩, l, hl⟩ := List.exists_cons_of_ne_nil hkeys
    have hg : F.store.expiring.get key = some v := OrdMap.get_of_mem (by rw [hl]; exact List.mem_cons_self)
    exact ⟨.expire key, rfl, rfl, by simp [fleetStep, hg]⟩

/-- Two ticks without a pong, and no client is tracked. -/
theorem pinged_twice {m : Mirror} (hk : Known users m) (c : WebSocket) :
    ((m.update ping).update ping).clients.get c = none := by
  have hk' : Known users (m.update ping) := known_step hk .pingTick
  have hget : ((m.update ping).update ping).clients.get c = ((m.update ping).clients.get c).bind ticked :=
    ping_get (fun c t ht => (hk'.clients c t ht).1) c
  rw [hget]
  cases ht : (m.update ping).clients.get c with
  | none => rfl
  | some t =>
    have halive := ping_silent hk c t ht
    simp [ticked, halive]

theorem fading_count (es : List (ClusterEvent n)) :
    (es.map fun e => if e.fades then 1 else 0).sum = es.countP ClusterEvent.fades := by
  induction es with
  | nil => rfl
  | cons e es ih => rw [List.map_cons, List.sum_cons, ih, List.countP_cons, Nat.add_comm]

theorem fadingOf_le (es : List (ClusterEvent n)) :
    (es.map ClusterEvent.fadingOf).sum ≤ (9 + 3 * n) * es.length := by
  induction es with
  | nil => exact Nat.le_refl _
  | cons e es ih =>
    have he : e.fadingOf ≤ 9 + 3 * n := by
      cases e with
      | own i e => cases e <;> simp [ClusterEvent.fadingOf, fadingOf, keySteps] <;> omega
      | expire key => exact Nat.zero_le _
      | expireOther key => exact Nat.le_add_left _ _
    rw [List.map_cons, List.sum_cons, List.length_cons, Nat.mul_succ]
    omega

theorem fadingOf_quiet {fs : List (ClusterEvent n)} (h : ∀ e ∈ fs, e.quiet = true) :
    (fs.map ClusterEvent.fadingOf).sum = 0 := by
  induction fs with
  | nil => rfl
  | cons e fs ih =>
    have he : e.fadingOf = 0 := by
      have hq := h e List.mem_cons_self
      cases e with
      | own i e => cases e <;> first | rfl | cases hq
      | expire key => rfl
      | expireOther key => cases hq
    rw [List.map_cons, List.sum_cons, he, ih fun f hf => h f (List.mem_cons_of_mem _ hf)]

end

/-- **Silence.** Redis has answered all the time, and answers. From any reachable state of the processes on in which
nothing comes from the clients any more, at most `9 + 3 * n` steps for each event so far can still be taken, whatever
their order; as long as there is something left a step is possible; and when nothing is left no user is online, and two
ticks later a process tracks no socket. -/
theorem silence_fades {n : Nat} (users : Users) (hu : ∀ u, users u = .ok (some true) → ':' ∉ u.toList)
    {es fs : List (ClusterEvent n)} {C C' : Cluster n}
    (hk : Along (clusterStep users) (fun C e => C.redisAnswers e = true) (Cluster.start n) (es ++ fs))
    (hr : run (clusterStep users) (Cluster.start n) es = some C) (hq : ∀ e ∈ fs, e.quiet = true)
    (hr' : run (clusterStep users) C fs = some C') :
    fs.countP ClusterEvent.fades ≤ (9 + 3 * n) * es.length ∧
      (¬ C'.Faded → ∃ e : ClusterEvent n, e.fades = true ∧ C'.redisAnswers e = true ∧
        (clusterStep users C' e).isSome = true) ∧
      (C'.Faded → (∀ uid, C'.hash.get uid = none) ∧
        ∀ i, ∃ C'', run (clusterStep users) C' [.own i .pingTick, .own i .pingTick] = some C'' ∧
          ∀ c, (C''.world i).clients.get c = none) := by
  have hsim : ∀ (F : Fleet n) e, clusterStep users F.cluster e = (fleetStep users F e).map Fleet.cluster := cluster_step
  have hall : run (clusterStep users) (Cluster.start n) (es ++ fs) = some C' := run_append.mpr ⟨C, hr, hr'⟩
  obtain ⟨F, hF, rfl⟩ := run_lift (t := Fleet.start n) hsim hall
  have hstart : (∀ i, Known users ((Fleet.start n).mirror i)) ∧ (Fleet.start n).Leased := by
    refine ⟨fun _ => known_start users, ?_⟩
    intro u h
    cases h
  obtain ⟨hknown, hleased⟩ : (∀ i, Known users (F.mirror i)) ∧ F.Leased := by
    refine run_invariant (I := fun F : Fleet n => (∀ i, Known users (F.mirror i)) ∧ F.Leased) ?_ hstart
      ((along_map (t := Fleet.start n) hsim).mp hk) hF
    rintro F e F' ⟨h, hl⟩ ho hs
    exact ⟨fleet_known h (fleet_cases hs), fleet_leased h hu hl ho (fleet_cases hs)⟩
  refine ⟨?_, ?_, ?_⟩
  · have hpaid : F.stepsLeft + ((es ++ fs).map fun e => if e.fades then 1 else 0).sum ≤
        (Fleet.start n).stepsLeft + ((es ++ fs).map ClusterEvent.fadingOf).sum :=
      run_paid (fun F e F' hs => fleet_stepsLeft (fleet_cases hs)) hF
    rw [stepsLeft_start, fading_count, List.countP_append, List.map_append, List.sum_append, fadingOf_quiet hq] at hpaid
    have hle := fadingOf_le es
    omega
  · intro hf
    obtain ⟨e, he, ho, hs⟩ := fleet_goes_on users F hf
    refine ⟨e, he, ho, ?_⟩
    rw [hsim, Option.isSome_map]
    exact hs
  · intro hf
    refine ⟨faded_offline hleased hf, fun i => ?_⟩
    let F₁ := F.step i ((F.mirror i).update ping)
    have hrun : run (fleetStep users) F [.own i .pingTick, .own i .pingTick] =
        some (F₁.step i ((F₁.mirror i).update ping)) := rfl
    refine ⟨(F₁.step i ((F₁.mirror i).update ping)).cluster, ?_, fun c => ?_⟩
    · rw [run_map hsim, hrun]
      rfl
    · have hself : F₁.mirror i = (F.mirror i).update ping := mirror_step_self ..
      show ((F₁.step i ((F₁.mirror i).update ping)).mirror i).clients.get c = none
      rw [mirror_step_self, hself]
      exact pinged_twice (hknown i) c

/-- A client of the first of three processes goes silent: its key expires, and all of them receive the event. -/
def silentRun : List (ClusterEvent 3) :=
  [.expire (ttlKey "a"), .own 1 (.deliver 0), .own 0 (.deliver 0), .own 1 (.exec 0), .own 2 (.deliver 0),
    .own 0 (.exec 0), .own 1 (.resume 0), .own 2 (.exec 0), .own 0 (.resume 0), .own 2 (.resume 0)]

theorem silence_fades_subscribe :
    ∃ C, run (clusterStep (oneUser "a")) (Cluster.start 3) ((subscribeRun 0 "a").map (.own 0) ++ silentRun) = some C ∧
      (∀ uid, C.hash.get uid = none) ∧
      ∀ i, ∃ C', run (clusterStep (oneUser "a")) C [.own i .pingTick, .own i .pingTick] = some C' ∧
        ∀ c, (C'.world i).clients.get c = none := by
  obtain ⟨C', hC⟩ := Option.isSome_iff_exists.mp
    (show (run (clusterStep (oneUser "a")) (Cluster.start 3) ((subscribeRun 0 "a").map (.own 0) ++ silentRun)).isSome
      = true by decide)
  have hleft : (run (clusterStep (oneUser "a")) (Cluster.start 3) ((subscribeRun 0 "a").map (.own 0) ++ silentRun)).all
      (fun C => (List.finRange 3).all fun i => (C.world i).process.issued.isEmpty &&
        (C.world i).process.replied.isEmpty && (C.world i).published.isEmpty) = true := by decide
  have hkeys : (run (clusterStep (oneUser "a")) (Cluster.start 3) ((subscribeRun 0 "a").map (.own 0) ++ silentRun)).all
      (fun C => C.store.expiring.entries.isEmpty) = true := by decide
  simp only [hC, Option.all_some, List.all_eq_true, Bool.and_eq_true, List.isEmpty_iff] at hleft hkeys
  have hfaded : C'.Faded := by
    refine ⟨fun i => ?_, hkeys⟩
    obtain ⟨⟨hissued, hreplied⟩, hpublished⟩ := hleft i (List.mem_finRange i)
    exact ⟨⟨hissued, hreplied⟩, hpublished⟩
  obtain ⟨C, hr, hr'⟩ := run_append.mp hC
  exact ⟨C', hC, (silence_fades (oneUser "a") (fun u h => oneUser_true h ▸ by decide) (by decide) hr (by decide)
    hr').2.2 hfaded⟩

end StayApi
