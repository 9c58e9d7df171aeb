import StayApi.Known

/-!
# The order of one socket's messages

Each message of a socket and its disconnect change the socket's entry in
`clients` at a moment of their own: a guest's message and the disconnect at
once, the others at the end of their commands. `inTurn` says that a handler
gets to its change before the handlers of later messages do.
-/

namespace StayApi

open WebsocketChannel UserStatusMessage

/-! ## Messages of a socket -/

def Kind.opposite : Kind → Kind
  | .subscribe => .unsubscribe
  | .unsubscribe => .subscribe
  | .other => .other

def isGuest (data : RawData) : Bool :=
  match request data with
  | .guest _ => true
  | _ => false

def isUser (users : Users) (uid : String) : Bool :=
  match users uid with
  | .ok (some true) => true
  | _ => false

/-- A subscribe or an unsubscribe, without a uid or with an existing one. -/
def acceptable (users : Users) (data : RawData) : Bool :=
  match request data with
  | .guest connectType => kindOf connectType ≠ .other
  | .user connectType uid _ => kindOf connectType ≠ .other ∧ isUser users uid
  | _ => false

def concerns (c : WebSocket) : Event → Bool
  | .message client _ => client = c
  | .disconnect client => client = c
  | _ => false

def ofKind (k : Kind) : Event → Bool
  | .message _ data => frameKind data = k
  | _ => false

/-- The last message of `c`, or its disconnect. -/
def lastOf (c : WebSocket) (h : List Event) : Option Event := (h.filter (concerns c)).getLast?

/-- A handler of a message of `c` of kind `k` that has not got to its change of `clients`. -/
def opens (c : WebSocket) (k : Kind) (t : Thread Origin Server Command Reply JsError) : Bool :=
  match t.origin, t.cmd with
  | .message _ _, .hGetAll _ => false
  | .message client data, _ => client = c ∧ frameKind data = k
  | _, _ => false

def World.waiting (w : World) (c : WebSocket) (k : Kind) : Nat :=
  w.process.issued.countP (opens c k) + w.process.replied.countP fun t => opens c k t.toThread

/-- With the answer of its command the handler gets to its change, or finds nothing to change. -/
def concludes (w : World) (c : WebSocket) (t : Thread Origin Server Command Reply JsError) : Bool :=
  match t.origin, t.cmd with
  | .message client data, .poolExists _ =>
    client = c ∧ frameKind data = .unsubscribe ∧ (w.clients.get c).isNone
  | .message client _, .set _ _ _ => client = c
  | .message client _, .hDel _ _ => client = c
  | _, _ => false

def threadKind (t : Thread Origin Server Command Reply JsError) : Kind :=
  match t.origin with
  | .message _ data => frameKind data
  | _ => .other

/-- When the last handler of the kind of `c`'s latest message gets to its
change, none of the other kind is waiting; nor a subscribe when `c` disconnects. -/
def inTurn (c : WebSocket) (h : List Event) (w : World) : Event → Bool
  | .message client data =>
    if client = c ∧ isGuest data ∧ w.waiting c (frameKind data) = 0 then
      w.waiting c (frameKind data).opposite = 0
    else true
  | .disconnect client => if client = c then w.waiting c .subscribe = 0 else true
  | .resume j =>
    (w.process.replied[j]?).all fun t =>
      if concludes w c t.toThread ∧ (lastOf c h).any (ofKind (threadKind t.toThread)) ∧
          w.waiting c (threadKind t.toThread) = 1 then
        w.waiting c (threadKind t.toThread).opposite = 0
      else true
  | _ => true

/-- `c` sends acceptable messages only, no tick evicts it, and none of its commands fails. -/
def undisturbed (users : Users) (c : WebSocket) (w : World) : Event → Bool
  | .message client data => client ≠ c ∨ acceptable users data
  | .pingTick => (w.clients.get c).all fun t => t.isAlive
  | .reject i _ _ =>
    (w.process.issued[i]?).all fun t =>
      match t.origin with
      | .message client _ => client ≠ c
      | _ => true
  | _ => true

/-! ## Counting the handlers on the mirror -/

section
variable {c : WebSocket} {k : Kind} {m : Mirror}

def opensAt (c : WebSocket) (k : Kind) (p : Point) : Bool := opens c k p.thread

theorem waiting_world (m : Mirror) : m.world.waiting c k =
    m.issued.countP (opensAt c k) + m.replied.countP fun a => opensAt c k a.1 := by
  unfold World.waiting Mirror.world PointProcess.process
  simp only [List.countP_map]
  rfl

theorem waiting_turn (t : Move) :
    (m.turn t).world.waiting c k = m.world.waiting c k + t.suspended.countP (opensAt c k) := by
  have hi : (m.turn t).issued = m.issued ++ t.suspended := rfl
  have hr : (m.turn t).replied = m.replied := rfl
  rw [waiting_world, waiting_world, hi, hr, List.countP_append]
  omega

theorem waiting_answered {l₁ l₂ : List Point} {a : Answered} (hi : m.issued = l₁ ++ a.1 :: l₂) (R : Redis) :
    (m.answered l₁ l₂ R a).world.waiting c k = m.world.waiting c k := by
  have hi' : (m.answered l₁ l₂ R a).issued = l₁ ++ l₂ := rfl
  have hr' : (m.answered l₁ l₂ R a).replied = m.replied ++ [a] := rfl
  rw [waiting_world, waiting_world, hi, hi', hr', List.countP_append, List.countP_append, List.countP_append,
    List.countP_cons, List.countP_cons, List.countP_nil]
  omega

theorem waiting_resumed {l₁ l₂ : List Answered} {a : Answered} (hr : m.replied = l₁ ++ a :: l₂) :
    (m.resumed l₁ a l₂).world.waiting c k + (if opensAt c k a.1 then 1 else 0) =
      m.world.waiting c k + (a.1.next a.2 m.server).suspended.countP (opensAt c k) := by
  have hi' : (m.resumed l₁ a l₂).issued = m.issued ++ (a.1.next a.2 m.server).suspended := rfl
  have hr' : (m.resumed l₁ a l₂).replied = l₁ ++ l₂ := rfl
  rw [waiting_world, waiting_world, hr, hi', hr', List.countP_append, List.countP_append, List.countP_append,
    List.countP_cons]
  omega

end

/-! ## What a step does to `c` -/

theorem lastOf_append (c : WebSocket) (h : List Event) (e : Event) :
    lastOf c (h ++ [e]) = if concerns c e then some e else lastOf c h := by
  unfold lastOf
  rw [List.filter_append]
  by_cases he : concerns c e = true
  · rw [if_pos he, List.filter_cons_of_pos he, List.filter_nil, List.getLast?_concat]
  · rw [if_neg he, List.filter_cons_of_neg he, List.filter_nil, List.append_nil]

/-- Whether `c` is tracked, by the last of its events and the handlers still waiting. -/
def Expected (last : Option Event) (tracked : Bool) (subs unsubs : Nat) : Prop :=
  if last.any (ofKind .subscribe) then 0 < subs ∨ (tracked = true ∧ unsubs = 0)
  else (last.any (ofKind .unsubscribe) = true ∧ 0 < unsubs) ∨ (tracked = false ∧ subs = 0)

def Mirror.Tracks (m : Mirror) (c : WebSocket) (last : Option Event) : Prop :=
  Expected last (m.clients.get c).isSome (m.world.waiting c .subscribe) (m.world.waiting c .unsubscribe)

def OwnPoint (users : Users) (c : WebSocket) (p : Point) : Prop :=
  ∀ data, p.origin = .message c data → acceptable users data = true

def OwnAnswer (c : WebSocket) (a : Answered) : Prop :=
  ∀ data, a.1.origin = .message c data →
    match a with
    | ⟨.lookup _ _ _ _ _, r⟩ => r = .ok (some true)
    | ⟨_, r⟩ => r.isOk = true

structure Own (users : Users) (c : WebSocket) (m : Mirror) : Prop where
  issued : ∀ p ∈ m.issued, OwnPoint users c p
  replied : ∀ a ∈ m.replied, OwnPoint users c a.1
  answered : ∀ a ∈ m.replied, OwnAnswer c a

section
variable {users : Users} {c : WebSocket}

theorem acceptable_user {data : RawData} {connectType reset : Option Json} {uid : String}
    (h : acceptable users data = true) (hr : request data = .user connectType uid reset) :
    kindOf connectType ≠ .other ∧ users uid = .ok (some true) := by
  unfold acceptable at h
  rw [hr] at h
  simp only [ne_eq, decide_not, Bool.and_eq_true, Bool.decide_and, Bool.not_eq_eq_eq_not, Bool.not_true,
    decide_eq_false_iff_not, Bool.decide_eq_true] at h
  refine ⟨h.1, ?_⟩
  have hu := h.2
  unfold isUser at hu
  split at hu
  · assumption
  · cases hu

theorem opensAt_origin {k : Kind} {p : Point} (h : opensAt c k p = true) :
    ∃ data, p.origin = .message c data ∧ frameKind data = k := by
  cases p with
  | lookup client data connectType uid reset =>
    obtain ⟨rfl, hk⟩ := of_decide_eq_true h
    exact ⟨data, rfl, hk⟩
  | subscribeHSet client data uid reset =>
    obtain ⟨rfl, hk⟩ := of_decide_eq_true h
    exact ⟨data, rfl, hk⟩
  | subscribeSet client data uid reset =>
    obtain ⟨rfl, hk⟩ := of_decide_eq_true h
    exact ⟨data, rfl, hk⟩
  | unsubscribeHDel client data uid =>
    obtain ⟨rfl, hk⟩ := of_decide_eq_true h
    exact ⟨data, rfl, hk⟩
  | _ => cases h

theorem countP_foreign {k : Kind} {l : List Point} (h : ∀ p ∈ l, ∀ data, p.origin ≠ .message c data) :
    l.countP (opensAt c k) = 0 := by
  rw [List.countP_eq_zero]
  intro p hp ho
  obtain ⟨data, hd, -⟩ := opensAt_origin ho
  exact h p hp data hd

theorem own_turn {m : Mirror} {t : Move} (h : Own users c m) (ht : ∀ p ∈ t.suspended, OwnPoint users c p) :
    Own users c (m.turn t) :=
  ⟨turn_issued h.issued ht, h.replied, h.answered⟩

theorem own_answered {m : Mirror} {l₁ l₂ : List Point} {a : Answered} {R : Redis} (h : Own users c m)
    (hi : m.issued = l₁ ++ a.1 :: l₂) (ha : OwnAnswer c a) : Own users c (m.answered l₁ l₂ R a) := by
  have hp : OwnPoint users c a.1 := h.issued a.1 (by rw [hi]; simp)
  exact ⟨answered_issued hi h.issued, answered_replied h.replied hp, answered_replied h.answered ha⟩

theorem serve_ownAnswer {p : Point} {R : Redis} (hp : PointOk users p) (ho : OwnPoint users c p) :
    OwnAnswer c ⟨p, (serve users p.cmd R).2⟩ := by
  intro data hd
  cases p with
  | lookup client data' connectType uid reset =>
    obtain ⟨rfl, rfl⟩ := Origin.message.inj hd
    exact (acceptable_user (ho _ rfl) hp.2).2
  | _ => rfl

theorem own_step {m m' : Mirror} {e : Event} (hk : Known users m) (h : Own users c m)
    (hu : undisturbed users c m.world e = true) (hs : Stepped users m e m') : Own users c m' := by
  cases hs with
  | @message client data _ =>
    refine own_turn h fun p hp data' hd => ?_
    rw [messageMove_origin client data m.server p hp] at hd
    obtain ⟨rfl, rfl⟩ := Origin.message.inj hd
    simpa [undisturbed] using hu
  | @pong client _ =>
    refine own_turn h fun p hp data' hd => ?_
    rw [pongMove_origin client m.server p hp] at hd
    cases hd
  | disconnect _ => exact ⟨h.issued, h.replied, h.answered⟩
  | pingTick => exact ⟨h.issued, h.replied, h.answered⟩
  | expire _ => exact ⟨h.issued, h.replied, h.answered⟩
  | expireOther _ => exact ⟨h.issued, h.replied, h.answered⟩
  | @deliver l₁ l₂ key _ =>
    refine own_turn ⟨h.issued, h.replied, h.answered⟩ fun p hp data' hd => ?_
    rw [expiredMove_origin key m.server p hp] at hd
    cases hd
  | @exec l₁ l₂ p hi =>
    have hp : p ∈ m.issued := by rw [hi]; simp
    exact own_answered h hi (serve_ownAnswer (hk.issued p hp) (h.issued p hp))
  | @reject l₁ l₂ p carriedOut error hi =>
    refine own_answered h hi fun data hd => ?_
    have ho : p.origin = .message c data := hd
    simp only [undisturbed, issued_world hi, Option.all_some] at hu
    rw [ho] at hu
    simp at hu
  | @resume l₁ l₂ a hr =>
    have hn : Own users c { m with handlers := { m.handlers with replied := l₁ ++ l₂ } } :=
      ⟨h.issued, resumed_replied hr h.replied, resumed_replied hr h.answered⟩
    refine own_turn hn fun p hp data hd => ?_
    rw [next_origin a.1 a.2 m.server p hp] at hd
    exact h.replied a (by rw [hr]; simp) data hd

/-! ## The expected state -/

theorem expected_set {last : Option Event} {t : Bool} {subs unsubs : Nat} (h : Expected last t (subs + 1) unsubs)
    (hc : last.any (ofKind .subscribe) = true → subs = 0 → unsubs = 0) : Expected last true subs unsubs := by
  unfold Expected at h ⊢
  by_cases hs : last.any (ofKind .subscribe) = true
  · rw [if_pos hs]
    rcases Nat.eq_zero_or_pos subs with h0 | h0
    · exact .inr ⟨rfl, hc hs h0⟩
    · exact .inl h0
  · rw [if_neg hs] at h ⊢
    rcases h with h | ⟨-, h⟩
    · exact .inl h
    · omega

theorem expected_drop {last : Option Event} {t : Bool} {subs unsubs : Nat} (h : Expected last t subs (unsubs + 1))
    (hc : last.any (ofKind .unsubscribe) = true → unsubs = 0 → subs = 0) : Expected last false subs unsubs := by
  unfold Expected at h ⊢
  by_cases hs : last.any (ofKind .subscribe) = true
  · rw [if_pos hs] at h ⊢
    rcases h with h | ⟨-, h⟩
    · exact .inl h
    · omega
  · rw [if_neg hs] at h ⊢
    rcases h with ⟨hu, -⟩ | ⟨-, h⟩
    · rcases Nat.eq_zero_or_pos unsubs with h0 | h0
      · exact .inr ⟨rfl, hc hu h0⟩
      · exact .inl ⟨hu, h0⟩
    · exact .inr ⟨rfl, h⟩

theorem expected_subscribe {data : RawData} (hk : frameKind data = .subscribe) {t : Bool} {subs unsubs : Nat} :
    Expected (some (.message c data)) t subs unsubs ↔ 0 < subs ∨ (t = true ∧ unsubs = 0) := by
  have hs : (some (Event.message c data)).any (ofKind .subscribe) = true := decide_eq_true hk
  unfold Expected
  rw [if_pos hs]

theorem expected_unsubscribe {data : RawData} (hk : frameKind data = .unsubscribe) {t : Bool} {subs unsubs : Nat} :
    Expected (some (.message c data)) t subs unsubs ↔ 0 < unsubs ∨ (t = false ∧ subs = 0) := by
  have hs : ¬ (some (Event.message c data)).any (ofKind .subscribe) = true := by
    simp [ofKind, hk]
  have hu : (some (Event.message c data)).any (ofKind .unsubscribe) = true := decide_eq_true hk
  unfold Expected
  rw [if_neg hs, hu]
  simp

theorem expected_disconnect {t : Bool} {subs unsubs : Nat} :
    Expected (some (.disconnect c)) t subs unsubs ↔ t = false ∧ subs = 0 := by
  simp [Expected, ofKind]

/-! ## A step and the expected state -/

theorem tracks_quiet {m m' : Mirror} {e : Event} {h : List Event} (ht : m.Tracks c (lastOf c h))
    (he : concerns c e = false) (hg : (m'.clients.get c).isSome = (m.clients.get c).isSome)
    (hw : ∀ k, m'.world.waiting c k = m.world.waiting c k) : m'.Tracks c (lastOf c (h ++ [e])) := by
  unfold Mirror.Tracks
  rw [lastOf_append, he, hg, hw, hw]
  exact ht

theorem ping_tracked {s : Server} (hs : ClientsOk users s.clients)
    (ha : (s.clients.get c).all (fun t => t.isAlive) = true) :
    ((ping s).clients.get c).isSome = (s.clients.get c).isSome := by
  rw [ping_get fun c t ht => (hs c t ht).1]
  cases hc : s.clients.get c with
  | none => rfl
  | some t =>
    rw [hc, Option.all_some] at ha
    show (ticked t).isSome = true
    unfold ticked
    rw [if_pos ha]
    rfl

theorem tracks_message {m : Mirror} {data : RawData} {h : List Event} (ha : acceptable users data = true)
    (hi : inTurn c h m.world (.message c data) = true) :
    (m.turn (messageMove c data m.server)).Tracks c (some (.message c data)) := by
  cases hr : request data with
  | refused => simp [acceptable, hr] at ha
  | unknownChannel => simp [acceptable, hr] at ha
  | user connectType uid reset =>
    have hf : frameKind data = kindOf connectType := by simp [frameKind, hr]
    have hm : messageMove c data m.server = ⟨m.server, [.lookup c data connectType uid reset], []⟩ := by
      simp [messageMove, hr]
    have hw : (m.turn (messageMove c data m.server)).world.waiting c (frameKind data) =
        m.world.waiting c (frameKind data) + 1 := by
      rw [waiting_turn, hm]
      simp [opensAt, opens, Point.origin, Point.cmd]
    unfold Mirror.Tracks
    cases hk : kindOf connectType with
    | other => exact absurd hk (acceptable_user ha hr).1
    | subscribe =>
      rw [hf.trans hk] at hw
      rw [expected_subscribe (hf.trans hk), hw]
      exact .inl (Nat.succ_pos _)
    | unsubscribe =>
      rw [hf.trans hk] at hw
      rw [expected_unsubscribe (hf.trans hk), hw]
      exact .inl (Nat.succ_pos _)
  | guest connectType =>
    have hf : frameKind data = kindOf connectType := by simp [frameKind, hr]
    have hg : isGuest data = true := by simp [isGuest, hr]
    have hw : ∀ k, (m.turn (messageMove c data m.server)).world.waiting c k = m.world.waiting c k := by
      intro k
      have hn : ∀ p ∈ (messageMove c data m.server).suspended, opensAt c k p = false := by
        intro p hp
        rcases messageMove_suspended hp with ⟨_, _, _, hu, -⟩ | ⟨_, -, -, rfl⟩
        · rw [hr] at hu
          cases hu
        · rfl
      rw [waiting_turn, List.countP_eq_zero.mpr fun p hp => by rw [hn p hp]; simp, Nat.add_zero]
    have hturn : m.world.waiting c (frameKind data) = 0 → m.world.waiting c (frameKind data).opposite = 0 := by
      intro h0
      simp only [inTurn, hg, h0] at hi
      simpa using hi
    unfold Mirror.Tracks
    rw [hw, hw]
    cases hk : kindOf connectType with
    | other => simp [acceptable, hr, hk] at ha
    | subscribe =>
      rw [hf.trans hk] at hturn
      have ht : ((m.turn (messageMove c data m.server)).clients.get c).isSome = true := by
        show ((messageMove c data m.server).state.clients.get c).isSome = true
        simp [messageMove, hr, hk, trackMove]
      rw [expected_subscribe (hf.trans hk), ht]
      rcases Nat.eq_zero_or_pos (m.world.waiting c .subscribe) with h0 | h0
      · exact .inr ⟨rfl, hturn h0⟩
      · exact .inl h0
    | unsubscribe =>
      rw [hf.trans hk] at hturn
      have ht : ((m.turn (messageMove c data m.server)).clients.get c).isSome = false := by
        show ((messageMove c data m.server).state.clients.get c).isSome = false
        simp only [messageMove, hr, hk]
        rw [guestUnsubscribeMove_get, if_pos rfl]; rfl
      rw [expected_unsubscribe (hf.trans hk), ht]
      rcases Nat.eq_zero_or_pos (m.world.waiting c .unsubscribe) with h0 | h0
      · exact .inr ⟨rfl, hturn h0⟩
      · exact .inl h0

section
variable {m : Mirror} {l₁ l₂ : List Answered} {h : List Event}

theorem inTurn_resume {a : Answered} (hr : m.replied = l₁ ++ a :: l₂) {data : RawData}
    (ho : a.1.origin = .message c data) (hc : concludes m.world c a.1.thread = true)
    (hi : inTurn c h m.world (.resume l₁.length) = true) :
    (lastOf c h).any (ofKind (frameKind data)) = true → m.world.waiting c (frameKind data) = 1 →
      m.world.waiting c (frameKind data).opposite = 0 := by
  intro hl h1
  have hk : threadKind a.1.thread = frameKind data := by
    show threadKind ⟨a.1.origin, a.1.cmd, a.1.cont⟩ = _
    rw [ho]; rfl
  simp only [inTurn, replied_world hr, Option.all_some, hc, hk, hl, h1] at hi
  simpa using hi

theorem tracks_still {a : Answered} (hr : m.replied = l₁ ++ a :: l₂) (ht : m.Tracks c (lastOf c h))
    (hg : ((a.1.next a.2 m.server).state.clients.get c).isSome = (m.clients.get c).isSome)
    (hw : ∀ k, (a.1.next a.2 m.server).suspended.countP (opensAt c k) = if opensAt c k a.1 then 1 else 0) :
    (m.resumed l₁ a l₂).Tracks c (lastOf c (h ++ [.resume l₁.length])) := by
  refine tracks_quiet ht rfl hg fun k => ?_
  have hres := waiting_resumed (c := c) (k := k) hr
  have hk := hw k
  omega

theorem tracks_set {data : RawData} {uid : String} {reset : Option Json} {v : Unit}
    (hr : m.replied = l₁ ++ ⟨.subscribeSet c data uid reset, .ok v⟩ :: l₂) (ht : m.Tracks c (lastOf c h))
    (hk : frameKind data = .subscribe) (hi : inTurn c h m.world (.resume l₁.length) = true) :
    (m.resumed l₁ ⟨.subscribeSet c data uid reset, .ok v⟩ l₂).Tracks c (lastOf c (h ++ [.resume l₁.length])) := by
  have hs : ∀ k, ((Point.subscribeSet c data uid reset).next (.ok v) m.server).suspended.countP (opensAt c k) = 0 := by
    intro k
    simp only [Point.next, trackMove]
    split <;> rfl
  have hsub := waiting_resumed (c := c) (k := .subscribe) hr
  have huns := waiting_resumed (c := c) (k := .unsubscribe) hr
  have ho : opensAt c .subscribe (.subscribeSet c data uid reset) = true := decide_eq_true ⟨rfl, hk⟩
  have ho' : opensAt c .unsubscribe (.subscribeSet c data uid reset) = false :=
    decide_eq_false fun h => by rw [hk] at h; cases h.2
  rw [hs, if_pos ho] at hsub
  rw [hs, if_neg (by rw [ho']; simp)] at huns
  have hget : ((m.resumed l₁ ⟨.subscribeSet c data uid reset, .ok v⟩ l₂).clients.get c).isSome = true := by
    show ((trackMove ..).state.clients.get c).isSome = true
    rw [trackMove_clients, OrdMap.get_set_self]; rfl
  have hturn := inTurn_resume hr rfl (decide_eq_true rfl) hi
  rw [hk] at hturn
  unfold Mirror.Tracks at ht ⊢
  rw [lastOf_append, if_neg (by simp [concerns]), hget]
  have ht' : Expected (lastOf c h) (m.clients.get c).isSome
      ((m.resumed l₁ ⟨.subscribeSet c data uid reset, .ok v⟩ l₂).world.waiting c .subscribe + 1)
      ((m.resumed l₁ ⟨.subscribeSet c data uid reset, .ok v⟩ l₂).world.waiting c .unsubscribe) := by
    rw [hsub]
    rw [Nat.add_zero] at huns
    rw [huns]
    exact ht
  refine expected_set ht' fun hl h0 => ?_
  have h1 : m.world.waiting c .unsubscribe = 0 := hturn hl (by omega)
  omega

theorem tracks_drop {a : Answered} {data : RawData} (hr : m.replied = l₁ ++ a :: l₂) (ht : m.Tracks c (lastOf c h))
    (ha : a.1.origin = .message c data) (hk : frameKind data = .unsubscribe)
    (ho : opensAt c .unsubscribe a.1 = true) (hn : opensAt c .subscribe a.1 = false)
    (hc : concludes m.world c a.1.thread = true) (hs : (a.1.next a.2 m.server).suspended = [])
    (hg : (a.1.next a.2 m.server).state.clients.get c = none)
    (hi : inTurn c h m.world (.resume l₁.length) = true) :
    (m.resumed l₁ a l₂).Tracks c (lastOf c (h ++ [.resume l₁.length])) := by
  have hsub := waiting_resumed (c := c) (k := .subscribe) hr
  have huns := waiting_resumed (c := c) (k := .unsubscribe) hr
  rw [hs, List.countP_nil, if_neg (by rw [hn]; simp)] at hsub
  rw [hs, List.countP_nil, if_pos ho] at huns
  have hget : ((m.resumed l₁ a l₂).clients.get c).isSome = false := by
    show ((a.1.next a.2 m.server).state.clients.get c).isSome = false
    rw [hg]; rfl
  have hturn := inTurn_resume hr ha hc hi
  rw [hk] at hturn
  unfold Mirror.Tracks at ht ⊢
  rw [lastOf_append, if_neg (by simp [concerns]), hget]
  have ht' : Expected (lastOf c h) (m.clients.get c).isSome ((m.resumed l₁ a l₂).world.waiting c .subscribe)
      ((m.resumed l₁ a l₂).world.waiting c .unsubscribe + 1) := by
    rw [huns]
    rw [Nat.add_zero] at hsub
    rw [hsub]
    exact ht
  refine expected_drop ht' fun hl h0 => ?_
  have h1 : m.world.waiting c .subscribe = 0 := hturn hl (by omega)
  omega

theorem tracks_lookup {data : RawData} {connectType reset : Option Json} {uid : String}
    (hr : m.replied = l₁ ++ ⟨.lookup c data connectType uid reset, .ok (some true)⟩ :: l₂)
    (ht : m.Tracks c (lastOf c h)) (ha : acceptable users data = true)
    (hd : request data = .user connectType uid reset)
    (hi : inTurn c h m.world (.resume l₁.length) = true) :
    (m.resumed l₁ ⟨.lookup c data connectType uid reset, .ok (some true)⟩ l₂).Tracks c
      (lastOf c (h ++ [.resume l₁.length])) := by
  have hf : frameKind data = kindOf connectType := by simp [frameKind, hd]
  have hget : ((lookupMove c data connectType uid reset (some true) m.server).state.clients.get c).isSome =
      (m.clients.get c).isSome := by rw [lookupMove_clients]; rfl
  cases hk : kindOf connectType with
  | other => exact absurd hk (acceptable_user ha hd).1
  | subscribe =>
    refine tracks_still hr ht hget fun k => ?_
    show (lookupMove ..).suspended.countP (opensAt c k) = _
    simp only [lookupMove, hk]
    exact List.countP_singleton
  | unsubscribe =>
    cases hc : m.server.clients.get c with
    | some t =>
      refine tracks_still hr ht hget fun k => ?_
      show (lookupMove ..).suspended.countP (opensAt c k) = _
      simp only [lookupMove, hk, unsubscribeMove, hc]
      exact List.countP_singleton
    | none =>
      have hm : lookupMove c data connectType uid reset (some true) m.server =
          ⟨sendUnsubscribed c m.server, [], []⟩ := by simp [lookupMove, hk, unsubscribeMove, hc]
      have hcon : concludes m.world c (Point.lookup c data connectType uid reset).thread = true := by
        refine decide_eq_true ⟨rfl, hf.trans hk, ?_⟩
        show (m.server.clients.get c).isNone = true
        rw [hc]; rfl
      refine tracks_drop hr ht rfl (hf.trans hk) (decide_eq_true ⟨rfl, hf.trans hk⟩)
        (decide_eq_false fun h => ?_) hcon (congrArg PointTurn.suspended hm) ?_ hi
      · rw [hf, hk] at h; cases h.2
      · show (lookupMove ..).state.clients.get c = none
        rw [hm]; exact hc

theorem tracks_resume {a : Answered} (hk : Known users m) (ho : Own users c m) (ht : m.Tracks c (lastOf c h))
    (hr : m.replied = l₁ ++ a :: l₂) (hi : inTurn c h m.world (.resume l₁.length) = true) :
    (m.resumed l₁ a l₂).Tracks c (lastOf c (h ++ [.resume l₁.length])) := by
  have ha : a ∈ m.replied := by rw [hr]; simp
  by_cases hown : ∃ data, a.1.origin = .message c data
  · obtain ⟨data, hd⟩ := hown
    have hacc := ho.replied a ha data hd
    have hans := ho.answered a ha data hd
    have hfit := (hk.replied a ha).2
    obtain ⟨p, r⟩ := a
    cases p with
    | lookup client data' connectType uid reset =>
      obtain ⟨rfl, rfl⟩ := Origin.message.inj hd
      obtain rfl : r = .ok (some true) := hans
      exact tracks_lookup hr ht hacc hfit hi
    | subscribeHSet client data' uid reset =>
      obtain ⟨rfl, rfl⟩ := Origin.message.inj hd
      cases r with
      | error error => cases hans
      | ok v => exact tracks_still hr ht rfl fun k => List.countP_singleton
    | subscribeSet client data' uid reset =>
      obtain ⟨rfl, rfl⟩ := Origin.message.inj hd
      cases r with
      | error error => cases hans
      | ok v =>
        obtain ⟨connectType, hreq, hkind⟩ := hfit
        exact tracks_set hr ht (asks_kind (asks_user hreq hkind)) hi
    | snapshot client data' =>
      cases r with
      | error error => exact tracks_still hr ht rfl fun k => rfl
      | ok v => exact tracks_still hr ht rfl fun k => rfl
    | unsubscribeHDel client data' uid =>
      obtain ⟨rfl, rfl⟩ := Origin.message.inj hd
      cases r with
      | error error => cases hans
      | ok v =>
        have hf : frameKind data' = .unsubscribe := asks_kind hfit
        refine tracks_drop hr ht rfl hf (decide_eq_true ⟨rfl, hf⟩) (decide_eq_false fun h => ?_)
          (decide_eq_true rfl) rfl ?_ hi
        · rw [hf] at h; cases h.2
        · show (sendUnsubscribed ..).clients.get client = none
          rw [sendUnsubscribed_clients, untrackClient_clients, OrdMap.get_delete_self]
    | pongHSet client uid => cases hd
    | pongSet client uid => cases hd
    | expiryHDel key => cases hd
  · have hf : ∀ data, a.1.origin ≠ .message c data := fun data hd => hown ⟨data, hd⟩
    refine tracks_still hr ht (congrArg Option.isSome (next_foreign hf a.2 m.server)) fun k => ?_
    have hn : opensAt c k a.1 = false := by
      cases hc : opensAt c k a.1 with
      | false => rfl
      | true =>
        obtain ⟨data, hd, -⟩ := opensAt_origin hc
        exact absurd hd (hf data)
    rw [hn]
    exact countP_foreign fun q hq data hd => hf data ((next_origin a.1 a.2 m.server q hq).symm.trans hd)

end

theorem tracks_step {m m' : Mirror} {e : Event} {h : List Event} (hk : Known users m) (ho : Own users c m)
    (ht : m.Tracks c (lastOf c h)) (hu : undisturbed users c m.world e = true)
    (hi : inTurn c h m.world e = true) (hs : Stepped users m e m') : m'.Tracks c (lastOf c (h ++ [e])) := by
  cases hs with
  | @message client data _ =>
    by_cases hc : client = c
    · subst hc
      rw [lastOf_append, if_pos (by simp [concerns])]
      exact tracks_message (by simpa [undisturbed] using hu) hi
    · refine tracks_quiet ht (by simp [concerns, hc]) (congrArg Option.isSome (messageMove_foreign hc ..)) fun k => ?_
      rw [waiting_turn, countP_foreign fun p hp data' hd => ?_, Nat.add_zero]
      rw [messageMove_origin client data m.server p hp] at hd
      exact hc (Origin.message.inj hd).1
  | @pong client _ =>
    refine tracks_quiet ht rfl (pongMove_tracked client m.server c) fun k => ?_
    rw [waiting_turn, countP_foreign fun p hp data' hd => ?_, Nat.add_zero]
    rw [pongMove_origin client m.server p hp] at hd
    cases hd
  | @disconnect client _ =>
    by_cases hc : client = c
    · subst hc
      rw [lastOf_append, if_pos (by simp [concerns])]
      refine expected_disconnect.mpr ⟨?_, ?_⟩
      · show ((disconnect client m.server).clients.get client).isSome = false
        rw [disconnect_get, if_pos rfl]; rfl
      · have h0 : m.world.waiting client .subscribe = 0 := by simpa [inTurn] using hi
        exact h0
    · refine tracks_quiet ht (by simp [concerns, hc]) ?_ fun k => rfl
      show ((disconnect client m.server).clients.get c).isSome = _
      rw [disconnect_get, if_neg (Ne.symm hc)]; rfl
  | pingTick => exact tracks_quiet ht rfl (ping_tracked hk.clients hu) fun k => rfl
  | expire _ => exact tracks_quiet ht rfl rfl fun k => rfl
  | expireOther _ => exact tracks_quiet ht rfl rfl fun k => rfl
  | @deliver l₁ l₂ key _ =>
    have hst : (m.received (l₁ ++ l₂) key).server = m.server := expiredMove_state key m.server
    refine tracks_quiet ht rfl (congrArg (fun s => (s.clients.get c).isSome) hst) fun k => ?_
    have hw : (m.received (l₁ ++ l₂) key).world.waiting c k =
        m.world.waiting c k + (expiredMove key m.server).suspended.countP (opensAt c k) := waiting_turn _
    rw [hw, countP_foreign fun p hp data' hd => ?_, Nat.add_zero]
    rw [expiredMove_origin key m.server p hp] at hd
    cases hd
  | exec hi' => exact tracks_quiet ht rfl rfl fun k => waiting_answered hi' _
  | reject hi' => exact tracks_quiet ht rfl rfl fun k => waiting_answered hi' _
  | resume hr => exact tracks_resume hk ho ht hr hi

end

/-- **One socket's messages in order.** If the handlers of `c`'s messages get
to their changes in turn, `c` is tracked once everything has finished exactly
if its last message is a subscribe, and never after its disconnect. -/
theorem tracked_iff_last_subscribe (users : Users) (c : WebSocket) (es : List Event) (w : World)
    (hu : Along (step users) (fun w e => undisturbed users c w e) World.start es)
    (hi : Along (recorded (step users)) (fun x e => inTurn c x.1 x.2 e) ([], World.start) es)
    (hr : run (step users) World.start es = some w) :
    (w.Idle → ((w.clients.get c).isSome ↔ (lastOf c es).any (ofKind .subscribe))) ∧
      (lastOf c es = some (.disconnect c) → w.clients.get c = none) := by
  have hk : Along (recorded (step users)) (fun x e => undisturbed users c x.2 e ∧ inTurn c x.1 x.2 e)
      ([], World.start) es := along_and.mpr ⟨(along_map (t := ([], World.start)) recorded_snd).mp hu, hi⟩
  have h0 : Expected (lastOf c []) (Mirror.start.clients.get c).isSome 0 0 := .inr ⟨rfl, rfl⟩
  obtain ⟨m, ⟨-, -, hm⟩, rfl⟩ := presence_history
    (I := fun h m => Known users m ∧ Own users c m ∧ m.Tracks c (lastOf c h)) hk hr
    ⟨known_start users, ⟨fun p hp => absurd hp List.not_mem_nil, fun a ha => absurd ha List.not_mem_nil,
      fun a ha => absurd ha List.not_mem_nil⟩, h0⟩
    (fun h m e m' hI ho hs => ⟨known_step hI.1 hs, own_step hI.1 hI.2.1 ho.1 hs,
      tracks_step hI.1 hI.2.1 hI.2.2 ho.1 ho.2 hs⟩)
  constructor
  · rintro ⟨hissued, hreplied⟩
    have hw : ∀ k, m.world.waiting c k = 0 := by
      intro k
      unfold World.waiting
      rw [hissued, hreplied]
      rfl
    unfold Mirror.Tracks Expected at hm
    rw [hw, hw] at hm
    show (m.clients.get c).isSome = true ↔ _
    by_cases hl : (lastOf c es).any (ofKind .subscribe) = true
    · rw [if_pos hl] at hm
      rcases hm with hm | ⟨hm, -⟩
      · omega
      · exact ⟨fun _ => hl, fun _ => hm⟩
    · rw [if_neg hl] at hm
      rcases hm with ⟨-, hm⟩ | ⟨hm, -⟩
      · omega
      · exact ⟨fun h => Bool.noConfusion (hm.symm.trans h), fun h => absurd h hl⟩
  · intro hl
    unfold Mirror.Tracks at hm
    rw [hl, expected_disconnect] at hm
    exact Option.not_isSome_iff_eq_none.mp (by rw [show m.world.clients = m.clients from rfl, hm.1]; simp)

/-- A subscribe and an unsubscribe that overlap and take effect in turn. -/
def overlapRun : List Event :=
  [.message 0 (frame "subscribe" (some "a") true), .message 0 (frame "unsubscribe" (some "a") false), .exec 0,
    .resume 0, .exec 1, .resume 0, .exec 1, .resume 0, .exec 1, .resume 0, .exec 0, .resume 0, .exec 0, .resume 0]

theorem tracked_iff_last_subscribe_overlap :
    ∃ w, run (step everyUser) World.start overlapRun = some w ∧
      ((w.clients.get 0).isSome ↔ (lastOf 0 overlapRun).any (ofKind .subscribe)) :=
  ⟨_, rfl, (tracked_iff_last_subscribe everyUser 0 overlapRun _ (by decide) (by decide) rfl).1 ⟨rfl, rfl⟩⟩

/-- The socket is gone before the lookup of its subscribe answers. -/
def lateRun : List Event :=
  [.message 0 (frame "subscribe" (some "a") true), .disconnect 0, .exec 0, .resume 0, .exec 0, .resume 0, .exec 0,
    .resume 0, .exec 0, .resume 0]

theorem disconnected_yet_tracked :
    Along (step everyUser) (fun w e => undisturbed everyUser 0 w e) World.start lateRun ∧
      ∃ w, run (step everyUser) World.start lateRun = some w ∧ w.Idle ∧ (w.clients.get 0).isSome ∧
        lastOf 0 lateRun = some (.disconnect 0) :=
  ⟨by decide, _, rfl, ⟨rfl, rfl⟩, by decide, rfl⟩

end StayApi
