import StayApi.ServerLemmas

/-!
# What a frame comes to

One frame is followed from the step that hands it to the gateway until its
handler has finished, through everything else the process does meanwhile. What
the handler has done to its own socket by then is compared with what a frame of
that kind should come to.
-/

namespace StayApi

open WebsocketChannel UserStatusMessage

/-! ## What a frame should come to -/

inductive FrameOutcome where
  | closed (status : Nat)
  | statuses
  | unsubscribed

def FrameOutcome.Is (c : WebSocket) : FrameOutcome → Effect → Prop
  | .closed status, .close client code _ => client = c ∧ code = status
  | .statuses, .send _ client channel (.statuses _) => client = c ∧ channel = WEBSOCKET_CHANNEL_USER_STATUS
  | .unsubscribed, .send _ client channel (.connectType connectType) =>
    client = c ∧ channel = WEBSOCKET_CHANNEL_USER_STATUS ∧ connectType = WEBSOCKET_UNSUBSCRIBE
  | _, _ => False

def reaches (c : WebSocket) : Effect → Bool
  | .broadcast _ _ => false
  | .send _ client _ _ => client = c
  | .close client _ _ => client = c
  | .ping client => client = c

/-- The channel is a text or missing, and the uid is a text, null or missing. -/
def wellTyped : RawData → Bool
  | .malformed => true
  | .json message =>
    (match message.field "channel" with
      | none => true
      | some (.str _) => true
      | some _ => false) &&
    match message.field "user_uid" with
      | none => true
      | some .null => true
      | some (.str _) => true
      | some _ => false

def kindOutcome (connectType : Option Json) (o : FrameOutcome) : Prop :=
  match kindOf connectType with
  | .subscribe => o = .statuses
  | .unsubscribe => o = .unsubscribed
  | .other => ∃ status, o = .closed status

def uidOutcome (users : Users) (message : Json) (o : FrameOutcome) : Prop :=
  match message.field "user_uid" with
  | some (.str userUid) =>
    match users userUid with
    | .error _ => o = .closed 4001
    | .ok none => o = .closed 4001
    | .ok (some false) => o = .closed 4004
    | .ok (some true) => kindOutcome (message.field "connect_type") o
  | _ => kindOutcome (message.field "connect_type") o

/-- The outcomes a frame may have, when every bad frame closes its socket. -/
def rightOutcome (users : Users) : RawData → FrameOutcome → Prop
  | .malformed, o => o = .closed 1011
  | .json .null, o => o = .closed 1011
  | .json message, o =>
    if Json.isText (message.field "channel") WEBSOCKET_CHANNEL_USER_STATUS then uidOutcome users message o
    else o = .closed 4004

/-! ## Following a frame -/

/-- Where the handler of a frame has got to. It waits for one command at a time. -/
inductive Spot where
  /-- its command is the `i`-th issued one -/
  | issued (i : Nat)
  /-- the reply to its command is the `j`-th that is on its way -/
  | replied (j : Nat)
  | done

namespace Spot

/-- Where a handler is when it has just run: at the command it has issued, if any. -/
def after (w w' : World) : Spot :=
  if w'.process.issued.length = w.process.issued.length then .done else .issued w.process.issued.length

/-- The place of the `i`-th of some when the `k`-th is taken out. -/
def shift (i k : Nat) : Nat := if k < i then i - 1 else i

def runs : Spot → Event → Bool
  | .replied j, .resume k => k = j
  | _, _ => false

def next (w w' : World) : Spot → Event → Spot
  | .issued i, .exec k => if k = i then .replied w.process.replied.length else .issued (shift i k)
  | .issued i, .reject k _ _ => if k = i then .replied w.process.replied.length else .issued (shift i k)
  | .replied j, .resume k => if k = j then after w w' else .replied (shift j k)
  | spot, _ => spot

/-- The step neither answers a command nor delivers a reply. -/
def quiet : Event → Bool
  | .exec _ => false
  | .reject _ _ _ => false
  | .resume _ => false
  | _ => true

theorem next_quiet {e : Event} (h : quiet e = true) (w w' : World) (spot : Spot) :
    spot.next w w' e = spot ∧ spot.runs e = false := by
  cases e with
  | exec _ => cases h
  | reject _ _ _ => cases h
  | resume _ => cases h
  | _ => cases spot <;> exact ⟨rfl, rfl⟩

end Spot

/-- A frame being handled, and what its handler has done so far. -/
structure Handling where
  world : World
  spot : Spot
  effects : List Effect

def handle (users : Users) (w : World) (client : WebSocket) (data : RawData) : Option Handling :=
  (step users w (.message client data)).map fun w' => ⟨w', .after w w', w.effects w'⟩

def handlingStep (users : Users) (H : Handling) (e : Event) : Option Handling :=
  (step users H.world e).map fun w =>
    ⟨w, H.spot.next H.world w e, if H.spot.runs e then H.effects ++ H.world.effects w else H.effects⟩

def working : Event → Bool
  | .reject _ _ _ => false
  | _ => true

/-- The handler has finished, and has done exactly one thing to the socket, one that it may. -/
def Handling.Right (users : Users) (client : WebSocket) (data : RawData) (H : Handling) : Prop :=
  ∃ x, H.effects.filter (reaches client) = [x] ∧ ∃ o : FrameOutcome, rightOutcome users data o ∧ o.Is client x

/-- PostgreSQL does not reject the uid, and unless it is unknown the frame is a
subscribe or an unsubscribe. -/
def uidClassified (users : Users) (message : Json) : Bool :=
  match message.field "user_uid" with
  | some (.str userUid) =>
    match users userUid with
    | .error _ => false
    | .ok none => true
    | .ok (some false) => true
    | .ok (some true) => kindOf (message.field "connect_type") ≠ .other
  | _ => kindOf (message.field "connect_type") ≠ .other

/-- The channel is none that every object inherits, and if it is the registered
one the uid and the kind of the frame are fine. -/
def classified (users : Users) : RawData → Bool
  | .malformed => true
  | .json .null => true
  | .json message =>
    match message.field "channel" with
    | some (.str channel) =>
      if channel = WEBSOCKET_CHANNEL_USER_STATUS then uidClassified users message
      else channel ∉ StayWebSocketGateway.inheritedNames
    | _ => true

/-! ## What the handler does -/

def kindAnswer (connectType : Option Json) : Option FrameOutcome :=
  match kindOf connectType with
  | .subscribe => some .statuses
  | .unsubscribe => some .unsubscribed
  | .other => none

def lookupAnswer (connectType : Option Json) : Except JsError (Option Bool) → Option FrameOutcome
  | .error _ => some (.closed 1011)
  | .ok none => some (.closed 4001)
  | .ok (some false) => some (.closed 4004)
  | .ok (some true) => kindAnswer connectType

def requestAnswer (users : Users) : Request → Option FrameOutcome
  | .refused => some (.closed 1011)
  | .unknownChannel => some (.closed 4004)
  | .guest connectType => kindAnswer connectType
  | .user connectType userUid _ => lookupAnswer connectType (users userUid)

def frameAnswer (users : Users) (data : RawData) : Option FrameOutcome := requestAnswer users (request data)

namespace Point

def answer (users : Users) : Point → Option FrameOutcome
  | lookup _ _ connectType uid _ => lookupAnswer connectType (users uid)
  | subscribeHSet _ _ _ _ => some .statuses
  | subscribeSet _ _ _ _ => some .statuses
  | snapshot _ _ => some .statuses
  | unsubscribeHDel _ _ _ => some .unsubscribed
  | _ => none

/-- At most so many commands are still to be answered. -/
def rank : Point → Nat
  | lookup _ _ _ _ _ => 4
  | subscribeHSet _ _ _ _ => 3
  | subscribeSet _ _ _ _ => 2
  | _ => 1

end Point

/-- From `s` to `s'` the effects `l` reach `c`. -/
def Gives (c : WebSocket) (l : List Effect) (s s' : Server) : Prop :=
  ∃ k, s'.trace = s.trace ++ k ∧ k.filter (reaches c) = l

def Answers (c : WebSocket) : Option FrameOutcome → List Effect → Prop
  | none, l => l = []
  | some o, l => ∃ x, l = [x] ∧ o.Is c x

/-- A move of a handler of `c` that is to come to `o`: the last one, or one that
waits for one of less than `n` further commands. -/
inductive Continues (users : Users) (c : WebSocket) (data : RawData) (o : Option FrameOutcome) (n : Nat) (s : Server)
    (t : Move) : Prop
  | ends {l : List Effect} (ht : t.suspended = []) (hg : Gives c l s t.state) (ha : Answers c o l)
  | waits {p : Point} (ht : t.suspended = [p]) (hp : p.origin = .message c data) (ho : p.answer users = o)
    (hn : p.rank < n) (hg : Gives c [] s t.state)

section
variable {users : Users} {c : WebSocket} {data : RawData} {s s' s'' : Server} {n : Nat}

theorem gives_same (h : s'.trace = s.trace) : Gives c [] s s' :=
  ⟨[], by rw [h, List.append_nil], rfl⟩

theorem gives_one {x : Effect} (h : s'.trace = s.trace ++ [x]) (hx : reaches c x = true) : Gives c [x] s s' :=
  ⟨[x], h, by simp [hx]⟩

theorem gives_trans {l l' : List Effect} (h : Gives c l s s') (h' : Gives c l' s' s'') : Gives c (l ++ l') s s'' := by
  obtain ⟨k, hk, rfl⟩ := h
  obtain ⟨k', hk', rfl⟩ := h'
  exact ⟨k ++ k', by rw [hk', hk, List.append_assoc], List.filter_append ..⟩

theorem gives_broadcast (info : BroadcastUserStatusInfo) :
    Gives c [] s (broadcastStatus (some c) WEBSOCKET_CHANNEL_USER_STATUS info s) := by
  rw [broadcastStatus_eq]
  refine ⟨_, rfl, ?_⟩
  apply List.filter_eq_nil_iff.mpr
  intro x hx
  rcases List.mem_cons.mp hx with rfl | hx
  · exact Bool.false_ne_true
  · obtain ⟨d, hd, rfl⟩ := List.mem_map.mp hx
    obtain ⟨t, ht, rfl⟩ := List.mem_map.mp hd
    have hne : c ≠ t.socket := by
      have := (List.mem_filter.mp ht).2
      simp only [decide_eq_true_eq] at this
      exact fun h => this.1 (congrArg some h)
    simp [reaches, broadcastFrame, Ne.symm hne]

theorem ends_close {status : Nat} {reason : String} :
    Continues users c data (some (.closed status)) n s ⟨close c status reason s, [], []⟩ :=
  .ends rfl (gives_one rfl (by simp [reaches])) ⟨_, rfl, rfl, rfl⟩

theorem ends_unsubscribed (h : Gives c [] s s') :
    Continues users c data (some .unsubscribed) n s ⟨sendUnsubscribed c s', [], []⟩ :=
  .ends rfl (gives_trans h (gives_one rfl (by simp [reaches]))) ⟨_, rfl, rfl, rfl, rfl⟩

theorem trackMove_continues (uid : Option String) (reset : Bool) (info : BroadcastUserStatusInfo) (hn : 1 < n)
    (h : Gives c [] s s') : Continues users c data (some .statuses) n s (trackMove c data uid reset info s') := by
  unfold trackMove
  split
  · exact .waits rfl rfl rfl hn (gives_trans h (gives_same rfl))
  · exact .ends rfl (gives_trans h (gives_one rfl (by simp [reaches]))) ⟨_, rfl, rfl, rfl⟩

theorem guestUnsubscribeMove_continues :
    Continues users c data (some .unsubscribed) n s (guestUnsubscribeMove c s) := by
  unfold guestUnsubscribeMove
  cases s.clients.get c with
  | none => exact ends_unsubscribed (gives_same rfl)
  | some t => exact ends_unsubscribed (gives_same rfl)

theorem messageMove_continues : Continues users c data (frameAnswer users data) 5 s (messageMove c data s) := by
  unfold messageMove frameAnswer requestAnswer
  cases request data with
  | refused => exact ends_close
  | unknownChannel => exact ends_close
  | user connectType uid reset => exact .waits rfl rfl rfl (by simp [Point.rank]) (gives_same rfl)
  | guest connectType =>
    dsimp only
    unfold kindAnswer
    cases kindOf connectType with
    | subscribe => exact trackMove_continues _ _ _ (by simp) (gives_same rfl)
    | unsubscribe => exact guestUnsubscribeMove_continues
    | other => exact .ends rfl (gives_same rfl) rfl

theorem lookupMove_continues (connectType : Option Json) (uid : String) (reset : Option Json) (v : Option Bool) :
    Continues users c data (lookupAnswer connectType (.ok v)) 4 s (lookupMove c data connectType uid reset v s) := by
  unfold lookupMove
  rcases v with _ | _ | _
  · exact ends_close
  · exact ends_close
  · dsimp only [lookupAnswer]
    unfold kindAnswer
    cases kindOf connectType with
    | subscribe => exact .waits rfl rfl rfl (by simp [Point.rank]) (gives_same rfl)
    | other => exact .ends rfl (gives_same rfl) rfl
    | unsubscribe =>
      unfold unsubscribeMove
      dsimp only
      cases s.clients.get c with
      | none => exact ends_unsubscribed (gives_same rfl)
      | some t => exact .waits rfl rfl rfl (by simp [Point.rank]) (gives_same rfl)

/-- An answer that is no failure of Redis or of the database. -/
def Served (users : Users) (a : Answered) : Prop := ∃ R, a.2 = (serve users a.1.cmd R).2

theorem next_continues {a : Answered} (ha : a.1.origin = .message c data) (hs : Served users a) :
    Continues users c data (a.1.answer users) a.1.rank s (a.1.next a.2 s) := by
  obtain ⟨p, r⟩ := a
  obtain ⟨R, hr⟩ := hs
  obtain rfl : r = (serve users p.cmd R).2 := hr
  cases p with
  | lookup client data' connectType uid reset =>
    obtain ⟨rfl, rfl⟩ := Origin.message.inj ha
    show Continues users client data' (lookupAnswer connectType (users uid)) 4 s
      (Point.next (.lookup client data' connectType uid reset) (users uid) s)
    cases users uid with
    | error error => exact ends_close
    | ok v => exact lookupMove_continues connectType uid reset v
  | subscribeHSet client data' uid reset =>
    obtain ⟨rfl, rfl⟩ := Origin.message.inj ha
    exact .waits rfl rfl rfl (by simp [Point.rank]) (gives_same rfl)
  | subscribeSet client data' uid reset =>
    obtain ⟨rfl, rfl⟩ := Origin.message.inj ha
    exact trackMove_continues _ _ _ (by simp [Point.rank]) (gives_broadcast _)
  | snapshot client data' =>
    obtain ⟨rfl, rfl⟩ := Origin.message.inj ha
    exact .ends rfl (gives_one rfl (by simp [reaches])) ⟨_, rfl, rfl, rfl⟩
  | unsubscribeHDel client data' uid =>
    obtain ⟨rfl, rfl⟩ := Origin.message.inj ha
    exact ends_unsubscribed (gives_trans (gives_broadcast _) (gives_same rfl))
  | pongHSet client uid => cases ha
  | pongSet client uid => cases ha
  | expiryHDel key => cases ha

end

/-! ## Followed through a run -/

section
variable {α : Type} {l₁ l₂ : List α} {a b : α} {i : Nat}

theorem getElem?_skip (h : (l₁ ++ a :: l₂)[i]? = some b) (hi : l₁.length ≠ i) :
    (l₁ ++ l₂)[Spot.shift i l₁.length]? = some b := by
  unfold Spot.shift
  by_cases hlt : l₁.length < i
  · rw [if_pos hlt]
    rw [List.getElem?_append_right (by omega)] at h ⊢
    have hpred : i - l₁.length = (i - 1 - l₁.length) + 1 := by omega
    rw [hpred, List.getElem?_cons_succ] at h
    exact h
  · rw [if_neg hlt]
    rw [List.getElem?_append_left (by omega)] at h ⊢
    exact h

theorem getElem?_kept (h : l₁[i]? = some b) : (l₁ ++ l₂)[i]? = some b := by
  rw [List.getElem?_append_left (List.getElem?_eq_some_iff.mp h).1]
  exact h

theorem getElem?_middle : (l₁ ++ a :: l₂)[l₁.length]? = some a := by
  rw [List.getElem?_append_right (Nat.le_refl _), Nat.sub_self]
  rfl

end

/-- The handler of the frame `data` of `c` is at `spot`, and has done `effects`. -/
inductive Followed (users : Users) (c : WebSocket) (data : RawData) (m : Mirror) : Spot → List Effect → Prop
  | issued {i : Nat} {p : Point} {l : List Effect} (hi : m.issued[i]? = some p) (hp : p.origin = .message c data)
    (ho : p.answer users = frameAnswer users data) (hl : l.filter (reaches c) = []) :
    Followed users c data m (.issued i) l
  | replied {j : Nat} {a : Answered} {l : List Effect} (hj : m.replied[j]? = some a)
    (ha : a.1.origin = .message c data) (hs : Served users a) (ho : a.1.answer users = frameAnswer users data)
    (hl : l.filter (reaches c) = []) : Followed users c data m (.replied j) l
  | done {l : List Effect} (h : Answers c (frameAnswer users data) (l.filter (reaches c))) :
    Followed users c data m .done l

section
variable {users : Users} {c : WebSocket} {data : RawData} {m m' : Mirror} {e : Event} {spot : Spot} {l : List Effect}

theorem issued_length (m : Mirror) : m.world.process.issued.length = m.issued.length := List.length_map ..

theorem replied_length (m : Mirror) : m.world.process.replied.length = m.replied.length := List.length_map ..

theorem followed_quiet (h : Followed users c data m spot l) (hq : Spot.quiet e = true)
    (hi : ∃ k, m'.issued = m.issued ++ k) (hj : m'.replied = m.replied) :
    Followed users c data m' (spot.next m.world m'.world e)
      (if spot.runs e then l ++ m.world.effects m'.world else l) := by
  obtain ⟨hn, hr⟩ := Spot.next_quiet hq m.world m'.world spot
  rw [hn, hr]
  obtain ⟨k, hk⟩ := hi
  cases h with
  | issued hi hp ho hl => exact .issued (hk ▸ getElem?_kept hi) hp ho hl
  | replied hj' ha hs ho hl => exact .replied (hj ▸ hj') ha hs ho hl
  | done h => exact .done h

/-- After a move of its own the handler is where the move leaves it. -/
theorem followed_move {n : Nat} {t : Move} (ht : Continues users c data (frameAnswer users data) n m.server t)
    (hi : m'.issued = m.issued ++ t.suspended) (hs : m'.server = t.state) (hl : l.filter (reaches c) = []) :
    Followed users c data m' (.after m.world m'.world) (l ++ m.world.effects m'.world) := by
  have heffects : ∀ k, m'.server.trace = m.server.trace ++ k → m.world.effects m'.world = k := by
    intro k hk
    show m'.server.trace.drop m.server.trace.length = k
    rw [hk, List.drop_left]
  unfold Spot.after
  rw [issued_length, issued_length, hi]
  cases ht with
  | ends ht hg ha =>
    obtain ⟨k, hk, rfl⟩ := hg
    rw [ht, List.append_nil, if_pos rfl, heffects k (hs ▸ hk)]
    refine .done ?_
    rw [List.filter_append, hl]
    exact ha
  | @waits p ht hp ho hn hg =>
    obtain ⟨k, hk, hf⟩ := hg
    have hlen : (m.issued ++ [p]).length ≠ m.issued.length := by simp
    rw [ht, if_neg hlen, heffects k (hs ▸ hk)]
    refine .issued ?_ hp ho ?_
    · rw [hi, ht]
      exact getElem?_middle
    · rw [List.filter_append, hl, hf]
      rfl

theorem followed_step (h : Followed users c data m spot l) (hw : working e = true) (hs : Stepped users m e m') :
    Followed users c data m' (spot.next m.world m'.world e)
      (if spot.runs e then l ++ m.world.effects m'.world else l) := by
  cases hs with
  | @exec l₁ l₂ q hq =>
    cases h with
    | @issued i p l hi hp ho hl =>
      by_cases hk : l₁.length = i
      · subst hk
        have hqp : q = p := by
          rw [hq, getElem?_middle] at hi
          exact Option.some.inj hi
        subst hqp
        simp only [Spot.next, if_true, Spot.runs]
        refine .replied (a := ⟨q, (serve users q.cmd m.redis).2⟩) ?_ hp ⟨_, rfl⟩ ho hl
        rw [replied_length]
        exact getElem?_middle
      · simp only [Spot.next, if_neg hk, Spot.runs]
        exact .issued (getElem?_skip (hq ▸ hi) hk) hp ho hl
    | @replied j a l hj ha hs ho hl =>
      exact .replied (getElem?_kept hj) ha hs ho hl
    | done h => exact .done h
  | @resume l₁ l₂ b hb =>
    cases h with
    | @replied j a l hj ha hs ho hl =>
      by_cases hk : l₁.length = j
      · subst hk
        have hab : b = a := by
          rw [hb, getElem?_middle] at hj
          exact Option.some.inj hj
        subst hab
        simp only [Spot.next, if_true, Spot.runs, decide_true]
        exact followed_move (ho ▸ next_continues ha hs) rfl rfl hl
      · simp only [Spot.next, if_neg hk, Spot.runs, decide_eq_true_eq]
        exact .replied (getElem?_skip (hb ▸ hj) hk) ha hs ho hl
    | issued hi hp ho hl => exact .issued (getElem?_kept hi) hp ho hl
    | done h => exact .done h
  | reject _ => cases hw
  | message _ => exact followed_quiet h rfl ⟨_, rfl⟩ rfl
  | pong _ => exact followed_quiet h rfl ⟨_, rfl⟩ rfl
  | deliver _ => exact followed_quiet h rfl ⟨_, rfl⟩ rfl
  | disconnect _ => exact followed_quiet h rfl ⟨[], (List.append_nil _).symm⟩ rfl
  | pingTick => exact followed_quiet h rfl ⟨[], (List.append_nil _).symm⟩ rfl
  | expire _ => exact followed_quiet h rfl ⟨[], (List.append_nil _).symm⟩ rfl
  | expireOther _ => exact followed_quiet h rfl ⟨[], (List.append_nil _).symm⟩ rfl

end

/-! ## To the end -/

def Finishes (users : Users) (H : Handling) : Prop :=
  ∃ es H', es.all working = true ∧ run (handlingStep users) H es = some H' ∧ H'.spot = .done

section
variable {users : Users} {c : WebSocket} {data : RawData} {m : Mirror} {spot : Spot} {l : List Effect}

theorem finishes_step {H H' : Handling} {e : Event} (hw : working e = true) (hs : handlingStep users H e = some H')
    (h : Finishes users H') : Finishes users H := by
  obtain ⟨es, F, hes, hr, hd⟩ := h
  refine ⟨e :: es, F, ?_, ?_, hd⟩
  · rw [List.all_cons, hw, hes]
    rfl
  · simp only [run, hs]
    exact hr

theorem finishes_resume {j : Nat} {a : Answered} (hj : m.replied[j]? = some a) (ha : a.1.origin = .message c data)
    (hs : Served users a)
    (hp : ∀ (m' : Mirror) (l' : List Effect) (i : Nat) (p : Point), m'.issued[i]? = some p →
      p.origin = .message c data → p.rank < a.1.rank → Finishes users ⟨m'.world, .issued i, l'⟩) :
    Finishes users ⟨m.world, .replied j, l⟩ := by
  obtain ⟨l₁, l₂, hr, rfl, -⟩ := Process.eraseIdx_split hj
  refine finishes_step (e := .resume l₁.length) rfl (by rw [handlingStep, world_resume hr]; rfl) ?_
  simp only [Spot.next, if_true, Spot.after, issued_length]
  have hi : (m.resumed l₁ a l₂).issued = m.issued ++ (a.1.next a.2 m.server).suspended := rfl
  rw [hi]
  cases next_continues (s := m.server) ha hs with
  | ends ht hg hans =>
    rw [ht, List.append_nil, if_pos rfl]
    exact ⟨[], _, rfl, rfl, rfl⟩
  | @waits p ht hpo ho hn hg =>
    have hlen : (m.issued ++ [p]).length ≠ m.issued.length := by simp
    rw [ht, if_neg hlen]
    apply hp _ _ _ p _ hpo hn
    rw [hi, ht]
    exact getElem?_middle

theorem finishes_issued {n : Nat} : ∀ {m : Mirror} {l : List Effect} {i : Nat} {p : Point}, m.issued[i]? = some p →
    p.origin = .message c data → p.rank ≤ n → Finishes users ⟨m.world, .issued i, l⟩ := by
  induction n with
  | zero =>
    intro m l i p _ _ hn
    cases p <;> exact absurd hn (by simp [Point.rank])
  | succ n ih =>
    intro m l i p hi hp hn
    obtain ⟨l₁, l₂, hl, rfl, -⟩ := Process.eraseIdx_split hi
    refine finishes_step (e := .exec l₁.length) rfl (by rw [handlingStep, world_exec hl]; rfl) ?_
    simp only [Spot.next, if_true, replied_length]
    refine finishes_resume (a := ⟨p, (serve users p.cmd m.redis).2⟩) getElem?_middle hp ⟨_, rfl⟩ ?_
    intro m' l' i q hq hqo hlt
    exact ih hq hqo (Nat.le_of_lt_succ (Nat.lt_of_lt_of_le hlt hn))

theorem finishes_followed (h : Followed users c data m spot l) : Finishes users ⟨m.world, spot, l⟩ := by
  cases h with
  | issued hi hp _ _ => exact finishes_issued hi hp (Nat.le_refl _)
  | replied hj ha hs _ _ => exact finishes_resume hj ha hs fun _ _ _ _ hi hp _ => finishes_issued hi hp (Nat.le_refl _)
  | done _ => exact ⟨[], _, rfl, rfl, rfl⟩

end

/-! ## The right outcome -/

section
variable {users : Users} {c : WebSocket} {data : RawData}

theorem is_unique {o o' : FrameOutcome} {x : Effect} (h : o.Is c x) (h' : o'.Is c x) : o = o' := by
  cases x with
  | broadcast conn info => cases o <;> cases h
  | ping client => cases o <;> cases h
  | close client code reason =>
    cases o with
    | closed status =>
      cases o' with
      | closed status' => rw [← h.2, ← h'.2]
      | statuses => cases h'
      | unsubscribed => cases h'
    | statuses => cases h
    | unsubscribed => cases h
  | send via client channel sent =>
    cases sent with
    | statuses info =>
      cases o with
      | statuses =>
        cases o' with
        | statuses => rfl
        | closed status => cases h'
        | unsubscribed => cases h'
      | closed status => cases h
      | unsubscribed => cases h
    | connectType connectType =>
      cases o with
      | unsubscribed =>
        cases o' with
        | unsubscribed => rfl
        | closed status => cases h'
        | statuses => cases h'
      | closed status => cases h
      | statuses => cases h

theorem kindAnswer_right (connectType : Option Json) :
    (∃ o, kindAnswer connectType = some o ∧ kindOutcome connectType o) ↔ kindOf connectType ≠ .other := by
  unfold kindAnswer kindOutcome
  cases kindOf connectType with
  | subscribe => simp
  | unsubscribe => simp
  | other => simp

theorem lookupAnswer_right (message : Json) {userUid : String} (hu : message.field "user_uid" = some (.str userUid)) :
    (∃ o, lookupAnswer (message.field "connect_type") (users userUid) = some o ∧ uidOutcome users message o) ↔
      uidClassified users message = true := by
  unfold lookupAnswer uidOutcome uidClassified
  simp only [hu]
  cases users userUid with
  | error error => simp
  | ok v =>
    rcases v with _ | _ | _
    · simp
    · simp
    · simpa using kindAnswer_right (message.field "connect_type")

theorem requestOfMessage_right (message : Json) (ht : wellTyped (.json message) = true) :
    (∃ o, requestAnswer users (requestOfMessage message) = some o ∧ uidOutcome users message o) ↔
      uidClassified users message = true := by
  have hguest : (∃ o, kindAnswer (message.field "connect_type") = some o ∧
      kindOutcome (message.field "connect_type") o) ↔
      decide (kindOf (message.field "connect_type") ≠ .other) = true := by
    simpa using kindAnswer_right (message.field "connect_type")
  cases hu : message.field "user_uid" with
  | none =>
    simp only [requestOfMessage, uidOutcome, uidClassified, hu]
    exact hguest
  | some v =>
    cases v with
    | null =>
      simp only [requestOfMessage, uidOutcome, uidClassified, hu]
      exact hguest
    | str userUid =>
      simp only [requestOfMessage, hu]
      exact lookupAnswer_right message hu
    | _ => simp [wellTyped, hu] at ht

theorem frameAnswer_right (ht : wellTyped data = true) :
    (∃ o, frameAnswer users data = some o ∧ rightOutcome users data o) ↔ classified users data = true := by
  have hrefused : ∃ o, requestAnswer users .refused = some o ∧ o = .closed 1011 := ⟨_, rfl, rfl⟩
  cases data with
  | malformed => exact iff_of_true hrefused rfl
  | json message =>
    by_cases hn : message = .null
    · rw [hn]
      exact iff_of_true hrefused rfl
    have hright : ∀ o, rightOutcome users (.json message) o = _ := fun o => rightOutcome.eq_3 users o message hn
    unfold frameAnswer
    rw [request.eq_3 message hn, classified.eq_3 users message hn]
    simp only [hright]
    cases hc : message.field "channel" with
    | none =>
      have hundefined : StayWebSocketGateway.channelGateways "undefined" = none := by decide
      have hg : (Json.propertyKey none).map StayWebSocketGateway.channelGateways = some none := congrArg some hundefined
      rw [hg]
      exact iff_of_true ⟨_, rfl, rfl⟩ rfl
    | some v =>
      cases v with
      | str channel =>
        have hkey : Json.propertyKey (some (.str channel)) = some channel := by simp [Json.propertyKey, Json.text]
        have htext : Json.isText (some (.str channel)) WEBSOCKET_CHANNEL_USER_STATUS =
          decide (channel = WEBSOCKET_CHANNEL_USER_STATUS) := rfl
        simp only [hkey, htext, Option.map_some, StayWebSocketGateway.channelGateways]
        by_cases hch : channel = WEBSOCKET_CHANNEL_USER_STATUS
        · simp only [hch, if_true, decide_true]
          exact requestOfMessage_right message ht
        · by_cases hi : channel ∈ StayWebSocketGateway.inheritedNames
          · simp [hch, hi, requestAnswer]
          · simp [hch, hi, requestAnswer]
      | _ => simp [wellTyped, hc] at ht

theorem right_iff {H : Handling} (h : Answers c (frameAnswer users data) (H.effects.filter (reaches c))) :
    H.Right users c data ↔ ∃ o, frameAnswer users data = some o ∧ rightOutcome users data o := by
  unfold Handling.Right
  cases ho : frameAnswer users data with
  | none =>
    rw [ho] at h
    constructor
    · rintro ⟨x, hx, -⟩
      rw [hx] at h
      cases h
    · rintro ⟨o, hnone, -⟩
      cases hnone
  | some o =>
    rw [ho] at h
    obtain ⟨x, hx, hi⟩ := h
    constructor
    · rintro ⟨y, hy, o', hr, hi'⟩
      obtain rfl := (List.cons.inj (hx.symm.trans hy)).1
      obtain rfl := is_unique hi hi'
      exact ⟨o, rfl, hr⟩
    · rintro ⟨o', hsome, hr⟩
      obtain rfl := Option.some.inj hsome
      exact ⟨x, hx, o, hr, hi⟩

end

/-- **When a frame gets its outcome.** In every reachable state, whatever else
happens meanwhile and with Redis and the database working, the handler of a
frame can finish, and has by then done exactly the right thing to its socket,
exactly if the frame is one that is classified. -/
theorem frame_outcome_iff (users : Users) (client : WebSocket) (data : RawData) (ht : wellTyped data = true)
    (es₀ es : List Event) (w : World) (H₀ H : Handling) (h₀ : run (step users) World.start es₀ = some w)
    (hm : handle users w client data = some H₀) (hr : run (handlingStep users) H₀ es = some H)
    (hw : es.all working = true) :
    (∃ es' H', es'.all working = true ∧ run (handlingStep users) H es' = some H' ∧ H'.spot = .done) ∧
    (H.spot = .done → (H.Right users client data ↔ classified users data = true)) := by
  obtain ⟨m, -, rfl⟩ := run_lift (t := Mirror.start) (step_mirror users) h₀
  have hstart : ∃ m, H₀.world = m.world ∧ Followed users client data m H₀.spot H₀.effects := by
    obtain ⟨w', hs, rfl⟩ := Option.map_eq_some_iff.mp hm
    obtain ⟨m', rfl, hs'⟩ := world_step hs
    cases hs' with
    | message _ => exact ⟨_, rfl, followed_move (l := []) messageMove_continues rfl rfl rfl⟩
  have hend : ∃ m, H.world = m.world ∧ Followed users client data m H.spot H.effects := by
    refine run_invariant (I := fun H => ∃ m, H.world = m.world ∧ Followed users client data m H.spot H.effects) ?_ hstart
      (along_of_forall (fun e he => List.all_eq_true.mp hw e he) H₀) hr
    rintro ⟨w', spot, effects⟩ e H' ⟨m, hworld, hf⟩ hwork hs
    obtain rfl : w' = m.world := hworld
    obtain ⟨v, hv, rfl⟩ := Option.map_eq_some_iff.mp hs
    obtain ⟨m', rfl, hs'⟩ := world_step hv
    exact ⟨m', rfl, followed_step hf hwork hs'⟩
  obtain ⟨m', hworld, hf⟩ := hend
  obtain ⟨w', spot, effects⟩ := H
  obtain rfl : w' = m'.world := hworld
  refine ⟨finishes_followed hf, ?_⟩
  intro hdone
  obtain rfl : spot = .done := hdone
  cases hf with
  | done hans => exact (right_iff hans).trans (frameAnswer_right ht)

theorem frame_outcome_iff_subscribe :
    ∃ H₀ H, handle everyUser World.start 0 (frame "subscribe" (some "a") true) = some H₀ ∧
      run (handlingStep everyUser) H₀ [.exec 0, .message 1 .malformed, .resume 0, .exec 0, .pong 1, .resume 0, .exec 0,
        .pingTick, .resume 0, .exec 0, .resume 0] = some H ∧
      H.spot = .done ∧ H.Right everyUser 0 (frame "subscribe" (some "a") true) :=
  ⟨_, _, rfl, rfl, rfl, ((frame_outcome_iff everyUser 0 (frame "subscribe" (some "a") true) rfl [] [.exec 0,
    .message 1 .malformed, .resume 0, .exec 0, .pong 1, .resume 0, .exec 0, .pingTick, .resume 0, .exec 0, .resume 0]
    _ _ _ rfl rfl rfl rfl).2 rfl).mpr rfl⟩

def inheritedFrame : RawData := .json (.obj [("channel", .str "constructor")])

def rejectingUuids : Users := fun _ => .error ⟨"invalid input syntax for type uuid"⟩

/-- An inherited name as the channel and a uid that is no uuid close the socket
with 1011; a frame of neither kind leaves it without any outcome. -/
theorem frame_misclassified :
    (∃ H, handle everyUser World.start 0 inheritedFrame = some H ∧ H.spot = .done ∧
      ¬ H.Right everyUser 0 inheritedFrame) ∧
    (∃ H₀ H, handle rejectingUuids World.start 0 (frame "subscribe" (some "abc") true) = some H₀ ∧
      run (handlingStep rejectingUuids) H₀ [.exec 0, .resume 0] = some H ∧ H.spot = .done ∧
      ¬ H.Right rejectingUuids 0 (frame "subscribe" (some "abc") true)) ∧
    (∃ H, handle everyUser World.start 0 (frame "hello" none true) = some H ∧ H.spot = .done ∧
      ¬ H.Right everyUser 0 (frame "hello" none true)) := by
  refine ⟨⟨_, rfl, rfl, ?_⟩, ⟨_, _, rfl, rfl, rfl, ?_⟩, ⟨_, rfl, rfl, ?_⟩⟩
  · rintro ⟨x, hx, o, ho, hi⟩
    obtain rfl := (List.cons.inj hx).1
    obtain rfl : o = .closed 4004 := ho
    exact absurd hi.2 (by decide)
  · rintro ⟨x, hx, o, ho, hi⟩
    obtain rfl := (List.cons.inj hx).1
    obtain rfl : o = .closed 4001 := ho
    exact absurd hi.2 (by decide)
  · rintro ⟨x, hx, -⟩
    cases hx

end StayApi
