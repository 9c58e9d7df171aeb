import Mathlib.Algebra.FreeMonoid.Basic
import StayApi.Effects
import StayApi.Known

/-!
# Who hears a broadcast

`broadcastStatus` walks over the tracked clients and skips the client it is
called for and every socket that is not open. Over a run, the broadcast frames a
socket has been sent are compared with the broadcasts it was due.
-/

namespace StayApi

open WebsocketChannel UserStatusMessage

/-- The calls of `broadcastStatus` among some effects. -/
def announcements : List Effect → List (Option WebSocket × BroadcastUserStatusInfo)
  | [] => []
  | .broadcast conn info :: l => (conn, info) :: announcements l
  | _ :: l => announcements l

/-- The frame is one that `broadcastStatus` sends to `c`. -/
def isBroadcastFor (c : WebSocket) : Effect → Bool
  | .send .broadcast client _ _ => client = c
  | _ => false

/-- A broadcast on behalf of `conn` is meant for `c`. -/
def Server.listens (s : Server) (conn : Option WebSocket) (c : WebSocket) : Bool :=
  (s.clients.get c).isSome && conn ≠ some c && s.readyState c = .OPEN

/-- The broadcasts that a step owes `c`, by what is tracked and open before it. -/
def due (users : Users) (c : WebSocket) (w : World) (e : Event) : FreeAddMonoid BroadcastUserStatusInfo :=
  match step users w e with
  | none => 0
  | some w' =>
    .ofList (((announcements (w.effects w')).filter fun a => w.server.listens a.1 c).map Prod.snd)

/-- An effect that is no part of a broadcast. -/
def Apart : Effect → Prop
  | .broadcast _ _ => False
  | .send .broadcast _ _ _ => False
  | _ => True

/-- From `s` to `s'` there is one broadcast, heard by the recipients of `s`. -/
def Announces (s s' : Server) : Prop :=
  ∃ conn info l, s'.trace =
    s.trace ++ (.broadcast conn info :: (recipients conn s).map (broadcastFrame WEBSOCKET_CHANNEL_USER_STATUS info)) ++
      l ∧ ∀ x ∈ l, Apart x

section
variable {c : WebSocket} {s s' : Server}

theorem announces_adds (conn : Option WebSocket) (info : BroadcastUserStatusInfo)
    (h : Adds Apart (broadcastStatus conn WEBSOCKET_CHANNEL_USER_STATUS info s) s') : Announces s s' := by
  obtain ⟨l, hl, hp⟩ := h
  refine ⟨conn, info, l, ?_, hp⟩
  rw [hl, broadcastStatus_eq]

/-! ## Which effects a move adds -/

theorem trackMove_apart (client : WebSocket) (data : RawData) (uid : Option String) (reset : Bool)
    (info : BroadcastUserStatusInfo) : Adds Apart s (trackMove client data uid reset info s).state := by
  unfold trackMove
  split
  · exact adds_same rfl
  · exact adds_one rfl trivial

theorem guestUnsubscribeMove_apart (client : WebSocket) : Adds Apart s (guestUnsubscribeMove client s).state := by
  unfold guestUnsubscribeMove
  cases s.clients.get client with
  | none => exact adds_one rfl trivial
  | some t => exact adds_one rfl trivial

theorem messageMove_apart (client : WebSocket) (data : RawData) : Adds Apart s (messageMove client data s).state := by
  unfold messageMove
  cases request data with
  | refused => exact adds_one rfl trivial
  | unknownChannel => exact adds_one rfl trivial
  | user connectType uid reset => exact adds_same rfl
  | guest connectType =>
    dsimp only
    cases kindOf connectType with
    | subscribe => exact trackMove_apart ..
    | unsubscribe => exact guestUnsubscribeMove_apart ..
    | other => exact adds_same rfl

theorem lookupMove_apart (client : WebSocket) (data : RawData) (connectType : Option Json) (uid : String)
    (reset : Option Json) (userExists : Option Bool) :
    Adds Apart s (lookupMove client data connectType uid reset userExists s).state := by
  unfold lookupMove
  rcases userExists with _ | _ | _
  · exact adds_one rfl trivial
  · exact adds_one rfl trivial
  · cases kindOf connectType with
    | subscribe => exact adds_same rfl
    | other => exact adds_same rfl
    | unsubscribe =>
      unfold unsubscribeMove
      dsimp only
      cases s.clients.get client with
      | none => exact adds_one rfl trivial
      | some t => exact adds_same rfl

theorem next_announces (a : Answered) :
    Adds Apart s (a.1.next a.2 s).state ∨ Announces s (a.1.next a.2 s).state := by
  obtain ⟨p, r⟩ := a
  cases p with
  | lookup client data connectType uid reset =>
    cases r with
    | ok v => exact .inl (lookupMove_apart ..)
    | error error => exact .inl (adds_one rfl trivial)
  | subscribeSet client data uid reset =>
    cases r with
    | ok v => exact .inr (announces_adds (some client) (onlineInfo uid) (trackMove_apart ..))
    | error error => exact .inl (adds_same rfl)
  | snapshot client data =>
    cases r with
    | ok v => exact .inl (adds_one rfl trivial)
    | error error => exact .inl (adds_same rfl)
  | unsubscribeHDel client data uid =>
    cases r with
    | ok v => exact .inr (announces_adds (some client) (offlineInfo uid) (adds_one rfl trivial))
    | error error => exact .inl (adds_same rfl)
  | expiryHDel key =>
    cases r with
    | ok v =>
      simp only [Point.next, expiryMove]
      split
      · exact .inr (announces_adds none (offlineInfo (uidOfKey key)) (adds_same rfl))
      · exact .inl (adds_same rfl)
    | error error => exact .inl (adds_same rfl)
  | subscribeHSet client data uid reset => cases r <;> exact .inl (adds_same rfl)
  | pongHSet client uid => cases r <;> exact .inl (adds_same rfl)
  | pongSet client uid => exact .inl (adds_same rfl)

/-- A step makes at most one broadcast, and makes it before it changes anything. -/
theorem step_announces {users : Users} {m m' : Mirror} {e : Event} (hs : Stepped users m e m') :
    Adds Apart m.server m'.server ∨ Announces m.server m'.server := by
  cases hs with
  | message _ => exact .inl (messageMove_apart ..)
  | pong _ => exact .inl (adds_same (pongMove_trace ..))
  | disconnect _ => exact .inl (adds_same (disconnect_trace ..))
  | pingTick =>
    obtain ⟨l, hl, hp⟩ := ping_adds m.server
    refine .inl ⟨l, hl, ?_⟩
    intro x hx
    obtain ⟨c, rfl⟩ := hp x hx
    trivial
  | expire _ => exact .inl (adds_same rfl)
  | expireOther _ => exact .inl (adds_same rfl)
  | @deliver l₁ l₂ key _ => exact .inl (adds_same (congrArg Server.trace (expiredMove_state key m.server)))
  | exec _ => exact .inl (adds_same rfl)
  | reject _ => exact .inl (adds_same rfl)
  | @resume l₁ l₂ a _ => exact next_announces a

/-! ## What is heard of them -/

theorem announcements_append (l l' : List Effect) : announcements (l ++ l') = announcements l ++ announcements l' := by
  induction l with
  | nil => rfl
  | cons x l ih => cases x <;> simp [announcements, ih]

theorem announcements_apart {l : List Effect} (h : ∀ x ∈ l, Apart x) : announcements l = [] := by
  induction l with
  | nil => rfl
  | cons x l ih =>
    have hl := ih fun y hy => h y (List.mem_cons_of_mem _ hy)
    cases x with
    | broadcast conn info => exact absurd (h _ List.mem_cons_self) id
    | _ => exact hl

theorem announcements_frames (channel : String) (info : BroadcastUserStatusInfo) (l : List WebSocket) :
    announcements (l.map (broadcastFrame channel info)) = [] := by
  induction l with
  | nil => rfl
  | cons d l ih => exact ih

theorem isBroadcastFor_apart {l : List Effect} (h : ∀ x ∈ l, Apart x) : l.filter (isBroadcastFor c) = [] := by
  apply List.filter_eq_nil_iff.mpr
  intro x hx
  have ha := h x hx
  cases x with
  | send via client channel data =>
    cases via with
    | broadcast => exact absurd ha id
    | _ => exact Bool.false_ne_true
  | broadcast conn info => exact absurd ha id
  | close _ _ _ => exact Bool.false_ne_true
  | ping _ => exact Bool.false_ne_true

theorem isBroadcastFor_frames (channel : String) (info : BroadcastUserStatusInfo) (l : List WebSocket) :
    (l.map (broadcastFrame channel info)).filter (isBroadcastFor c) =
      (List.replicate (l.count c) c).map (broadcastFrame channel info) := by
  rw [List.filter_map]
  have hf : (isBroadcastFor c ∘ broadcastFrame channel info) = (· == c) := by
    funext d
    exact (beq_eq_decide d c).symm
  rw [hf, List.filter_beq]

/-- Under their own sockets, the clients are walked over socket by socket. -/
theorem recipients_eq (hs : ∀ c t, s.clients.get c = some t → t.socket = c) (conn : Option WebSocket) :
    recipients conn s = (s.clients.entries.map Prod.fst).filter fun c => conn ≠ some c ∧ s.readyState c = .OPEN := by
  unfold recipients
  have hk : s.clients.entries.map Prod.fst = (s.clients.entries.map Prod.snd).map TrackedClient.socket := by
    rw [List.map_map]
    apply List.map_congr_left
    intro e he
    exact (hs e.1 e.2 (OrdMap.get_of_mem he)).symm
  rw [hk]
  symm
  exact List.filter_map (f := TrackedClient.socket) (p := fun c => conn ≠ some c ∧ s.readyState c = .OPEN)

theorem recipients_count (hs : ∀ c t, s.clients.get c = some t → t.socket = c) (conn : Option WebSocket) :
    (recipients conn s).count c = if s.listens conn c then 1 else 0 := by
  rw [recipients_eq hs, (s.clients.nodup.filter _).count]
  have hm : c ∈ s.clients.entries.map Prod.fst ↔ (s.clients.get c).isSome := OrdMap.mem_keys
  simp only [List.mem_filter, hm, Server.listens]
  congr 1
  simp only [Bool.and_eq_true, decide_eq_true_eq, and_assoc]

theorem heard_due {users : Users} {m m' : Mirror} {e : Event} (hk : Known users m) (hs : Stepped users m e m') :
    (m.world.effects m'.world).filter (isBroadcastFor c) =
      (((announcements (m.world.effects m'.world)).filter fun a => m.server.listens a.1 c).map Prod.snd).map
        (broadcastFrame WEBSOCKET_CHANNEL_USER_STATUS · c) := by
  have heff {l : List Effect} (h : m'.server.trace = m.server.trace ++ l) : m.world.effects m'.world = l := by
    show m'.server.trace.drop m.server.trace.length = l
    rw [h, List.drop_left]
  rcases step_announces hs with ⟨l, hl, hp⟩ | ⟨conn, info, l, hl, hp⟩
  · rw [heff hl, isBroadcastFor_apart hp, announcements_apart hp]
    rfl
  · rw [List.append_assoc] at hl
    have ha : announcements (m.world.effects m'.world) = [(conn, info)] := by
      rw [heff hl, announcements_append, announcements_apart hp, announcements, announcements_frames]
      rfl
    have hsocket : ∀ c t, m.server.clients.get c = some t → t.socket = c := fun c t ht => (hk.clients c t ht).1
    rw [ha, heff hl, List.filter_append, isBroadcastFor_apart hp, List.append_nil,
      List.filter_cons_of_neg (by simp [isBroadcastFor]),
      isBroadcastFor_frames, recipients_count hsocket]
    cases hc : m.server.listens conn c with
    | false => simp [hc]
    | true => simp [hc]

end

theorem mirror_due {users : Users} {c : WebSocket} {m m' : Mirror} {e : Event} (hs : mirrorStep users m e = some m') :
    due users c m.world e =
      .ofList (((announcements (m.world.effects m'.world)).filter fun a => m.server.listens a.1 c).map Prod.snd) := by
  have h : step users m.world e = some m'.world := by rw [step_mirror, hs]; rfl
  unfold due
  rw [h]
  rfl

/-- Over every run, the broadcast frames a socket has been sent are the broadcasts
made while it was tracked and open and by another socket, each once and in order. -/
theorem broadcasts_heard (users : Users) {es : List Event} {w : World}
    (hr : run (step users) World.start es = some w) (c : WebSocket) :
    w.server.trace.filter (isBroadcastFor c) =
      (gather (step users) (due users c) World.start es).toList.map
        (broadcastFrame WEBSOCKET_CHANNEL_USER_STATUS · c) := by
  obtain ⟨m, -, hm, rfl⟩ := mirror_run (along_true World.start es) hr
  have hg := gather_map (step_mirror users) (due users c) Mirror.start es
  -- the clients stay filed under their own sockets, and the frames follow what is due
  let I : FreeAddMonoid BroadcastUserStatusInfo → Mirror → Prop := fun x m =>
    Known users m ∧
      m.server.trace.filter (isBroadcastFor c) = x.toList.map (broadcastFrame WEBSOCKET_CHANNEL_USER_STATUS · c)
  have hI : ∀ x m e m', I x m → True → mirrorStep users m e = some m' → I (x + due users c m.world e) m' := by
    rintro x m e m' ⟨hk, hx⟩ - hs
    have ht : m'.server.trace = m.server.trace ++ m.world.effects m'.world := by
      obtain ⟨l, hl⟩ := step_grows (mirror_cases hs)
      have : m.world.effects m'.world = m'.server.trace.drop m.server.trace.length := rfl
      rw [this, hl, List.drop_left]
    refine ⟨known_step hk (mirror_cases hs), ?_⟩
    rw [ht, List.filter_append, hx, heard_due hk (mirror_cases hs), mirror_due hs, FreeAddMonoid.toList_add,
      FreeAddMonoid.toList_ofList, List.map_append]
  have h := run_gather (x := 0) hI ⟨known_start users, rfl⟩ (along_true Mirror.start es) hm
  rw [zero_add] at h
  show m.server.trace.filter (isBroadcastFor c) = _
  rw [h.2]
  exact congrArg _ (congrArg _ hg.symm)

theorem broadcasts_heard_second :
    ∃ w, run (step everyUser) World.start (subscribeRun 0 "a" ++ subscribeRun 1 "b") = some w ∧
      w.server.trace.filter (isBroadcastFor 0) = [broadcastFrame WEBSOCKET_CHANNEL_USER_STATUS (onlineInfo "b") 0] := by
  obtain ⟨w, hw⟩ := Option.isSome_iff_exists.mp
    (show (run (step everyUser) World.start (subscribeRun 0 "a" ++ subscribeRun 1 "b")).isSome = true by decide)
  exact ⟨w, hw, broadcasts_heard everyUser hw 0⟩

end StayApi
