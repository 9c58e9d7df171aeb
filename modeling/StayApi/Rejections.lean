import StayApi.Mirror

/-!
# Rejected commands

Where the rejection of a command ends up. The gateway catches what
`handleMessage` rejects with and `pong` catches its own, but `subscribeMessage`
and `unsubscribeMessage` are started without an `await`, and nothing catches
what the callback of the expired-events rejects with.
-/

namespace StayApi

open WebsocketChannel UserStatusMessage

abbrev World.Rejection : Type := Replied Origin Server Command Reply JsError

def World.rejection (w : World) : Event → Option World.Rejection
  | .resume j => (w.process.replied[j]?).filter fun t => !t.reply.isOk
  | _ => none

def caught (t : Thread Origin Server Command Reply JsError) : Bool :=
  match t.origin, t.cmd with
  | .pong _, _ => true
  | _, .poolExists _ => true
  | _, _ => false

/-- The rejection the step delivers, if any, is caught by the program; the
sender of the message it belongs to is closed with 1011. -/
structure Handled (w : World) (e : Event) (w' : World) : Prop where
  caught : w'.process.unhandled = w.process.unhandled
  closes : ∀ t, w.rejection e = some t → ∀ client data, t.origin = .message client data →
    .close client 1011 "Internal Server Error" ∈ w.effects w'

/-! ## Turns that deliver no rejection -/

theorem messageMove_unhandled (client : WebSocket) (data : RawData) (s : Server) :
    (messageMove client data s).unhandled = [] := by
  unfold messageMove
  cases request data with
  | refused => rfl
  | unknownChannel => rfl
  | user connectType uid reset => rfl
  | guest connectType =>
    dsimp only
    cases kindOf connectType with
    | subscribe => rfl
    | other => rfl
    | unsubscribe =>
      unfold guestUnsubscribeMove
      cases s.clients.get client <;> rfl

theorem pongMove_unhandled (client : WebSocket) (s : Server) : (pongMove client s).unhandled = [] := by
  unfold pongMove
  cases s.clients.get client with
  | none => rfl
  | some t =>
    dsimp only
    cases t.userUid <;> rfl

theorem expiredMove_unhandled (key : String) (s : Server) : (expiredMove key s).unhandled = [] := by
  unfold expiredMove
  split <;> rfl

theorem trackMove_unhandled (client : WebSocket) (data : RawData) (uid : Option String) (reset : Bool)
    (info : BroadcastUserStatusInfo) (s : Server) : (trackMove client data uid reset info s).unhandled = [] := by
  unfold trackMove
  split <;> rfl

theorem lookupMove_unhandled (client : WebSocket) (data : RawData) (connectType : Option Json) (uid : String)
    (reset : Option Json) (userExists : Option Bool) (s : Server) :
    (lookupMove client data connectType uid reset userExists s).unhandled = [] := by
  unfold lookupMove
  rcases userExists with _ | _ | _
  · rfl
  · rfl
  · cases kindOf connectType with
    | subscribe => rfl
    | other => rfl
    | unsubscribe =>
      unfold unsubscribeMove
      dsimp only
      cases s.clients.get client <;> rfl

theorem next_ok_unhandled (p : Point) (v : Reply p.cmd) (s : Server) : (p.next (.ok v) s).unhandled = [] := by
  cases p with
  | lookup client data connectType uid reset => exact lookupMove_unhandled ..
  | subscribeSet client data uid reset => exact trackMove_unhandled ..
  | expiryHDel key =>
    simp only [Point.next, expiryMove]
    split <;> rfl
  | _ => rfl

theorem next_error_unhandled (p : Point) (error : JsError) (s : Server) :
    (p.next (.error error) s).unhandled = if caught p.thread then [] else [error] := by
  cases p <;> rfl

section
variable {users : Users} {m m' : Mirror} {e : Event}

theorem rejection_resume {l₁ l₂ : List Answered} {a : Answered} (hr : m.replied = l₁ ++ a :: l₂) :
    m.world.rejection (.resume l₁.length) = if a.2.isOk then none else some ⟨a.1.thread, a.2⟩ := by
  unfold World.rejection
  simp only [replied_world hr]
  by_cases ho : a.2.isOk = true
  · simp [ho]
  · simp [ho]

theorem unhandled_turn {t : Move} (h : t.unhandled = []) :
    (m.turn t).world.process.unhandled = m.world.process.unhandled := by
  show m.handlers.unhandled ++ t.unhandled = m.handlers.unhandled
  rw [h, List.append_nil]

theorem unhandled_step (hs : Stepped users m e m') (h : m.world.rejection e = none) :
    m'.world.process.unhandled = m.world.process.unhandled := by
  cases hs with
  | message _ => exact unhandled_turn (messageMove_unhandled _ _ _)
  | pong _ => exact unhandled_turn (pongMove_unhandled _ _)
  | deliver _ => exact unhandled_turn (expiredMove_unhandled _ _)
  | @resume l₁ l₂ a hr =>
    rw [rejection_resume hr] at h
    obtain ⟨p, r⟩ := a
    cases r with
    | error error => cases h
    | ok v =>
      show m.handlers.unhandled ++ (p.next (.ok v) m.server).unhandled = m.handlers.unhandled
      rw [next_ok_unhandled, List.append_nil]
  | _ => rfl

theorem next_error_closes {p : Point} (error : JsError) (s : Server) (hc : caught p.thread = true)
    {client : WebSocket} {data : RawData} (ho : p.origin = .message client data) :
    (p.next (.error error) s).state.trace = s.trace ++ [.close client 1011 "Internal Server Error"] := by
  cases p with
  | lookup c d connectType uid reset =>
    obtain ⟨rfl, -⟩ := Origin.message.inj ho
    rfl
  | pongHSet c uid => cases ho
  | pongSet c uid => cases ho
  | _ => cases hc

theorem handled_step (hs : Stepped users m e m') :
    Handled m.world e m'.world ↔ (m.world.rejection e).all (fun t => caught t.toThread) = true := by
  cases hr : m.world.rejection e with
  | none =>
    constructor
    · intro _
      rfl
    · intro _
      refine ⟨unhandled_step hs hr, fun t ht => ?_⟩
      rw [hr] at ht
      cases ht
  | some t =>
    cases hs with
    | @resume l₁ l₂ a ha =>
      rw [rejection_resume ha] at hr
      obtain ⟨p, r⟩ := a
      cases r with
      | ok v => cases hr
      | error error =>
        obtain rfl : (⟨p.thread, .error error⟩ : World.Rejection) = t := Option.some.inj hr
        have hu : (m.resumed l₁ ⟨p, .error error⟩ l₂).world.process.unhandled =
            m.world.process.unhandled ++ if caught p.thread then [] else [error] :=
          congrArg (m.handlers.unhandled ++ ·) (next_error_unhandled p error m.server)
        constructor
        · rintro ⟨hc, -⟩
          rw [hu] at hc
          show caught p.thread = true
          cases hp : caught p.thread with
          | true => rfl
          | false => rw [hp] at hc; simp at hc
        · intro hc
          have hp : caught p.thread = true := hc
          refine ⟨?_, fun t ht client data ho => ?_⟩
          · rw [hu, hp]
            simp
          · rw [rejection_resume ha] at ht
            obtain rfl : (⟨p.thread, .error error⟩ : World.Rejection) = t := Option.some.inj ht
            have htr : (m.resumed l₁ ⟨p, .error error⟩ l₂).world.server.trace =
                m.server.trace ++ [.close client 1011 "Internal Server Error"] :=
              next_error_closes error m.server hp ho
            unfold World.effects
            rw [htr]
            simp [World.server, Mirror.world, Mirror.server]
    | _ => cases hr

end

/-- **Which rejections are handled.** In every reachable state, a step's
rejection is caught, and a message's sender closed with 1011, exactly if the
rejected command is a lookup or belongs to a pong. -/
theorem rejection_handled_iff (users : Users) (es : List Event) (w w' : World) (e : Event)
    (hr : run (step users) World.start es = some w) (hs : step users w e = some w') :
    Handled w e w' ↔ (w.rejection e).all fun t => caught t.toThread := by
  obtain ⟨m, -, rfl⟩ := run_lift (t := Mirror.start) (step_mirror users) hr
  obtain ⟨m', rfl, hs'⟩ := world_step hs
  exact handled_step hs'

def noUuids : Users := fun _ => .error ⟨"invalid input syntax for type uuid"⟩

theorem rejection_handled_iff_lookup :
    ∃ w w', run (step noUuids) World.start [.message 0 (frame "subscribe" (some "a") true), .exec 0] = some w ∧
      step noUuids w (.resume 0) = some w' ∧ Handled w (.resume 0) w' :=
  ⟨_, _, rfl, rfl, (rejection_handled_iff noUuids [.message 0 (frame "subscribe" (some "a") true), .exec 0] _ _
    (.resume 0) rfl rfl).mpr rfl⟩

/-- The `hSet` of a subscribe is rejected: nobody catches it, and the socket stays open. -/
theorem subscribe_rejection_escapes :
    ∃ w w', run (step everyUser) World.start
        [.message 0 (frame "subscribe" (some "a") true), .exec 0, .resume 0, .reject 0 false ⟨"connection lost"⟩] = some w ∧
      step everyUser w (.resume 0) = some w' ∧
      w'.process.unhandled = [⟨"connection lost"⟩] ∧ ¬ Handled w (.resume 0) w' :=
  ⟨_, _, rfl, rfl, rfl, fun h => by cases h.caught⟩

end StayApi
