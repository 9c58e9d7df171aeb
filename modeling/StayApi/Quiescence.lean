import StayApi.ServerLemmas

/-!
# The handlers come to an end

Every handler of the presence system waits for a bounded number of commands,
whatever the answers are, and none waits for another. What a process still has
to do is counted by the commands its handlers can still wait for.
-/

namespace StayApi

open WebsocketChannel UserStatusMessage

/-- The step is one that a handler under way takes, not a new callback. -/
def internal : Event → Bool
  | .exec _ => true
  | .reject _ _ _ => true
  | .resume _ => true
  | _ => false

/-- A command carried out or its reply handed over. -/
def answers : Event → Bool
  | .exec _ => true
  | .resume _ => true
  | _ => false

/-- The internal steps that a callback can lead to. -/
def stepsOf : Event → Nat
  | .message _ _ => 8
  | .pong _ => 4
  | .deliver _ => 2
  | _ => 0

/-- The commands that a handler can still wait for, this one included. -/
def Point.commandsLeft : Point → Nat
  | .lookup _ _ _ _ _ => 4
  | .subscribeHSet _ _ _ _ => 3
  | .subscribeSet _ _ _ _ => 2
  | .snapshot _ _ => 1
  | .unsubscribeHDel _ _ _ => 1
  | .pongHSet _ _ => 2
  | .pongSet _ _ => 1
  | .expiryHDel _ => 1

def issuedWork (l : List Point) : Nat := (l.map fun p => 2 * p.commandsLeft).sum

def repliedWork (l : List Answered) : Nat := (l.map fun a => 2 * a.1.commandsLeft - 1).sum

def Mirror.work (m : Mirror) : Nat := issuedWork m.issued + repliedWork m.replied

section
variable {s : Server}

theorem Point.commandsLeft_pos (p : Point) : 0 < p.commandsLeft := by
  cases p <;> simp [Point.commandsLeft]

theorem issuedWork_append (l l' : List Point) : issuedWork (l ++ l') = issuedWork l + issuedWork l' := by
  simp [issuedWork]

theorem repliedWork_append (l l' : List Answered) : repliedWork (l ++ l') = repliedWork l + repliedWork l' := by
  simp [repliedWork]

theorem issuedWork_cons (p : Point) (l : List Point) : issuedWork (p :: l) = 2 * p.commandsLeft + issuedWork l := rfl

theorem repliedWork_cons (a : Answered) (l : List Answered) :
    repliedWork (a :: l) = (2 * a.1.commandsLeft - 1) + repliedWork l := rfl

/-! ## What a move leaves to do -/

theorem trackMove_work (client : WebSocket) (data : RawData) (uid : Option String) (reset : Bool)
    (info : BroadcastUserStatusInfo) : issuedWork (trackMove client data uid reset info s).suspended ≤ 2 := by
  unfold trackMove
  split
  · exact Nat.le_refl 2
  · exact Nat.zero_le 2

theorem unsubscribeMove_work (client : WebSocket) (data : RawData) (uid : String) :
    issuedWork (unsubscribeMove client data uid s).suspended ≤ 2 := by
  unfold unsubscribeMove
  cases s.clients.get client with
  | none => exact Nat.zero_le 2
  | some t => exact Nat.le_refl 2

theorem messageMove_work (client : WebSocket) (data : RawData) :
    issuedWork (messageMove client data s).suspended ≤ 8 := by
  unfold messageMove
  cases request data with
  | refused => exact Nat.zero_le 8
  | unknownChannel => exact Nat.zero_le 8
  | user connectType uid reset => exact Nat.le_refl 8
  | guest connectType =>
    dsimp only
    cases kindOf connectType with
    | other => exact Nat.zero_le 8
    | subscribe => exact Nat.le_trans (trackMove_work ..) (by decide)
    | unsubscribe =>
      unfold guestUnsubscribeMove
      dsimp only
      cases s.clients.get client <;> exact Nat.zero_le 8

theorem pongMove_work (client : WebSocket) : issuedWork (pongMove client s).suspended ≤ 4 := by
  unfold pongMove
  cases s.clients.get client with
  | none => exact Nat.zero_le 4
  | some t =>
    dsimp only
    cases t.userUid with
    | none => exact Nat.zero_le 4
    | some uid => exact Nat.le_refl 4

theorem expiredMove_work (key : String) : issuedWork (expiredMove key s).suspended ≤ 2 := by
  unfold expiredMove
  split
  · exact Nat.le_refl 2
  · exact Nat.zero_le 2

theorem lookupMove_work (client : WebSocket) (data : RawData) (connectType : Option Json) (uid : String)
    (reset : Option Json) (userExists : Option Bool) :
    issuedWork (lookupMove client data connectType uid reset userExists s).suspended ≤ 6 := by
  unfold lookupMove
  rcases userExists with _ | _ | _
  · exact Nat.zero_le 6
  · exact Nat.zero_le 6
  · cases kindOf connectType with
    | subscribe => exact Nat.le_refl 6
    | other => exact Nat.zero_le 6
    | unsubscribe => exact Nat.le_trans (unsubscribeMove_work ..) (by decide)

theorem next_work (a : Answered) :
    issuedWork (a.1.next a.2 s).suspended + 2 ≤ 2 * a.1.commandsLeft := by
  obtain ⟨p, r⟩ := a
  cases p with
  | lookup client data connectType uid reset =>
    cases r with
    | ok v => exact Nat.add_le_add_right (lookupMove_work ..) 2
    | error error => show 0 + 2 ≤ 8; decide
  | subscribeHSet client data uid reset =>
    cases r with
    | ok v => exact Nat.le_refl 6
    | error error => show 0 + 2 ≤ 6; decide
  | subscribeSet client data uid reset =>
    cases r with
    | ok v => exact Nat.add_le_add_right (trackMove_work ..) 2
    | error error => show 0 + 2 ≤ 4; decide
  | pongHSet client uid =>
    cases r with
    | ok v => exact Nat.le_refl 4
    | error error => show 0 + 2 ≤ 4; decide
  | expiryHDel key =>
    cases r with
    | ok v =>
      simp only [Point.next, expiryMove]
      split <;> exact Nat.le_refl 2
    | error error => exact Nat.le_refl 2
  | snapshot client data => cases r <;> exact Nat.le_refl 2
  | unsubscribeHDel client data uid => cases r <;> exact Nat.le_refl 2
  | pongSet client uid => exact Nat.le_refl 2

end

/-! ## What a step leaves to do -/

section
variable {users : Users} {m m' : Mirror} {e : Event}

theorem turn_work (t : Move) : (m.turn t).work = m.work + issuedWork t.suspended := by
  show issuedWork (m.issued ++ t.suspended) + repliedWork m.replied = _
  rw [issuedWork_append, Mirror.work]
  omega

theorem answered_work {l₁ l₂ : List Point} {a : Answered} (hi : m.issued = l₁ ++ a.1 :: l₂) (R : Redis) :
    (m.answered l₁ l₂ R a).work + 1 = m.work := by
  show issuedWork (l₁ ++ l₂) + repliedWork (m.replied ++ [a]) + 1 = _
  have hp := a.1.commandsLeft_pos
  rw [Mirror.work, hi, issuedWork_append, issuedWork_append, issuedWork_cons, repliedWork_append, repliedWork_cons]
  show _ + (_ + (_ + 0)) + 1 = _
  omega

theorem resumed_work {l₁ l₂ : List Answered} {a : Answered} (hr : m.replied = l₁ ++ a :: l₂) :
    (m.resumed l₁ a l₂).work + 1 ≤ m.work := by
  show issuedWork (m.issued ++ (a.1.next a.2 m.server).suspended) + repliedWork (l₁ ++ l₂) + 1 ≤ _
  have hn := next_work (s := m.server) a
  rw [Mirror.work, hr, issuedWork_append, repliedWork_append, repliedWork_append, repliedWork_cons]
  omega

/-- Every internal step is paid for by what was left to do, and only callbacks add to that. -/
theorem step_work (hs : Stepped users m e m') :
    m'.work + (if internal e then 1 else 0) ≤ m.work + stepsOf e := by
  cases hs with
  | message _ => rw [turn_work]; exact Nat.add_le_add_left (messageMove_work ..) _
  | pong _ => rw [turn_work]; exact Nat.add_le_add_left (pongMove_work ..) _
  | disconnect _ => exact Nat.le_refl _
  | pingTick => exact Nat.le_refl _
  | expire _ => exact Nat.le_refl _
  | expireOther _ => exact Nat.le_refl _
  | deliver _ => rw [Mirror.received, turn_work]; exact Nat.add_le_add_left (expiredMove_work ..) _
  | exec hi => exact Nat.le_of_eq (answered_work (a := ⟨_, _⟩) hi _)
  | reject hi => exact Nat.le_of_eq (answered_work (a := ⟨_, _⟩) hi _)
  | resume hr => exact resumed_work hr

theorem mirror_exec {l₁ l₂ : List Point} {p : Point} (hi : m.issued = l₁ ++ p :: l₂) :
    mirrorStep users m (.exec l₁.length) =
      some (m.answered l₁ l₂ (serve users p.cmd m.redis).1 ⟨p, (serve users p.cmd m.redis).2⟩) := by
  simp only [mirrorStep]
  rw [PointProcess.answer_split hi rfl]
  rfl

theorem mirror_resume {l₁ l₂ : List Answered} {a : Answered} (hr : m.replied = l₁ ++ a :: l₂) :
    mirrorStep users m (.resume l₁.length) = some (m.resumed l₁ a l₂) := by
  have h : m.handlers.resume l₁.length = some _ := PointProcess.resume_split hr
  simp only [mirrorStep]
  rw [h]
  rfl

theorem mirror_idle (m : Mirror) : m.world.Idle ↔ m.issued = [] ∧ m.replied = [] :=
  and_congr List.map_eq_nil_iff List.map_eq_nil_iff

/-- While a handler is under way, a command can be carried out or a reply handed over. -/
theorem mirror_drains (users : Users) (m : Mirror) (h : ¬ m.world.Idle) :
    ∃ e m', answers e = true ∧ mirrorStep users m e = some m' ∧ m'.work + 1 ≤ m.work := by
  rw [mirror_idle] at h
  cases hi : m.issued with
  | cons p l =>
    have hi' : m.issued = [] ++ p :: l := hi
    exact ⟨_, _, rfl, mirror_exec hi', Nat.le_of_eq (answered_work (a := ⟨p, _⟩) hi' _)⟩
  | nil =>
    cases hr : m.replied with
    | cons a l =>
      have hr' : m.replied = [] ++ a :: l := hr
      exact ⟨_, _, rfl, mirror_resume hr', resumed_work hr'⟩
    | nil => exact absurd ⟨hi, hr⟩ h

theorem internal_count (es : List Event) :
    (es.map fun e => if internal e then 1 else 0).sum = es.countP internal := by
  induction es with
  | nil => rfl
  | cons e es ih => rw [List.map_cons, List.sum_cons, ih, List.countP_cons, Nat.add_comm]

/-- However the commands are answered, the handlers together take no more steps than
all callbacks of the run pay for; and from every state they come to an end by
themselves, in the steps that are left. -/
theorem handlers_finish (users : Users) {es : List Event} {w : World}
    (hr : run (step users) World.start es = some w) :
    es.countP internal ≤ (es.map stepsOf).sum ∧
      ∃ fs w', (∀ e ∈ fs, answers e = true) ∧ run (step users) w fs = some w' ∧ w'.Idle ∧
        es.countP internal + fs.length ≤ (es.map stepsOf).sum := by
  obtain ⟨m, -, hm, rfl⟩ := mirror_run (along_true World.start es) hr
  have hpaid : m.work + (es.map fun e => if internal e then 1 else 0).sum ≤ 0 + (es.map stepsOf).sum :=
    run_paid (fun m e m' hs => step_work (mirror_cases hs)) hm
  rw [internal_count] at hpaid
  refine ⟨by omega, ?_⟩
  have hdrain : ∀ m : Mirror, True → ¬ m.world.Idle →
      ∃ e m', answers e = true ∧ mirrorStep users m e = some m' ∧ True ∧ m'.work + 1 ≤ m.work := by
    intro m _ h
    obtain ⟨e, m', he, hs, hw⟩ := mirror_drains users m h
    exact ⟨e, m', he, hs, trivial, hw⟩
  obtain ⟨fs, m', hfs, hl, hrun, -, hd⟩ := run_drains hdrain m.work trivial (Nat.le_refl _)
  refine ⟨fs, m'.world, hfs, ?_, hd, by omega⟩
  rw [run_map (step_mirror users), hrun]
  rfl

/-- A subscribe with `reset` takes all its eight steps, and so is followed by none. -/
theorem handlers_finish_subscribe :
    ∃ w, run (step everyUser) World.start (subscribeRun 0 "a") = some w ∧
      ∃ fs w', (∀ e ∈ fs, answers e = true) ∧ run (step everyUser) w fs = some w' ∧ w'.Idle ∧ fs.length ≤ 0 := by
  obtain ⟨w, hw⟩ := Option.isSome_iff_exists.mp
    (show (run (step everyUser) World.start (subscribeRun 0 "a")).isSome = true by decide)
  obtain ⟨-, fs, w', hfs, hr, hd, hl⟩ := handlers_finish everyUser hw
  have h8 : (subscribeRun 0 "a").countP internal = 8 := by decide
  have hs : ((subscribeRun 0 "a").map stepsOf).sum = 8 := by decide
  exact ⟨w, hw, fs, w', hfs, hr, hd, by omega⟩

end

end StayApi
