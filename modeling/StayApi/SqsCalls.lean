import StayApi.Run
import StayApi.SqsQueue
import StayApi.Tally

/-!
# The calls of the queue utility

A call stops at one place, where it waits for SQS. `Mirror` is the utility in
use with its threads so named; what it does in one step is listed once, and the
invariants of every run are read off.
-/

namespace StayApi

namespace SqsQueue

/-! ## Where a call stops -/

/-- The call's number, the client it uses, and what it asks for. -/
inductive Point where
  | send (k : Nat) (sqsClient : ClientId) (input : SendMessageCommandInput)
  | receive (k : Nat) (sqsClient : ClientId) (input : ReceiveMessageCommandInput)
  | delete (k : Nat) (sqsClient : ClientId) (input : DeleteMessageBatchCommandInput) (count : Nat)

namespace Point

def call : Point → Nat
  | send k _ _ => k
  | receive k _ _ => k
  | delete k _ _ _ => k

@[reducible] def request : Point → Request
  | send _ sqsClient input => ⟨sqsClient, .send input⟩
  | receive _ sqsClient input => ⟨sqsClient, .receive input⟩
  | delete _ sqsClient input _ => ⟨sqsClient, .delete input⟩

end Point

abbrev Move : Type := PointTurn Point State JsError

/-- A call fails at SQS: it logs the error and rejects with it. -/
def fail (k : Nat) (message : String) (error : JsError) (s : State) : State :=
  settle k (.rejected error) (logLine (.error message error) s)

def finish (k : Nat) (message : String) (result : Result) (s : State) : State :=
  settle k result (logLine (.log message) s)

def afterReceive (k : Nat) (messages : Option (List Message)) (s : State) : State :=
  match messages with
  | some (message :: messages) =>
    finish k s!"Received {(message :: messages).length} messages" (.received (some (message :: messages))) s
  | _ => settle k (.received none) s

namespace Point

def next : (p : Point) → Except JsError (Response p.request) → State → Move
  | send k _ _, .ok messageId, s =>
    ⟨finish k s!"Sent SQS message (ID: {idText messageId})" (.sent messageId) s, [], []⟩
  | send k _ _, .error error, s => ⟨fail k "Failed to send SQS message" error s, [], []⟩
  | receive k _ _, .ok messages, s => ⟨afterReceive k messages s, [], []⟩
  | receive k _ _, .error error, s => ⟨fail k "Failed to receive SQS messages" error s, [], []⟩
  | delete k _ _ count, .ok _, s => ⟨finish k s!"Deleted {count} messages" .deleted s, [], []⟩
  | delete k _ _ _, .error error, s => ⟨fail k "Failed to delete SQS messages" error s, [], []⟩

abbrev Program : Type := Proc State Request Response JsError

def failed (k : Nat) (message : String) (error : JsError) : Program :=
  .write (logLine (.error message error)) (.write (settle k (.rejected error)) .done)

def cont : (p : Point) → Except JsError (Response p.request) → Program
  | send k _ _ =>
    Async.settle (fun messageId : Option String =>
      .write (logLine (.log s!"Sent SQS message (ID: {idText messageId})"))
        (.write (settle k (.sent messageId)) .done)) (failed k "Failed to send SQS message")
  | receive k _ _ =>
    Async.settle (fun messages : Option (List Message) =>
      keepMessages messages (fun kept => .write (settle k (.received kept)) .done)
        (failed k "Failed to receive SQS messages")) (failed k "Failed to receive SQS messages")
  | delete k _ _ count =>
    Async.settle (fun _ : Unit => .write (logLine (.log s!"Deleted {count} messages"))
      (.write (settle k .deleted) .done)) (failed k "Failed to delete SQS messages")

@[reducible] def thread (p : Point) : Thread Nat State Request Response JsError := ⟨p.call, p.request, p.cont⟩

end Point

def points : Points Point Nat State Request Response JsError := ⟨Point.thread, Point.next⟩

theorem points_sound : points.Sound := by
  intro p r s
  cases p with
  | send k sqsClient input => cases r <;> exact ⟨rfl, rfl, rfl⟩
  | receive k sqsClient input =>
    cases r with
    | ok messages =>
      rcases (messages : Option (List Message)) with _ | _ | ⟨message, messages⟩ <;> exact ⟨rfl, rfl, rfl⟩
    | error error => exact ⟨rfl, rfl, rfl⟩
  | delete k sqsClient input count => cases r <;> exact ⟨rfl, rfl, rfl⟩

/-! ## What a call does at once -/

section
variable {T : Type} (toJson : T → Except JsError (Option Json))

def sendMove (k : Nat) (message : T) (s : State) : Move :=
  if development s then
    match jsonText toJson message with
    | .ok text => ⟨finish k s!"[DEV MODE] Send message: {text}" (.sent (some "dev-mode-message-id")) s, [], []⟩
    | .error error => ⟨settle k (.rejected error) s, [], []⟩
  else
    match s.util.sendSqsClient with
    | none => ⟨settle k (.rejected ⟨"SQS send client not initialized"⟩) s, [], []⟩
    | some sqsClient =>
      match payloadText toJson message with
      | .ok text => ⟨s, [.send k sqsClient ⟨MESSAGE_DELAY, text, s.util.sqsConfig.queueUrl⟩], []⟩
      | .error error => ⟨fail k "Failed to send SQS message" error s, [], []⟩

def receiveMove (k : Nat) (sqsClient : Option ClientId) (s : State) : Move :=
  if development s then ⟨finish k "[DEV MODE] Receive messages" (.received none) s, [], []⟩
  else
    match sqsClient with
    | none => ⟨settle k (.rejected ⟨"SQS client is required"⟩) s, [], []⟩
    | some sqsClient => ⟨s, [.receive k sqsClient s.util.receiveOption], []⟩

def deleteMove (k : Nat) (sqsClient : Option ClientId) (messages : List Message) (s : State) : Move :=
  if messages.length = 0 then ⟨settle k .deleted s, [], []⟩
  else if development s then ⟨finish k s!"[DEV MODE] Delete {messages.length} messages" .deleted s, [], []⟩
  else
    match sqsClient with
    | none => ⟨settle k (.rejected ⟨"SQS client is required"⟩) s, [], []⟩
    | some sqsClient =>
      ⟨s, [.delete k sqsClient (SqsUtil.deleteParams s.util.sqsConfig.toAwsSqsConfig messages) messages.length], []⟩

theorem sendMove_names (k : Nat) (message : T) (s : State) :
    points.Names k (sendMove toJson k message s) ((program k .sent (sendMessage toJson message)).run s) := by
  unfold sendMove program sendMessage
  simp only [Async.bind_apply, Async.get_apply, Proc.run_read]
  by_cases hd : development s = true
  · rw [if_pos hd, if_pos hd]
    cases jsonText toJson message <;> exact ⟨rfl, rfl, rfl⟩
  · rw [if_neg hd, if_neg hd]
    cases s.util.sendSqsClient with
    | none => exact ⟨rfl, rfl, rfl⟩
    | some sqsClient => cases payloadText toJson message <;> exact ⟨rfl, rfl, rfl⟩

theorem receiveMove_names (k : Nat) (sqsClient : Option ClientId) (s : State) :
    points.Names k (receiveMove k sqsClient s) ((program k .received (receiveMessages sqsClient)).run s) := by
  unfold receiveMove program receiveMessages
  simp only [Async.bind_apply, Async.get_apply, Proc.run_read]
  by_cases hd : development s = true
  · rw [if_pos hd, if_pos hd]
    exact ⟨rfl, rfl, rfl⟩
  · rw [if_neg hd, if_neg hd]
    cases sqsClient <;> exact ⟨rfl, rfl, rfl⟩

theorem deleteMove_names (k : Nat) (sqsClient : Option ClientId) (messages : List Message) (s : State) :
    points.Names k (deleteMove k sqsClient messages s)
      ((program k (fun _ => .deleted) (deleteMessages sqsClient messages)).run s) := by
  unfold deleteMove program deleteMessages
  by_cases hn : messages.length = 0
  · rw [if_pos hn, if_pos hn]
    exact ⟨rfl, rfl, rfl⟩
  · rw [if_neg hn, if_neg hn]
    simp only [Async.bind_apply, Async.get_apply, Proc.run_read]
    by_cases hd : development s = true
    · rw [if_pos hd, if_pos hd]
      exact ⟨rfl, rfl, rfl⟩
    · rw [if_neg hd, if_neg hd]
      cases sqsClient <;> exact ⟨rfl, rfl, rfl⟩

end

/-! ## The utility in use, over points -/

abbrev Mirror : Type := PointProcess points

abbrev Answered : Type := Σ p : Point, Except JsError (Response (points.thread p).cmd)

def begun (s : State) : State := { s with calls := s.calls + 1 }

/-- The call made next, if `move` is what it does at once. -/
def Mirror.call (move : Nat → State → Move) (m : Mirror) : Mirror :=
  PointProcess.turn (move m.state.calls (begun m.state)) { m with state := begun m.state }

section
variable {T : Type} (toJson : T → Except JsError (Option Json))

def mirrorStep (m : Mirror) : Event T → Option Mirror
  | .onModuleInit =>
    match onModuleInit m.state with
    | .ok s => some { m with state := s }
    | .error error => some { m with unhandled := m.unhandled ++ [error] }
  | .onModuleDestroy => some { m with state := onModuleDestroy m.state }
  | .sendMessage message => some (m.call fun k => sendMove toJson k message)
  | .receiveMessages sqsClient => some (m.call fun k => receiveMove k sqsClient)
  | .deleteMessages sqsClient messages => some (m.call fun k => deleteMove k sqsClient messages)
  | .exec i answer => (m.answer (fun r d => some (d, answer r)) i ()).map Prod.snd
  | .resume j => m.resume j

theorem process_call {α : Type} {result : α → Result} {call : Call α} {move : Nat → State → Move}
    (h : ∀ k s, points.Names k (move k s) ((program k result call).run s)) (m : Mirror) :
    World.call result call m.process = (m.call move).process :=
  PointProcess.process_call { m with state := begun m.state } (h m.state.calls (begun m.state))

theorem step_mirror (m : Mirror) (e : Event T) :
    step toJson m.process e = (mirrorStep toJson m e).map PointProcess.process := by
  cases e with
  | onModuleInit =>
    simp only [step, mirrorStep, PointProcess.process_state]
    cases onModuleInit m.state <;> rfl
  | onModuleDestroy => rfl
  | sendMessage message => exact congrArg some (process_call (fun k s => sendMove_names toJson k message s) m)
  | receiveMessages sqsClient => exact congrArg some (process_call (fun k s => receiveMove_names k sqsClient s) m)
  | deleteMessages sqsClient messages =>
    exact congrArg some (process_call (fun k s => deleteMove_names k sqsClient messages s) m)
  | exec i answer =>
    simp only [step, mirrorStep]
    rw [PointProcess.process_answer, Option.map_map, Option.map_map]
    rfl
  | resume j => exact PointProcess.process_resume points_sound j m

/-! ## What a move does -/

/-- The errors of the guards in front of a request. They are not logged. -/
def guards : List JsError := [⟨"SQS send client not initialized"⟩, ⟨"SQS client is required"⟩]

/-- What one part of a call logs when it settles the call so. -/
def Explained (s : State) : Result → List LogLine → Prop
  | .rejected error, lines =>
    (lines = [] ∧ (error ∈ guards ∨ development s = true ∧ ∃ message, toJson message = .error error)) ∨
      ∃ text, lines = [.error text error]
  | _, lines => ∀ line ∈ lines, ∃ text, line = .log text

/-- SQS is asked for something outside development mode only, and for messages with the options set up. -/
def Request.Proper (config : AwsSqsConfig) (r : Request) : Prop :=
  config.mode ≠ some .development ∧ ∀ input, r.input = .receive input → input = receiveOptions config

def Result.Pretended : Result → Prop
  | .sent messageId => messageId = some "dev-mode-message-id"
  | .received messages => messages = none
  | _ => True

structure Sane (config : AwsSqsConfig) (s : State) : Prop where
  same : s.util.sqsConfig = config
  option : s.util.receiveOption = receiveOptions config
  client : ∀ c, s.util.sendSqsClient = some c → c < s.made.length
  none : config.mode = some .development → s.made = []
  pretended : config.mode = some .development → ∀ x ∈ s.settled, x.2.Pretended

/-- A move of the `k`-th call: it waits for SQS, or settles the call. -/
inductive Moves (config : AwsSqsConfig) (k : Nat) (s : State) (t : Move) : Prop
  | waits {p : Point} (ht : t = ⟨s, [p], []⟩) (hk : p.call = k) (hp : p.request.Proper config)
  | settles {result : Result} {lines : List LogLine}
      (ht : t = ⟨settle k result { s with lines := s.lines ++ lines }, [], []⟩) (he : Explained toJson s result lines)
      (hp : config.mode = some .development → result.Pretended)

variable {toJson} {config : AwsSqsConfig} {k : Nat} {s : State}

theorem not_development (h : Sane config s) (hd : ¬ development s = true) : config.mode ≠ some .development := by
  intro hm
  apply hd
  unfold development
  rw [h.same]
  exact decide_eq_true hm

theorem moves_finish {text : String} {result : Result} (hr : ∀ error, result ≠ .rejected error)
    (hp : config.mode = some .development → result.Pretended) :
    Moves toJson config k s ⟨finish k text result s, [], []⟩ := by
  refine .settles rfl ?_ hp
  cases result with
  | rejected error => exact absurd rfl (hr error)
  | _ =>
    intro line hl
    exact ⟨text, List.mem_singleton.mp hl⟩

theorem moves_fail {text : String} {error : JsError} : Moves toJson config k s ⟨fail k text error s, [], []⟩ :=
  .settles rfl (.inr ⟨text, rfl⟩) fun _ => trivial

theorem settle_silently (result : Result) : settle k result s = settle k result { s with lines := s.lines ++ [] } := by
  rw [List.append_nil]

theorem moves_guard {error : JsError} (h : error ∈ guards) :
    Moves toJson config k s ⟨settle k (.rejected error) s, [], []⟩ := by
  rw [settle_silently]
  exact .settles rfl (.inl ⟨rfl, .inl h⟩) fun _ => trivial

theorem sendMove_moves (h : Sane config s) (message : T) : Moves toJson config k s (sendMove toJson k message s) := by
  unfold sendMove
  by_cases hd : development s = true
  · rw [if_pos hd]
    cases hj : jsonText toJson message with
    | ok text => exact moves_finish (by simp) fun _ => rfl
    | error error =>
      dsimp only
      have he : toJson message = .error error := by
        unfold jsonText at hj
        cases ht : toJson message with
        | ok v => simp [ht, Except.map] at hj
        | error e => simpa [ht, Except.map] using hj
      rw [settle_silently]
      exact .settles rfl (.inl ⟨rfl, .inr ⟨hd, message, he⟩⟩) fun _ => trivial
  · rw [if_neg hd]
    cases hc : s.util.sendSqsClient with
    | none => exact moves_guard (by simp [guards])
    | some sqsClient =>
      dsimp only
      cases hp : payloadText toJson message with
      | ok text =>
        refine .waits rfl rfl ⟨not_development h hd, ?_⟩
        intro input hi
        cases hi
      | error error => exact moves_fail

theorem receiveMove_moves (h : Sane config s) (sqsClient : Option ClientId) :
    Moves toJson config k s (receiveMove k sqsClient s) := by
  unfold receiveMove
  by_cases hd : development s = true
  · rw [if_pos hd]
    exact moves_finish (by simp) fun _ => rfl
  · rw [if_neg hd]
    cases sqsClient with
    | none => exact moves_guard (by simp [guards])
    | some sqsClient => exact .waits rfl rfl ⟨not_development h hd, fun input hi => Input.receive.inj hi ▸ h.option⟩

theorem deleteMove_moves (h : Sane config s) (sqsClient : Option ClientId) (messages : List Message) :
    Moves toJson config k s (deleteMove k sqsClient messages s) := by
  unfold deleteMove
  by_cases hn : messages.length = 0
  · rw [if_pos hn, settle_silently]
    exact .settles rfl (fun line hl => by cases hl) fun _ => trivial
  · rw [if_neg hn]
    by_cases hd : development s = true
    · rw [if_pos hd]
      exact moves_finish (by simp) fun _ => trivial
    · rw [if_neg hd]
      cases sqsClient with
      | none => exact moves_guard (by simp [guards])
      | some sqsClient =>
        refine .waits rfl rfl ⟨not_development h hd, ?_⟩
        intro input hi
        cases hi

theorem next_moves (toJson : T → Except JsError (Option Json)) (a : Answered) (s : State) :
    ∃ result lines, points.next a.1 a.2 s = ⟨settle a.1.call result { s with lines := s.lines ++ lines }, [], []⟩ ∧
      Explained toJson s result lines := by
  obtain ⟨p, r⟩ := a
  cases p with
  | send k sqsClient input =>
    cases r with
    | ok messageId => exact ⟨.sent messageId, _, rfl, fun line hl => ⟨_, List.mem_singleton.mp hl⟩⟩
    | error error => exact ⟨.rejected error, _, rfl, .inr ⟨_, rfl⟩⟩
  | receive k sqsClient input =>
    cases r with
    | ok messages =>
      rcases (messages : Option (List Message)) with _ | _ | ⟨message, messages⟩
      · exact ⟨.received none, [], by simp [points, Point.next, afterReceive, Point.call], fun line hl => by cases hl⟩
      · exact ⟨.received none, [], by simp [points, Point.next, afterReceive, Point.call], fun line hl => by cases hl⟩
      · exact ⟨.received _, _, rfl, fun line hl => ⟨_, List.mem_singleton.mp hl⟩⟩
    | error error => exact ⟨.rejected error, _, rfl, .inr ⟨_, rfl⟩⟩
  | delete k sqsClient input count =>
    cases r with
    | ok _ => exact ⟨.deleted, _, rfl, fun line hl => ⟨_, List.mem_singleton.mp hl⟩⟩
    | error error => exact ⟨.rejected error, _, rfl, .inr ⟨_, rfl⟩⟩

end

/-! ## The invariant -/

def settledCalls (s : State) : List Nat := s.settled.map Prod.fst

/-- The calls that wait for SQS or for its reply to be delivered, and those settled. -/
def Mirror.accounted (m : Mirror) : Multiset Nat := Tally.tally Point.call settledCalls m

theorem settled_settle (k : Nat) (result : Result) (s : State) :
    settledCalls (settle k result s) = settledCalls s ++ [k] := List.map_append

section
variable {T : Type} (toJson : T → Except JsError (Option Json))

/-- Which rejections are logged, and that nothing else is logged as an error. -/
structure Told (s : State) : Prop where
  rejected : ∀ k error, (k, .rejected error) ∈ s.settled → error ∈ guards ∨
    (development s = true ∧ ∃ message, toJson message = .error error) ∨ ∃ text, .error text error ∈ s.lines
  logged : ∀ text error, .error text error ∈ s.lines → ∃ k, (k, .rejected error) ∈ s.settled

structure Settling (config : AwsSqsConfig) (m : Mirror) : Prop where
  sane : Sane config m.state
  issued : ∀ p ∈ m.issued, p.request.Proper config
  replied : ∀ a ∈ m.replied, a.1.request.Proper config
  accounted : m.accounted = Multiset.range m.state.calls
  told : Told toJson m.state

variable {toJson} {config : AwsSqsConfig} {k : Nat} {s : State} {m m' : Mirror}

theorem told_settle {result : Result} {lines : List LogLine}
    (h : Told toJson s) (he : Explained toJson s result lines) :
    Told toJson (settle k result { s with lines := s.lines ++ lines }) := by
  constructor
  · intro j error hj
    rcases List.mem_append.mp hj with hj | hj
    · rcases h.rejected j error hj with hg | hd | ⟨text, ht⟩
      · exact .inl hg
      · exact .inr (.inl hd)
      · exact .inr (.inr ⟨text, List.mem_append_left _ ht⟩)
    · obtain ⟨-, rfl⟩ := Prod.mk.inj (List.mem_singleton.mp hj)
      rcases he with ⟨-, hg | hd⟩ | ⟨text, rfl⟩
      · exact .inl hg
      · exact .inr (.inl hd)
      · exact .inr (.inr ⟨text, by simp [settle]⟩)
  · intro text error hline
    rcases List.mem_append.mp hline with hold | hnew
    · obtain ⟨j, hj⟩ := h.logged text error hold
      exact ⟨j, List.mem_append_left _ hj⟩
    · cases result with
      | rejected error' =>
        rcases he with ⟨rfl, -⟩ | ⟨text', rfl⟩
        · cases hnew
        · obtain ⟨-, rfl⟩ := LogLine.error.inj (List.mem_singleton.mp hnew)
          exact ⟨k, by simp [settle]⟩
      | _ =>
        obtain ⟨text', hl⟩ := he _ hnew
        cases hl

theorem told_log {text : String} (h : Told toJson s) : Told toJson (logLine (.log text) s) := by
  constructor
  · intro k error hk
    rcases h.rejected k error hk with hg | hd | ⟨text', ht⟩
    · exact .inl hg
    · exact .inr (.inl hd)
    · exact .inr (.inr ⟨text', List.mem_append_left _ ht⟩)
  · intro text' error ht
    rcases List.mem_append.mp ht with ht | ht
    · exact h.logged text' error ht
    · cases List.mem_singleton.mp ht

theorem sane_settle {result : Result} {lines : List LogLine} (h : Sane config s)
    (hp : config.mode = some .development → result.Pretended) :
    Sane config (settle k result { s with lines := s.lines ++ lines }) := by
  refine ⟨h.same, h.option, h.client, h.none, ?_⟩
  intro hd x hx
  rcases List.mem_append.mp hx with hx | hx
  · exact h.pretended hd x hx
  · rw [List.mem_singleton.mp hx]
    exact hp hd

theorem settling_call {move : Nat → State → Move} (h : Settling toJson config m)
    (hm : ∀ k s, Sane config s → Moves toJson config k s (move k s)) : Settling toJson config (m.call move) := by
  have hb : Sane config (begun m.state) := ⟨h.sane.same, h.sane.option, h.sane.client, h.sane.none, h.sane.pretended⟩
  have ha : Mirror.accounted { m with state := begun m.state } = Multiset.range m.state.calls := h.accounted
  have hn : Multiset.range (m.state.calls + 1) = Multiset.range m.state.calls + {m.state.calls} := by
    rw [Multiset.range_succ, ← Multiset.singleton_add, add_comm]
  unfold Mirror.call
  cases hm m.state.calls (begun m.state) hb with
  | @waits p ht hk hp =>
    rw [ht]
    refine ⟨hb, ?_, h.replied, ?_, ⟨h.told.rejected, h.told.logged⟩⟩
    · exact List.forall_mem_append.mpr ⟨h.issued, fun q hq => List.mem_singleton.mp hq ▸ hp⟩
    · show _ = Multiset.range (m.state.calls + 1)
      rw [hn, ← ha, ← hk]
      exact Tally.tally_waits rfl rfl
  | @settles result lines ht he hp =>
    rw [ht]
    refine ⟨sane_settle hb hp, ?_, h.replied, ?_, told_settle ⟨h.told.rejected, h.told.logged⟩ he⟩
    · exact List.forall_mem_append.mpr ⟨h.issued, fun q hq => by cases hq⟩
    · show _ = Multiset.range (m.state.calls + 1)
      rw [hn, ← ha]
      exact Tally.tally_settles rfl (settled_settle ..)

theorem onModuleInit_ok {s' : State} (h : onModuleInit s = .ok s') :
    ∃ text, (development s = true ∧ s' = logLine (.log text) s) ∨
      (¬ development s = true ∧ s' = logLine (.log text) { s with
        util := { s.util with
          sendSqsClient := some s.made.length
          receiveSqsClientPool := some (List.range' (s.made.length + 1) s.util.poolCount) }
        made := s.made ++ List.replicate (s.util.poolCount + 1) s.util.sqsConfig.region }) := by
  unfold onModuleInit at h
  by_cases hd : development s = true
  · rw [if_pos hd] at h
    exact ⟨_, .inl ⟨hd, (Except.ok.inj h).symm⟩⟩
  · rw [if_neg hd] at h
    unfold init at h
    cases hv : validateConfig s with
    | error error =>
      rw [hv] at h
      cases h
    | ok v =>
      rw [hv] at h
      exact ⟨_, .inr ⟨hd, (Except.ok.inj h).symm⟩⟩

theorem settling_init {s : State} (h : Settling toJson config m) (hs : onModuleInit m.state = .ok s) :
    Settling toJson config { m with state := s } := by
  obtain ⟨text, ⟨hd, rfl⟩ | ⟨hd, rfl⟩⟩ := onModuleInit_ok hs
  · exact ⟨⟨h.sane.same, h.sane.option, h.sane.client, h.sane.none, h.sane.pretended⟩, h.issued, h.replied, h.accounted,
      told_log h.told⟩
  · refine ⟨⟨h.sane.same, h.sane.option, ?_, fun hm => absurd hm (not_development h.sane hd), h.sane.pretended⟩,
      h.issued, h.replied, h.accounted, told_log ⟨h.told.rejected, h.told.logged⟩⟩
    intro c hc
    obtain rfl := Option.some.inj hc
    simp [logLine]

theorem settling_step {e : Event T} (h : Settling toJson config m) (hs : mirrorStep toJson m e = some m') :
    Settling toJson config m' := by
  cases e with
  | onModuleInit =>
    simp only [mirrorStep] at hs
    cases hi : onModuleInit m.state with
    | ok s =>
      rw [hi] at hs
      obtain rfl := Option.some.inj hs
      exact settling_init h hi
    | error error =>
      rw [hi] at hs
      obtain rfl := Option.some.inj hs
      exact ⟨h.sane, h.issued, h.replied, h.accounted, h.told⟩
  | onModuleDestroy =>
    obtain rfl := Option.some.inj hs
    have ht : Told toJson (logLine (.log s!"Cleaning up SQS connections: {m.state.util.sqsName}") m.state) :=
      told_log h.told
    exact ⟨⟨h.sane.same, h.sane.option, h.sane.client, h.sane.none, h.sane.pretended⟩, h.issued, h.replied, h.accounted,
      ⟨ht.rejected, ht.logged⟩⟩
  | sendMessage message =>
    obtain rfl := Option.some.inj hs
    exact settling_call h fun k s hsane => sendMove_moves hsane message
  | receiveMessages sqsClient =>
    obtain rfl := Option.some.inj hs
    exact settling_call h fun k s hsane => receiveMove_moves hsane sqsClient
  | deleteMessages sqsClient messages =>
    obtain rfl := Option.some.inj hs
    exact settling_call h fun k s hsane => deleteMove_moves hsane sqsClient messages
  | exec i answer =>
    simp only [mirrorStep] at hs
    obtain ⟨⟨d, P⟩, hx, rfl⟩ := Option.map_eq_some_iff.mp hs
    obtain ⟨l₁, p, l₂, r, hi, -, -, rfl⟩ := PointProcess.answer_eq_some hx
    have hp : p ∈ m.issued := by rw [hi]; simp
    refine ⟨h.sane, ?_, ?_, ?_, h.told⟩
    · intro q hq
      exact h.issued q (hi ▸ mem_unskip hq)
    · refine List.forall_mem_append.mpr ⟨h.replied, ?_⟩
      intro a hm
      rw [List.mem_singleton.mp hm]
      exact h.issued p hp
    · exact (Tally.tally_answer hx).trans h.accounted
  | resume j =>
    have hacc : Mirror.accounted m' = Multiset.range m.state.calls := by
      refine (Tally.tally_resume ?_ hs).trans h.accounted
      intro a _
      obtain ⟨result, lines, ht, -⟩ := next_moves toJson a m.state
      rw [ht]
      exact ⟨rfl, settled_settle ..⟩
    obtain ⟨l₁, a, l₂, hr, -, rfl⟩ := PointProcess.resume_eq_some hs
    have hm : a ∈ m.replied := by rw [hr]; simp
    obtain ⟨result, lines, ht, he⟩ := next_moves toJson a m.state
    rw [ht] at hacc ⊢
    refine ⟨sane_settle h.sane fun hd => absurd hd (h.replied a hm).1, ?_, ?_, hacc, told_settle h.told he⟩
    · exact List.forall_mem_append.mpr ⟨h.issued, fun q hq => by cases hq⟩
    · intro b hb
      exact h.replied b (hr ▸ mem_unskip hb)

end

section
variable {T : Type} {toJson : T → Except JsError (Option Json)} {config : AwsSqsConfig} {sqsName : String}
  {poolCount : Option Nat} {util : Util} {es : List (Event T)} {w : World}

theorem settling_start (hu : construct (some config) sqsName poolCount = .ok util) :
    Settling toJson config (PointProcess.start (State.start util)) := by
  obtain rfl := Except.ok.inj hu
  refine ⟨⟨rfl, rfl, ?_, fun _ => rfl, ?_⟩, ?_, ?_, rfl, ?_, ?_⟩
  · intro c hc
    cases hc
  · intro _ x hx
    cases hx
  · intro p hp
    cases hp
  · intro a ha
    cases ha
  · intro k error hk
    cases hk
  · intro text error ht
    cases ht

theorem settling_run (hu : construct (some config) sqsName poolCount = .ok util)
    (hr : run (step toJson) (World.start util) es = some w) :
    ∃ m : Mirror, Settling toJson config m ∧ m.process = w := by
  obtain ⟨m, hm, rfl⟩ := run_lift (t := PointProcess.start (State.start util)) (step_mirror toJson) hr
  exact ⟨m, run_invariant (fun m e m' h _ hs => settling_step h hs) (settling_start hu) (along_true _ es) hm, rfl⟩

end

/-- **Every call settles once, and no failure is hidden.** However the calls, the
hooks and the answers of SQS interleave, a call waits for SQS, or for its reply
to be delivered, or has settled, and that once. A rejection is one of the
guards', one of `JSON.stringify` in development mode, or logged; and what is
logged as an error a caller has been given. -/
theorem calls_settle {T : Type} (toJson : T → Except JsError (Option Json)) (config : AwsSqsConfig) (sqsName : String)
    (poolCount : Option Nat) (util : Util) (hu : construct (some config) sqsName poolCount = .ok util)
    {es : List (Event T)} {w : World} (hr : run (step toJson) (World.start util) es = some w) :
    (↑(w.issued.map fun t => t.origin) + ↑(w.replied.map fun t => t.origin) + ↑(w.state.settled.map Prod.fst) :
        Multiset Nat) = Multiset.range w.state.calls ∧
      (∀ k error, (k, .rejected error) ∈ w.state.settled → error ∈ guards ∨
        (config.mode = some .development ∧ ∃ message, toJson message = .error error) ∨
        ∃ text, .error text error ∈ w.state.lines) ∧
      ∀ text error, .error text error ∈ w.state.lines → ∃ k, (k, .rejected error) ∈ w.state.settled := by
  obtain ⟨m, hm, rfl⟩ := settling_run hu hr
  refine ⟨?_, ?_, hm.told.logged⟩
  · have ha := hm.accounted
    unfold Mirror.accounted at ha
    have hi : m.process.issued.map (fun t => t.origin) = m.issued.map Point.call := List.map_map ..
    have hj : m.process.replied.map (fun t => t.origin) = m.replied.map fun a => a.1.call := List.map_map ..
    rw [hi, hj]
    exact ha
  · intro k error hk
    rcases hm.told.rejected k error hk with hg | ⟨hd, hj⟩ | ht
    · exact .inl hg
    · refine .inr (.inl ⟨?_, hj⟩)
      rw [← hm.sane.same]
      exact of_decide_eq_true hd
    · exact .inr (.inr ht)

def deployment : AwsSqsConfig := ⟨SqsUtil.deployment, "us-east-1", 30⟩

def textJson (message : String) : Except JsError (Option Json) := .ok (some (.str message))

/-- SQS gives a message and takes what it gets. -/
def acknowledge : (r : Request) → Except JsError (Response r)
  | ⟨_, .send _⟩ => .ok (some "m1")
  | ⟨_, .receive input⟩ => .ok (some ([⟨some "r0"⟩].take input.MaxNumberOfMessages))
  | ⟨_, .delete _⟩ => .ok ()

/-- A message is sent while another is received, and a third call has no client. -/
def sendAndReceive : List (Event String) :=
  [.onModuleInit, .sendMessage "hi", .receiveMessages (some 1), .receiveMessages none, .exec 0 acknowledge,
    .exec 0 acknowledge, .resume 1]

def staySqs : Util := ⟨deployment, "stay-sqs", 1, receiveOptions deployment, none, none⟩

theorem calls_settle_send :
    ∃ w, run (step textJson) (World.start staySqs) sendAndReceive = some w ∧
      (↑(w.issued.map fun t => t.origin) + ↑(w.replied.map fun t => t.origin) + ↑(w.state.settled.map Prod.fst) :
        Multiset Nat) = Multiset.range w.state.calls := by
  obtain ⟨w, hw⟩ := Option.isSome_iff_exists.mp
    (show (run (step textJson) (World.start staySqs) sendAndReceive).isSome = true from rfl)
  exact ⟨w, hw, (calls_settle textJson deployment "stay-sqs" none staySqs rfl hw).1⟩

end SqsQueue

end StayApi
