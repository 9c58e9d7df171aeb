import StayApi.SqsCalls

/-!
# What the queue is asked for

Every request of the utility can be read by who gets it: a consumer finds the
message that was sent, and SQS a batch within its limits.
-/

namespace StayApi

namespace SqsQueue

section
variable {T : Type} (toJson : T → Except JsError (Option Json))

variable {toJson} {config : AwsSqsConfig} {made made' k : Nat} {r : Request} {es : List (Event T)} {e call : Event T}
  {s : State} {m m' : Mirror}

end

/-- A client that answers batches to delete as `client` does. -/
def serveDelete (client : SQSClient) : (r : Request) → Unit → Unit × Except JsError (Response r)
  | ⟨_, .send _⟩, d => (d, .ok none)
  | ⟨_, .receive _⟩, d => (d, .ok none)
  | ⟨_, .delete input⟩, d => (d, (client.send input).map fun _ => ())

def deletion : Except JsError Unit → Result
  | .ok _ => .deleted
  | .error error => .rejected error

section
variable {client : SQSClient} {c : ClientId} {messages : List Message} {k : Nat} {s : State}

theorem run_delete (hn : messages.length ≠ 0) (config : StayApi.AwsSqsConfig) (hd : config.mode ≠ some .development)
    (lines : List LogLine) :
    ExceptT.run (SqsUtil.deleteMessages config (some client) messages) lines =
      match client.send (SqsUtil.deleteParams config messages) with
      | .ok _ => (.ok (), lines ++ [.log s!"Deleted {messages.length} messages"])
      | .error error => (.error error, lines ++ [.error "Failed to delete SQS messages" error]) := by
  unfold SqsUtil.deleteMessages
  rw [if_neg hn, if_neg hd]
  dsimp only
  cases client.send (SqsUtil.deleteParams config messages) <;> rfl

theorem drive_delete (hn : messages.length ≠ 0) (hd : ¬ development s = true) :
    ((program k (fun _ => .deleted) (deleteMessages (some c) messages)).drive (serveDelete client) [] s ()).state =
      match client.send (SqsUtil.deleteParams s.util.sqsConfig.toAwsSqsConfig messages) with
      | .ok _ => finish k s!"Deleted {messages.length} messages" .deleted s
      | .error error => fail k "Failed to delete SQS messages" error s := by
  have hrun : (program k (fun _ => .deleted) (deleteMessages (some c) messages)).drive (serveDelete client) [] s () =
      ((Point.delete k c (SqsUtil.deleteParams s.util.sqsConfig.toAwsSqsConfig messages) messages.length).cont
        ((client.send (SqsUtil.deleteParams s.util.sqsConfig.toAwsSqsConfig messages)).map fun _ => ())).drive
          (serveDelete client) [] s () := by
    unfold program deleteMessages
    rw [if_neg hn]
    simp only [Async.bind_apply, Async.get_apply, Proc.drive]
    rw [if_neg hd]
    rfl
  rw [hrun]
  cases client.send (SqsUtil.deleteParams s.util.sqsConfig.toAwsSqsConfig messages) <;> rfl

end

/-- With nothing else going on, `deleteMessages` does what it does as a body of its own. -/
theorem deleteMessages_alone (client : SQSClient) (c : ClientId) (messages : List Message) (k : Nat) (s : State) :
    let alone := ExceptT.run (SqsUtil.deleteMessages s.util.sqsConfig.toAwsSqsConfig (some client) messages) s.lines
    ((program k (fun _ => .deleted) (deleteMessages (some c) messages)).drive (serveDelete client) [] s ()).state =
      settle k (deletion alone.1) { s with lines := alone.2 } := by
  by_cases hn : messages.length = 0
  · obtain rfl := List.length_eq_zero_iff.mp hn
    rfl
  · by_cases hd : s.util.sqsConfig.mode = some .development
    · have hdev : development s = true := decide_eq_true hd
      unfold SqsUtil.deleteMessages program deleteMessages
      rw [if_neg hn, if_neg hn, if_pos hd]
      simp only [Async.bind_apply, Async.get_apply, Proc.drive]
      rw [if_pos hdev]
      rfl
    · have hdev : ¬ development s = true := fun h => hd (of_decide_eq_true h)
      dsimp only
      rw [drive_delete hn hdev, run_delete hn _ hd]
      cases client.send (SqsUtil.deleteParams s.util.sqsConfig.toAwsSqsConfig messages) <;> rfl

/-! ## From a receive to a delete -/

/-- SQS answers a receive with no more messages than were asked for. -/
def withinMax {T : Type} : Event T → Prop
  | .exec _ answer => ∀ c input messages,
      answer ⟨c, .receive input⟩ = .ok (some messages) → messages.length ≤ input.MaxNumberOfMessages
  | _ => True

def Batch (messages : List Message) : Prop := 1 ≤ messages.length ∧ messages.length ≤ MAX_MESSAGES_PER_RECEIVE

def Answered.Bounded : Answered → Prop
  | ⟨.receive _ _ _, r⟩ => ∀ messages : List Message, r = .ok (some messages) →
      messages.length ≤ MAX_MESSAGES_PER_RECEIVE
  | _ => True

/-- What has been received comes in batches, and so does what is on its way. -/
structure Batches (m : Mirror) : Prop where
  settled : ∀ k messages, (k, .received (some messages)) ∈ m.state.settled → Batch messages
  replied : ∀ a ∈ m.replied, Answered.Bounded a

def Batched (s : State) (t : Move) : Prop :=
  ∀ k messages, (k, .received (some messages)) ∈ t.state.settled →
    (k, .received (some messages)) ∈ s.settled ∨ Batch messages

section
variable {T : Type} {toJson : T → Except JsError (Option Json)} {config : AwsSqsConfig} {k : Nat} {s s' : State}
  {m m' : Mirror}

theorem batched_same (h : s'.settled = s.settled) {l : List Point} {e : List JsError} : Batched s ⟨s', l, e⟩ := by
  intro k messages hk
  exact .inl (h ▸ hk)

theorem batched_settle {result : Result} (h : s'.settled = s.settled)
    (hr : ∀ messages, result = .received (some messages) → Batch messages) {l : List Point} {e : List JsError} :
    Batched s ⟨settle k result s', l, e⟩ := by
  intro j messages hj
  rcases List.mem_append.mp hj with hj | hj
  · exact .inl (h ▸ hj)
  · obtain ⟨-, hresult⟩ := Prod.mk.inj (List.mem_singleton.mp hj)
    exact .inr (hr messages hresult.symm)

theorem sendMove_batched (message : T) : Batched s (sendMove toJson k message s) := by
  unfold sendMove
  by_cases hd : development s = true
  · rw [if_pos hd]
    cases jsonText toJson message <;> exact batched_settle rfl (by simp)
  · rw [if_neg hd]
    cases s.util.sendSqsClient with
    | none => exact batched_settle rfl (by simp)
    | some sqsClient =>
      dsimp only
      cases payloadText toJson message with
      | ok text => exact batched_same rfl
      | error error => exact batched_settle rfl (by simp)

theorem receiveMove_batched (sqsClient : Option ClientId) : Batched s (receiveMove k sqsClient s) := by
  unfold receiveMove
  by_cases hd : development s = true
  · rw [if_pos hd]
    exact batched_settle rfl (by simp)
  · rw [if_neg hd]
    cases sqsClient with
    | none => exact batched_settle rfl (by simp)
    | some sqsClient => exact batched_same rfl

theorem deleteMove_batched (sqsClient : Option ClientId) (messages : List Message) :
    Batched s (deleteMove k sqsClient messages s) := by
  unfold deleteMove
  by_cases hn : messages.length = 0
  · rw [if_pos hn]
    exact batched_settle rfl (by simp)
  · rw [if_neg hn]
    by_cases hd : development s = true
    · rw [if_pos hd]
      exact batched_settle rfl (by simp)
    · rw [if_neg hd]
      cases sqsClient with
      | none => exact batched_settle rfl (by simp)
      | some sqsClient => exact batched_same rfl

theorem next_batched {a : Answered} (h : Answered.Bounded a) : Batched s (a.1.next a.2 s) := by
  obtain ⟨p, r⟩ := a
  cases p with
  | send k sqsClient input => cases r <;> exact batched_settle rfl (by simp)
  | delete k sqsClient input count => cases r <;> exact batched_settle rfl (by simp)
  | receive k sqsClient input =>
    cases r with
    | error error => exact batched_settle rfl (by simp)
    | ok messages =>
      rcases (messages : Option (List Message)) with _ | _ | ⟨message, messages⟩
      · exact batched_settle rfl (by simp)
      · exact batched_settle rfl (by simp)
      · refine batched_settle rfl ?_
        intro messages' he
        obtain rfl := Option.some.inj (Result.received.inj he)
        exact ⟨Nat.succ_le_succ (Nat.zero_le _), h _ rfl⟩

theorem batches_turn {t : Move} (h : Batches m) (hc : s'.settled = m.state.settled) (ht : Batched s' t) :
    Batches (PointProcess.turn t { m with state := s' }) := by
  refine ⟨?_, h.replied⟩
  intro k messages hk
  rcases ht k messages hk with hold | hnew
  · exact h.settled k messages (hc ▸ hold)
  · exact hnew

theorem bounded_answer {p : Point} (hp : p.request.Proper config)
    {answer : (r : Request) → Except JsError (Response r)} {i : Nat} (hw : withinMax (T := T) (.exec i answer)) :
    Answered.Bounded ⟨p, answer p.request⟩ := by
  cases p with
  | send k sqsClient input => trivial
  | delete k sqsClient input count => trivial
  | receive k sqsClient input =>
    have hi : input = receiveOptions config := hp.2 input rfl
    intro messages ha
    have hl := hw sqsClient input messages ha
    rw [hi] at hl
    exact hl

theorem batches_step {e : Event T} (h : Settling toJson config m) (hb : Batches m) (hw : withinMax e)
    (hs : mirrorStep toJson m e = some m') : Batches m' := by
  cases e with
  | onModuleInit =>
    simp only [mirrorStep] at hs
    cases hi : onModuleInit m.state with
    | error error =>
      rw [hi] at hs
      obtain rfl := Option.some.inj hs
      exact ⟨hb.settled, hb.replied⟩
    | ok s =>
      rw [hi] at hs
      obtain rfl := Option.some.inj hs
      obtain ⟨text, ⟨-, rfl⟩ | ⟨-, rfl⟩⟩ := onModuleInit_ok hi
      · exact ⟨hb.settled, hb.replied⟩
      · exact ⟨hb.settled, hb.replied⟩
  | onModuleDestroy =>
    obtain rfl := Option.some.inj hs
    exact ⟨hb.settled, hb.replied⟩
  | sendMessage message =>
    obtain rfl := Option.some.inj hs
    exact batches_turn hb rfl (sendMove_batched message)
  | receiveMessages sqsClient =>
    obtain rfl := Option.some.inj hs
    exact batches_turn hb rfl (receiveMove_batched sqsClient)
  | deleteMessages sqsClient messages =>
    obtain rfl := Option.some.inj hs
    exact batches_turn hb rfl (deleteMove_batched sqsClient messages)
  | exec i answer =>
    simp only [mirrorStep] at hs
    obtain ⟨⟨d, P⟩, hx, rfl⟩ := Option.map_eq_some_iff.mp hs
    obtain ⟨l₁, p, l₂, r, hi, -, ha, rfl⟩ := PointProcess.answer_eq_some hx
    have hp : p ∈ m.issued := by rw [hi]; simp
    refine ⟨hb.settled, List.forall_mem_append.mpr ⟨hb.replied, ?_⟩⟩
    intro a hm
    obtain rfl := (Prod.mk.inj (Option.some.inj ha)).2
    rw [List.mem_singleton.mp hm]
    exact bounded_answer (h.issued p hp) hw
  | resume j =>
    obtain ⟨l₁, a, l₂, hr, -, rfl⟩ := PointProcess.resume_eq_some hs
    have ha : a ∈ m.replied := by rw [hr]; simp
    refine ⟨?_, fun b hbm => hb.replied b (hr ▸ mem_unskip hbm)⟩
    intro k messages hk
    rcases next_batched (hb.replied a ha) k messages hk with hold | hnew
    · exact hb.settled k messages hold
    · exact hnew

end

/-- **What is received can be deleted in one batch.** If SQS keeps to the number of
messages it is asked for, every list that `receiveMessages` has handed out is of
one to ten messages, and `deleteMessages` of it makes one request, with an entry
for each message in order. -/
theorem received_deletable {T : Type} (toJson : T → Except JsError (Option Json)) (config : AwsSqsConfig)
    (sqsName : String) (poolCount : Option Nat) (util : Util)
    (hu : construct (some config) sqsName poolCount = .ok util) {es : List (Event T)} {w : World}
    (hw : ∀ e ∈ es, withinMax e) (hr : run (step toJson) (World.start util) es = some w) (k : Nat)
    (messages : List Message) (hk : (k, .received (some messages)) ∈ w.state.settled) (sqsClient : ClientId) :
    Batch messages ∧
      ∃ w' t, step toJson w (.deleteMessages (some sqsClient) messages) = some w' ∧ w'.issued = w.issued ++ [t] ∧
        t.cmd = ⟨sqsClient, .delete (SqsUtil.deleteParams config.toAwsSqsConfig messages)⟩ ∧
        w'.state.settled = w.state.settled := by
  obtain ⟨m, hm, rfl⟩ := run_lift (t := PointProcess.start (State.start util)) (step_mirror toJson) hr
  have hstart : Batches (PointProcess.start (State.start util)) := by
    constructor
    · intro k messages hk
      cases hk
    · intro a ha
      cases ha
  obtain ⟨hs, hb⟩ : Settling toJson config m ∧ Batches m :=
    run_invariant (I := fun m => Settling toJson config m ∧ Batches m)
      (fun m e m' h hw hs => ⟨settling_step h.1 hs, batches_step h.1 h.2 hw hs⟩) ⟨settling_start hu, hstart⟩
      (along_of_forall hw _) hm
  have hbatch : Batch messages := hb.settled k messages hk
  refine ⟨hbatch, ?_⟩
  have hnone : messages.length ≠ 0 := Nat.one_le_iff_ne_zero.mp hbatch.1
  have hd : ¬ development (begun m.state) = true := by
    intro hd
    have hp := hs.sane.pretended (by rw [← hs.sane.same]; exact of_decide_eq_true hd) _ hk
    cases hp
  let p : Point := .delete m.state.calls sqsClient (SqsUtil.deleteParams config.toAwsSqsConfig messages) messages.length
  have hmove : deleteMove m.state.calls (some sqsClient) messages (begun m.state) = ⟨begun m.state, [p], []⟩ := by
    have hc : (begun m.state).util.sqsConfig = config := hs.sane.same
    unfold deleteMove
    rw [if_neg hnone, if_neg hd]
    dsimp only
    rw [hc]
  have hcall : (m.call fun k => deleteMove k (some sqsClient) messages) =
      PointProcess.turn ⟨begun m.state, [p], []⟩ { m with state := begun m.state } := by
    rw [← hmove]
    rfl
  refine ⟨(m.call fun k => deleteMove k (some sqsClient) messages).process, points.thread p, step_mirror toJson m _, ?_,
    rfl, ?_⟩
  · rw [hcall]
    exact List.map_append
  · rw [hcall]
    rfl

theorem withinMax_sendAndReceive : ∀ e ∈ sendAndReceive, withinMax e := by
  have ha : ∀ i, withinMax (T := String) (.exec i acknowledge) := by
    intro i c input messages h
    obtain rfl := Option.some.inj (Except.ok.inj h)
    exact List.length_take_le ..
  intro e he
  simp only [sendAndReceive, List.mem_cons, List.not_mem_nil, or_false] at he
  rcases he with rfl | rfl | rfl | rfl | rfl | rfl | rfl
  · trivial
  · trivial
  · trivial
  · trivial
  · exact ha 0
  · exact ha 0
  · trivial

theorem received_deletable_one :
    ∃ w, run (step textJson) (World.start staySqs) sendAndReceive = some w ∧
      (1, .received (some [⟨some "r0"⟩])) ∈ w.state.settled ∧ Batch [⟨some "r0"⟩] := by
  obtain ⟨w, hw⟩ := Option.isSome_iff_exists.mp
    (show (run (step textJson) (World.start staySqs) sendAndReceive).isSome = true from rfl)
  have hs : (run (step textJson) (World.start staySqs) sendAndReceive).map (fun w => w.state.settled) =
      some [(2, .rejected ⟨"SQS client is required"⟩), (1, .received (some [⟨some "r0"⟩]))] := rfl
  rw [hw] at hs
  have hsettled : w.state.settled = _ := Option.some.inj hs
  have hk : (1, Result.received (some [⟨some "r0"⟩])) ∈ w.state.settled := by
    rw [hsettled]
    simp
  exact ⟨w, hw, hk, (received_deletable textJson deployment "stay-sqs" none staySqs rfl withinMax_sendAndReceive hw 1 _ hk
    1).1⟩

end SqsQueue

end StayApi
