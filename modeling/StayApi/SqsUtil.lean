import StayApi.Json

/-!
# Deleting messages from the queue

`sqs.util.ts`: `deleteMessages` sends one batch request. SQS reports each entry
of it as deleted or failed under the entry's id, in a response that resolves
normally; only a request refused as a whole rejects.
-/

namespace StayApi

structure Message where
  ReceiptHandle : Option String

structure DeleteMessageBatchRequestEntry where
  Id : String
  ReceiptHandle : Option String

structure DeleteMessageBatchCommandInput where
  QueueUrl : String
  Entries : List DeleteMessageBatchRequestEntry

structure DeleteMessageBatchResult where
  Successful : List String
  Failed : List String

structure SQSClient where
  send : DeleteMessageBatchCommandInput → Except JsError DeleteMessageBatchResult

inductive SqsMode where
  | development
  | deployment
  deriving DecidableEq

structure AwsSqsConfig where
  queueUrl : String
  mode : Option SqsMode

inductive LogLine where
  | log (message : String)
  | error (message : String) (error : JsError)

/-- The body of a method of `SqsUtil`: it logs, and its promise resolves or rejects. -/
abbrev Sqs (α : Type) : Type := ExceptT JsError (StateM (List LogLine)) α

namespace SqsUtil

def logLine (line : LogLine) : Sqs Unit := modify fun lines => lines ++ [line]

def entries (messages : List Message) : List DeleteMessageBatchRequestEntry :=
  messages.mapIdx fun index message => ⟨toString index, message.ReceiptHandle⟩

def deleteParams (config : AwsSqsConfig) (messages : List Message) : DeleteMessageBatchCommandInput :=
  ⟨config.queueUrl, entries messages⟩

def deleteMessages (config : AwsSqsConfig) (sqsClient : Option SQSClient) (messages : List Message) : Sqs Unit := do
  if messages.length = 0 then
    return
  if config.mode = some .development then
    logLine (.log s!"[DEV MODE] Delete {messages.length} messages")
    return
  match sqsClient with
  | none => throw ⟨"SQS client is required"⟩
  | some sqsClient =>
    tryCatch
      (do
        let _ ← liftExcept (sqsClient.send (deleteParams config messages))
        logLine (.log s!"Deleted {messages.length} messages"))
      fun error => do
        logLine (.error "Failed to delete SQS messages" error)
        throw error

def settled (config : AwsSqsConfig) (sqsClient : Option SQSClient) (messages : List Message) (lines : List LogLine) :
    Except JsError Unit :=
  (ExceptT.run (deleteMessages config sqsClient messages) lines).1

/-- SQS has reported the `i`-th message as deleted. -/
def Deleted (config : AwsSqsConfig) (sqsClient : Option SQSClient) (messages : List Message) (i : Nat) : Prop :=
  ∃ c r, sqsClient = some c ∧ c.send (deleteParams config messages) = .ok r ∧ toString i ∈ r.Successful

/-- A response reports each entry of the request, and no others, as successful or as failed. -/
structure Reports (c : SQSClient) : Prop where
  each : ∀ input r, c.send input = .ok r → ∀ e ∈ input.Entries, (e.Id ∈ r.Successful ↔ e.Id ∉ r.Failed)
  only : ∀ input r, c.send input = .ok r → ∀ id ∈ r.Failed, ∃ e ∈ input.Entries, e.Id = id

section
variable {config : AwsSqsConfig} {sqsClient : Option SQSClient} {messages : List Message} {lines : List LogLine}

theorem settled_none (hne : messages ≠ []) (hm : config.mode ≠ some .development) :
    settled config none messages lines = .error ⟨"SQS client is required"⟩ := by
  have hlen : ¬ messages.length = 0 := fun h => hne (List.length_eq_zero_iff.mp h)
  unfold settled deleteMessages
  rw [if_neg hlen, if_neg hm]
  rfl

theorem settled_some (hne : messages ≠ []) (hm : config.mode ≠ some .development) (c : SQSClient) :
    settled config (some c) messages lines = (c.send (deleteParams config messages)).map fun _ => () := by
  have hlen : ¬ messages.length = 0 := fun h => hne (List.length_eq_zero_iff.mp h)
  unfold settled deleteMessages
  rw [if_neg hlen, if_neg hm]
  dsimp only
  cases c.send (deleteParams config messages) with
  | ok r => rfl
  | error error => rfl

theorem exists_entry {i : Nat} (hi : i < messages.length) : ∃ e ∈ entries messages, e.Id = toString i :=
  ⟨_, List.mem_mapIdx.mpr ⟨i, hi, rfl⟩, rfl⟩

theorem entry_index {e : DeleteMessageBatchRequestEntry} (he : e ∈ entries messages) :
    ∃ i < messages.length, e.Id = toString i := by
  obtain ⟨i, hi, rfl⟩ := List.mem_mapIdx.mp he
  exact ⟨i, hi, rfl⟩

theorem deleted_of_resolved (hm : config.mode ≠ some .development) (hsqs : ∀ c, sqsClient = some c → Reports c)
    (hf : ∀ c r, sqsClient = some c → c.send (deleteParams config messages) = .ok r → r.Failed = [])
    (h : settled config sqsClient messages lines = .ok ()) {i : Nat} (hi : i < messages.length) :
    Deleted config sqsClient messages i := by
  have hne : messages ≠ [] := fun hnil => by simp [hnil] at hi
  cases sqsClient with
  | none =>
    rw [settled_none hne hm] at h
    cases h
  | some c =>
    rw [settled_some hne hm] at h
    cases hr : c.send (deleteParams config messages) with
    | error error =>
      rw [hr] at h
      cases h
    | ok r =>
      obtain ⟨e, he, hid⟩ := exists_entry hi
      refine ⟨c, r, rfl, hr, ?_⟩
      rw [← hid, (hsqs c rfl).each _ r hr e he, hf c r rfl hr]
      exact List.not_mem_nil

/-- A failed entry is one of a message that the promise, which resolves, leaves undeleted. -/
theorem none_failed (hm : config.mode ≠ some .development) {c : SQSClient} (hsqs : Reports c)
    (h : settled config (some c) messages lines = .ok () → ∀ i < messages.length, Deleted config (some c) messages i)
    {r : DeleteMessageBatchResult} (hr : c.send (deleteParams config messages) = .ok r) : r.Failed = [] := by
  apply List.eq_nil_iff_forall_not_mem.mpr
  intro id hid
  obtain ⟨e, he, rfl⟩ := hsqs.only _ r hr id hid
  obtain ⟨i, hi, hei⟩ := entry_index he
  have hne : messages ≠ [] := fun hnil => by simp [hnil] at hi
  have hok : settled config (some c) messages lines = .ok () := by
    rw [settled_some hne hm, hr]
    rfl
  obtain ⟨c', r', hc, hr', hs⟩ := h hok i hi
  obtain rfl := Option.some.inj hc
  obtain rfl := Except.ok.inj (hr.symm.trans hr')
  rw [← hei] at hs
  exact (hsqs.each _ r hr e he).mp hs hid

end

/-- **When success means that everything was deleted.** `deleteMessages`
resolves only if every message was reported deleted, and rejects otherwise,
exactly if SQS does not report an entry of the batch as failed. -/
theorem deleted_iff (config : AwsSqsConfig) (sqsClient : Option SQSClient) (messages : List Message)
    (lines : List LogLine) (hm : config.mode ≠ some .development) (hsqs : ∀ c, sqsClient = some c → Reports c) :
    ((settled config sqsClient messages lines = .ok () →
        ∀ i < messages.length, Deleted config sqsClient messages i) ∧
      ((¬ ∀ i < messages.length, Deleted config sqsClient messages i) →
        ∃ error, settled config sqsClient messages lines = .error error)) ↔
      ∀ c r, sqsClient = some c → c.send (deleteParams config messages) = .ok r → r.Failed = [] := by
  constructor
  · rintro ⟨h, -⟩ c r rfl hr
    exact none_failed hm (hsqs c rfl) h hr
  · intro hf
    have h : settled config sqsClient messages lines = .ok () →
        ∀ i < messages.length, Deleted config sqsClient messages i :=
      fun hok i hi => deleted_of_resolved hm hsqs hf hok hi
    refine ⟨h, ?_⟩
    intro hn
    cases hs : settled config sqsClient messages lines with
    | error error => exact ⟨error, rfl⟩
    | ok v => exact absurd (h hs) hn

/-- Reports as failed the entry with the id `failing`, if there is one. -/
def failingClient (failing : String) : SQSClient where
  send input := .ok ⟨(input.Entries.map fun e => e.Id).filter fun id => id ≠ failing,
    (input.Entries.map fun e => e.Id).filter fun id => id = failing⟩

theorem failingClient_reports (failing : String) : Reports (failingClient failing) := by
  constructor
  · intro input r hr e he
    obtain rfl := Except.ok.inj hr
    have hid : e.Id ∈ input.Entries.map fun e => e.Id := List.mem_map_of_mem he
    simp [List.mem_filter, hid]
  · intro input r hr id hid
    obtain rfl := Except.ok.inj hr
    obtain ⟨e, he, rfl⟩ := List.mem_map.mp (List.mem_filter.mp hid).1
    exact ⟨e, he, rfl⟩

def deployment : AwsSqsConfig := ⟨"https://sqs.us-east-1.amazonaws.com/123456789/stay-queue", some .deployment⟩

theorem deleted_iff_two :
    Deleted deployment (some (failingClient "9")) [⟨some "r0"⟩, ⟨some "r1"⟩] 0 ∧
      Deleted deployment (some (failingClient "9")) [⟨some "r0"⟩, ⟨some "r1"⟩] 1 := by
  have hdeleted := ((deleted_iff deployment (some (failingClient "9")) [⟨some "r0"⟩, ⟨some "r1"⟩] [] (by decide)
    (fun c hc => Option.some.inj hc ▸ failingClient_reports "9")).mpr (by
      intro c r hc hr
      obtain rfl := Option.some.inj hc
      obtain rfl := Except.ok.inj hr
      decide)).1 rfl
  exact ⟨hdeleted 0 (by decide), hdeleted 1 (by decide)⟩

/-- The second of two messages is reported as failed, and the promise resolves. -/
theorem failed_resolves :
    Reports (failingClient "1") ∧
    settled deployment (some (failingClient "1")) [⟨some "r0"⟩, ⟨some "r1"⟩] [] = .ok () ∧
    ¬ Deleted deployment (some (failingClient "1")) [⟨some "r0"⟩, ⟨some "r1"⟩] 1 := by
  refine ⟨failingClient_reports "1", rfl, ?_⟩
  rintro ⟨c, r, hc, hr, hs⟩
  obtain rfl := Option.some.inj hc
  obtain rfl := Except.ok.inj hr
  revert hs
  decide

end SqsUtil

end StayApi
