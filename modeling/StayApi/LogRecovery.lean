import StayApi.LogShutdown

/-!
# After an outage

While MongoDB rejects, entries pile up in the buffer and in batches under way.
Once its writes succeed again the ticks of the flush timer alone bring all of
them into the collection, in a number of steps bounded by what happened before.
-/

namespace StayApi

open LoggingService

def runsOn : LogEvent → Bool
  | .onModuleDestroy => false
  | _ => true

/-- Nothing new is logged, and what MongoDB carries out succeeds. -/
def recovers : LogEvent → Bool
  | .timer _ => true
  | .exec _ .success => true
  | .resume _ => true
  | _ => false

/-- A tick on an empty buffer does nothing. -/
def effective (w : LogWorld) : LogEvent → Nat
  | .timer _ => if w.logs = [] then 0 else 1
  | .exec _ _ => 1
  | .resume _ => 1
  | _ => 0

/-- What the flushes under way and the buffer still have to write, a rejected batch cut off as its flush will. -/
def LogWorld.toWrite (w : LogWorld) : Multiset LogEntry :=
  (w.process.issued.map fun t => (t.cmd.docs : Multiset LogEntry)).sum +
    (w.process.replied.map fun t => if t.reply.isOk then 0 else (t.cmd.docs.take BUFFER_SIZE : Multiset LogEntry)).sum +
      w.logs

def LogWorld.Flushed (w : LogWorld) : Prop := w.process.idle ∧ w.logs = []

theorem total_toWrite (m : LogMirror) :
    m.total (List.take BUFFER_SIZE) = m.world.collection + m.world.toWrite := by
  unfold LogMirror.total LogWorld.toWrite batches owed LogMirror.world PointProcess.process
  rw [List.map_map, List.map_map, ← add_assoc, ← add_assoc]
  rfl

theorem toWrite_flushed {w : LogWorld} (h : w.Flushed) : w.toWrite = 0 := by
  obtain ⟨⟨hi, hr⟩, hl⟩ := h
  unfold LogWorld.toWrite
  rw [hi, hr, hl]
  rfl

/-! ## What a step costs -/

/-- An entry that waits in the buffer is three steps away: a tick, the write and its reply. -/
def bufferSteps (logs : List LogEntry) : Nat := if logs = [] then 0 else 3

/-- A rejected flush puts its batch back into the buffer. -/
def replySteps (a : Settled) : Nat := if a.2.isOk then 1 else 4

def LogMirror.stepsLeft (m : LogMirror) : Nat :=
  2 * m.issued.length + (m.replied.map replySteps).sum + bufferSteps m.logs

theorem bufferSteps_le (logs : List LogEntry) : bufferSteps logs ≤ 3 := by
  unfold bufferSteps
  by_cases h : logs = []
  · simp [h]
  · simp [h]

section
variable {m m' : LogMirror} {e : LogEvent}

theorem stepsLeft_turn (t : LogMove) :
    (m.turn t).stepsLeft =
      2 * m.issued.length + 2 * t.suspended.length + (m.replied.map replySteps).sum +
        bufferSteps t.state.logBuffer.logs := by
  show 2 * (m.issued ++ t.suspended).length + _ + _ = _
  rw [List.length_append, Nat.mul_add]
  rfl

theorem stepsLeft_flush (l : LogOrigin) {s : LoggingService} :
    (m.turn (flushMove l s)).stepsLeft + (if s.logBuffer.logs = [] then 0 else 1) =
      2 * m.issued.length + (m.replied.map replySteps).sum + bufferSteps s.logBuffer.logs := by
  rw [stepsLeft_turn]
  rcases flushMove_cases l s with ⟨hl, hf⟩ | ⟨hl, hf⟩
  · simp [hf, hl]
  · simp [hf, hl, setLogs, bufferSteps]
    omega

theorem stepsLeft_answered {l₁ l₂ : List Flush} {p : Flush} (hi : m.issued = l₁ ++ p :: l₂) (collection : List LogEntry)
    (a : Settled) : (m.answered l₁ l₂ collection a).stepsLeft + 2 = m.stepsLeft + replySteps a := by
  unfold LogMirror.stepsLeft
  show 2 * (l₁ ++ l₂).length + ((m.replied ++ [a]).map replySteps).sum + bufferSteps m.logs + 2 = _
  simp only [hi, List.map_append, List.sum_append, List.map_singleton, List.sum_singleton, List.length_append,
    List.length_cons]
  omega

theorem stepsLeft_resumed {l₁ l₂ : List Settled} {a : Settled} (hr : m.replied = l₁ ++ a :: l₂) :
    (m.resumed l₁ a l₂).stepsLeft + 1 ≤ m.stepsLeft := by
  have hm : m.stepsLeft = 2 * m.issued.length + ((l₁.map replySteps).sum + (replySteps a + (l₂.map replySteps).sum)) +
      bufferSteps m.logs := by
    unfold LogMirror.stepsLeft
    rw [hr, List.map_append, List.sum_append, List.map_cons, List.sum_cons]
  have ht := stepsLeft_turn (m := { m with flushing := { m.flushing with replied := l₁ ++ l₂ } })
    (a.1.next a.2 m.service)
  have hlogs := bufferSteps_le (a.1.next a.2 m.service).state.logBuffer.logs
  change (m.resumed l₁ a l₂).stepsLeft = 2 * m.issued.length + 2 * (a.1.next a.2 m.service).suspended.length +
    ((l₁ ++ l₂).map replySteps).sum + _ at ht
  rw [List.map_append, List.sum_append] at ht
  obtain ⟨p, r⟩ := a
  cases r with
  | ok x =>
    change _ = _ + 0 + _ + bufferSteps m.logs at ht
    have hok : replySteps ⟨p, .ok x⟩ = 1 := rfl
    omega
  | error error =>
    change _ = _ + 0 + _ + _ at ht
    have herror : replySteps ⟨p, .error error⟩ = 4 := rfl
    omega

theorem stepsLeft_step (hs : LogStepped m e m') : m'.stepsLeft + effective m.world e ≤ m.stepsLeft + 3 := by
  cases hs with
  | applicationLog data now =>
    have hlogs := bufferSteps_le (push data now m.service).logBuffer.logs
    show _ + 0 ≤ _
    unfold applicationLogMove
    dsimp only
    by_cases hf : (push data now m.service).logBuffer.logs.length ≥ BUFFER_SIZE ∨ data.level = .error
    · have h := stepsLeft_flush (m := m) (.applicationLog m.service.built) (s := push data now m.service)
      rw [if_pos hf]
      unfold LogMirror.stepsLeft at *
      omega
    · rw [if_neg hf, stepsLeft_turn]
      unfold LogMirror.stepsLeft
      show _ + 2 * 0 + _ + bufferSteps (push data now m.service).logBuffer.logs ≤ _
      omega
  | timer _ =>
    have h := stepsLeft_flush (m := m) .timer (s := m.service)
    exact Nat.le_trans (Nat.le_of_eq h) (Nat.le_add_right _ 3)
  | onModuleDestroy =>
    have h := stepsLeft_flush (m := m) .onModuleDestroy (s := stopFlushTimer m.service)
    rw [stopFlushTimer_logBuffer] at h
    exact Nat.le_trans (Nat.le_trans (Nat.le_add_right _ _) (Nat.le_of_eq h)) (Nat.le_add_right _ 3)
  | @exec l₁ l₂ p outcome hi =>
    have h := stepsLeft_answered hi (insertMany outcome ⟨p.logsToFlush⟩ m.collection).1
      ⟨p, (insertMany outcome ⟨p.logsToFlush⟩ m.collection).2⟩
    have hle : replySteps ⟨p, (insertMany outcome ⟨p.logsToFlush⟩ m.collection).2⟩ ≤ 4 := by
      unfold replySteps
      split <;> decide
    show _ + 1 ≤ _
    omega
  | resume hr => exact Nat.le_trans (stepsLeft_resumed hr) (Nat.le_add_right _ 3)

theorem recovers_step (ho : recovers e = true) (hs : LogStepped m e m') :
    effective m.world e + m'.stepsLeft ≤ m.stepsLeft ∧
      m'.total (List.take BUFFER_SIZE) = m.total (List.take BUFFER_SIZE) := by
  cases hs with
  | applicationLog data now => cases ho
  | onModuleDestroy => cases ho
  | timer _ =>
    have h := stepsLeft_flush (m := m) .timer (s := m.service)
    exact ⟨Nat.le_of_eq ((Nat.add_comm _ _).trans h), total_flush .timer rfl⟩
  | @exec l₁ l₂ p outcome hi =>
    cases outcome with
    | failure written error => cases ho
    | success =>
      have h := stepsLeft_answered hi (m.collection ++ p.logsToFlush) ⟨p, .ok ()⟩
      have hok : replySteps ⟨p, .ok ()⟩ = 1 := rfl
      refine ⟨?_, total_success hi⟩
      show 1 + _ ≤ _
      simp only [insertMany]
      omega
  | resume hr =>
    refine ⟨?_, Multiset.add_left_inj.mp (total_resumed hr)⟩
    show 1 + _ ≤ _
    exact (Nat.add_comm _ _).trans_le (stepsLeft_resumed hr)

/-! ## What can still be done -/

theorem runsOn_step (ho : runsOn e = true) (hs : LogStepped m e m') :
    m'.service.intervals = m.service.intervals := by
  cases hs with
  | applicationLog data now =>
    show (applicationLogMove data now m.service).state.intervals = _
    unfold applicationLogMove
    dsimp only
    split
    · exact (flushMove_timer _ _).1
    · rfl
  | timer _ => exact (flushMove_timer _ _).1
  | onModuleDestroy => cases ho
  | exec outcome hi => rfl
  | @resume l₁ l₂ a hr =>
    obtain ⟨p, r⟩ := a
    cases r <;> rfl

end

theorem flushed_world (m : LogMirror) : m.world.Flushed ↔ m.issued = [] ∧ m.replied = [] ∧ m.logs = [] := by
  unfold LogWorld.Flushed
  rw [and_assoc.symm]
  exact and_congr (and_congr List.map_eq_nil_iff List.map_eq_nil_iff) Iff.rfl

theorem recovers_on {m : LogMirror} (ht : m.service.intervals ≠ []) (h : ¬ m.world.Flushed) :
    ∃ e, recovers e = true ∧ effective m.world e = 1 ∧ (logMirrorStep m e).isSome = true := by
  rw [flushed_world] at h
  cases hi : m.issued with
  | cons p l =>
    have hi' : m.issued = [] ++ p :: l := hi
    exact ⟨.exec 0 .success, rfl, rfl, Option.isSome_of_eq_some (logMirror_exec .success hi')⟩
  | nil =>
    cases hr : m.replied with
    | cons a l =>
      have hr' : m.replied = [] ++ a :: l := hr
      exact ⟨.resume 0, rfl, rfl, Option.isSome_of_eq_some (logMirror_resume hr')⟩
    | nil =>
      obtain ⟨t, l, hl⟩ := List.exists_cons_of_ne_nil ht
      have hlogs : m.world.logs ≠ [] := fun hl => h ⟨hi, hr, hl⟩
      refine ⟨.timer t, rfl, if_neg hlogs, ?_⟩
      simp [logMirrorStep, hl]

/-- **Recovery.** Whatever MongoDB did while `es` ran, from the moment its writes succeed again and nothing new is
logged: at most three steps for each step of `es` can still do something; as long as something is left, one of them is
possible, at the latest the timer's tick; and what was buffered or under way is neither lost nor written twice. -/
theorem outage_recovered (es fs : List LogEvent) {w w' : LogWorld} (hd : ∀ e ∈ es, runsOn e = true)
    (hr : run logStep LogWorld.start es = some w) (hf : ∀ e ∈ fs, recovers e = true)
    (hr' : run logStep w fs = some w') :
    gather logStep effective w fs ≤ 3 * es.length ∧
      (¬ w'.Flushed → ∃ e, recovers e = true ∧ effective w' e = 1 ∧ (logStep w' e).isSome = true) ∧
      (w'.collection + w'.toWrite : Multiset LogEntry) = w.collection + w.toWrite ∧
      (w'.Flushed → (w'.collection : Multiset LogEntry) = w.collection + w.toWrite) := by
  obtain ⟨m, hm, rfl⟩ := run_lift (t := LogMirror.start) step_logMirror hr
  obtain ⟨m', hm', rfl⟩ := run_lift (t := m) step_logMirror hr'
  have hbound : m.stepsLeft ≤ 3 * es.length := by
    have h : m.stepsLeft + (es.map fun _ => 0).sum ≤ 0 + (es.map fun _ => 3).sum :=
      run_paid (fun m e m' hs => Nat.le_trans (Nat.le_add_right _ _) (stepsLeft_step (logMirror_cases hs))) hm
    simpa [Nat.mul_comm] using h
  have hrec : gather logStep effective m.world fs + m'.stepsLeft ≤ m.stepsLeft ∧
      m'.total (List.take BUFFER_SIZE) = m.total (List.take BUFFER_SIZE) := by
    rw [gather_map step_logMirror]
    have h := run_gather (f := fun m e => effective m.world e)
      (I := fun x m' => x + m'.stepsLeft ≤ m.stepsLeft ∧
        m'.total (List.take BUFFER_SIZE) = m.total (List.take BUFFER_SIZE))
      ?_ (x := 0) ⟨Nat.le_of_eq (Nat.zero_add _), rfl⟩ (along_of_forall hf m) hm'
    · rwa [zero_add] at h
    · rintro x n e n' ⟨hx, ht⟩ ho hs
      obtain ⟨hpay, htotal⟩ := recovers_step ho (logMirror_cases hs)
      exact ⟨by omega, htotal.trans ht⟩
  have htimer : m'.service.intervals ≠ [] := by
    have hfs : ∀ e ∈ fs, runsOn e = true := by
      intro e he
      have := hf e he
      cases e <;> first | rfl | cases this
    have hall : run logMirrorStep LogMirror.start (es ++ fs) = some m' := run_append.mpr ⟨m, hm, hm'⟩
    have h : m'.service.intervals = LogMirror.start.service.intervals :=
      run_invariant (I := fun m => m.service.intervals = LogMirror.start.service.intervals)
        (fun m e m' hi ho hs => (runsOn_step ho (logMirror_cases hs)).trans hi) rfl
        (along_of_forall (List.forall_mem_append.mpr ⟨hd, hfs⟩) LogMirror.start) hall
    rw [h]
    exact List.cons_ne_nil _ _
  have hbooks : (m'.world.collection + m'.world.toWrite : Multiset LogEntry) =
      m.world.collection + m.world.toWrite := by
    rw [← total_toWrite, ← total_toWrite, hrec.2]
  refine ⟨Nat.le_trans (Nat.le_trans (Nat.le_add_right _ _) hrec.1) hbound, ?_, hbooks, ?_⟩
  · intro h
    obtain ⟨e, he, ho, hs⟩ := recovers_on htimer h
    refine ⟨e, he, ho, ?_⟩
    rw [step_logMirror, Option.isSome_map]
    exact hs
  · intro h
    rw [← hbooks, toWrite_flushed h, add_zero]

def downRun : List LogEvent := [.applicationLog (errorLog "down") 0, .exec 0 (.failure [false] ⟨"timeout"⟩)]

/-- An entry whose write was rejected is back in the buffer, and the next tick writes it. -/
theorem outage_recovered_retry :
    ∃ w w', run logStep LogWorld.start downRun = some w ∧
      run logStep w [.resume 0, .timer ⟨0, 5000⟩, .exec 0 .success, .resume 0] = some w' ∧
      (w'.collection : Multiset LogEntry) = {logEntry 0 (errorLog "down") 0} :=
  ⟨_, _, rfl, rfl, (outage_recovered downRun [.resume 0, .timer ⟨0, 5000⟩, .exec 0 .success, .resume 0] (by decide) rfl
    (by decide) rfl).2.2.2 ⟨⟨rfl, rfl⟩, rfl⟩⟩

end StayApi
