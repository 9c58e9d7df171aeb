import Mathlib.Algebra.Order.Group.Multiset
import Mathlib.Tactic.Abel
import StayApi.LogMirror

/-!
# Where the log entries are

Every accepted entry is in the collection, in a batch on its way there, in the
buffer, or was cut off by the size limit of a re-add.
-/

namespace StayApi

open LoggingService

/-! ## The ledger -/

def acceptedBy (w : LogWorld) : LogEvent → Multiset LogEntry
  | .applicationLog data now => {logEntry w.service.built data now}
  | _ => 0

/-- A rejected batch is cut at `BUFFER_SIZE` when the rejection reaches its flush. -/
def discardedBy (w : LogWorld) : LogEvent → Multiset LogEntry
  | .resume j =>
    match w.process.replied[j]? with
    | some t => if t.reply.isOk then 0 else ↑(t.cmd.docs.drop BUFFER_SIZE)
    | none => 0
  | _ => 0

def accepted (es : List LogEvent) : Multiset LogEntry := gather logStep acceptedBy LogWorld.start es

def discarded (es : List LogEvent) : Multiset LogEntry := gather logStep discardedBy LogWorld.start es

/-- The batches not stored whose `insertMany` has not been seen to settle. -/
def LogWorld.pending (w : LogWorld) : Multiset LogEntry :=
  (w.process.issued.map fun t => (t.cmd.docs : Multiset LogEntry)).sum +
    (w.process.replied.map fun t => if t.reply.isOk then 0 else (t.cmd.docs : Multiset LogEntry)).sum

/-- A rejected `insertMany` has stored nothing. -/
def allOrNothing : LogEvent → Bool
  | .exec _ (.failure written _) => written.all fun b => !b
  | _ => true

/-- A rejected `insertMany` has stored nothing of what its flush will re-add. -/
def reAddsUnwritten : LogEvent → Bool
  | .exec _ (.failure written _) => (written.take BUFFER_SIZE).all fun b => !b
  | _ => true

/-! ## On the mirror -/

def batches (l : List Flush) : Multiset LogEntry := (l.map fun p => (p.logsToFlush : Multiset LogEntry)).sum

/-- What the settled flushes still have of their batches, if a rejection leaves `keep` of one. -/
def owed (keep : List LogEntry → List LogEntry) (l : List Settled) : Multiset LogEntry :=
  (l.map fun a => if a.2.isOk then 0 else (keep a.1.logsToFlush : Multiset LogEntry)).sum

namespace LogMirror

def total (keep : List LogEntry → List LogEntry) (m : LogMirror) : Multiset LogEntry :=
  m.collection + batches m.issued + owed keep m.replied + m.logs

end LogMirror

def held (t : LogMove) : Multiset LogEntry := batches t.suspended + t.state.logBuffer.logs

section
variable (keep : List LogEntry → List LogEntry)

@[simp] theorem batches_append (l₁ l₂ : List Flush) : batches (l₁ ++ l₂) = batches l₁ + batches l₂ := by
  unfold batches
  rw [List.map_append, List.sum_append]

@[simp] theorem batches_cons (p : Flush) (l : List Flush) : batches (p :: l) = p.logsToFlush + batches l := rfl

@[simp] theorem batches_nil : batches [] = 0 := rfl

@[simp] theorem owed_append (l₁ l₂ : List Settled) : owed keep (l₁ ++ l₂) = owed keep l₁ + owed keep l₂ := by
  unfold owed
  rw [List.map_append, List.sum_append]

@[simp] theorem owed_ok (p : Flush) (l : List Settled) : owed keep (⟨p, .ok ()⟩ :: l) = owed keep l := by
  unfold owed
  rw [List.map_cons, List.sum_cons]
  exact zero_add _

@[simp] theorem owed_error (p : Flush) (error : JsError) (l : List Settled) :
    owed keep (⟨p, .error error⟩ :: l) = keep p.logsToFlush + owed keep l := by
  unfold owed
  rw [List.map_cons, List.sum_cons]
  rfl

@[simp] theorem owed_nil : owed keep [] = 0 := rfl

end

theorem held_flushMove (l : LogOrigin) (s : LoggingService) : held (flushMove l s) = s.logBuffer.logs := by
  unfold held flushMove
  by_cases h : s.logBuffer.logs = []
  · rw [if_pos h]
    exact zero_add _
  · rw [if_neg h]
    simp [setLogs]

theorem held_applicationLogMove (data : ApplicationLog) (now : Nat) (s : LoggingService) :
    held (applicationLogMove data now s) = s.logBuffer.logs + {logEntry s.built data now} := by
  have hp : (((push data now s).logBuffer.logs : List LogEntry) : Multiset LogEntry) =
      s.logBuffer.logs + {logEntry s.built data now} := by
    rw [← Multiset.coe_singleton, Multiset.coe_add]; rfl
  unfold applicationLogMove
  dsimp only
  split
  · rw [held_flushMove, hp]
  · unfold held
    rw [← hp]
    exact zero_add _

theorem stopFlushTimer_logBuffer (s : LoggingService) : (stopFlushTimer s).logBuffer = s.logBuffer := by
  unfold stopFlushTimer
  split <;> rfl

theorem stopFlushTimer_built (s : LoggingService) : (stopFlushTimer s).built = s.built := by
  unfold stopFlushTimer
  split <;> rfl

theorem flushMove_built (l : LogOrigin) (s : LoggingService) : (flushMove l s).state.built = s.built := by
  unfold flushMove
  split <;> rfl

theorem applicationLogMove_built (data : ApplicationLog) (now : Nat) (s : LoggingService) :
    (applicationLogMove data now s).state.built = s.built + 1 := by
  unfold applicationLogMove
  dsimp only
  split
  · exact flushMove_built _ _
  · rfl

section
variable {k : List LogEntry → List LogEntry} {m : LogMirror}

theorem total_turn (t : LogMove) :
    (m.turn t).total k = m.collection + batches m.issued + owed k m.replied + held t := by
  have hi : (m.turn t).issued = m.issued ++ t.suspended := rfl
  unfold LogMirror.total held
  rw [hi, batches_append]
  show m.collection + (batches m.issued + batches t.suspended) + owed k m.replied + ↑t.state.logBuffer.logs = _
  abel

theorem total_flush (l : LogOrigin) {s : LoggingService} (hs : s.logBuffer = m.service.logBuffer) :
    (m.turn (flushMove l s)).total k = m.total k := by
  rw [total_turn, held_flushMove, hs]
  rfl

theorem total_applicationLog (data : ApplicationLog) (now : Nat) :
    (m.turn (applicationLogMove data now m.service)).total k =
      m.total k + {logEntry m.service.built data now} := by
  rw [total_turn, held_applicationLogMove, ← add_assoc]
  rfl

theorem total_answered {l₁ l₂ : List Flush} (collection : List LogEntry) (a : Settled) :
    (m.answered l₁ l₂ collection a).total k =
      collection + (batches l₁ + batches l₂) + (owed k m.replied + owed k [a]) + m.logs := by
  rw [← batches_append, ← owed_append]
  rfl

theorem total_split {l₁ l₂ : List Flush} {p : Flush} (hi : m.issued = l₁ ++ p :: l₂) :
    m.total k =
      m.collection + (batches l₁ + (p.logsToFlush + batches l₂)) + owed k m.replied + m.logs := by
  rw [← batches_cons, ← batches_append, ← hi]
  rfl

theorem total_success {l₁ l₂ : List Flush} {p : Flush} (hi : m.issued = l₁ ++ p :: l₂) :
    (m.answered l₁ l₂ (m.collection ++ p.logsToFlush) ⟨p, .ok ()⟩).total k = m.total k := by
  rw [total_answered, total_split hi, owed_ok, owed_nil, ← Multiset.coe_add]
  abel

theorem total_failure {l₁ l₂ : List Flush} {p : Flush} (hi : m.issued = l₁ ++ p :: l₂) (error : JsError)
    (stored : List LogEntry) :
    (m.answered l₁ l₂ (m.collection ++ stored) ⟨p, .error error⟩).total k + p.logsToFlush =
      m.total k + stored + k p.logsToFlush := by
  rw [total_answered, total_split hi, owed_error, owed_nil, ← Multiset.coe_add]
  abel

theorem total_resumed {l₁ l₂ : List Settled} {a : Settled} (hr : m.replied = l₁ ++ a :: l₂) :
    (m.resumed l₁ a l₂).total k + owed k [a] = m.total k + owed (List.take BUFFER_SIZE) [a] := by
  have hm : m.total k = m.collection + batches m.issued + (owed k l₁ + (owed k [a] + owed k l₂)) +
      m.logs := by
    rw [← owed_append, ← owed_append, List.singleton_append, ← hr]
    rfl
  obtain ⟨p, r⟩ := a
  cases r with
  | ok _ =>
    have ht : (m.resumed l₁ ⟨p, .ok ()⟩ l₂).total k =
        m.collection + batches (m.issued ++ []) + owed k (l₁ ++ l₂) + m.logs := rfl
    rw [ht, hm, batches_append, owed_append, owed_ok, owed_ok, owed_nil, owed_nil, batches_nil]
    abel
  | error e =>
    have ht : (m.resumed l₁ ⟨p, .error e⟩ l₂).total k =
        m.collection + batches (m.issued ++ []) + owed k (l₁ ++ l₂) +
          ((p.logsToFlush.take BUFFER_SIZE ++ m.logs : List LogEntry) : Multiset LogEntry) := rfl
    rw [ht, hm, batches_append, owed_append, owed_error, owed_error, owed_nil, owed_nil, batches_nil,
      ← Multiset.coe_add]
    abel

end

/-! ## Distinct entries -/

def Fresh (x : Multiset LogEntry) (built : Nat) : Prop :=
  (x.map LogEntry.ref).Nodup ∧ ∀ e ∈ x, e.ref < built

theorem fresh_le {x y : Multiset LogEntry} {n : Nat} (h : Fresh y n) (hxy : x ≤ y) : Fresh x n :=
  ⟨Multiset.nodup_of_le (Multiset.map_le_map hxy) h.1, fun e he => h.2 e (Multiset.mem_of_le hxy he)⟩

theorem fresh_add {x : Multiset LogEntry} {n : Nat} (h : Fresh x n) (data : ApplicationLog) (now : Nat) :
    Fresh (x + {logEntry n data now}) (n + 1) := by
  constructor
  · rw [Multiset.map_add, Multiset.map_singleton, add_comm, Multiset.singleton_add, Multiset.nodup_cons]
    refine ⟨fun hn => ?_, h.1⟩
    obtain ⟨e, he, hr⟩ := Multiset.mem_map.mp hn
    have hlt := h.2 e he
    have heq : e.ref = n := hr
    omega
  · intro e he
    rcases Multiset.mem_add.mp he with he | he
    · have hlt := h.2 e he
      omega
    · rw [Multiset.mem_singleton.mp he]
      exact Nat.lt_succ_self n

theorem fresh_step {m m' : LogMirror} {e : LogEvent} (hs : LogStepped m e m') {x : Multiset LogEntry}
    (h : Fresh x m.service.built) : Fresh (x + acceptedBy m.world e) m'.service.built := by
  cases hs with
  | applicationLog data now =>
    have hb : (m.turn (applicationLogMove data now m.service)).service.built = m.service.built + 1 :=
      applicationLogMove_built data now m.service
    rw [hb]
    exact fresh_add h data now
  | timer _ =>
    have hb : (m.turn (flushMove .timer m.service)).service.built = m.service.built := flushMove_built _ _
    rw [hb]
    exact (add_zero x).symm ▸ h
  | onModuleDestroy =>
    have hb : (m.turn (destroyMove m.service)).service.built = m.service.built :=
      (flushMove_built _ _).trans (stopFlushTimer_built _)
    rw [hb]
    exact (add_zero x).symm ▸ h
  | exec outcome hi => exact (add_zero x).symm ▸ h
  | @resume l₁ l₂ a hr =>
    have hb : (m.resumed l₁ a l₂).service.built = m.service.built := by
      obtain ⟨p, r⟩ := a
      cases r <;> rfl
    rw [hb]
    exact (add_zero x).symm ▸ h

/-! ## What one step moves -/

theorem writtenOf_nil {docs : List LogEntry} {written : List Bool} (h : written.all (fun b => !b) = true) :
    writtenOf docs written = [] := by
  unfold writtenOf
  rw [List.filterMap_eq_nil_iff]
  rintro ⟨e, b⟩ he
  have hb := List.all_eq_true.mp h b (List.of_mem_zip he).2
  cases b with
  | false => rfl
  | true => cases hb

theorem writtenOf_sublist (docs : List LogEntry) (written : List Bool) :
    (writtenOf docs written).Sublist docs := by
  induction docs generalizing written with
  | nil => exact List.Sublist.slnil
  | cons e docs ih =>
    cases written with
    | nil => exact List.nil_sublist _
    | cons b written =>
      cases b with
      | false => exact (ih written).cons e
      | true => exact (ih written).cons_cons e

theorem writtenOf_drop {n : Nat} (docs : List LogEntry) {written : List Bool}
    (h : (written.take n).all (fun b => !b) = true) : (writtenOf docs written).Sublist (docs.drop n) := by
  have hs : writtenOf docs written =
      writtenOf (docs.take n) (written.take n) ++ writtenOf (docs.drop n) (written.drop n) := by
    unfold writtenOf List.zip
    rw [← List.filterMap_append, ← List.take_zipWith, ← List.drop_zipWith, List.take_append_drop]
  rw [hs, writtenOf_nil h, List.nil_append]
  exact writtenOf_sublist _ _

section
variable {m m' : LogMirror} {e : LogEvent}

theorem discardedBy_resume {l₁ l₂ : List Settled} {a : Settled} (hr : m.replied = l₁ ++ a :: l₂) :
    discardedBy m.world (.resume l₁.length) = owed (List.drop BUFFER_SIZE) [a] := by
  unfold discardedBy
  simp only [logReplied_world hr]
  exact (add_zero _).symm

theorem owed_split (a : Settled) :
    owed id [a] = owed (List.take BUFFER_SIZE) [a] + owed (List.drop BUFFER_SIZE) [a] := by
  obtain ⟨p, r⟩ := a
  cases r with
  | ok _ => rfl
  | error error =>
    rw [owed_error, owed_error, owed_error, owed_nil, owed_nil, owed_nil, add_zero, add_zero, add_zero,
      Multiset.coe_add, List.take_append_drop]
    rfl

theorem total_step (hs : LogStepped m e m') (ho : allOrNothing e = true) :
    m'.total id + discardedBy m.world e = m.total id + acceptedBy m.world e := by
  cases hs with
  | applicationLog data now =>
    rw [total_applicationLog]
    exact add_zero _
  | timer _ => rw [total_flush .timer rfl]; rfl
  | onModuleDestroy =>
    have h : (m.turn (destroyMove m.service)).total id = m.total id :=
      total_flush .onModuleDestroy (stopFlushTimer_logBuffer _)
    rw [h]; rfl
  | @exec l₁ l₂ p outcome hi =>
    cases outcome with
    | success =>
      have h := total_success (k := id) hi
      exact congrArg (· + 0) h
    | failure written error =>
      have h := total_failure (k := id) hi error []
      have hw : writtenOf p.logsToFlush written = [] := writtenOf_nil ho
      rw [Multiset.coe_nil, add_zero] at h
      have h' := Multiset.add_left_inj.mp h
      simp only [insertMany, hw]
      exact congrArg (· + 0) h'
  | @resume l₁ l₂ a hr =>
    have h := total_resumed (k := id) hr
    rw [owed_split, add_comm (owed _ _), ← add_assoc] at h
    rw [discardedBy_resume hr, Multiset.add_left_inj.mp h]
    exact (add_zero _).symm

theorem total_take_step (hs : LogStepped m e m') (ho : reAddsUnwritten e = true) :
    m'.total (List.take BUFFER_SIZE) ≤ m.total (List.take BUFFER_SIZE) + acceptedBy m.world e := by
  cases hs with
  | applicationLog data now => rw [total_applicationLog]; rfl
  | timer _ => rw [total_flush .timer rfl]; exact Multiset.le_add_right _ _
  | onModuleDestroy =>
    have h : (m.turn (destroyMove m.service)).total (List.take BUFFER_SIZE) = m.total (List.take BUFFER_SIZE) :=
      total_flush .onModuleDestroy (stopFlushTimer_logBuffer _)
    rw [h]; exact Multiset.le_add_right _ _
  | @exec l₁ l₂ p outcome hi =>
    refine le_trans ?_ (Multiset.le_add_right _ _)
    cases outcome with
    | success => exact le_of_eq (total_success hi)
    | failure written error =>
      have h := total_failure (k := List.take BUFFER_SIZE) hi error (writtenOf p.logsToFlush written)
      have hw : (writtenOf p.logsToFlush written : Multiset LogEntry) + (p.logsToFlush.take BUFFER_SIZE) ≤
          p.logsToFlush := by
        have hd : (writtenOf p.logsToFlush written : Multiset LogEntry) ≤ p.logsToFlush.drop BUFFER_SIZE :=
          Multiset.coe_le.mpr (writtenOf_drop _ ho).subperm
        have ht : (p.logsToFlush : Multiset LogEntry) =
            ↑(p.logsToFlush.drop BUFFER_SIZE) + ↑(p.logsToFlush.take BUFFER_SIZE) := by
          rw [add_comm, Multiset.coe_add, List.take_append_drop]
        rw [ht]
        exact Multiset.add_le_add_iff_right.mpr hd
      refine le_of_add_le_add_right (le_trans (le_of_eq h) ?_)
      rw [add_assoc]
      exact Multiset.add_le_add_iff_left.mpr hw
  | resume hr =>
    have h := total_resumed (k := List.take BUFFER_SIZE) hr
    rw [Multiset.add_left_inj.mp h]
    exact Multiset.le_add_right _ _

end

/-! ## The logging system -/

theorem pending_world (m : LogMirror) : m.world.pending = batches m.issued + owed id m.replied := by
  unfold LogWorld.pending batches owed LogMirror.world PointProcess.process
  rw [List.map_map, List.map_map]
  rfl

/-- The books of a run: what was accepted is somewhere, or discarded. -/
theorem ledger {es : List LogEvent} {m : LogMirror}
    (hk : Along logMirrorStep (fun _ e => allOrNothing e) LogMirror.start es)
    (hm : run logMirrorStep LogMirror.start es = some m) :
    accepted es = m.total id + discarded es ∧ Fresh (accepted es) m.service.built := by
  have h := run_gather (f := fun m e => (acceptedBy m.world e, discardedBy m.world e))
    (I := fun x m => x.1 = m.total id + x.2 ∧ Fresh x.1 m.service.built) ?_
    (x := 0) ⟨(add_zero _).symm, Multiset.nodup_zero, fun e he => absurd he (Multiset.notMem_zero e)⟩ hk hm
  · rw [zero_add, gather_prod, ← gather_map step_logMirror (g := acceptedBy),
      ← gather_map step_logMirror (g := discardedBy)] at h
    exact h
  · rintro ⟨a, d⟩ m e m' ⟨ha, hf⟩ ho hs
    have hs' := logMirror_cases hs
    refine ⟨?_, fresh_step hs' hf⟩
    have ht := total_step hs' ho
    show a + acceptedBy m.world e = m'.total id + (d + discardedBy m.world e)
    simp only at ha
    rw [ha, add_comm d, ← add_assoc, ht]
    exact add_right_comm _ _ _

theorem total_world (m : LogMirror) : m.total id = m.world.collection + m.world.pending + m.world.logs := by
  rw [pending_world, ← add_assoc]
  rfl

/-- **Exact accounting.** If a rejected `insertMany` stores nothing, every
accepted entry is in exactly one of four places: the collection, a pending
batch, the buffer, and the cut-off ends of rejected batches. -/
theorem entries_accounted (es : List LogEvent) (w : LogWorld)
    (hk : Along logStep (fun _ e => allOrNothing e) LogWorld.start es)
    (hr : run logStep LogWorld.start es = some w) :
    accepted es = w.collection + w.pending + w.logs + discarded es ∧
      ((accepted es).map LogEntry.ref).Nodup := by
  obtain ⟨m, hk', hm, rfl⟩ := logMirror_run hk hr
  obtain ⟨haccepted, hfresh⟩ := ledger hk' hm
  refine ⟨?_, hfresh.1⟩
  rw [haccepted, total_world]

def errorLog (message : String) : ApplicationLog :=
  ⟨.error, "user", none, none, "login", none, message, none⟩

/-- One error entry: its `insertMany` times out, having stored the entry or
not, and the next tick writes the re-added entry. -/
def retryRun (written : Bool) : List LogEvent :=
  [.applicationLog (errorLog "down") 0, .exec 0 (.failure [written] ⟨"timeout"⟩), .resume 0, .timer ⟨0, 5000⟩,
    .exec 0 .success]

theorem entries_accounted_retry :
    ∃ w, run logStep LogWorld.start (retryRun false) = some w ∧
      accepted (retryRun false) = w.collection + w.pending + w.logs + discarded (retryRun false) :=
  ⟨_, rfl, (entries_accounted (retryRun false) _ (by decide) rfl).1⟩

/-- **Stored at most once.** As long as a rejected `insertMany` has stored none
of the documents its flush re-adds, no entry is ever stored twice. -/
theorem stored_once (es : List LogEvent) (w : LogWorld)
    (hk : Along logStep (fun _ e => reAddsUnwritten e) LogWorld.start es)
    (hr : run logStep LogWorld.start es = some w) : (w.collection.map LogEntry.ref).Nodup := by
  obtain ⟨m, hk', hm, rfl⟩ := logMirror_run hk hr
  have h0 : Fresh (LogMirror.start.total (List.take BUFFER_SIZE)) LogMirror.start.service.built :=
    ⟨Multiset.nodup_zero, fun e he => absurd he (Multiset.notMem_zero e)⟩
  have hf : Fresh (m.total (List.take BUFFER_SIZE)) m.service.built := by
    refine run_invariant (I := fun m => Fresh (m.total (List.take BUFFER_SIZE)) m.service.built) ?_ h0 hk' hm
    intro m e m' h ho hs
    have hs' := logMirror_cases hs
    exact fresh_le (fresh_step hs' h) (total_take_step hs' ho)
  have hc : (m.collection : Multiset LogEntry) ≤ m.total (List.take BUFFER_SIZE) := by
    unfold LogMirror.total
    rw [add_assoc, add_assoc]
    exact Multiset.le_add_right _ _
  have hn := (fresh_le hf hc).1
  rwa [Multiset.map_coe, Multiset.coe_nodup] at hn

theorem stored_once_retry :
    ∃ w, run logStep LogWorld.start (retryRun false) = some w ∧ (w.collection.map LogEntry.ref).Nodup :=
  ⟨_, rfl, stored_once (retryRun false) _ (by decide) rfl⟩

/-- A write that times out after it was done is done again. -/
theorem retry_stores_twice :
    ∃ w, run logStep LogWorld.start (retryRun true) = some w ∧ ¬ (w.collection.map LogEntry.ref).Nodup :=
  ⟨_, rfl, by decide⟩

end StayApi
