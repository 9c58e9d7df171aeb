import StayApi.LogAccounting

/-!
# How far the buffer grows, and how often it is written

The size limit of a re-add is a limit on what one rejected batch puts back. The
buffer is as bounded as the number of batches that can be rejected together,
and a batch put back counts towards the next flush as new entries do.
-/

namespace StayApi

open LoggingService

def startsFlush (w : LogWorld) : LogEvent → Bool
  | .applicationLog data _ => w.logs.length + 1 ≥ BUFFER_SIZE ∨ data.level = .error
  | .timer _ => w.logs ≠ []
  | .onModuleDestroy => w.logs ≠ []
  | _ => false

/-- The calls of `insertMany` that no flush has seen settle. -/
def LogWorld.pendingFlushes (w : LogWorld) : Nat := w.process.issued.length + w.process.replied.length

def LogMirror.pendingFlushes (m : LogMirror) : Nat := m.issued.length + m.replied.length

theorem pendingFlushes_world (m : LogMirror) : m.world.pendingFlushes = m.pendingFlushes := by
  unfold LogWorld.pendingFlushes LogMirror.pendingFlushes LogMirror.world PointProcess.process
  rw [List.length_map, List.length_map]
  rfl

/-! ## The bound -/

/-- Room for every batch still pending to be put back. -/
structure Roomy (M : Nat) (m : LogMirror) : Prop where
  pending : m.pendingFlushes ≤ M
  room : m.logs.length + BUFFER_SIZE * m.pendingFlushes < BUFFER_SIZE * (M + 1)

section
variable {M : Nat} {m m' : LogMirror}

theorem roomy_flush {l : LogOrigin} {s : LoggingService} {logs : List LogEntry} (hm : m.pendingFlushes < M) :
    Roomy M (m.turn ⟨setLogs [] s, [⟨l, logs⟩], []⟩) := by
  have hp : (m.turn ⟨setLogs [] s, [⟨l, logs⟩], []⟩).pendingFlushes = m.pendingFlushes + 1 := by
    unfold LogMirror.pendingFlushes
    show (m.issued ++ ([⟨l, logs⟩] : List Flush)).length + m.replied.length = _
    rw [List.length_append, List.length_singleton]
    omega
  constructor
  · rw [hp]
    exact hm
  · rw [hp]
    show 0 + BUFFER_SIZE * (m.pendingFlushes + 1) < BUFFER_SIZE * (M + 1)
    unfold BUFFER_SIZE
    omega

theorem roomy_still {s : LoggingService} (h : Roomy M m)
    (hs : s.logBuffer.logs.length ≤ m.logs.length ∨ s.logBuffer.logs.length < BUFFER_SIZE) :
    Roomy M (m.turn ⟨s, [], []⟩) := by
  have hp : (m.turn ⟨s, [], []⟩).pendingFlushes = m.pendingFlushes := by
    unfold LogMirror.pendingFlushes
    show (m.issued ++ []).length + m.replied.length = _
    rw [List.append_nil]
  refine ⟨hp ▸ h.pending, ?_⟩
  rw [hp]
  have hroom := h.room
  have hpending := h.pending
  show s.logBuffer.logs.length + _ < _
  unfold BUFFER_SIZE at *
  rcases hs with hs | hs
  · omega
  · omega

theorem roomy_settled {l₁ l₂ : List Settled} {a : Settled} (hr : m.replied = l₁ ++ a :: l₂) (h : Roomy M m) :
    Roomy M (m.resumed l₁ a l₂) := by
  have hp : (m.resumed l₁ a l₂).pendingFlushes + 1 = m.pendingFlushes := by
    unfold LogMirror.pendingFlushes
    rw [hr]
    obtain ⟨p, r⟩ := a
    cases r with
    | ok _ =>
      show (m.issued ++ []).length + (l₁ ++ l₂).length + 1 = _
      simp only [List.length_append, List.length_cons, List.length_nil]
      omega
    | error error =>
      show (m.issued ++ []).length + (l₁ ++ l₂).length + 1 = _
      simp only [List.length_append, List.length_cons, List.length_nil]
      omega
  have hl : (m.resumed l₁ a l₂).logs.length ≤ BUFFER_SIZE + m.logs.length := by
    obtain ⟨p, r⟩ := a
    cases r with
    | ok _ => exact Nat.le_add_left _ _
    | error error =>
      show (p.logsToFlush.take BUFFER_SIZE ++ m.logs).length ≤ _
      rw [List.length_append]
      exact Nat.add_le_add_right (List.length_take_le _ _) _
  have hroom := h.room
  have hpending := h.pending
  refine ⟨by omega, ?_⟩
  unfold BUFFER_SIZE at *
  omega

theorem roomy_step {e : LogEvent} (h : Roomy M m)
    (ho : startsFlush m.world e = true → m.world.pendingFlushes < M) (hs : LogStepped m e m') : Roomy M m' := by
  rw [pendingFlushes_world] at ho
  cases hs with
  | applicationLog data now =>
    rcases applicationLogMove_cases data now m.service with ⟨hf, hmove⟩ | ⟨hf, hmove⟩
    · rw [hmove]
      apply roomy_flush
      apply ho
      exact decide_eq_true hf
    · rw [hmove]
      apply roomy_still h
      right
      have hn : (push data now m.service).logBuffer.logs.length = m.service.logBuffer.logs.length + 1 := by
        show (m.service.logBuffer.logs ++ [_]).length = _
        rw [List.length_append, List.length_singleton]
      rw [hn]
      exact Nat.lt_of_not_le fun hle => hf (.inl hle)
  | timer ht =>
    rcases flushMove_cases .timer m.service with ⟨-, hmove⟩ | ⟨hne, hmove⟩
    · rw [hmove]
      exact roomy_still h (.inl (Nat.le_refl _))
    · rw [hmove]
      apply roomy_flush
      apply ho
      exact decide_eq_true hne
  | onModuleDestroy =>
    have hb := stopFlushTimer_logBuffer m.service
    unfold destroyMove
    rcases flushMove_cases .onModuleDestroy (stopFlushTimer m.service) with ⟨-, hmove⟩ | ⟨hne, hmove⟩
    · rw [hmove]
      apply roomy_still h
      left
      rw [hb]
      exact Nat.le_refl _
    · rw [hmove]
      apply roomy_flush
      apply ho
      rw [hb] at hne
      exact decide_eq_true hne
  | @exec l₁ l₂ p outcome hi =>
    have hp : (m.answered l₁ l₂ (insertMany outcome ⟨p.logsToFlush⟩ m.collection).1
        ⟨p, (insertMany outcome ⟨p.logsToFlush⟩ m.collection).2⟩).pendingFlushes = m.pendingFlushes := by
      unfold LogMirror.pendingFlushes
      rw [hi]
      show (l₁ ++ l₂).length + (m.replied ++ [_]).length = _
      simp only [List.length_append, List.length_cons, List.length_nil]
      omega
    refine ⟨hp ▸ h.pending, ?_⟩
    rw [hp]
    exact h.room
  | resume hr => exact roomy_settled hr h

end

theorem roomy_start (M : Nat) : Roomy M LogMirror.start := by
  constructor
  · exact Nat.zero_le M
  · show 0 + BUFFER_SIZE * 0 < BUFFER_SIZE * (M + 1)
    unfold BUFFER_SIZE
    omega

/-- **The buffer is bounded as long as the flushes are.** If no flush starts
while `M` others are pending, the buffer never holds `BUFFER_SIZE * (M + 1)`
entries. -/
theorem buffer_bounded (M : Nat) (es : List LogEvent) (w : LogWorld)
    (hk : Along logStep (fun w e => startsFlush w e → w.pendingFlushes < M) LogWorld.start es)
    (hr : run logStep LogWorld.start es = some w) : w.logs.length < BUFFER_SIZE * (M + 1) := by
  obtain ⟨m, hk', hm, rfl⟩ := logMirror_run hk hr
  have h : Roomy M m := by
    refine run_invariant (I := Roomy M) ?_ (roomy_start M) hk' hm
    intro m e m' hi ho hs
    exact roomy_step hi ho (logMirror_cases hs)
  have hroom := h.room
  show m.logs.length < _
  omega

theorem buffer_bounded_retry :
    ∃ w, run logStep LogWorld.start (retryRun false) = some w ∧ w.logs.length < BUFFER_SIZE * (1 + 1) :=
  ⟨_, rfl, buffer_bounded 1 (retryRun false) _ (by decide) rfl⟩

/-- `n` errors are logged before the store answers, and then all their batches are rejected. -/
def outageRun (n : Nat) : List LogEvent :=
  List.replicate n (.applicationLog (errorLog "down") 0) ++
    (List.replicate n (.exec 0 (.failure [] ⟨"timeout"⟩)) ++ List.replicate n (.resume 0))

section
variable {n k : Nat} {m : LogMirror}

structure Erring (n k : Nat) (m : LogMirror) : Prop where
  logs : m.logs = []
  replied : m.replied = []
  count : m.issued.length + k = n
  issued : ∀ p ∈ m.issued, p.logsToFlush ≠ []

structure Rejecting (n k : Nat) (m : LogMirror) : Prop where
  count : m.issued.length = k
  total : m.replied.length + k = n
  issued : ∀ p ∈ m.issued, p.logsToFlush ≠ []
  replied : ∀ a ∈ m.replied, a.1.logsToFlush ≠ [] ∧ a.2.isOk = false

structure Returning (n k : Nat) (m : LogMirror) : Prop where
  count : m.replied.length = k
  logs : n ≤ m.logs.length + k
  replied : ∀ a ∈ m.replied, a.1.logsToFlush ≠ [] ∧ a.2.isOk = false

theorem erring_step (h : Erring n (k + 1) m) :
    ∃ m', logMirrorStep m (.applicationLog (errorLog "down") 0) = some m' ∧ Erring n k m' := by
  refine ⟨_, rfl, ?_⟩
  rcases applicationLogMove_cases (errorLog "down") 0 m.service with ⟨-, hmove⟩ | ⟨hf, -⟩
  · rw [hmove]
    refine ⟨rfl, h.replied, ?_, ?_⟩
    · show (m.issued ++ [_]).length + k = n
      rw [List.length_append, List.length_singleton]
      have hc := h.count
      omega
    · intro p hp
      rcases List.mem_append.mp hp with hp | hp
      · exact h.issued p hp
      · rw [List.mem_singleton.mp hp]
        exact List.append_ne_nil_of_right_ne_nil _ (List.cons_ne_nil _ _)
  · exact absurd (.inr rfl) hf

theorem rejecting_step (h : Rejecting n (k + 1) m) :
    ∃ m', logMirrorStep m (.exec 0 (.failure [] ⟨"timeout"⟩)) = some m' ∧ Rejecting n k m' := by
  cases hi : m.issued with
  | nil =>
    have hc := h.count
    rw [hi] at hc
    cases hc
  | cons p l =>
    have hp : p.logsToFlush ≠ [] := h.issued p (by rw [hi]; exact List.mem_cons_self)
    have hi' : m.issued = [] ++ p :: l := hi
    refine ⟨_, logMirror_exec (.failure [] ⟨"timeout"⟩) hi', ?_, ?_, ?_, ?_⟩
    · have hc := h.count
      rw [hi, List.length_cons] at hc
      exact Nat.succ.inj hc
    · show (m.replied ++ [_]).length + k = n
      rw [List.length_append, List.length_singleton]
      have ht := h.total
      omega
    · intro q hq
      apply h.issued q
      rw [hi]
      exact List.mem_cons_of_mem _ hq
    · intro a ha
      rcases List.mem_append.mp ha with ha | ha
      · exact h.replied a ha
      · rw [List.mem_singleton.mp ha]
        exact ⟨hp, rfl⟩

theorem returning_step (h : Returning n (k + 1) m) :
    ∃ m', logMirrorStep m (.resume 0) = some m' ∧ Returning n k m' := by
  cases hr : m.replied with
  | nil =>
    have hc := h.count
    rw [hr] at hc
    cases hc
  | cons a l =>
    have ha := h.replied a (by rw [hr]; exact List.mem_cons_self)
    have hc : l.length = k := by
      have hc := h.count
      rw [hr, List.length_cons] at hc
      exact Nat.succ.inj hc
    obtain ⟨p, r⟩ := a
    cases r with
    | ok _ => cases ha.2
    | error error =>
      have hr' : m.replied = [] ++ ⟨p, .error error⟩ :: l := hr
      refine ⟨_, logMirror_resume hr', hc, ?_, ?_⟩
      · have hone : 0 < (p.logsToFlush.take BUFFER_SIZE).length := by
          rw [List.length_take]
          exact Nat.lt_min.mpr ⟨by decide, List.length_pos_of_ne_nil ha.1⟩
        have hl := h.logs
        show n ≤ (p.logsToFlush.take BUFFER_SIZE ++ m.logs).length + k
        rw [List.length_append]
        omega
      · intro b hb
        apply h.replied b
        rw [hr]
        exact List.mem_cons_of_mem _ hb

end

theorem outage_logs (n : Nat) : ∃ w, run logStep LogWorld.start (outageRun n) = some w ∧ n ≤ w.logs.length := by
  have h₀ : Erring n n LogMirror.start := by
    refine ⟨rfl, rfl, Nat.zero_add n, ?_⟩
    intro p hp
    cases hp
  obtain ⟨m₁, hr₁, h₁⟩ := run_replicate (I := Erring n) (fun k m h => erring_step h) n h₀
  have hq : Rejecting n n m₁ := by
    refine ⟨h₁.count, ?_, h₁.issued, ?_⟩
    · rw [h₁.replied]
      exact Nat.zero_add n
    · intro a ha
      rw [h₁.replied] at ha
      cases ha
  obtain ⟨m₂, hr₂, h₂⟩ := run_replicate (I := Rejecting n) (fun k m h => rejecting_step h) n hq
  have hb : Returning n n m₂ := ⟨h₂.total, Nat.le_add_left _ _, h₂.replied⟩
  obtain ⟨m₃, hr₃, h₃⟩ := run_replicate (I := Returning n) (fun k m h => returning_step h) n hb
  have hr : run logMirrorStep LogMirror.start (outageRun n) = some m₃ := by
    unfold outageRun
    exact run_append.mpr ⟨m₁, hr₁, run_append.mpr ⟨m₂, hr₂, hr₃⟩⟩
  refine ⟨m₃.world, ?_, h₃.logs⟩
  have hw := run_map step_logMirror LogMirror.start (outageRun n)
  rw [hr] at hw
  exact hw

/-- No number bounds the buffer in every run. -/
theorem buffer_unbounded :
    ¬ ∃ K, ∀ es w, run logStep LogWorld.start es = some w → w.logs.length ≤ K := by
  rintro ⟨K, hK⟩
  obtain ⟨w, hr, hl⟩ := outage_logs (K + 1)
  have hle := hK (outageRun (K + 1)) w hr
  omega

/-! ## How often a log call writes -/

/-- The calls of `insertMany` that `applicationLog` starts in this step. -/
def insertsBy (w : LogWorld) : LogEvent → Nat
  | .applicationLog data now => ((applicationLog data now).detached.run w.service).suspended.length
  | _ => 0

/-- The entries that a rejection reaching its flush puts back. -/
def reAddedBy (w : LogWorld) : LogEvent → Nat
  | .resume j =>
    match w.process.replied[j]? with
    | some t => if t.reply.isOk then 0 else (t.cmd.docs.take BUFFER_SIZE).length
    | none => 0
  | _ => 0

def inserts (es : List LogEvent) : Nat := gather logStep insertsBy LogWorld.start es

def reAdded (es : List LogEvent) : Nat := gather logStep reAddedBy LogWorld.start es

def noError : LogEvent → Bool
  | .applicationLog data _ => data.level ≠ .error
  | _ => true

section
variable {m m' : LogMirror}

theorem insertsBy_applicationLog (data : ApplicationLog) (now : Nat) :
    insertsBy m.world (.applicationLog data now) = (applicationLogMove data now m.service).suspended.length := by
  have h := congrArg List.length (applicationLogMove_names data now m.service).2.1
  unfold Process.threads at h
  rw [List.length_map, List.length_map] at h
  exact h

theorem reAddedBy_resume {l₁ l₂ : List Settled} {a : Settled} (hr : m.replied = l₁ ++ a :: l₂) :
    (m.resumed l₁ a l₂).logs.length = reAddedBy m.world (.resume l₁.length) + m.logs.length := by
  unfold reAddedBy
  simp only [logReplied_world hr]
  obtain ⟨p, r⟩ := a
  cases r with
  | ok _ => exact (Nat.zero_add _).symm
  | error error => exact List.length_append

/-- An insert started by `applicationLog` takes at least `BUFFER_SIZE` entries from the buffer. -/
theorem inserts_step {e : LogEvent} (ho : noError e = true) (hs : LogStepped m e m') :
    BUFFER_SIZE * insertsBy m.world e + m'.logs.length ≤
      m.logs.length + (acceptedBy m.world e).card + reAddedBy m.world e := by
  cases hs with
  | applicationLog data now =>
    rw [insertsBy_applicationLog]
    have hc : (acceptedBy m.world (.applicationLog data now)).card = 1 := Multiset.card_singleton _
    rw [hc]
    rcases applicationLogMove_cases data now m.service with ⟨hf, hmove⟩ | ⟨-, hmove⟩
    · rw [hmove]
      have hfull : m.logs.length + 1 ≥ BUFFER_SIZE := by
        rcases hf with hf | hf
        · exact hf
        · exact absurd hf (of_decide_eq_true ho)
      show BUFFER_SIZE * 1 + 0 ≤ _
      omega
    · rw [hmove]
      show BUFFER_SIZE * 0 + (m.logs ++ [_]).length ≤ _
      rw [List.length_append, List.length_singleton]
      omega
  | timer _ =>
    have hl : (m.turn (flushMove .timer m.service)).logs = [] := flushMove_logs _ _
    rw [hl]
    exact Nat.zero_le _
  | onModuleDestroy =>
    have hl : (m.turn (destroyMove m.service)).logs = [] := flushMove_logs _ _
    rw [hl]
    exact Nat.zero_le _
  | exec outcome hi =>
    show BUFFER_SIZE * 0 + m.logs.length ≤ m.logs.length + 0 + 0
    omega
  | resume hr =>
    rw [reAddedBy_resume hr]
    show BUFFER_SIZE * 0 + _ ≤ m.logs.length + 0 + _
    omega

end

/-- **Batching is amortised over what enters the buffer.** Without errors,
`applicationLog` starts at most one `insertMany` for each `BUFFER_SIZE` entries
accepted or put back by a rejected flush. -/
theorem inserts_amortised (es : List LogEvent) (w : LogWorld)
    (hk : Along logStep (fun _ e => noError e) LogWorld.start es) (hr : run logStep LogWorld.start es = some w) :
    inserts es ≤ ((accepted es).card + reAdded es) / BUFFER_SIZE := by
  obtain ⟨m, hk', hm, rfl⟩ := logMirror_run hk hr
  have h : BUFFER_SIZE * inserts es + m.logs.length ≤ (accepted es).card + reAdded es := by
    have hg := run_gather (f := fun m e => (insertsBy m.world e, acceptedBy m.world e, reAddedBy m.world e))
      (I := fun x m => BUFFER_SIZE * x.1 + m.logs.length ≤ x.2.1.card + x.2.2) ?_
      (x := 0) (Nat.le_refl 0) hk' hm
    · rw [zero_add, gather_prod, gather_prod, ← gather_map step_logMirror (g := insertsBy),
        ← gather_map step_logMirror (g := acceptedBy), ← gather_map step_logMirror (g := reAddedBy)] at hg
      exact hg
    · rintro ⟨n, a, b⟩ m e m' hi ho hs
      have hstep := inserts_step ho (logMirror_cases hs)
      simp only at hi
      show BUFFER_SIZE * (n + insertsBy m.world e) + m'.logs.length ≤
        (a + acceptedBy m.world e).card + (b + reAddedBy m.world e)
      rw [Multiset.card_add, Nat.mul_add]
      omega
  rw [Nat.le_div_iff_mul_le (by decide), Nat.mul_comm]
  omega

def infoLog (message : String) : ApplicationLog := ⟨.info, "user", none, none, "login", none, message, none⟩

/-- A full buffer is rejected and put back. -/
def filledRun : List LogEvent :=
  List.replicate BUFFER_SIZE (.applicationLog (infoLog "ok") 0) ++ [.exec 0 (.failure [] ⟨"timeout"⟩), .resume 0]

def refilledRun : List LogEvent := filledRun ++ [.applicationLog (infoLog "ok") 0]

theorem inserts_amortised_timer :
    ∃ w, run logStep LogWorld.start [.applicationLog (infoLog "ok") 0, .timer ⟨0, 5000⟩, .exec 0 (.failure [] ⟨"timeout"⟩),
        .resume 0] = some w ∧
      inserts [.applicationLog (infoLog "ok") 0, .timer ⟨0, 5000⟩, .exec 0 (.failure [] ⟨"timeout"⟩), .resume 0] ≤
        (1 + 1) / BUFFER_SIZE :=
  ⟨_, rfl, inserts_amortised [.applicationLog (infoLog "ok") 0, .timer ⟨0, 5000⟩, .exec 0 (.failure [] ⟨"timeout"⟩),
    .resume 0] _ (by decide) rfl⟩

/-- The batch put back fills the buffer again: 101 entries, and two inserts. -/
theorem refilled_inserts :
    (run logStep LogWorld.start refilledRun).isSome ∧
      Along logStep (fun _ e => noError e) LogWorld.start refilledRun ∧
      (accepted refilledRun).card / BUFFER_SIZE < inserts refilledRun := by
  decide +kernel

end StayApi
