import StayApi.LogBounds

/-!
# The order of the buffer

`unshift` puts a rejected batch in front of whatever the buffer holds by then.
That keeps the order in which the entries were accepted just if nothing in the
buffer is older, which flushes that overlap do not see to.
-/

namespace StayApi

open LoggingService

/-- In the order in which `applicationLog` accepted them. -/
def Ordered (logs : List LogEntry) : Prop := logs.Pairwise fun a b => a.ref < b.ref

/-- A rejection reaches its flush only if what it puts back is older than the whole buffer. -/
def putsBackOldest (w : LogWorld) : LogEvent → Bool
  | .resume j =>
    match w.process.replied[j]? with
    | some t => t.reply.isOk || (t.cmd.docs.take BUFFER_SIZE).all fun a => w.logs.all fun b => a.ref < b.ref
    | none => true
  | _ => true

def OrderedBelow (n : Nat) (logs : List LogEntry) : Prop := Ordered logs ∧ ∀ a ∈ logs, a.ref < n

section
variable {n k : Nat} {l l₁ l₂ : List LogEntry}

theorem orderedBelow_nil : OrderedBelow n [] := by
  constructor
  · exact List.Pairwise.nil
  · intro a ha
    cases ha

theorem orderedBelow_le (h : OrderedBelow n l) (hn : n ≤ k) : OrderedBelow k l := by
  refine ⟨h.1, ?_⟩
  intro a ha
  have hlt := h.2 a ha
  omega

theorem orderedBelow_push (h : OrderedBelow n l) (data : ApplicationLog) (now : Nat) :
    OrderedBelow (n + 1) (l ++ [logEntry n data now]) := by
  constructor
  · apply List.pairwise_append.mpr
    refine ⟨h.1, List.pairwise_singleton _ _, ?_⟩
    intro a ha b hb
    rw [List.mem_singleton.mp hb]
    exact h.2 a ha
  · intro a ha
    rcases List.mem_append.mp ha with ha | ha
    · have hlt := h.2 a ha
      omega
    · rw [List.mem_singleton.mp ha]
      exact Nat.lt_succ_self n

theorem orderedBelow_append (h₁ : OrderedBelow n l₁) (h₂ : OrderedBelow n l₂)
    (h : ∀ a ∈ l₁, ∀ b ∈ l₂, a.ref < b.ref) : OrderedBelow n (l₁ ++ l₂) := by
  constructor
  · exact List.pairwise_append.mpr ⟨h₁.1, h₂.1, h⟩
  · intro a ha
    rcases List.mem_append.mp ha with ha | ha
    · exact h₁.2 a ha
    · exact h₂.2 a ha

theorem orderedBelow_sublist (h : OrderedBelow n l₂) (hs : l₁.Sublist l₂) : OrderedBelow n l₁ := by
  constructor
  · exact h.1.sublist hs
  · intro a ha
    exact h.2 a (hs.subset ha)

end

/-! ## The invariant -/

structure InOrder (m : LogMirror) : Prop where
  logs : OrderedBelow m.service.built m.logs
  issued : ∀ p ∈ m.issued, OrderedBelow m.service.built p.logsToFlush
  replied : ∀ a ∈ m.replied, OrderedBelow m.service.built a.1.logsToFlush

section
variable {m m' : LogMirror} {l₁ l₂ : List Settled}

theorem putsBackOldest_resume {a : Settled} (hr : m.replied = l₁ ++ a :: l₂) :
    putsBackOldest m.world (.resume l₁.length) = true ↔
      a.2.isOk = true ∨ ∀ x ∈ a.1.logsToFlush.take BUFFER_SIZE, ∀ y ∈ m.logs, x.ref < y.ref := by
  unfold putsBackOldest
  simp only [logReplied_world hr]
  show (a.2.isOk || (a.1.logsToFlush.take BUFFER_SIZE).all fun x => m.logs.all fun y => x.ref < y.ref) = true ↔ _
  simp

theorem inOrder_turn {t : LogMove} (h : InOrder m) (hb : m.service.built ≤ t.state.built)
    (hl : OrderedBelow t.state.built t.state.logBuffer.logs)
    (hs : ∀ p ∈ t.suspended, OrderedBelow t.state.built p.logsToFlush) : InOrder (m.turn t) := by
  refine ⟨hl, ?_, fun a ha => orderedBelow_le (h.replied a ha) hb⟩
  intro p hp
  rcases List.mem_append.mp hp with hp | hp
  · exact orderedBelow_le (h.issued p hp) hb
  · exact hs p hp

theorem inOrder_flush (h : InOrder m) (l : LogOrigin) {s : LoggingService} (hb : s.built = m.service.built)
    (hl : s.logBuffer.logs = m.logs) : InOrder (m.turn (flushMove l s)) := by
  rcases flushMove_cases l s with ⟨-, hmove⟩ | ⟨-, hmove⟩
  · rw [hmove]
    apply inOrder_turn h
    · exact Nat.le_of_eq hb.symm
    · show OrderedBelow s.built s.logBuffer.logs
      rw [hb, hl]
      exact h.logs
    · intro p hp
      cases hp
  · rw [hmove]
    apply inOrder_turn h
    · exact Nat.le_of_eq hb.symm
    · exact orderedBelow_nil
    · intro p hp
      rw [List.mem_singleton.mp hp]
      show OrderedBelow s.built s.logBuffer.logs
      rw [hb, hl]
      exact h.logs

theorem inOrder_applicationLog (h : InOrder m) (data : ApplicationLog) (now : Nat) :
    InOrder (m.turn (applicationLogMove data now m.service)) := by
  have hpush := orderedBelow_push h.logs data now
  rcases applicationLogMove_cases data now m.service with ⟨-, hmove⟩ | ⟨-, hmove⟩
  · rw [hmove]
    apply inOrder_turn h
    · exact Nat.le_succ _
    · exact orderedBelow_nil
    · intro p hp
      rw [List.mem_singleton.mp hp]
      exact hpush
  · rw [hmove]
    apply inOrder_turn h
    · exact Nat.le_succ _
    · exact hpush
    · intro p hp
      cases hp

theorem inOrder_step {e : LogEvent} (h : InOrder m) (ho : putsBackOldest m.world e = true)
    (hs : LogStepped m e m') : InOrder m' := by
  cases hs with
  | applicationLog data now => exact inOrder_applicationLog h data now
  | timer _ => exact inOrder_flush h .timer rfl rfl
  | onModuleDestroy =>
    apply inOrder_flush h .onModuleDestroy
    · exact stopFlushTimer_built m.service
    · exact congrArg LogBuffer.logs (stopFlushTimer_logBuffer m.service)
  | @exec l₁ l₂ p outcome hi =>
    have hp : OrderedBelow m.service.built p.logsToFlush := h.issued p (by rw [hi]; simp)
    refine ⟨h.logs, fun q hq => h.issued q (hi ▸ mem_unskip hq), ?_⟩
    intro a ha
    rcases List.mem_append.mp ha with ha | ha
    · exact h.replied a ha
    · rw [List.mem_singleton.mp ha]
      exact hp
  | @resume l₁ l₂ a hr =>
    have hrest : ∀ b ∈ l₁ ++ l₂, OrderedBelow m.service.built b.1.logsToFlush :=
      fun b hb => h.replied b (hr ▸ mem_unskip hb)
    have hn : InOrder { m with flushing := { m.flushing with replied := l₁ ++ l₂ } } := ⟨h.logs, h.issued, hrest⟩
    have ha : OrderedBelow m.service.built a.1.logsToFlush := h.replied a (by rw [hr]; simp)
    obtain ⟨p, r⟩ := a
    cases r with
    | ok _ =>
      apply inOrder_turn hn (Nat.le_refl _)
      · exact h.logs
      · intro q hq
        cases hq
    | error error =>
      apply inOrder_turn hn (Nat.le_refl _)
      · apply orderedBelow_append (orderedBelow_sublist ha (List.take_sublist BUFFER_SIZE _)) h.logs
        rcases (putsBackOldest_resume hr).mp ho with ho | ho
        · cases ho
        · exact ho
      · intro q hq
        cases hq

/-- An ordered buffer after the rejection was put together from two in order. -/
theorem putsBackOldest_of_ordered {e : LogEvent} (h : ∀ m', logMirrorStep m e = some m' → Ordered m'.logs) :
    putsBackOldest m.world e = true := by
  cases e with
  | resume j =>
    cases hj : m.replied[j]? with
    | none =>
      have hw : m.world.process.replied[j]? = none := by
        show (m.replied.map fun a => (⟨a.1.thread, a.2⟩ : Replied ..))[j]? = none
        rw [List.getElem?_map, hj]
        rfl
      unfold putsBackOldest
      simp only [hw]
    | some a =>
      obtain ⟨l₁, l₂, hr, rfl, -⟩ := Process.eraseIdx_split hj
      have hl := h _ (logMirror_resume hr)
      apply (putsBackOldest_resume hr).mpr
      obtain ⟨p, r⟩ := a
      cases r with
      | ok _ => exact .inl rfl
      | error error =>
        right
        have happend : Ordered (p.logsToFlush.take BUFFER_SIZE ++ m.logs) := hl
        exact (List.pairwise_append.mp happend).2.2
  | _ => rfl

end

theorem inOrder_start : InOrder LogMirror.start := by
  refine ⟨orderedBelow_nil, ?_, ?_⟩
  · intro p hp
    cases hp
  · intro a ha
    cases ha

/-- **When the buffer keeps the order of acceptance.** It is in order in every
state of a run exactly if every rejection that reaches its flush puts back
entries older than all the buffer holds. -/
theorem buffer_ordered_iff (es : List LogEvent) (w : LogWorld) (hr : run logStep LogWorld.start es = some w) :
    (Along logStep (fun w _ => Ordered w.logs) LogWorld.start es ∧ Ordered w.logs) ↔
      Along logStep (fun w e => putsBackOldest w e) LogWorld.start es := by
  obtain ⟨m, hm, rfl⟩ := run_lift (t := LogMirror.start) step_logMirror hr
  have hmap : Along logStep (fun w _ => Ordered w.logs) LogWorld.start es ↔
      Along logMirrorStep (fun m _ => Ordered m.logs) LogMirror.start es :=
    along_map (t := LogMirror.start) step_logMirror
  have hok : Along logStep (fun w e => putsBackOldest w e) LogWorld.start es ↔
      Along logMirrorStep (fun m e => putsBackOldest m.world e) LogMirror.start es :=
    along_map (t := LogMirror.start) step_logMirror
  rw [hmap, hok]
  constructor
  · intro h
    have hnext := ((along_next (P := fun m => Ordered m.logs) hm).mp h).2
    exact along_mono (fun m e he => putsBackOldest_of_ordered he) hnext
  · intro h
    have hstep : ∀ m e m', InOrder m → putsBackOldest m.world e = true → logMirrorStep m e = some m' → InOrder m' :=
      fun m e m' hi ho hs => inOrder_step hi ho (logMirror_cases hs)
    constructor
    · exact along_mono (fun m e he => he.1.logs.1) (along_invariant hstep inOrder_start h)
    · exact (run_invariant hstep inOrder_start h hm).logs.1

theorem buffer_ordered_retry :
    ∃ w, run logStep LogWorld.start (retryRun false) = some w ∧
      (Along logStep (fun w _ => Ordered w.logs) LogWorld.start (retryRun false) ∧ Ordered w.logs) :=
  ⟨_, rfl, (buffer_ordered_iff (retryRun false) _ rfl).mpr (by decide)⟩

/-- Two flushes overlap, and the older of the two is rejected first. -/
def crossedRun : List LogEvent :=
  [.applicationLog (errorLog "first") 0, .applicationLog (errorLog "second") 0,
    .exec 0 (.failure [] ⟨"timeout"⟩), .resume 0, .exec 0 (.failure [] ⟨"timeout"⟩), .resume 0]

theorem crossed_disordered : ∃ w, run logStep LogWorld.start crossedRun = some w ∧ ¬ Ordered w.logs := by
  refine ⟨_, rfl, ?_⟩
  intro h
  have hlt := (List.pairwise_cons.mp h).1 _ List.mem_cons_self
  exact absurd hlt (by decide)

/-! ## One flush at a time -/

namespace LogMirror

def inFlight (m : LogMirror) : List LogEntry :=
  (m.issued.map Flush.logsToFlush).flatten ++ (m.replied.map fun a => a.1.logsToFlush).flatten

/-- The pending batch, if there is one, and then the buffer. -/
def queue (m : LogMirror) : List LogEntry := m.inFlight ++ m.logs

end LogMirror

section
variable {m m' : LogMirror}

theorem inFlight_idle (h : m.pendingFlushes = 0) : m.issued = [] ∧ m.replied = [] := by
  unfold LogMirror.pendingFlushes at h
  exact ⟨List.length_eq_zero_iff.mp (by omega), List.length_eq_zero_iff.mp (by omega)⟩

theorem inFlight_issued {l₁ l₂ : List Flush} {p : Flush} (h : m.pendingFlushes ≤ 1) (hi : m.issued = l₁ ++ p :: l₂) :
    l₁ = [] ∧ l₂ = [] ∧ m.replied = [] := by
  unfold LogMirror.pendingFlushes at h
  rw [hi, List.length_append, List.length_cons] at h
  exact ⟨List.length_eq_zero_iff.mp (by omega), List.length_eq_zero_iff.mp (by omega),
    List.length_eq_zero_iff.mp (by omega)⟩

theorem inFlight_replied {l₁ l₂ : List Settled} {a : Settled} (h : m.pendingFlushes ≤ 1)
    (hr : m.replied = l₁ ++ a :: l₂) : l₁ = [] ∧ l₂ = [] ∧ m.issued = [] := by
  unfold LogMirror.pendingFlushes at h
  rw [hr, List.length_append, List.length_cons] at h
  exact ⟨List.length_eq_zero_iff.mp (by omega), List.length_eq_zero_iff.mp (by omega),
    List.length_eq_zero_iff.mp (by omega)⟩

theorem queue_still {t : LogMove} (ht : t.suspended = []) :
    (m.turn t).queue = m.inFlight ++ t.state.logBuffer.logs := by
  unfold LogMirror.queue LogMirror.inFlight
  show (((m.issued ++ t.suspended).map Flush.logsToFlush).flatten ++
    (m.replied.map fun a => a.1.logsToFlush).flatten) ++ t.state.logBuffer.logs = _
  rw [ht, List.append_nil]

theorem queue_flush {n : Nat} (l : LogOrigin) {s : LoggingService} (h : OrderedBelow n (m.inFlight ++ s.logBuffer.logs))
    (hi : s.logBuffer.logs ≠ [] → m.pendingFlushes < 1) : OrderedBelow n (m.turn (flushMove l s)).queue := by
  rcases flushMove_cases l s with ⟨-, hmove⟩ | ⟨hne, hmove⟩
  · rw [hmove, queue_still rfl]
    exact h
  · rw [hmove]
    obtain ⟨hi₀, hr₀⟩ := inFlight_idle (Nat.lt_one_iff.mp (hi hne))
    unfold LogMirror.queue LogMirror.inFlight
    show OrderedBelow n ((((m.issued ++ ([⟨l, s.logBuffer.logs⟩] : List Flush)).map Flush.logsToFlush).flatten ++
      (m.replied.map fun a => a.1.logsToFlush).flatten) ++ [])
    unfold LogMirror.inFlight at h
    rw [hi₀, hr₀] at h ⊢
    simpa using h

theorem queue_exec {l₁ l₂ : List Flush} {p : Flush} {collection : List LogEntry} {r : Except JsError Unit}
    (hm : Roomy 1 m) (h : OrderedBelow m.service.built m.queue) (hi : m.issued = l₁ ++ p :: l₂) :
    OrderedBelow m.service.built (m.answered l₁ l₂ collection ⟨p, r⟩).queue := by
  obtain ⟨rfl, rfl, hr⟩ := inFlight_issued hm.pending hi
  unfold LogMirror.queue LogMirror.inFlight at h ⊢
  rw [hi, hr] at h
  show OrderedBelow m.service.built ((([].map Flush.logsToFlush).flatten ++
    ((m.replied ++ ([⟨p, r⟩] : List Settled)).map fun a => a.1.logsToFlush).flatten) ++ m.logs)
  rw [hr]
  simpa using h

theorem queue_resume {l₁ l₂ : List Settled} {a : Settled} (hm : Roomy 1 m)
    (h : OrderedBelow m.service.built m.queue) (hr : m.replied = l₁ ++ a :: l₂) :
    OrderedBelow (m.resumed l₁ a l₂).service.built (m.resumed l₁ a l₂).queue := by
  obtain ⟨rfl, rfl, hi⟩ := inFlight_replied hm.pending hr
  unfold LogMirror.queue LogMirror.inFlight at h ⊢
  rw [hi, hr] at h
  obtain ⟨p, r⟩ := a
  have hlogs : OrderedBelow m.service.built (p.logsToFlush ++ m.logs) := by simpa using h
  cases r with
  | ok _ =>
    show OrderedBelow m.service.built ((((m.issued ++ []).map Flush.logsToFlush).flatten ++ []) ++ m.logs)
    rw [hi]
    exact orderedBelow_sublist hlogs (List.sublist_append_right _ _)
  | error error =>
    show OrderedBelow m.service.built ((((m.issued ++ []).map Flush.logsToFlush).flatten ++ []) ++
      (p.logsToFlush.take BUFFER_SIZE ++ m.logs))
    rw [hi]
    exact orderedBelow_sublist hlogs ((List.take_sublist _ _).append_right _)

theorem queue_step {e : LogEvent} (hm : Roomy 1 m) (h : OrderedBelow m.service.built m.queue)
    (ho : startsFlush m.world e = true → m.world.pendingFlushes < 1) (hs : LogStepped m e m') :
    OrderedBelow m'.service.built m'.queue := by
  rw [pendingFlushes_world] at ho
  cases hs with
  | applicationLog data now =>
    have hb : (m.turn (applicationLogMove data now m.service)).service.built = m.service.built + 1 :=
      applicationLogMove_built data now m.service
    rw [hb]
    have hpush : OrderedBelow (m.service.built + 1) (m.inFlight ++ (push data now m.service).logBuffer.logs) := by
      have hp := orderedBelow_push h data now
      unfold LogMirror.queue at hp
      rw [List.append_assoc] at hp
      exact hp
    unfold applicationLogMove
    dsimp only
    split
    · rename_i hf
      apply queue_flush _ hpush
      intro _
      apply ho
      have hn : (push data now m.service).logBuffer.logs.length = m.world.logs.length + 1 := List.length_append
      rw [hn] at hf
      exact decide_eq_true hf
    · rw [queue_still rfl]
      exact hpush
  | timer _ =>
    have hb : (m.turn (flushMove .timer m.service)).service.built = m.service.built := flushMove_built _ _
    rw [hb]
    apply queue_flush .timer h
    intro hne
    exact ho (decide_eq_true hne)
  | onModuleDestroy =>
    have hl := stopFlushTimer_logBuffer m.service
    have hb : (m.turn (destroyMove m.service)).service.built = m.service.built :=
      (flushMove_built _ _).trans (stopFlushTimer_built _)
    rw [hb]
    apply queue_flush .onModuleDestroy
    · rw [hl]
      exact h
    · intro hne
      rw [hl] at hne
      exact ho (decide_eq_true hne)
  | exec _ hi => exact queue_exec hm h hi
  | resume hr => exact queue_resume hm h hr

end

/-- Flushes that never overlap keep the buffer in order, whatever fails. -/
theorem buffer_ordered (es : List LogEvent) (w : LogWorld)
    (hk : Along logStep (fun w e => startsFlush w e → w.pendingFlushes < 1) LogWorld.start es)
    (hr : run logStep LogWorld.start es = some w) : Ordered w.logs := by
  obtain ⟨m, hk', hm, rfl⟩ := logMirror_run hk hr
  have h : Roomy 1 m ∧ OrderedBelow m.service.built m.queue := by
    refine run_invariant (I := fun m => Roomy 1 m ∧ OrderedBelow m.service.built m.queue) ?_
      ⟨roomy_start 1, orderedBelow_nil⟩ hk' hm
    intro m e m' hi ho hs
    have hs' := logMirror_cases hs
    exact ⟨roomy_step hi.1 ho hs', queue_step hi.1 hi.2 ho hs'⟩
  exact h.2.1.sublist (List.sublist_append_right _ _)

end StayApi
