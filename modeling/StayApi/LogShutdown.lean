import StayApi.LogAccounting

/-!
# Shutdown

`onModuleDestroy` stops the timer and awaits the flush it starts. A flush that
was pending already and fails re-adds its batch to a buffer nobody will flush.
-/

namespace StayApi

open LoggingService

/-- After `onModuleDestroy`: no further call of the service. -/
def noFurtherCall : LogEvent → Bool
  | .applicationLog _ _ => false
  | .onModuleDestroy => false
  | _ => true

def ownInsertFails (w : LogWorld) : LogEvent → Bool
  | .exec i (.failure _ _) => (w.process.issued[i]?).any fun t => t.origin = .onModuleDestroy
  | _ => false

def earlierInsertFails (w : LogWorld) : LogEvent → Bool
  | .exec i (.failure _ _) => !(w.process.issued[i]?).any fun t => t.origin = .onModuleDestroy
  | _ => false

def succeeds : LogEvent → Bool
  | .exec _ (.failure _ _) => false
  | _ => true

theorem succeeds_iff (w : LogWorld) (e : LogEvent) :
    succeeds e = true ↔ ownInsertFails w e = false ∧ earlierInsertFails w e = false := by
  cases e with
  | exec i outcome =>
    cases outcome with
    | success => simp [succeeds, ownInsertFails, earlierInsertFails]
    | failure written error =>
      simp only [succeeds, ownInsertFails, earlierInsertFails, Bool.not_eq_false']
      cases (w.process.issued[i]?).any fun t => t.origin = .onModuleDestroy <;> simp
  | _ => simp [succeeds, ownInsertFails, earlierInsertFails]

/-! ## On the mirror -/

structure Flushable (m : LogMirror) : Prop where
  issued : ∀ p ∈ m.issued, p.logsToFlush ≠ []
  replied : ∀ a ∈ m.replied, a.1.logsToFlush ≠ []
  timer : ∀ t ∈ m.service.intervals, m.service.logBuffer.flushTimer = some t

section
variable {m m' : LogMirror}

theorem flushMove_suspended (l : LogOrigin) (s : LoggingService) :
    ∀ p ∈ (flushMove l s).suspended, p.logsToFlush ≠ [] := by
  intro p hp
  unfold flushMove at hp
  by_cases h : s.logBuffer.logs = []
  · rw [if_pos h] at hp
    cases hp
  · rw [if_neg h] at hp
    rw [List.mem_singleton.mp hp]
    exact h

theorem flushMove_timer (l : LogOrigin) (s : LoggingService) :
    (flushMove l s).state.intervals = s.intervals ∧
      (flushMove l s).state.logBuffer.flushTimer = s.logBuffer.flushTimer := by
  unfold flushMove
  split <;> exact ⟨rfl, rfl⟩

theorem flushable_turn {t : LogMove} (h : Flushable m) (hs : ∀ p ∈ t.suspended, p.logsToFlush ≠ [])
    (ht : ∀ u ∈ t.state.intervals, t.state.logBuffer.flushTimer = some u) : Flushable (m.turn t) := by
  refine ⟨fun p hp => ?_, h.replied, ht⟩
  rcases List.mem_append.mp hp with hp | hp
  · exact h.issued p hp
  · exact hs p hp

theorem stopFlushTimer_intervals {s : LoggingService}
    (h : ∀ t ∈ s.intervals, s.logBuffer.flushTimer = some t) : (stopFlushTimer s).intervals = [] := by
  unfold stopFlushTimer
  cases ht : s.logBuffer.flushTimer with
  | none =>
    refine List.eq_nil_iff_forall_not_mem.mpr fun t hm => ?_
    have := h t hm
    rw [ht] at this
    cases this
  | some t =>
    refine List.filter_eq_nil_iff.mpr fun u hu => ?_
    have := h u hu
    rw [ht] at this
    simpa using (Option.some.inj this).symm

theorem destroyMove_intervals {s : LoggingService} (h : ∀ t ∈ s.intervals, s.logBuffer.flushTimer = some t) :
    (destroyMove s).state.intervals = [] :=
  (flushMove_timer _ _).1.trans (stopFlushTimer_intervals h)

theorem flushable_step {e : LogEvent} (h : Flushable m) (hs : LogStepped m e m') : Flushable m' := by
  cases hs with
  | applicationLog data now =>
    have hp : (push data now m.service).intervals = m.service.intervals := rfl
    have hf : (push data now m.service).logBuffer.flushTimer = m.service.logBuffer.flushTimer := rfl
    unfold applicationLogMove
    dsimp only
    split
    · refine flushable_turn h (flushMove_suspended _ _) ?_
      rw [(flushMove_timer _ _).1, (flushMove_timer _ _).2, hp, hf]
      exact h.timer
    · exact flushable_turn h (fun p hp => by cases hp) h.timer
  | timer _ =>
    refine flushable_turn h (flushMove_suspended _ _) ?_
    rw [(flushMove_timer _ _).1, (flushMove_timer _ _).2]
    exact h.timer
  | onModuleDestroy =>
    refine flushable_turn h (flushMove_suspended _ _) ?_
    rw [destroyMove_intervals h.timer]
    intro t ht
    cases ht
  | @exec l₁ l₂ p outcome hi =>
    have hp : ∀ q, q ∈ l₁ ++ p :: l₂ → q.logsToFlush ≠ [] := fun q hq => h.issued q (hi ▸ hq)
    refine ⟨fun q hq => hp q ?_, fun a ha => ?_, h.timer⟩
    · exact mem_unskip hq
    · rcases List.mem_append.mp ha with ha | ha
      · exact h.replied a ha
      · rw [List.mem_singleton.mp ha]
        exact hp p (List.mem_append_right _ List.mem_cons_self)
  | @resume l₁ l₂ a hr =>
    have ha : ∀ b, b ∈ l₁ ++ a :: l₂ → b.1.logsToFlush ≠ [] := fun b hb => h.replied b (hr ▸ hb)
    have hn : Flushable { m with flushing := { m.flushing with replied := l₁ ++ l₂ } } := by
      exact ⟨h.issued, fun b hb => ha b (mem_unskip hb), h.timer⟩
    obtain ⟨p, r⟩ := a
    cases r with
    | ok _ => exact flushable_turn hn (fun q hq => by cases hq) h.timer
    | error error => exact flushable_turn hn (fun q hq => by cases hq) h.timer

theorem flushable_start : Flushable LogMirror.start := by
  refine ⟨fun p hp => (List.not_mem_nil hp).elim, fun a ha => (List.not_mem_nil ha).elim, fun t ht => ?_⟩
  rw [List.mem_singleton.mp ht]
  rfl

end

def Resolved (l : List Settled) : Prop := ∀ a ∈ l, a.2.isOk = true

theorem resolved_append {l₁ l₂ : List Settled} : Resolved (l₁ ++ l₂) ↔ Resolved l₁ ∧ Resolved l₂ :=
  List.forall_mem_append

theorem resolved_ok {p : Flush} {l : List Settled} : Resolved (⟨p, .ok ()⟩ :: l) ↔ Resolved l :=
  List.forall_mem_cons.trans ⟨fun h => h.2, fun h => ⟨rfl, h⟩⟩

theorem not_resolved_error {p : Flush} {error : JsError} {l : List Settled} :
    ¬ Resolved (⟨p, .error error⟩ :: l) := by
  intro h
  have he := h ⟨p, .error error⟩ List.mem_cons_self
  cases he

/-- With the timer stopped, the buffer ends up empty just if it is empty, no
rejection is on its way and none happens. -/
theorem settled_empty {es : List LogEvent} {m m' : LogMirror} (h : Flushable m)
    (ht : m.service.intervals = []) (hq : Along logMirrorStep (fun _ e => noFurtherCall e) m es)
    (hr : run logMirrorStep m es = some m') (hi : m'.replied = []) :
    m'.logs = [] ↔ m.logs = [] ∧ Resolved m.replied ∧
      Along logMirrorStep (fun _ e => succeeds e) m es := by
  induction es generalizing m with
  | nil =>
    obtain rfl : m = m' := by simpa [run] using hr
    rw [hi]
    exact ⟨fun h => ⟨h, List.forall_mem_nil _, trivial⟩, fun h => h.1⟩
  | cons e es ih =>
    obtain ⟨m₁, hs, hr⟩ := run_cons hr
    have hs' := logMirror_cases hs
    have ih₁ := ih (flushable_step h hs')
    have hq₁ := hq.2 m₁ hs
    rw [along_cons hs]
    cases hs' with
    | applicationLog data now => cases hq.1
    | onModuleDestroy => cases hq.1
    | timer hm => rw [ht] at hm; cases hm
    | @exec l₁ l₂ p outcome hi' =>
      rw [ih₁ ht hq₁ hr]
      cases outcome with
      | success =>
        have hrep : Resolved (m.replied ++ [⟨p, .ok ()⟩]) ↔ Resolved m.replied := by
          rw [resolved_append, resolved_ok]
          exact ⟨fun h => h.1, fun h => ⟨h, List.forall_mem_nil _⟩⟩
        exact and_congr Iff.rfl (and_congr hrep ⟨fun h => ⟨rfl, h⟩, fun h => h.2⟩)
      | failure written error =>
        have hrep : ¬ Resolved (m.replied ++ [⟨p, .error error⟩]) := by
          rw [resolved_append]
          exact fun h => not_resolved_error h.2
        exact ⟨fun h => absurd h.2.1 hrep, fun h => Bool.noConfusion h.2.2.1⟩
    | @resume l₁ l₂ a hr' =>
      rw [ih₁ ?_ hq₁ hr, hr']
      · obtain ⟨p, r⟩ := a
        cases r with
        | ok _ =>
          have hrep : Resolved (l₁ ++ ⟨p, .ok ()⟩ :: l₂) ↔ Resolved (l₁ ++ l₂) := by
            rw [resolved_append, resolved_append, resolved_ok]
          exact and_congr Iff.rfl (and_congr hrep.symm ⟨fun h => ⟨rfl, h⟩, fun h => h.2⟩)
        | error error =>
          have hp : p.logsToFlush ≠ [] := h.replied ⟨p, .error error⟩ (by rw [hr']; simp)
          have hlogs : (m.resumed l₁ ⟨p, .error error⟩ l₂).logs ≠ [] := by
            show p.logsToFlush.take BUFFER_SIZE ++ m.logs ≠ []
            simp [hp, BUFFER_SIZE]
          have hrep : ¬ Resolved (l₁ ++ ⟨p, .error error⟩ :: l₂) := by
            rw [resolved_append]
            exact fun h => not_resolved_error h.2
          exact ⟨fun h => absurd h.1 hlogs, fun h => absurd h.2.1 hrep⟩
      · obtain ⟨p, r⟩ := a
        cases r <;> exact ht

theorem resolved_world (m : LogMirror) :
    (∀ t ∈ m.world.process.replied, t.reply.isOk = true) ↔ Resolved m.replied :=
  List.forall_mem_map

/-- **When shutdown leaves nothing behind.** After `onModuleDestroy`, whose own
`insertMany` succeeds, and once everything has settled, the buffer is empty
exactly if no `insertMany` pending at the call has failed or fails. -/
theorem shutdown_empty_iff (es es' : List LogEvent) (w w' : LogWorld)
    (h : run logStep LogWorld.start (es ++ [.onModuleDestroy]) = some w)
    (h' : run logStep w es' = some w') (hq : Along logStep (fun _ e => noFurtherCall e) w es')
    (hown : Along logStep (fun w e => ownInsertFails w e = false) w es') (hi : w'.process.idle) :
    w'.logs = [] ↔ (∀ t ∈ w.process.replied, t.reply.isOk) ∧
      Along logStep (fun w e => earlierInsertFails w e = false) w es' := by
  obtain ⟨m, hm, rfl⟩ := run_lift (t := LogMirror.start) step_logMirror h
  obtain ⟨m', hm', rfl⟩ := run_lift (t := m) step_logMirror h'
  obtain ⟨m₀, h₀, hd⟩ := run_append.mp hm
  have hall : Along logMirrorStep (fun _ _ => True) LogMirror.start es := along_true _ _
  have hf₀ : Flushable m₀ :=
    run_invariant (fun m e m' hm _ he => flushable_step hm (logMirror_cases he)) flushable_start hall h₀
  obtain ⟨m₁, hs, he⟩ := run_cons hd
  obtain rfl : m₁ = m := by simpa [run] using he
  obtain rfl : m₀.turn (destroyMove m₀.service) = m₁ := Option.some.inj hs
  have hf : Flushable (m₀.turn (destroyMove m₀.service)) := flushable_step hf₀ .onModuleDestroy
  have ht : (m₀.turn (destroyMove m₀.service)).service.intervals = [] := destroyMove_intervals hf₀.timer
  have hl : (m₀.turn (destroyMove m₀.service)).logs = [] := flushMove_logs _ _
  have hm'r : m'.replied = [] := List.map_eq_nil_iff.mp hi.2
  have hq' := (along_map step_logMirror).mp hq
  have hown' := (along_map step_logMirror).mp hown
  have hiff := settled_empty hf ht hq' hm' hm'r
  have hsucc : Along logMirrorStep (fun _ e => succeeds e) (m₀.turn (destroyMove m₀.service)) es' ↔
      Along logMirrorStep (fun m e => earlierInsertFails m.world e = false) (m₀.turn (destroyMove m₀.service)) es' := by
    constructor
    · intro hs'
      exact (along_and.mp (along_mono (fun m e he => (succeeds_iff m.world e).mp he) hs')).2
    · intro hs'
      exact along_mono (fun m e he => (succeeds_iff m.world e).mpr he) (along_and.mpr ⟨hown', hs'⟩)
  show m'.logs = [] ↔ _
  rw [hiff, resolved_world, along_map step_logMirror, ← hsucc]
  exact ⟨fun h => h.2, fun h => ⟨hl, h⟩⟩

def pendingRun : List LogEvent := [.applicationLog (errorLog "first") 0]

theorem shutdown_empty_iff_success :
    ∃ w w', run logStep LogWorld.start (pendingRun ++ [.onModuleDestroy]) = some w ∧
      run logStep w [.exec 0 .success, .resume 0] = some w' ∧ w'.logs = [] :=
  ⟨_, _, rfl, rfl, (shutdown_empty_iff pendingRun [.exec 0 .success, .resume 0] _ _ rfl rfl (by decide) (by decide)
    ⟨rfl, rfl⟩).mpr ⟨by decide, by decide⟩⟩

/-- A flush that fails after shutdown leaves its batch in the buffer, with nothing pending. -/
theorem shutdown_strands :
    ∃ w w', run logStep LogWorld.start (pendingRun ++ [.onModuleDestroy]) = some w ∧
      run logStep w [.exec 0 (.failure [false] ⟨"timeout"⟩), .resume 0] = some w' ∧
      Along logStep (fun _ e => noFurtherCall e) w [.exec 0 (.failure [false] ⟨"timeout"⟩), .resume 0] ∧
      Along logStep (fun w e => ownInsertFails w e = false) w [.exec 0 (.failure [false] ⟨"timeout"⟩), .resume 0] ∧
      w'.process.idle ∧ w'.logs ≠ [] :=
  ⟨_, _, rfl, rfl, by decide, by decide, ⟨rfl, rfl⟩, List.cons_ne_nil _ _⟩

end StayApi
