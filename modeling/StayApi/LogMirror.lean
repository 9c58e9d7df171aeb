import StayApi.LogSystem
import StayApi.Points

/-!
# The logging system over control points

`flushLogs` has one `await`. A pending flush is its batch and the call it
belongs to; `LogMirror` is the logging system with its threads so named.
-/

namespace StayApi

open LoggingService

structure Flush where
  origin : LogOrigin
  logsToFlush : List LogEntry

def flushCont (logsToFlush : List LogEntry) : Except JsError Unit → Proc LoggingService InsertMany Inserted JsError :=
  Async.settle (fun _ => .done) fun _ => .write (reAdd logsToFlush) .done

@[reducible] def Flush.thread (p : Flush) : Thread LogOrigin LoggingService InsertMany Inserted JsError :=
  ⟨p.origin, ⟨p.logsToFlush⟩, flushCont p.logsToFlush⟩

abbrev LogMove : Type := PointTurn Flush LoggingService JsError

def Flush.next (p : Flush) : Except JsError Unit → LoggingService → LogMove
  | .ok _, s => ⟨s, [], []⟩
  | .error _, s => ⟨reAdd p.logsToFlush s, [], []⟩

def flushPoints : Points Flush LogOrigin LoggingService InsertMany Inserted JsError :=
  ⟨Flush.thread, Flush.next⟩

def flushMove (l : LogOrigin) (s : LoggingService) : LogMove :=
  if s.logBuffer.logs = [] then ⟨s, [], []⟩ else ⟨setLogs [] s, [⟨l, s.logBuffer.logs⟩], []⟩

def applicationLogMove (data : ApplicationLog) (now : Nat) (s : LoggingService) : LogMove :=
  let pushed := push data now s
  if pushed.logBuffer.logs.length ≥ BUFFER_SIZE ∨ data.level = .error then
    flushMove (.applicationLog s.built) pushed
  else ⟨pushed, [], []⟩

def destroyMove (s : LoggingService) : LogMove := flushMove .onModuleDestroy (stopFlushTimer s)

theorem next_flush : flushPoints.Sound := by
  intro p r s
  cases r with
  | ok _ => exact ⟨rfl, rfl, rfl⟩
  | error e => exact ⟨rfl, rfl, rfl⟩

theorem flushMove_names (l : LogOrigin) (s : LoggingService) :
    flushPoints.Names l (flushMove l s) (flushLogs.detached.run s) := by
  unfold flushMove
  simp only [flushLogs, Async.detached, Async.bind_apply, Async.get_apply, Proc.run_read]
  by_cases h : s.logBuffer.logs = []
  · rw [if_pos h, if_pos (by rw [h]; rfl)]
    exact ⟨rfl, rfl, rfl⟩
  · rw [if_neg h, if_neg (by rwa [List.length_eq_zero_iff])]
    exact ⟨rfl, rfl, rfl⟩

theorem applicationLogMove_names (data : ApplicationLog) (now : Nat) (s : LoggingService) :
    flushPoints.Names (.applicationLog s.built) (applicationLogMove data now s)
      ((applicationLog data now).detached.run s) := by
  unfold applicationLogMove applicationLog
  simp only [Async.detached, Async.bind_apply, Async.modify_apply, Async.get_apply, Proc.run_write, Proc.run_read]
  by_cases h : (push data now s).logBuffer.logs.length ≥ BUFFER_SIZE ∨ data.level = .error
  · rw [if_pos h, if_pos h]
    exact flushMove_names (.applicationLog s.built) (push data now s)
  · rw [if_neg h, if_neg h]
    exact ⟨rfl, rfl, rfl⟩

theorem destroyMove_names (s : LoggingService) :
    flushPoints.Names .onModuleDestroy (destroyMove s) (onModuleDestroy.detached.run s) :=
  flushMove_names .onModuleDestroy (stopFlushTimer s)

theorem flushMove_logs (l : LogOrigin) (s : LoggingService) : (flushMove l s).state.logBuffer.logs = [] := by
  unfold flushMove
  split
  · assumption
  · rfl

theorem flushMove_cases (l : LogOrigin) (s : LoggingService) :
    (s.logBuffer.logs = [] ∧ flushMove l s = ⟨s, [], []⟩) ∨
      (s.logBuffer.logs ≠ [] ∧ flushMove l s = ⟨setLogs [] s, [⟨l, s.logBuffer.logs⟩], []⟩) := by
  unfold flushMove
  by_cases h : s.logBuffer.logs = []
  · exact .inl ⟨h, if_pos h⟩
  · exact .inr ⟨h, if_neg h⟩

/-- The buffer with the new entry in it is flushed, or kept. -/
theorem applicationLogMove_cases (data : ApplicationLog) (now : Nat) (s : LoggingService) :
    ((s.logBuffer.logs.length + 1 ≥ BUFFER_SIZE ∨ data.level = .error) ∧
      applicationLogMove data now s = ⟨setLogs [] (push data now s),
        [⟨.applicationLog s.built, s.logBuffer.logs ++ [logEntry s.built data now]⟩], []⟩) ∨
    (¬ (s.logBuffer.logs.length + 1 ≥ BUFFER_SIZE ∨ data.level = .error) ∧
      applicationLogMove data now s = ⟨push data now s, [], []⟩) := by
  have hl : (push data now s).logBuffer.logs = s.logBuffer.logs ++ [logEntry s.built data now] := rfl
  have hn : (push data now s).logBuffer.logs.length = s.logBuffer.logs.length + 1 := by
    rw [hl, List.length_append, List.length_singleton]
  unfold applicationLogMove
  simp only [hn]
  by_cases h : s.logBuffer.logs.length + 1 ≥ BUFFER_SIZE ∨ data.level = .error
  · refine .inl ⟨h, ?_⟩
    rw [if_pos h]
    rcases flushMove_cases (.applicationLog s.built) (push data now s) with ⟨he, -⟩ | ⟨-, hf⟩
    · rw [he] at hn
      cases hn
    · exact hf
  · exact .inr ⟨h, if_neg h⟩

/-! ## The mirror -/

abbrev Flushing : Type := PointProcess flushPoints

structure LogMirror where
  collection : List LogEntry
  flushing : Flushing

abbrev Settled : Type := Σ _ : Flush, Except JsError Unit

namespace LogMirror

def start : LogMirror := ⟨[], .start LoggingService.start⟩

def world (m : LogMirror) : LogWorld := ⟨m.collection, m.flushing.process⟩

def service (m : LogMirror) : LoggingService := m.flushing.state

def logs (m : LogMirror) : List LogEntry := m.service.logBuffer.logs

def issued (m : LogMirror) : List Flush := m.flushing.issued

def replied (m : LogMirror) : List Settled := m.flushing.replied

def turn (t : LogMove) (m : LogMirror) : LogMirror := { m with flushing := m.flushing.turn t }

def answered (m : LogMirror) (l₁ l₂ : List Flush) (collection : List LogEntry) (a : Settled) : LogMirror :=
  { collection := collection
    flushing := { m.flushing with issued := l₁ ++ l₂, replied := m.replied ++ [a] } }

def resumed (m : LogMirror) (l₁ : List Settled) (a : Settled) (l₂ : List Settled) : LogMirror :=
  { m with flushing := PointProcess.turn (a.1.next a.2 m.service) { m.flushing with replied := l₁ ++ l₂ } }

end LogMirror

def logMirrorStep (m : LogMirror) : LogEvent → Option LogMirror
  | .applicationLog data now => some (m.turn (applicationLogMove data now m.service))
  | .timer t => if t ∈ m.service.intervals then some (m.turn (flushMove .timer m.service)) else none
  | .onModuleDestroy => some (m.turn (destroyMove m.service))
  | .exec i outcome =>
    (m.flushing.answer (fun c d => some (insertMany outcome c d)) i m.collection).map fun (d, P) => ⟨d, P⟩
  | .resume j => (m.flushing.resume j).map fun P => { m with flushing := P }

theorem logWorld_turn {l : LogOrigin} {t : LogMove} {p : Logging} {m : LogMirror}
    (h : flushPoints.Names l t (p.detached.run m.service)) : m.world.call l p = (m.turn t).world := by
  simp only [LogWorld.call, LogMirror.world, LogMirror.turn]
  rw [PointProcess.process_call m.flushing h]

theorem step_logMirror (m : LogMirror) (e : LogEvent) :
    logStep m.world e = (logMirrorStep m e).map LogMirror.world := by
  cases e with
  | applicationLog data now =>
    have h := logWorld_turn (m := m) (applicationLogMove_names data now m.service)
    exact congrArg some h
  | timer t =>
    have h := logWorld_turn (m := m) (flushMove_names .timer m.service)
    simp only [logStep, logMirrorStep]
    rw [show m.world.service = m.service from rfl]
    by_cases ht : t ∈ m.service.intervals
    · rw [if_pos ht, if_pos ht, h]; rfl
    · rw [if_neg ht, if_neg ht]; rfl
  | onModuleDestroy =>
    have h := logWorld_turn (m := m) (destroyMove_names m.service)
    exact congrArg some h
  | exec i outcome =>
    simp only [logStep, logMirrorStep]
    rw [show m.world.process = m.flushing.process from rfl, PointProcess.process_answer, Option.map_map,
      Option.map_map]
    rfl
  | resume j =>
    simp only [logStep, logMirrorStep]
    rw [show m.world.process = m.flushing.process from rfl, PointProcess.process_resume next_flush, Option.map_map,
      Option.map_map]
    rfl

theorem logReplied_world {m : LogMirror} {l₁ l₂ : List Settled} {a : Settled} (hr : m.replied = l₁ ++ a :: l₂) :
    m.world.process.replied[l₁.length]? = some ⟨a.1.thread, a.2⟩ := by
  show (m.replied.map fun a => (⟨a.1.thread, a.2⟩ : Replied ..))[l₁.length]? = _
  rw [hr]
  simp

inductive LogStepped (m : LogMirror) : LogEvent → LogMirror → Prop
  | applicationLog (data : ApplicationLog) (now : Nat) :
    LogStepped m (.applicationLog data now) (m.turn (applicationLogMove data now m.service))
  | timer {t : Timeout} (ht : t ∈ m.service.intervals) :
    LogStepped m (.timer t) (m.turn (flushMove .timer m.service))
  | onModuleDestroy : LogStepped m .onModuleDestroy (m.turn (destroyMove m.service))
  | exec {l₁ l₂ : List Flush} {p : Flush} (outcome : InsertOutcome) (hi : m.issued = l₁ ++ p :: l₂) :
    LogStepped m (.exec l₁.length outcome)
      (m.answered l₁ l₂ (insertMany outcome ⟨p.logsToFlush⟩ m.collection).1
        ⟨p, (insertMany outcome ⟨p.logsToFlush⟩ m.collection).2⟩)
  | resume {l₁ l₂ : List Settled} {a : Settled} (hr : m.replied = l₁ ++ a :: l₂) :
    LogStepped m (.resume l₁.length) (m.resumed l₁ a l₂)

theorem logMirror_cases {m m' : LogMirror} {e : LogEvent} (h : logMirrorStep m e = some m') : LogStepped m e m' := by
  cases e with
  | applicationLog data now => cases h; exact .applicationLog data now
  | timer t =>
    simp only [logMirrorStep] at h
    by_cases ht : t ∈ m.service.intervals
    · rw [if_pos ht] at h; cases h; exact .timer ht
    · rw [if_neg ht] at h; cases h
  | onModuleDestroy => cases h; exact .onModuleDestroy
  | exec i outcome =>
    simp only [logMirrorStep] at h
    obtain ⟨⟨d, P⟩, hP, rfl⟩ := Option.map_eq_some_iff.mp h
    obtain ⟨l₁, p, l₂, r, hi, rfl, hs, rfl⟩ := PointProcess.answer_eq_some hP
    have hs' := Option.some.inj hs
    rw [Prod.ext_iff] at hs'
    obtain ⟨rfl, rfl⟩ := hs'
    exact .exec outcome hi
  | resume j =>
    simp only [logMirrorStep] at h
    obtain ⟨P, hP, rfl⟩ := Option.map_eq_some_iff.mp h
    obtain ⟨l₁, a, l₂, hr, rfl, rfl⟩ := PointProcess.resume_eq_some hP
    exact .resume hr

theorem logMirror_exec {m : LogMirror} {l₁ l₂ : List Flush} {p : Flush} (outcome : InsertOutcome)
    (hi : m.issued = l₁ ++ p :: l₂) :
    logMirrorStep m (.exec l₁.length outcome) =
      some (m.answered l₁ l₂ (insertMany outcome ⟨p.logsToFlush⟩ m.collection).1
        ⟨p, (insertMany outcome ⟨p.logsToFlush⟩ m.collection).2⟩) := by
  simp only [logMirrorStep]
  rw [PointProcess.answer_split hi rfl]
  rfl

theorem logMirror_resume {m : LogMirror} {l₁ l₂ : List Settled} {a : Settled} (hr : m.replied = l₁ ++ a :: l₂) :
    logMirrorStep m (.resume l₁.length) = some (m.resumed l₁ a l₂) := by
  simp only [logMirrorStep]
  rw [PointProcess.resume_split hr]
  rfl

theorem logMirror_run {ok : LogWorld → LogEvent → Prop} {es : List LogEvent} {w : LogWorld}
    (hk : Along logStep ok LogWorld.start es) (hr : run logStep LogWorld.start es = some w) :
    ∃ m, Along logMirrorStep (fun m e => ok m.world e) LogMirror.start es ∧
      run logMirrorStep LogMirror.start es = some m ∧ m.world = w := by
  obtain ⟨m, hm, hw⟩ := run_lift (t := LogMirror.start) step_logMirror hr
  exact ⟨m, (along_map (t := LogMirror.start) step_logMirror).mp hk, hm, hw⟩

end StayApi
