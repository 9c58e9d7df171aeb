import StayApi.Connections

/-!
# What the lifecycle hooks leave open

Both utilities hold one connection or queue in a field that `onModuleInit`
overwrites; they are holders. The provider factories call the hook, and Nest
calls it again on what they return.
-/

namespace StayApi

section
variable {w w' : MongoWorld}

theorem getModel_connection {name : String} {schema : Schema} {s : MongoUtil} {d d' : Mongoose} {m : Model}
    (h : s.getModel name schema d = .ok (m, d')) :
    s.connection = some m.connection ∧ d'.opened = d.opened ∧ d'.closed = d.closed := by
  unfold MongoUtil.getModel at h
  cases hc : s.connection with
  | none => rw [hc] at h; cases h
  | some c =>
    rw [hc] at h
    dsimp only at h
    cases hf : d.models.find? (fun m => m.connection = c ∧ m.name = name) with
    | none =>
      rw [hf] at h
      cases h
      exact ⟨rfl, rfl, rfl⟩
    | some m' =>
      rw [hf] at h
      cases h
      have hfound := List.find?_some hf
      have hm : m.connection = c ∧ m.name = name := of_decide_eq_true hfound
      exact ⟨congrArg some hm.1.symm, rfl, rfl⟩

theorem getModel_refused {name : String} {schema : Schema} {s : MongoUtil} {d : Mongoose} {error : JsError}
    (h : s.getModel name schema d = .error error) : s.connection = none := by
  unfold MongoUtil.getModel at h
  cases hc : s.connection with
  | none => rfl
  | some c =>
    rw [hc] at h
    dsimp only at h
    split at h
    · cases h
    · cases h

theorem drive_mongoDestroy (outcome : Outcome JsError) (s : MongoUtil) (d : Mongoose) :
    let finished := MongoUtil.onModuleDestroy.detached.drive serveMongo [outcome] s d
    finished.state = s ∧ finished.store.opened = d.opened ∧
      finished.store.closed = d.closed ++ if outcome.carriedOut then s.connection.toList else [] := by
  simp only [MongoUtil.onModuleDestroy, Async.detached, Async.bind_apply, Async.get_apply, Proc.drive]
  cases s.connection with
  | none => simp [Proc.drive]
  | some c =>
    rcases outcome with _ | ⟨carriedOut, error⟩
    · exact ⟨rfl, rfl, rfl⟩
    · cases carriedOut with
      | false => exact ⟨rfl, rfl, (List.append_nil _).symm⟩
      | true => exact ⟨rfl, rfl, rfl⟩

theorem drive_queueDestroy (outcome : Outcome JsError) (s : BullMqUtil) (d : BullMq) :
    let finished := BullMqUtil.onModuleDestroy.detached.drive serveQueue [outcome] s d
    finished.state = s ∧ finished.store.queues = d.queues ∧
      finished.store.closed = d.closed ++ if outcome.carriedOut then s.queue.toList else [] := by
  simp only [BullMqUtil.onModuleDestroy, Async.detached, Async.bind_apply, Async.get_apply, Proc.drive]
  cases s.queue with
  | none =>
    refine ⟨rfl, rfl, ?_⟩
    show d.closed = _
    simp
  | some q =>
    rcases outcome with _ | ⟨carriedOut, error⟩
    · exact ⟨rfl, rfl, rfl⟩
    · cases carriedOut with
      | false => exact ⟨rfl, rfl, (List.append_nil _).symm⟩
      | true => exact ⟨rfl, rfl, rfl⟩

theorem holder_mongo (w : MongoWorld) (e : MongoCall) :
    Holder.step w.holder e.use = (w.step e).map MongoWorld.holder := by
  cases e with
  | onModuleInit failure => cases failure <;> rfl
  | getModel name schema =>
    simp only [MongoWorld.step]
    cases hg : w.util.getModel name schema w.mongoose with
    | ok x =>
      obtain ⟨m, d⟩ := x
      obtain ⟨hc, ho, hcl⟩ := getModel_connection hg
      simp [Holder.step, Holder.use, MongoCall.use, MongoWorld.holder, hc, ho, hcl]
    | error error =>
      have hc := getModel_refused hg
      simp [Holder.step, Holder.use, MongoCall.use, MongoWorld.holder, hc]
  | onModuleDestroy outcome =>
    obtain ⟨hs, ho, hcl⟩ := drive_mongoDestroy outcome w.util w.mongoose
    cases hd : outcome.carriedOut <;>
      simp [Holder.step, Holder.use, MongoCall.use, MongoWorld.holder, MongoWorld.step, MongoWorld.hook, hs, ho, hcl, hd]

theorem holder_queue (w : QueueWorld) (e : QueueCall) :
    Holder.step w.holder e.use = (w.step e).map QueueWorld.holder := by
  cases e with
  | onModuleInit =>
    simp [Holder.step, Holder.use, QueueCall.use, QueueWorld.holder, QueueWorld.step, BullMqUtil.onModuleInit]
  | getQueue =>
    simp only [QueueWorld.step, BullMqUtil.getQueue]
    cases hq : w.util.queue <;> simp [Holder.step, Holder.use, QueueCall.use, QueueWorld.holder, hq]
  | onModuleDestroy outcome =>
    obtain ⟨hs, hq, hcl⟩ := drive_queueDestroy outcome w.util w.bullMq
    cases hd : outcome.carriedOut <;>
      simp [Holder.step, Holder.use, QueueCall.use, QueueWorld.holder, QueueWorld.step, hs, hq, hcl, hd]

end

section
variable {W C : Type} {step : W → C → Option W} {holder : W → Holder} {use : C → Holder.Use}

/-- What holds of a holder holds of what runs in step with one. -/
theorem held_iff (hstep : ∀ w e, Holder.step (holder w) (use e) = (step w e).map holder) {w₀ w w' : W}
    (h₀ : holder w₀ = Holder.start) {calls : List C} {close : C} (hclose : use close = .release)
    (hr : run step w₀ calls = some w) (hr' : step w close = some w') :
    (holder w').NoLeak ∧ (Along step (fun w _ => (holder w).Current) w₀ calls ∧ (holder w).Current) ↔
      Along step (fun w e => (holder w).Clean (use e)) w₀ calls := by
  have hrun : run Holder.step Holder.start (calls.map use) = some (holder w) := by
    rw [← run_events use, ← h₀, run_map hstep, hr]
    rfl
  have hend : holder w' = (holder w).use .release := by
    have hs := hstep w close
    rw [hr', hclose] at hs
    exact (Option.some.inj hs).symm
  have hcurrent : Along step (fun w _ => (holder w).Current) w₀ calls ↔
      Along Holder.step (fun h _ => h.Current) Holder.start (calls.map use) := by
    rw [← along_events use, ← h₀, along_map hstep]
  have hclean : Along step (fun w e => (holder w).Clean (use e)) w₀ calls ↔
      Along Holder.step (fun h u => h.Clean u) Holder.start (calls.map use) := by
    rw [← along_events use, ← h₀, along_map hstep]
  rw [hcurrent, hclean, hend]
  exact Holder.noLeak_iff hrun

end

theorem modelsCurrent_holder (w : MongoWorld) : w.holder.Current ↔ w.modelsCurrent := List.forall_mem_map

theorem connectsOnce_holder (w : MongoWorld) (e : MongoCall) : w.holder.Clean e.use ↔ w.connectsOnce e = true := by
  unfold Holder.Clean
  cases e with
  | onModuleInit failure =>
    cases failure with
    | none =>
      cases hc : w.util.connection <;> simp [MongoCall.use, MongoWorld.connectsOnce, MongoWorld.holder, hc]
    | some error => simp [MongoCall.use, MongoWorld.connectsOnce]
  | getModel name schema => simp [MongoCall.use, MongoWorld.connectsOnce]
  | onModuleDestroy outcome => cases hd : outcome.carriedOut <;> simp [MongoCall.use, MongoWorld.connectsOnce, hd]

theorem makesOnce_holder (w : QueueWorld) (e : QueueCall) : w.holder.Clean e.use ↔ w.makesOnce e = true := by
  unfold Holder.Clean
  cases e with
  | onModuleInit => cases hc : w.util.queue <;> simp [QueueCall.use, QueueWorld.makesOnce, QueueWorld.holder, hc]
  | getQueue => simp [QueueCall.use, QueueWorld.makesOnce]
  | onModuleDestroy outcome => cases hd : outcome.carriedOut <;> simp [QueueCall.use, QueueWorld.makesOnce, hd]

/-- **When the hooks leak nothing and hand out nothing stale.** Once a last
`onModuleDestroy` has resolved every connection is closed, and until then every
model belongs to the connection held, exactly if `onModuleInit` connects only
while no open connection is held and no model is out; and so for queues. -/
theorem hooks_clean_iff (mongoConfig : MongoConfig) (calls : List MongoCall) (w w' : MongoWorld)
    (h : run MongoWorld.step (.start mongoConfig) calls = some w) (h' : w.step (.onModuleDestroy .answered) = some w')
    (bullMqConfig : BullMqConfig) (queueName : String) (queueCalls : List QueueCall) (q q' : QueueWorld)
    (hq : run QueueWorld.step (.start bullMqConfig queueName) queueCalls = some q)
    (hq' : q.step (.onModuleDestroy .answered) = some q') :
    (w'.allClosed ∧
        (Along MongoWorld.step (fun w _ => w.modelsCurrent) (.start mongoConfig) calls ∧ w.modelsCurrent) ↔
      Along MongoWorld.step (fun w e => w.connectsOnce e) (.start mongoConfig) calls) ∧
    (q'.allClosed ∧
        (Along QueueWorld.step (fun q _ => q.queuesCurrent) (.start bullMqConfig queueName) queueCalls ∧
          q.queuesCurrent) ↔
      Along QueueWorld.step (fun q e => q.makesOnce e) (.start bullMqConfig queueName) queueCalls) := by
  constructor
  · have hiff := held_iff holder_mongo rfl rfl h h'
    simp only [modelsCurrent_holder, connectsOnce_holder] at hiff
    exact hiff
  · have hiff := held_iff holder_queue rfl rfl hq hq'
    simp only [makesOnce_holder] at hiff
    exact hiff

def mongoConfig : MongoConfig := ⟨"mongodb://localhost:27017", "stay", .null⟩

def bullMqConfig : BullMqConfig := ⟨⟨"localhost", 6379, none, none⟩, none⟩

/-- What `LoggingService` takes in its constructor. -/
def loggingModels : List MongoCall := [.getModel APPLICATION_LOG 0, .getModel AUDIT_LOG 1, .getModel PERFORMANCE_METRIC 2]

theorem hooks_clean_once :
    ∃ w w' q q', run MongoWorld.step (.start mongoConfig) (.onModuleInit none :: loggingModels) = some w ∧
      w.step (.onModuleDestroy .answered) = some w' ∧ w'.allClosed ∧
      run QueueWorld.step (.start bullMqConfig "BULL_MAIL_QUEUE") [.onModuleInit, .getQueue] = some q ∧
      q.step (.onModuleDestroy .answered) = some q' ∧ q'.allClosed := by
  have h := hooks_clean_iff mongoConfig (.onModuleInit none :: loggingModels) _ _ rfl rfl bullMqConfig
    "BULL_MAIL_QUEUE" [.onModuleInit, .getQueue] _ _ rfl rfl
  exact ⟨_, _, _, _, rfl, rfl, (h.1.mpr (by decide)).1, rfl, rfl, (h.2.mpr (by decide)).1⟩

/-- The factory's call of the hook, the logging models, and Nest's call of it. -/
theorem hooks_twice :
    ∃ w w' q q', run MongoWorld.step (.start mongoConfig) (.onModuleInit none :: loggingModels ++ [.onModuleInit none]) =
        some w ∧
      w.step (.onModuleDestroy .answered) = some w' ∧ ¬ w'.allClosed ∧ ¬ w.modelsCurrent ∧
      run QueueWorld.step (.start bullMqConfig "BULL_MAIL_QUEUE") [.onModuleInit, .onModuleInit] = some q ∧
      q.step (.onModuleDestroy .answered) = some q' ∧ ¬ q'.allClosed := by
  refine ⟨_, _, _, _, rfl, rfl, ?_, ?_, rfl, rfl, ?_⟩
  · intro h
    exact absurd (h 0 (by decide)) (by decide)
  · intro h
    exact absurd (h ⟨0, APPLICATION_LOG, 0⟩ (by decide)) (by decide)
  · intro h
    exact absurd (h 0 (by decide)) (by decide)

end StayApi
