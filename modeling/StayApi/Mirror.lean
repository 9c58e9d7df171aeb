import StayApi.ControlPoints

/-!
# The presence system over control points

`Mirror` is the presence system with its threads named by points; `step_mirror`
says that the two run in step. `Stepped` lists what one step can do, and
`presence_invariant` carries an invariant of the mirror to every run of the
presence system.
-/

namespace StayApi

open WebsocketChannel UserStatusMessage

abbrev Handlers : Type := PointProcess presencePoints

structure Mirror where
  redis : Redis
  published : List String
  handlers : Handlers

namespace Mirror

def start : Mirror := ⟨.empty, [], .start .start⟩

def world (m : Mirror) : World := ⟨m.redis, m.published, m.handlers.process⟩

def server (m : Mirror) : Server := m.handlers.state

def clients (m : Mirror) : OrdMap WebSocket TrackedClient := m.server.clients

def hash (m : Mirror) : OrdMap String String := m.redis.hashes USER_STATUS_HASH_KEY

def turn (t : Move) (m : Mirror) : Mirror := { m with handlers := m.handlers.turn t }

def update (f : Server → Server) (m : Mirror) : Mirror :=
  { m with handlers := { m.handlers with state := f m.handlers.state } }

end Mirror

def mirrorStep (users : Users) (m : Mirror) : Event → Option Mirror
  | .message client data =>
    if m.server.readyState client = .CLOSED then none
    else some (m.turn (messageMove client data m.server))
  | .pong client =>
    if m.server.readyState client = .CLOSED then none
    else some (m.turn (pongMove client m.server))
  | .disconnect client =>
    if m.server.readyState client = .CLOSED then none
    else some (m.update (disconnect client))
  | .pingTick => some (m.update ping)
  | .expire key =>
    match m.redis.expiring.get key with
    | none => none
    | some _ => some { m with redis := m.redis.expire key, published := m.published ++ [key] }
  | .expireOther key =>
    if startsWith key USER_STATUS_HASH_TTL_KEY then none
    else some { m with published := m.published ++ [key] }
  | .deliver i =>
    match m.published[i]? with
    | none => none
    | some key =>
      some (({ m with published := m.published.eraseIdx i } : Mirror).turn (expiredMove key m.server))
  | .exec i =>
    (m.handlers.answer (fun c R => some (serve users c R)) i m.redis).map fun (R, P) =>
      { m with redis := R, handlers := P }
  | .reject i carriedOut error =>
    (m.handlers.answer (fun c R => some ((Outcome.rejected carriedOut error).settle R (serve users c R))) i
      m.redis).map fun (R, P) => { m with redis := R, handlers := P }
  | .resume j => (m.handlers.resume j).map fun P => { m with handlers := P }

theorem world_turn {l : Origin} {t : Move} {p : Handler Unit} {m : Mirror}
    (h : presencePoints.Names l t (p.detached.run m.server)) : m.world.call l p = (m.turn t).world := by
  simp only [World.call, Mirror.world, Mirror.turn]
  rw [PointProcess.process_call m.handlers h]

/-- The presence system and its mirror run in step. -/
theorem step_mirror (users : Users) (m : Mirror) (e : Event) :
    step users m.world e = (mirrorStep users m e).map Mirror.world := by
  cases e with
  | message client data =>
    simp only [step, mirrorStep]
    rw [show m.world.server.readyState = m.server.readyState from rfl]
    split
    · rfl
    · rw [world_turn (message_names client data m.server)]; rfl
  | pong client =>
    simp only [step, mirrorStep]
    rw [show m.world.server.readyState = m.server.readyState from rfl]
    split
    · rfl
    · rw [world_turn (pong_names client m.server)]; rfl
  | disconnect client =>
    simp only [step, mirrorStep]
    rw [show m.world.server.readyState = m.server.readyState from rfl]
    split <;> rfl
  | pingTick => rfl
  | expire key =>
    simp only [step, mirrorStep]
    rw [show m.world.redis = m.redis from rfl]
    cases m.redis.expiring.get key <;> rfl
  | expireOther key =>
    simp only [step, mirrorStep]
    split <;> rfl
  | deliver i =>
    simp only [step, mirrorStep]
    rw [show m.world.published = m.published from rfl]
    cases m.published[i]? with
    | none => rfl
    | some key =>
      simp only [Option.map_some, Option.some.injEq]
      exact world_turn (m := { m with published := m.published.eraseIdx i }) (expired_names key m.server)
  | exec i =>
    simp only [step, mirrorStep]
    rw [show m.world.process = m.handlers.process from rfl, PointProcess.process_answer]
    rw [Option.map_map, Option.map_map]; rfl
  | reject i carriedOut error =>
    simp only [step, mirrorStep]
    rw [show m.world.process = m.handlers.process from rfl, PointProcess.process_answer]
    rw [Option.map_map, Option.map_map]; rfl
  | resume j =>
    simp only [step, mirrorStep]
    rw [show m.world.process = m.handlers.process from rfl, PointProcess.process_resume next_names]
    rw [Option.map_map, Option.map_map]; rfl

abbrev Answered : Type := Σ p : Point, Except JsError (Reply p.cmd)

namespace Mirror

def issued (m : Mirror) : List Point := m.handlers.issued

def replied (m : Mirror) : List Answered := m.handlers.replied

/-- The `exec` and `reject` of the point between `l₁` and `l₂`. -/
def answered (m : Mirror) (l₁ l₂ : List Point) (R : Redis) (a : Answered) : Mirror :=
  { m with
    redis := R
    handlers := { m.handlers with issued := l₁ ++ l₂, replied := m.replied ++ [a] } }

def resumed (m : Mirror) (l₁ : List Answered) (a : Answered) (l₂ : List Answered) : Mirror :=
  { m with handlers := PointProcess.turn (a.1.next a.2 m.server) { m.handlers with replied := l₁ ++ l₂ } }

def received (m : Mirror) (published : List String) (key : String) : Mirror :=
  ({ m with published := published } : Mirror).turn (expiredMove key m.server)

end Mirror

section
variable {m : Mirror} {l₁ l₂ : List Point} {P : Point → Prop} {Q : Answered → Prop}

theorem turn_issued {t : Move} (h : ∀ p ∈ m.issued, P p) (ht : ∀ p ∈ t.suspended, P p) :
    ∀ p ∈ (m.turn t).issued, P p :=
  List.forall_mem_append.mpr ⟨h, ht⟩

theorem answered_issued {p : Point} {R : Redis} {a : Answered} (hi : m.issued = l₁ ++ p :: l₂)
    (h : ∀ q ∈ m.issued, P q) : ∀ q ∈ (m.answered l₁ l₂ R a).issued, P q :=
  fun q hq => h q (hi ▸ mem_unskip hq)

theorem answered_replied {R : Redis} {a : Answered} (h : ∀ b ∈ m.replied, Q b) (ha : Q a) :
    ∀ b ∈ (m.answered l₁ l₂ R a).replied, Q b :=
  List.forall_mem_append.mpr ⟨h, List.forall_mem_singleton.mpr ha⟩

theorem resumed_replied {l₁ l₂ : List Answered} {a : Answered} (hr : m.replied = l₁ ++ a :: l₂)
    (h : ∀ b ∈ m.replied, Q b) : ∀ b ∈ (m.resumed l₁ a l₂).replied, Q b :=
  fun b hb => h b (hr ▸ mem_unskip hb)

end

theorem issued_map (m : Mirror) (i : Nat) : m.world.process.issued[i]? = m.issued[i]?.map Point.thread :=
  List.getElem?_map ..

theorem issued_world {m : Mirror} {l₁ l₂ : List Point} {p : Point} (hi : m.issued = l₁ ++ p :: l₂) :
    m.world.process.issued[l₁.length]? = some p.thread := by
  rw [issued_map, hi]
  simp

theorem replied_world {m : Mirror} {l₁ l₂ : List Answered} {a : Answered} (hr : m.replied = l₁ ++ a :: l₂) :
    m.world.process.replied[l₁.length]? = some ⟨a.1.thread, a.2⟩ := by
  show (m.replied.map fun a => (⟨a.1.thread, a.2⟩ : Replied ..))[l₁.length]? = _
  rw [hr]
  simp

/-- What one step of the mirror can do. -/
inductive Stepped (users : Users) (m : Mirror) : Event → Mirror → Prop
  | message {client : WebSocket} {data : RawData} (ho : m.server.readyState client ≠ .CLOSED) :
    Stepped users m (.message client data) (m.turn (messageMove client data m.server))
  | pong {client : WebSocket} (ho : m.server.readyState client ≠ .CLOSED) :
    Stepped users m (.pong client) (m.turn (pongMove client m.server))
  | disconnect {client : WebSocket} (ho : m.server.readyState client ≠ .CLOSED) :
    Stepped users m (.disconnect client) (m.update (disconnect client))
  | pingTick : Stepped users m .pingTick (m.update ping)
  | expire {key : String} (hk : (m.redis.expiring.get key).isSome) :
    Stepped users m (.expire key) { m with redis := m.redis.expire key, published := m.published ++ [key] }
  | expireOther {key : String} (hk : startsWith key USER_STATUS_HASH_TTL_KEY = false) :
    Stepped users m (.expireOther key) { m with published := m.published ++ [key] }
  | deliver {l₁ l₂ : List String} {key : String} (hp : m.published = l₁ ++ key :: l₂) :
    Stepped users m (.deliver l₁.length) (m.received (l₁ ++ l₂) key)
  | exec {l₁ l₂ : List Point} {p : Point} (hi : m.issued = l₁ ++ p :: l₂) :
    Stepped users m (.exec l₁.length)
      (m.answered l₁ l₂ (serve users p.cmd m.redis).1 ⟨p, (serve users p.cmd m.redis).2⟩)
  | reject {l₁ l₂ : List Point} {p : Point} {carriedOut : Bool} {error : JsError} (hi : m.issued = l₁ ++ p :: l₂) :
    Stepped users m (.reject l₁.length carriedOut error)
      (m.answered l₁ l₂ (if carriedOut then (serve users p.cmd m.redis).1 else m.redis) ⟨p, .error error⟩)
  | resume {l₁ l₂ : List Answered} {a : Answered} (hr : m.replied = l₁ ++ a :: l₂) :
    Stepped users m (.resume l₁.length) (m.resumed l₁ a l₂)

section
variable {users : Users} {m m' : Mirror} {l₁ l₂ : List Point} {p : Point} (hi : m.issued = l₁ ++ p :: l₂)
include hi

theorem carriesOut_exec : m.world.carriesOut (.exec l₁.length) = some p.thread := issued_world hi

theorem carriesOut_reject (error : JsError) : m.world.carriesOut (.reject l₁.length true error) = some p.thread :=
  issued_world hi

end

/-- Where Redis changes in a step: a command is carried out, or a key expires. -/
inductive RedisStep (users : Users) (m : Mirror) (e : Event) (R : Redis) : Prop
  | serve {l₁ l₂ : List Point} {p : Point} (hi : m.issued = l₁ ++ p :: l₂)
    (hc : m.world.carriesOut e = some p.thread) (hR : R = (serve users p.cmd m.redis).1)
  | expire {key : String} (he : e = .expire key) (hR : R = m.redis.expire key)
  | same (hc : m.world.carriesOut e = none) (hR : R = m.redis)

theorem redis_step {users : Users} {m m' : Mirror} {e : Event} (hs : Stepped users m e m') :
    RedisStep users m e m'.redis := by
  cases hs with
  | exec hi => exact .serve hi (carriesOut_exec hi) rfl
  | @reject l₁ l₂ p carriedOut error hi =>
    cases carriedOut with
    | true => exact .serve hi (carriesOut_reject hi error) rfl
    | false => exact .same rfl rfl
  | expire _ => exact .expire rfl rfl
  | _ => exact .same rfl rfl

theorem mirror_cases {users : Users} {m m' : Mirror} {e : Event} (h : mirrorStep users m e = some m') :
    Stepped users m e m' := by
  cases e with
  | message client data =>
    simp only [mirrorStep] at h
    split at h
    · cases h
    · cases h; exact .message ‹_›
  | pong client =>
    simp only [mirrorStep] at h
    split at h
    · cases h
    · cases h; exact .pong ‹_›
  | disconnect client =>
    simp only [mirrorStep] at h
    split at h
    · cases h
    · cases h; exact .disconnect ‹_›
  | pingTick => cases h; exact .pingTick
  | expire key =>
    simp only [mirrorStep] at h
    cases hk : m.redis.expiring.get key with
    | none => simp [hk] at h
    | some v =>
      simp only [hk, Option.some.injEq] at h
      subst h
      exact .expire (by rw [hk]; rfl)
  | expireOther key =>
    simp only [mirrorStep] at h
    split at h
    · cases h
    · rename_i hk
      cases h; exact .expireOther (by simpa using hk)
  | deliver i =>
    simp only [mirrorStep] at h
    cases hk : m.published[i]? with
    | none => simp [hk] at h
    | some key =>
      simp only [hk, Option.some.injEq] at h
      obtain ⟨l₁, l₂, hl, rfl, he⟩ := Process.eraseIdx_split hk
      rw [he] at h
      subst h
      exact .deliver hl
  | exec i =>
    simp only [mirrorStep] at h
    obtain ⟨⟨R, P⟩, hP, rfl⟩ := Option.map_eq_some_iff.mp h
    obtain ⟨l₁, p, l₂, r, hi, rfl, hs, rfl⟩ := PointProcess.answer_eq_some hP
    have hs' := Option.some.inj hs
    rw [Prod.ext_iff] at hs'
    obtain ⟨rfl, rfl⟩ := hs'
    exact .exec hi
  | reject i carriedOut error =>
    simp only [mirrorStep] at h
    obtain ⟨⟨R, P⟩, hP, rfl⟩ := Option.map_eq_some_iff.mp h
    obtain ⟨l₁, p, l₂, r, hi, rfl, hs, rfl⟩ := PointProcess.answer_eq_some hP
    have hs' := Option.some.inj hs
    rw [Prod.ext_iff] at hs'
    obtain ⟨rfl, rfl⟩ := hs'
    exact .reject hi
  | resume j =>
    simp only [mirrorStep] at h
    obtain ⟨P, hP, rfl⟩ := Option.map_eq_some_iff.mp h
    obtain ⟨l₁, a, l₂, hr, rfl, rfl⟩ := PointProcess.resume_eq_some hP
    exact .resume hr

section
variable {users : Users} {ok : World → Event → Prop}

theorem world_step {m : Mirror} {e : Event} {w : World} (h : step users m.world e = some w) :
    ∃ m', m'.world = w ∧ Stepped users m e m' := by
  rw [step_mirror] at h
  obtain ⟨m', hm', rfl⟩ := Option.map_eq_some_iff.mp h
  exact ⟨m', rfl, mirror_cases hm'⟩

theorem world_exec {m : Mirror} {l₁ l₂ : List Point} {p : Point} (hi : m.issued = l₁ ++ p :: l₂) :
    step users m.world (.exec l₁.length) =
      some (m.answered l₁ l₂ (serve users p.cmd m.redis).1 ⟨p, (serve users p.cmd m.redis).2⟩).world := by
  rw [step_mirror]
  simp only [mirrorStep]
  rw [PointProcess.answer_split hi rfl]
  rfl

theorem world_resume {m : Mirror} {l₁ l₂ : List Answered} {a : Answered} (hr : m.replied = l₁ ++ a :: l₂) :
    step users m.world (.resume l₁.length) = some (m.resumed l₁ a l₂).world := by
  rw [step_mirror]
  simp only [mirrorStep]
  have h : m.handlers.resume l₁.length = some _ := PointProcess.resume_split hr
  rw [h]
  rfl

theorem mirror_run {es : List Event} {w : World} (hk : Along (step users) ok World.start es)
    (hr : run (step users) World.start es = some w) :
    ∃ m, Along (mirrorStep users) (fun m e => ok m.world e) Mirror.start es ∧
      run (mirrorStep users) Mirror.start es = some m ∧ m.world = w := by
  obtain ⟨m, hm, hw⟩ := run_lift (t := Mirror.start) (step_mirror users) hr
  exact ⟨m, (along_map (t := Mirror.start) (step_mirror users)).mp hk, hm, hw⟩

/-- What the mirror keeps in every step that meets `ok`, every run keeps. -/
theorem presence_invariant {I : Mirror → Prop} (h0 : I Mirror.start)
    (hI : ∀ m e m', I m → ok m.world e → Stepped users m e m' → I m') {es : List Event} {w : World}
    (hk : Along (step users) ok World.start es) (hr : run (step users) World.start es = some w) :
    ∃ m, I m ∧ m.world = w := by
  obtain ⟨m, hk', hm, hw⟩ := mirror_run hk hr
  exact ⟨m, run_invariant (fun m e m' hi ho hs => hI m e m' hi ho (mirror_cases hs)) h0 hk' hm, hw⟩

theorem presence_history {ok : List Event × World → Event → Prop} {I : List Event → Mirror → Prop} {es : List Event}
    {w : World} (hk : Along (recorded (step users)) ok ([], World.start) es)
    (hr : run (step users) World.start es = some w) (h0 : I [] Mirror.start)
    (hI : ∀ h m e m', I h m → ok (h, m.world) e → Stepped users m e m' → I (h ++ [e]) m') :
    ∃ m, I es m ∧ m.world = w := by
  obtain ⟨m, hm, hw⟩ := run_lift (t := Mirror.start) (step_mirror users) hr
  have hk' : Along (recorded (mirrorStep users)) (fun x e => ok (x.1, x.2.world) e) ([], Mirror.start) es :=
    (along_map (t := ([], Mirror.start)) (recorded_map (step_mirror users))).mp hk
  have hI' : ∀ x e x', I x.1 x.2 → ok (x.1, x.2.world) e → recorded (mirrorStep users) x e = some x' →
      I x'.1 x'.2 := by
    intro x e x' hi ho hs
    obtain ⟨m', hm', rfl⟩ := Option.map_eq_some_iff.mp hs
    exact hI x.1 x.2 e m' hi ho (mirror_cases hm')
  exact ⟨m, run_invariant (I := fun x => I x.1 x.2) hI' h0 hk' (run_recorded hm), hw⟩

end

end StayApi
