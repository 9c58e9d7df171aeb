import StayApi.Views

/-!
# Subscribers agree with the hash

The hash is written by `subscribeMessage`, `unsubscribeMessage`, `pong` and
`handleRedisExpiration`, and all but `pong` broadcast what they wrote. In a run
in which a pong writes nothing new, no write is lost on its way back, and no
`hDel` falls between the two writes of a subscribe, every view of the statuses
is what the hash says once nothing is in progress.
-/

namespace StayApi

open WebsocketChannel UserStatusMessage

/-- A `subscribeMessage` of `uid` has done its `hSet` and not yet its `set`. -/
def World.comingOnline (w : World) (uid : String) : Bool :=
  (w.process.replied.any fun t =>
    match t with
    | ⟨⟨.message _ _, .hSet _ field _, _⟩, .ok _⟩ => field = uid
    | _ => false) ||
  w.process.issued.any fun t =>
    match t with
    | ⟨.message _ _, .set key _ _, _⟩ => key = ttlKey uid
    | _ => false

/-- The replies of Redis arrive in the order in which it carried out the commands. -/
def answersInOrder (w : World) : Event → Bool
  | .resume j => (w.process.replied.take j).all fun t => !t.cmd.toRedis
  | _ => true

/-- A subscribe without `reset` of a socket that has a view ends while the socket
is still tracked and has its uid online in the view. -/
def World.keepsView (w : World) (client : WebSocket) (data : RawData) : Bool :=
  match request data with
  | .user _ uid reset => Json.isTrue reset ||
    (w.server.view client).all fun v => (w.clients.get client).isSome && v.get uid = some ONLINE
  | _ => true

/-- A pong's `hSet` finds its uid in the hash; an `hDel` of a uid comes while no
`subscribeMessage` of it is between its two writes; neither the `set` of a
`subscribeMessage` nor an `hGetAll` fails, and an `hSet` or `hDel` that fails has
changed nothing; and no subscribe without `reset` spoils a view. -/
def writesAnnounced (w : World) : Event → Bool
  | .exec i => (w.process.issued[i]?).all fun t =>
    match t with
    | ⟨.pong _, .hSet _ field _, _⟩ => (w.hash.get field).isSome
    | ⟨_, .hDel _ field, _⟩ => !w.comingOnline field
    | _ => true
  | .reject i carriedOut _ => (w.process.issued[i]?).all fun t =>
    match t with
    | ⟨.message _ _, .set .., _⟩ => false
    | ⟨_, .hGetAll _, _⟩ => false
    | ⟨_, .hSet _ field _, _⟩ => !carriedOut || (w.hash.get field).isSome
    | ⟨_, .hDel _ field, _⟩ => !carriedOut || (w.hash.get field).isNone
    | _ => true
  | .resume j => (w.process.replied[j]?).all fun t =>
    match t with
    | ⟨⟨.message client data, .set .., _⟩, .ok _⟩ => w.keepsView client data
    | _ => true
  | _ => true

/-! ## The invariant -/

namespace Mirror

def ComingOnline (m : Mirror) (u : String) : Prop :=
  (∃ c data reset added, ⟨.subscribeHSet c data u reset, .ok added⟩ ∈ m.replied) ∨
    ∃ c data reset, .subscribeSet c data u reset ∈ m.issued

/-- Once the replies in `q` have arrived, a view with `x` at `u` says of `u` what
the hash says, or a subscribe still in progress will announce it. -/
def Converges (m : Mirror) (u : String) (x : Option UserStatusType) (q : List Answered) : Prop :=
  (settled (announcement u) x q = some ONLINE ↔ (m.hash.get u).isSome) ∨ m.ComingOnline u

end Mirror

def snapshotInfo (values : OrdMap String String) : BroadcastUserStatusInfo := .fill values.keys ONLINE

structure Synced (u : String) (c : WebSocket) (m : Mirror) : Prop where
  coming : m.ComingOnline u → (m.hash.get u).isSome
  snapshots : ∀ q₁ d data values q₂, m.replied = q₁ ++ ⟨.snapshot d data, .ok values⟩ :: q₂ →
    m.Converges u ((snapshotInfo values).get u) q₂
  view : m.server.listening c → (∃ data, .snapshot c data ∈ m.issued) ∨
    (∃ data values, ⟨.snapshot c data, .ok values⟩ ∈ m.replied) ∨
    (m.server.view c = none ∧ m.server.answeredOwn c) ∨
    ∃ v, m.server.view c = some v ∧ m.Converges u (v.get u) m.replied

section
variable {users : Users} {u : String} {c : WebSocket} {m m' : Mirror}

/-- Only `__proto__` is a field that the snapshot leaves out, and it is no user. -/
theorem snapshotInfo_get (hn : users "__proto__" ≠ .ok (some true)) (hk : Known users m) :
    (snapshotInfo m.hash).get u = some ONLINE ↔ (m.hash.get u).isSome := by
  unfold snapshotInfo
  by_cases hu : u = "__proto__"
  · subst hu
    have hoff : ¬ (m.hash.get "__proto__").isSome := fun h => hn (hk.hash _ h)
    rw [OrdMap.get_fill, if_neg fun h => h.2 rfl]
    simp [hoff]
  · rw [OrdMap.get_fill_eq hu, OrdMap.mem_keys]

theorem converges_mono {x : Option UserStatusType} {q : List Answered} (hh : m'.hash = m.hash)
    (hc : m.ComingOnline u → m'.ComingOnline u) (h : m.Converges u x q) : m'.Converges u x q := by
  rcases h with h | h
  · exact .inl (by rw [hh]; exact h)
  · exact .inr (hc h)

theorem synced_turn {t : Move} (h : Synced u c m) (hg : m.server.answeredOwn c → t.state.answeredOwn c)
    (hp : ∀ d data reset, .subscribeSet d data u reset ∉ t.suspended)
    (hs : t.state.listening c → Sees c u none m.server t) : Synced u c (m.turn t) := by
  have hc : m.ComingOnline u → (m.turn t).ComingOnline u := by
    rintro (ha | ⟨d, data, reset, hi⟩)
    · exact .inl ha
    · exact .inr ⟨d, data, reset, List.mem_append_left _ hi⟩
  have hc' : (m.turn t).ComingOnline u → m.ComingOnline u := by
    rintro (ha | ⟨d, data, reset, hi⟩)
    · exact .inl ha
    · rcases List.mem_append.mp hi with hi | hi
      · exact .inr ⟨d, data, reset, hi⟩
      · exact absurd hi (hp d data reset)
  refine ⟨fun ho => h.coming (hc' ho), fun q₁ d data values q₂ hq => ?_, fun hl => ?_⟩
  · exact converges_mono (m := m) rfl hc (h.snapshots q₁ d data values q₂ hq)
  · cases hs hl with
    | @asked data hm => exact .inl ⟨data, List.mem_append_right _ hm⟩
    | blank hv ho => exact .inr (.inr (.inl ⟨hv, ho⟩))
    | kept hl hv =>
      obtain ⟨hnone, hsome⟩ := kept_cases hv
      rcases h.view hl with ⟨data, hi⟩ | ha | ⟨hv₀, ho⟩ | ⟨v, hv₀, hconv⟩
      · exact .inl ⟨data, List.mem_append_left _ hi⟩
      · exact .inr (.inl ha)
      · exact .inr (.inr (.inl ⟨hnone hv₀, hg ho⟩))
      · obtain ⟨v', hv', hg⟩ := hsome v hv₀
        refine .inr (.inr (.inr ⟨v', hv', ?_⟩))
        rw [hg]
        exact converges_mono (m := m) rfl hc hconv

theorem synced_update {f : Server → Server} (h : Synced u c m)
    (hg : m.server.answeredOwn c → (f m.server).answeredOwn c)
    (hs : (f m.server).listening c → m.server.listening c ∧ (f m.server).view c = m.server.view c) :
    Synced u c (m.update f) := by
  refine ⟨h.coming, h.snapshots, fun hl => ?_⟩
  obtain ⟨hl, hv⟩ := hs hl
  rcases h.view hl with hi | ha | ⟨hv₀, ho⟩ | ⟨v, hv₀, hconv⟩
  · exact .inl hi
  · exact .inr (.inl ha)
  · exact .inr (.inr (.inl ⟨hv.trans hv₀, hg ho⟩))
  · exact .inr (.inr (.inr ⟨v, hv.trans hv₀, hconv⟩))

/-! ## Resuming -/

theorem announcement_lookup {a : Answered} (h : a.1.cmd.toRedis = false) : announcement u a = none := by
  obtain ⟨p, r⟩ := a
  cases p with
  | lookup client data connectType uid reset => rfl
  | _ => cases h

theorem resumed_comingOnline {l₁ l₂ : List Answered} {a : Answered} (hr : m.replied = l₁ ++ a :: l₂) :
    (m.resumed l₁ a l₂).ComingOnline u ↔ m.ComingOnline u := by
  constructor
  · rintro (⟨d, data, reset, added, hm⟩ | ⟨d, data, reset, hi⟩)
    · refine .inl ⟨d, data, reset, added, ?_⟩
      exact hr ▸ mem_unskip hm
    · rcases List.mem_append.mp hi with hi | hi
      · exact .inr ⟨d, data, reset, hi⟩
      · cases next_follows hi with
        | @lease _ _ _ _ added => exact .inl ⟨d, data, reset, added, by rw [hr]; simp⟩
  · rintro (⟨d, data, reset, added, hm⟩ | ⟨d, data, reset, hi⟩)
    · by_cases ha : ⟨.subscribeHSet d data u reset, .ok added⟩ = a
      · subst ha
        exact .inr ⟨d, data, reset, List.mem_append_right _ (List.mem_singleton_self _)⟩
      · exact .inl ⟨d, data, reset, added, mem_skip (hr ▸ hm) ha⟩
    · exact .inr ⟨d, data, reset, List.mem_append_left _ hi⟩

theorem keepsView_resume {l₁ l₂ : List Answered} {a : Answered} (hr : m.replied = l₁ ++ a :: l₂) (hk : Known users m)
    (hw : writesAnnounced m.world (.resume l₁.length) = true) {data : RawData} {uid : String} {reset : Option Json}
    {r : Unit} (ha : a = ⟨.subscribeSet c data uid reset, .ok r⟩) :
    Json.isTrue reset = true ∨ ∀ v, m.server.view c = some v → (m.server.clients.get c).isSome ∧
      v.get uid = some ONLINE := by
  subst ha
  have hfit := (hk.replied ⟨.subscribeSet c data uid reset, .ok r⟩ (by rw [hr]; simp)).2
  obtain ⟨connectType, hreq, -⟩ := hfit
  simp only [writesAnnounced, replied_world hr, Option.all_some] at hw
  change m.world.keepsView c data = true at hw
  simp only [World.keepsView, hreq, Bool.or_eq_true] at hw
  refine hw.imp_right fun hw v hv => ?_
  rw [show m.world.server.view c = some v from hv] at hw
  obtain ⟨ht, hon⟩ := Bool.and_eq_true_iff.mp hw
  exact ⟨ht, of_decide_eq_true hon⟩

theorem synced_resume {l₁ l₂ : List Answered} {a : Answered} (hr : m.replied = l₁ ++ a :: l₂) (hk : Known users m)
    (h : Synced u c m) (hg : m.server.answeredOwn c → (m.resumed l₁ a l₂).server.answeredOwn c)
    (hw : writesAnnounced m.world (.resume l₁.length) = true) (hl₁ : ∀ b ∈ l₁, b.1.cmd.toRedis = false) :
    Synced u c (m.resumed l₁ a l₂) := by
  have hn : ∀ b ∈ l₁, announcement u b = none := fun b hb => announcement_lookup (hl₁ b hb)
  have hc : m.ComingOnline u → (m.resumed l₁ a l₂).ComingOnline u := (resumed_comingOnline hr).mpr
  refine ⟨fun ho => h.coming ((resumed_comingOnline hr).mp ho), fun q₁ d data values q₂ hq => ?_, fun hl => ?_⟩
  · refine converges_mono (m := m) rfl hc ?_
    change l₁ ++ l₂ = q₁ ++ ⟨.snapshot d data, .ok values⟩ :: q₂ at hq
    -- the replies before the resumed one are lookups, so the snapshot comes after it
    rcases List.append_eq_append_iff.mp hq with ⟨l, hq₁, hl₂⟩ | ⟨l, hl, hs⟩
    · refine h.snapshots (l₁ ++ a :: l) d data values q₂ ?_
      rw [hr, hl₂]
      simp
    · cases l with
      | nil =>
        rw [List.append_nil] at hl
        rw [List.nil_append] at hs
        refine h.snapshots (l₁ ++ [a]) d data values q₂ ?_
        rw [hr, ← hs]
        simp
      | cons b l =>
        obtain ⟨rfl, -⟩ := List.cons.inj hs
        have hb := hl₁ _ (by rw [hl]; exact List.mem_append_right _ List.mem_cons_self)
        cases hb
  · by_cases ha : ∃ data values, a = ⟨.snapshot c data, .ok values⟩
    · obtain ⟨data, values, rfl⟩ := ha
      refine .inr (.inr (.inr ⟨snapshotInfo values, sendSnapshot_view values, ?_⟩))
      have hconv : (m.resumed l₁ ⟨.snapshot c data, .ok values⟩ l₂).Converges u ((snapshotInfo values).get u) l₂ :=
        converges_mono (m := m) rfl hc (h.snapshots l₁ c data values l₂ hr)
      unfold Mirror.Converges at hconv ⊢
      show (settled (announcement u) ((snapshotInfo values).get u) (l₁ ++ l₂) = some ONLINE ↔ _) ∨ _
      rw [settled_append, settled_silent hn]
      exact hconv
    · have hsees : Sees c u (announcement u a) m.server (a.1.next a.2 m.server) :=
        next_sees (fun d t ht => (hk.clients d t ht).1) (fun data values he => ha ⟨data, values, he⟩)
          (fun data uid reset r he => (keepsView_resume hr hk hw he).imp_right fun hv v hview =>
            ⟨⟨subscribeSet_open he hl.1, (hv v hview).1⟩, (hv v hview).2⟩) hl
      cases hsees with
      | @asked data hm => exact .inl ⟨data, List.mem_append_right _ hm⟩
      | blank hv ho => exact .inr (.inr (.inl ⟨hv, ho⟩))
      | kept hl hv =>
        obtain ⟨hnone, hsome⟩ := kept_cases hv
        rcases h.view hl with ⟨data, hi⟩ | ⟨data, values, hm⟩ | ⟨hv₀, ho⟩ | ⟨v, hv₀, hv⟩
        · exact .inl ⟨data, List.mem_append_left _ hi⟩
        · refine .inr (.inl ⟨data, values, ?_⟩)
          exact mem_skip (hr ▸ hm) fun he => ha ⟨data, values, he.symm⟩
        · exact .inr (.inr (.inl ⟨hnone hv₀, hg ho⟩))
        · obtain ⟨v', hv', hg⟩ := hsome v hv₀
          refine .inr (.inr (.inr ⟨v', hv', ?_⟩))
          have hconv : (m.resumed l₁ a l₂).Converges u (v.get u) m.replied := converges_mono (m := m) rfl hc hv
          unfold Mirror.Converges at hconv ⊢
          rw [hr, ← settled_take hn, ← hg] at hconv
          exact hconv

/-! ## Carrying out a command -/

theorem converges_announced {l₁ l₂ : List Point} {R : Redis} {a : Answered} {x : Option UserStatusType} {q : List Answered}
    {y : UserStatusType} (ha : announcement u a = some y)
    (hR : y = ONLINE ↔ ((R.hashes USER_STATUS_HASH_KEY).get u).isSome) :
    (m.answered l₁ l₂ R a).Converges u x (q ++ [a]) := by
  refine .inl ?_
  rw [settled_append]
  show (announcement u a).or _ = _ ↔ _
  rw [ha]
  show some y = some ONLINE ↔ _
  rw [Option.some.injEq]
  exact hR

section
variable {l₁ l₂ : List Point} {p : Point} (hi : m.issued = l₁ ++ p :: l₂)
include hi

theorem answered_comingOnline {R : Redis} {a : Answered} (hp : ∀ d data reset, p ≠ .subscribeSet d data u reset)
    (h : m.ComingOnline u) : (m.answered l₁ l₂ R a).ComingOnline u := by
  rcases h with ⟨d, data, reset, added, hm⟩ | ⟨d, data, reset, hm⟩
  · exact .inl ⟨d, data, reset, added, List.mem_append_left _ hm⟩
  · exact .inr ⟨d, data, reset, mem_skip (hi ▸ hm) (hp d data reset).symm⟩

theorem converges_quiet {R : Redis} {a : Answered} {x : Option UserStatusType} {q : List Answered}
    (hp : ∀ d data reset, p ≠ .subscribeSet d data u reset) (ha : announcement u a = none)
    (hR : ((R.hashes USER_STATUS_HASH_KEY).get u).isSome = (m.hash.get u).isSome) (h : m.Converges u x q) :
    (m.answered l₁ l₂ R a).Converges u x (q ++ [a]) := by
  rcases h with h | h
  · refine .inl ?_
    show _ ↔ ((R.hashes USER_STATUS_HASH_KEY).get u).isSome = true
    rw [settled_append, hR, ← h]
    show (announcement u a).or _ = _ ↔ _
    rw [ha]
    rfl
  · exact .inr (answered_comingOnline hi hp h)

end

theorem comingOnline_world (h : m.ComingOnline u) : m.world.comingOnline u = true := by
  rcases h with ⟨d, data, reset, added, hm⟩ | ⟨d, data, reset, hm⟩
  · have ha : (m.world.process.replied.any fun t =>
        match t with
        | ⟨⟨.message _ _, .hSet _ field _, _⟩, .ok _⟩ => field = u
        | _ => false) = true :=
      List.any_eq_true.mpr ⟨_, List.mem_map.mpr ⟨_, hm, rfl⟩, decide_eq_true rfl⟩
    unfold World.comingOnline
    rw [ha]
    rfl
  · have ha : (m.world.process.issued.any fun t =>
        match t with
        | ⟨.message _ _, .set key _ _, _⟩ => key = ttlKey u
        | _ => false) = true :=
      List.any_eq_true.mpr ⟨_, List.mem_map.mpr ⟨_, hm, rfl⟩, decide_eq_true rfl⟩
    unfold World.comingOnline
    rw [ha, Bool.or_true]

theorem hDel_apart {l₁ l₂ : List Point} {p : Point} (hi : m.issued = l₁ ++ p :: l₂)
    (hw : writesAnnounced m.world (.exec l₁.length) = true) (hd : p.hDels = some u) : ¬ m.ComingOnline u := by
  intro hc
  simp only [writesAnnounced, issued_world hi, Option.all_some] at hw
  have hno : (!m.world.comingOnline u) = true := by
    cases p with
    | unsubscribeHDel d data v =>
      obtain rfl := Option.some.inj hd
      exact hw
    | expiryHDel key =>
      obtain rfl := Option.some.inj hd
      exact hw
    | _ => cases hd
  rw [comingOnline_world hc] at hno
  cases hno

theorem pongHSet_online {l₁ l₂ : List Point} {d : WebSocket} {v : String}
    (hi : m.issued = l₁ ++ .pongHSet d v :: l₂) (hw : writesAnnounced m.world (.exec l₁.length) = true) :
    (m.hash.get v).isSome := by
  simp only [writesAnnounced, issued_world hi, Option.all_some] at hw
  exact hw

theorem onlineInfo_other {v : String} (hv : v ≠ u) : (onlineInfo v).get u = none := OrdMap.get_set_ne _ hv.symm _

theorem offlineInfo_other {v : String} (hv : v ≠ u) : (offlineInfo v).get u = none := OrdMap.get_set_ne _ hv.symm _

theorem offline_removed : OFFLINE = ONLINE ↔ (none : Option String).isSome = true := by
  constructor
  · intro he
    cases he
  · intro he
    cases he

theorem converges_other {l₁ l₂ : List Point} {p : Point} (hi : m.issued = l₁ ++ p :: l₂)
    (hp : ∀ d data reset, p ≠ .subscribeSet d data u reset) (hs : p.hSets ≠ some u) (hd : p.hDels ≠ some u)
    (ha : announcement u ⟨p, (serve users p.cmd m.redis).2⟩ = none) {x : Option UserStatusType} {q : List Answered}
    (hx : m.Converges u x q) :
    (m.answered l₁ l₂ (serve users p.cmd m.redis).1 ⟨p, (serve users p.cmd m.redis).2⟩).Converges u x
      (q ++ [⟨p, (serve users p.cmd m.redis).2⟩]) :=
  converges_quiet hi hp ha (congrArg Option.isSome (hash_other hs hd)) hx

theorem exec_converges {l₁ l₂ : List Point} {p : Point} (hi : m.issued = l₁ ++ p :: l₂) (h : Synced u c m)
    (hw : writesAnnounced m.world (.exec l₁.length) = true) {x : Option UserStatusType} {q : List Answered}
    (hx : m.Converges u x q) :
    (m.answered l₁ l₂ (serve users p.cmd m.redis).1 ⟨p, (serve users p.cmd m.redis).2⟩).Converges u x
      (q ++ [⟨p, (serve users p.cmd m.redis).2⟩]) := by
  cases p with
  | lookup d data connectType v reset => exact converges_other hi (by simp) (by simp [Point.hSets]) (by simp [Point.hDels]) rfl hx
  | snapshot d data => exact converges_other hi (by simp) (by simp [Point.hSets]) (by simp [Point.hDels]) rfl hx
  | pongSet d v => exact converges_other hi (by simp) (by simp [Point.hSets]) (by simp [Point.hDels]) rfl hx
  | subscribeHSet d data v reset =>
    by_cases hv : v = u
    · subst hv
      exact .inr (.inl ⟨d, data, reset, _, List.mem_append_right _ (List.mem_singleton_self _)⟩)
    · exact converges_other hi (by simp) (by simpa [Point.hSets] using hv) (by simp [Point.hDels]) rfl hx
  | subscribeSet d data v reset =>
    by_cases hv : v = u
    · subst hv
      have hon : (m.hash.get v).isSome := h.coming (.inr ⟨d, data, reset, by rw [hi]; simp⟩)
      exact converges_announced (OrdMap.get_set_self ..) ⟨fun _ => hon, fun _ => rfl⟩
    · exact converges_other hi (by simp [hv]) (by simp [Point.hSets]) (by simp [Point.hDels]) (onlineInfo_other hv) hx
  | unsubscribeHDel d data v =>
    by_cases hv : v = u
    · subst hv
      have hoff : ((serve users (Point.unsubscribeHDel d data v).cmd m.redis).1.hashes USER_STATUS_HASH_KEY).get v = none :=
        hash_removed rfl
      refine converges_announced (OrdMap.get_set_self ..) ?_
      rw [hoff]
      exact offline_removed
    · exact converges_other hi (by simp) (by simp [Point.hSets]) (by simpa [Point.hDels] using hv) (offlineInfo_other hv) hx
  | pongHSet d v =>
    by_cases hv : v = u
    · subst hv
      have hon := pongHSet_online hi hw
      have hon' : (((serve users (Point.pongHSet d v).cmd m.redis).1.hashes USER_STATUS_HASH_KEY).get v).isSome :=
        hash_added rfl
      exact converges_quiet hi (by simp) rfl (hon'.trans hon.symm) hx
    · exact converges_other hi (by simp) (by simpa [Point.hSets] using hv) (by simp [Point.hDels]) rfl hx
  | expiryHDel key =>
    by_cases hv : uidOfKey key = u
    · subst hv
      have hoff : ((serve users (Point.expiryHDel key).cmd m.redis).1.hashes USER_STATUS_HASH_KEY).get (uidOfKey key) =
          none :=
        hash_removed rfl
      by_cases hon : (m.hash.get (uidOfKey key)).isSome
      · have hremoved : serve users (Point.expiryHDel key).cmd m.redis = (_, .ok 1) :=
          congrArg (fun n => (_, Except.ok n)) (if_pos hon)
        refine converges_announced (y := OFFLINE) ?_ ?_
        · rw [hremoved]
          exact OrdMap.get_set_self ..
        · rw [hoff]
          exact offline_removed
      · have hremoved : serve users (Point.expiryHDel key).cmd m.redis = (_, .ok 0) :=
          congrArg (fun n => (_, Except.ok n)) (if_neg hon)
        refine converges_quiet hi (by simp) ?_ ?_ hx
        · rw [hremoved]
          rfl
        · rw [hoff]
          exact (Bool.eq_false_iff.mpr hon).symm
    · refine converges_other hi (by simp) (by simp [Point.hSets]) (by simpa [Point.hDels] using hv) ?_ hx
      show (if _ then _ else _) = _
      rw [offlineInfo_other hv, ite_self]

theorem exec_coming {l₁ l₂ : List Point} {p : Point} (hi : m.issued = l₁ ++ p :: l₂) (h : Synced u c m)
    (hw : writesAnnounced m.world (.exec l₁.length) = true)
    (hc : (m.answered l₁ l₂ (serve users p.cmd m.redis).1 ⟨p, (serve users p.cmd m.redis).2⟩).ComingOnline u) :
    (((serve users p.cmd m.redis).1.hashes USER_STATUS_HASH_KEY).get u).isSome := by
  by_cases hs : p.hSets = some u
  · exact hash_added hs
  · have hbefore : m.ComingOnline u := by
      rcases hc with ⟨d, data, reset, added, hm⟩ | ⟨d, data, reset, hm⟩
      · rcases List.mem_append.mp hm with hm | hm
        · exact .inl ⟨d, data, reset, added, hm⟩
        · obtain ⟨rfl, -⟩ := Sigma.mk.inj (List.mem_singleton.mp hm)
          exact absurd rfl hs
      · refine .inr ⟨d, data, reset, ?_⟩
        exact hi ▸ mem_unskip hm
    exact hash_kept (fun hd => hDel_apart hi hw hd hbefore) (h.coming hbefore)

theorem snoc_split {α : Type} {l q₁ q₂ : List α} {a b : α} (h : l ++ [a] = q₁ ++ b :: q₂) :
    (∃ q, q₂ = q ++ [a] ∧ l = q₁ ++ b :: q) ∨ (a = b ∧ q₂ = [] ∧ l = q₁) := by
  rcases List.eq_nil_or_concat q₂ with rfl | ⟨q, e, rfl⟩
  · obtain ⟨hl, hab⟩ := List.append_inj' h rfl
    exact .inr ⟨(List.cons.inj hab).1, rfl, hl⟩
  · rw [List.concat_eq_append] at h ⊢
    rw [← List.cons_append, ← List.append_assoc] at h
    obtain ⟨hl, hae⟩ := List.append_inj' h rfl
    refine .inl ⟨q, ?_, hl⟩
    rw [(List.cons.inj hae).1]

theorem synced_exec {l₁ l₂ : List Point} {p : Point} (hn : users "__proto__" ≠ .ok (some true))
    (hi : m.issued = l₁ ++ p :: l₂) (hk : Known users m) (h : Synced u c m)
    (hw : writesAnnounced m.world (.exec l₁.length) = true) :
    Synced u c (m.answered l₁ l₂ (serve users p.cmd m.redis).1 ⟨p, (serve users p.cmd m.redis).2⟩) := by
  refine ⟨exec_coming hi h hw, fun q₁ d data values q₂ hq => ?_, fun hl => ?_⟩
  · rcases snoc_split hq with ⟨l, rfl, hm⟩ | ⟨hp, rfl, -⟩
    · exact exec_converges hi h hw (h.snapshots q₁ d data values l hm)
    · -- the snapshot is the answer just given
      obtain ⟨rfl, hv⟩ := Sigma.mk.inj hp
      obtain rfl := Except.ok.inj (eq_of_heq hv)
      exact .inl (snapshotInfo_get hn hk)
  · rcases h.view hl with ⟨data, hm⟩ | ⟨data, values, hm⟩ | hblank | ⟨v, hv, hx⟩
    · by_cases hp : p = .snapshot c data
      · subst hp
        exact .inr (.inl ⟨data, _, List.mem_append_right _ (List.mem_singleton_self _)⟩)
      · exact .inl ⟨data, mem_skip (hi ▸ hm) (Ne.symm hp)⟩
    · exact .inr (.inl ⟨data, values, List.mem_append_left _ hm⟩)
    · exact .inr (.inr (.inl hblank))
    · exact .inr (.inr (.inr ⟨v, hv, exec_converges hi h hw hx⟩))

/-- A command that fails has changed no membership in the hash. -/
theorem reject_hash {l₁ l₂ : List Point} {p : Point} {carriedOut : Bool} {error : JsError}
    (hi : m.issued = l₁ ++ p :: l₂) (hw : writesAnnounced m.world (.reject l₁.length carriedOut error) = true) :
    (((if carriedOut then (serve users p.cmd m.redis).1 else m.redis).hashes USER_STATUS_HASH_KEY).get u).isSome =
      (m.hash.get u).isSome := by
  cases carriedOut with
  | false => rfl
  | true =>
    simp only [writesAnnounced, issued_world hi, Option.all_some] at hw
    have hset (v : String) (hs : p.hSets = some v) (hon : (m.hash.get v).isSome) :
        (((serve users p.cmd m.redis).1.hashes USER_STATUS_HASH_KEY).get u).isSome = (m.hash.get u).isSome := by
      by_cases hv : v = u
      · subst hv
        exact (hash_added hs).trans hon.symm
      · refine congrArg Option.isSome (hash_other ?_ ?_)
        · rw [hs]
          exact fun h => hv (Option.some.inj h)
        · intro hd
          rw [hDels_hSets hd] at hs
          cases hs
    have hdel (v : String) (hd : p.hDels = some v) (hoff : (m.hash.get v).isNone) :
        (((serve users p.cmd m.redis).1.hashes USER_STATUS_HASH_KEY).get u).isSome = (m.hash.get u).isSome := by
      by_cases hv : v = u
      · subst hv
        rw [hash_removed hd, Option.isNone_iff_eq_none.mp hoff]
      · refine congrArg Option.isSome (hash_other ?_ ?_)
        · rw [hDels_hSets hd]
          exact fun h => by cases h
        · rw [hd]
          exact fun h => hv (Option.some.inj h)
    cases p with
    | subscribeHSet d data v reset => exact hset v rfl hw
    | pongHSet d v => exact hset v rfl hw
    | unsubscribeHDel d data v => exact hdel v rfl hw
    | expiryHDel key => exact hdel (uidOfKey key) rfl hw
    | _ => rfl

theorem synced_reject {l₁ l₂ : List Point} {p : Point} {carriedOut : Bool} {error : JsError}
    (hi : m.issued = l₁ ++ p :: l₂) (h : Synced u c m)
    (hw : writesAnnounced m.world (.reject l₁.length carriedOut error) = true) :
    Synced u c (m.answered l₁ l₂ (if carriedOut then (serve users p.cmd m.redis).1 else m.redis)
      ⟨p, .error error⟩) := by
  have hR : (((if carriedOut then (serve users p.cmd m.redis).1 else m.redis).hashes USER_STATUS_HASH_KEY).get u).isSome =
      (m.hash.get u).isSome := reject_hash hi hw
  simp only [writesAnnounced, issued_world hi, Option.all_some] at hw
  have hset : ∀ d data reset, p ≠ .subscribeSet d data u reset := by
    rintro d data reset rfl
    cases hw
  have hsnap : ∀ d data, p ≠ .snapshot d data := by
    rintro d data rfl
    cases hw
  have ha : announcement u ⟨p, .error error⟩ = none := by
    cases p <;> rfl
  have hconv : ∀ {x q}, m.Converges u x q →
      (m.answered l₁ l₂ (if carriedOut then (serve users p.cmd m.redis).1 else m.redis) ⟨p, .error error⟩).Converges
        u x (q ++ [⟨p, .error error⟩]) :=
    fun hx => converges_quiet hi hset ha hR hx
  refine ⟨fun hc => hR.trans (h.coming ?_), fun q₁ d data values q₂ hq => ?_, fun hl => ?_⟩
  · rcases hc with ⟨d, data, reset, added, hm⟩ | ⟨d, data, reset, hm⟩
    · rcases List.mem_append.mp hm with hm | hm
      · exact .inl ⟨d, data, reset, added, hm⟩
      · obtain ⟨rfl, hv⟩ := Sigma.mk.inj (List.mem_singleton.mp hm)
        cases eq_of_heq hv
    · refine .inr ⟨d, data, reset, ?_⟩
      exact hi ▸ mem_unskip hm
  · rcases snoc_split hq with ⟨l, rfl, hm⟩ | ⟨hp, rfl, -⟩
    · exact hconv (h.snapshots q₁ d data values l hm)
    · obtain ⟨rfl, hv⟩ := Sigma.mk.inj hp
      cases eq_of_heq hv
  · rcases h.view hl with ⟨data, hm⟩ | ⟨data, values, hm⟩ | hblank | ⟨v, hv, hx⟩
    · exact .inl ⟨data, mem_skip (hi ▸ hm) (hsnap c data).symm⟩
    · exact .inr (.inl ⟨data, values, List.mem_append_left _ hm⟩)
    · exact .inr (.inr (.inl hblank))
    · exact .inr (.inr (.inr ⟨v, hv, hconv hx⟩))

theorem resume_inOrder {l₁ l₂ : List Answered} {a : Answered} (hr : m.replied = l₁ ++ a :: l₂)
    (ho : answersInOrder m.world (.resume l₁.length) = true) : ∀ b ∈ l₁, b.1.cmd.toRedis = false := by
  intro b hb
  have hm : (⟨b.1.thread, b.2⟩ : Replied Origin Server Command Reply JsError) ∈
      (m.replied.map fun a : Answered => (⟨a.1.thread, a.2⟩ : Replied _ _ _ _ _)).take l₁.length := by
    rw [← List.map_take, hr, List.take_left]
    exact List.mem_map.mpr ⟨b, hb, rfl⟩
  have hred := List.all_eq_true.mp ho _ hm
  simpa using hred

theorem answeredOwn_step {e : Event} (hs : Stepped users m e m') (h : m.server.answeredOwn c) :
    m'.server.answeredOwn c := by
  obtain ⟨l, hl⟩ := step_grows hs
  obtain ⟨channel, data, hm⟩ := h
  exact ⟨channel, data, hl ▸ List.mem_append_left _ hm⟩

theorem synced_step {e : Event} (hn : users "__proto__" ≠ .ok (some true)) (hk : Known users m) (h : Synced u c m)
    (ho : answersInOrder m.world e = true ∧ writesAnnounced m.world e = true) (hs : Stepped users m e m') :
    Synced u c m' := by
  obtain ⟨ho, hw⟩ := ho
  have hg := answeredOwn_step (c := c) hs
  cases hs with
  | @message client data _ =>
    refine synced_turn h hg (fun d data' reset hp => ?_) messageMove_sees
    rcases messageMove_suspended hp with ⟨_, _, _, -, he⟩ | ⟨_, -, -, he⟩
    · cases he
    · cases he
  | @pong client _ =>
    refine synced_turn h hg (fun d data reset hp => ?_) pongMove_sees
    obtain ⟨_, _, -, -, he⟩ := pongMove_suspended hp
    cases he
  | disconnect _ => exact synced_update h hg disconnect_sees
  | pingTick => exact synced_update h hg (ping_sees fun d t ht => (hk.clients d t ht).1)
  | expire _ => exact ⟨h.coming, h.snapshots, h.view⟩
  | expireOther _ => exact ⟨h.coming, h.snapshots, h.view⟩
  | @deliver l₁ l₂ key _ =>
    have h' : Synced u c { m with published := l₁ ++ l₂ } := ⟨h.coming, h.snapshots, h.view⟩
    refine synced_turn h' hg (fun d data reset hp => ?_) fun hl => sees_kept ?_
    · obtain ⟨-, he⟩ := expiredMove_suspended hp
      cases he
    · rw [expiredMove_state] at hl ⊢
      exact ⟨hl, rfl⟩
  | exec hi => exact synced_exec hn hi hk h hw
  | reject hi => exact synced_reject hi h hw
  | resume hr => exact synced_resume hr hk h hg hw (resume_inOrder hr ho)

theorem synced_start (u : String) (c : WebSocket) : Synced u c Mirror.start := by
  refine ⟨?_, ?_, ?_⟩
  · rintro (⟨d, data, reset, added, hm⟩ | ⟨d, data, reset, hm⟩)
    · cases hm
    · cases hm
  · intro q₁ d data values q₂ hq
    cases q₁ <;> cases hq
  · intro hl
    cases hl.2

end

/-- **Subscribers agree with the hash.** When nothing is in progress, the uids that
are online in the view of an open tracked socket are the fields of the hash; and
one that has no view has been answered a subscribe without `reset`. -/
theorem view_agrees (users : Users) (es : List Event) (w : World) (c : WebSocket)
    (hn : users "__proto__" ≠ .ok (some true))
    (hk : Along (step users) (fun w e => answersInOrder w e = true ∧ writesAnnounced w e = true) World.start es)
    (hr : run (step users) World.start es = some w) (hq : w.Idle) (hl : w.server.listening c) :
    (∀ v, w.server.view c = some v → ∀ u, v.get u = some ONLINE ↔ (w.hash.get u).isSome) ∧
      (w.server.view c = none → w.server.answeredOwn c) := by
  have hall : ∀ u, (w.server.view c = none ∧ w.server.answeredOwn c) ∨
      ∃ v, w.server.view c = some v ∧ (v.get u = some ONLINE ↔ (w.hash.get u).isSome) := by
    intro u
    obtain ⟨m, ⟨-, hm⟩, rfl⟩ := presence_invariant (I := fun m => Known users m ∧ Synced u c m)
      ⟨known_start users, synced_start u c⟩
      (fun m e m' hi ho hs => ⟨known_step hi.1 hs, synced_step hn hi.1 hi.2 ho hs⟩) hk hr
    have hi : m.issued = [] := List.map_eq_nil_iff.mp hq.1
    have ha : m.replied = [] := List.map_eq_nil_iff.mp hq.2
    have hc : ¬ m.ComingOnline u := by
      rintro (⟨d, data, reset, added, hp⟩ | ⟨d, data, reset, hp⟩)
      · rw [ha] at hp
        cases hp
      · rw [hi] at hp
        cases hp
    rcases hm.view hl with ⟨data, hp⟩ | ⟨data, values, hp⟩ | hblank | ⟨v, hv, hconv⟩
    · rw [hi] at hp
      cases hp
    · rw [ha] at hp
      cases hp
    · exact .inl hblank
    · rw [ha] at hconv
      exact .inr ⟨v, hv, hconv.resolve_right hc⟩
  constructor
  · intro v hv u
    rcases hall u with ⟨hnone, -⟩ | ⟨v', hv', hu⟩
    · rw [hnone] at hv
      cases hv
    · obtain rfl : v' = v := Option.some.inj (hv'.symm.trans hv)
      exact hu
  · intro hnone
    rcases hall "" with ⟨-, ho⟩ | ⟨v, hv, -⟩
    · exact ho
    · rw [hnone] at hv
      cases hv

def guestRun (client : WebSocket) : List Event :=
  [.message client (frame "subscribe" none true), .exec 0, .resume 0]

def pongRun (client : WebSocket) : List Event := [.pong client, .exec 0, .resume 0, .exec 0, .resume 0]

theorem view_agrees_renewed :
    ∃ w, run (step (oneUser "a")) World.start (guestRun 0 ++ subscribeRun 1 "a" ++ pongRun 1) = some w ∧
      (w.hash.get "a").isSome ∧
      ∃ v, w.server.view 0 = some v ∧ ∀ u, v.get u = some ONLINE ↔ (w.hash.get u).isSome :=
  ⟨_, rfl, by decide, _, rfl, (view_agrees (oneUser "a") (guestRun 0 ++ subscribeRun 1 "a" ++ pongRun 1) _ 0
    (by decide) (by decide) rfl ⟨rfl, rfl⟩ ⟨rfl, rfl⟩).1 _ rfl⟩

/-- Two sockets of one user: one unsubscribes, and a pong of the other takes the
user back into the hash. The guest is never told. -/
theorem pong_unannounced :
    ∃ w v, run (step everyUser) World.start
        (guestRun 0 ++ subscribeRun 1 "a" ++ subscribeRun 2 "a" ++ unsubscribeRun 1 "a" ++ pongRun 2) = some w ∧
      w.Idle ∧ w.published = [] ∧ w.server.listening 0 ∧ w.server.view 0 = some v ∧
      (w.hash.get "a").isSome ∧ v.get "a" = some OFFLINE ∧
      ¬ ∀ u, v.get u = some ONLINE ↔ (w.hash.get u).isSome :=
  ⟨_, _, rfl, ⟨rfl, rfl⟩, rfl, ⟨rfl, rfl⟩, rfl, by decide, by decide, fun h => absurd ((h "a").mpr (by decide)) (by decide)⟩

end StayApi
