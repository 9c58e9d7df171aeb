import StayApi.Connections
import StayApi.Run
import StayApi.SqsUtil
import StayApi.Tally

/-!
# Audit logs and performance metrics

`auditLog` and `performanceMetric` of `logging.service.ts`: each call writes one
document, and a failure is logged and not passed on. Any number of calls may be
under way, and a write that is rejected may have been carried out all the same.
-/

namespace StayApi

namespace LogWrites

/-- What a caller logs; a field that is `none` is undefined or null. -/
structure AuditLog where
  actor : String
  action : String
  target : String
  before : Option Json
  after : Option Json
  reason : Option String
  ipAddress : String

/-- Numbers are finite; a counter that is `none` is undefined, null or NaN. -/
structure PerformanceMetric where
  endpoint : String
  method : String
  duration : Rat
  statusCode : Rat
  userId : Option String
  queryCount : Option Rat
  cacheHits : Option Rat
  cacheMisses : Option Rat

structure AuditEntry where
  timestamp : Nat
  actor : String
  action : String
  target : String
  before : Json
  after : Json
  reason : Option String
  ipAddress : String

structure MetricEntry where
  timestamp : Nat
  endpoint : String
  method : String
  duration : Rat
  statusCode : Rat
  userId : Option String
  queryCount : Rat
  cacheHits : Rat
  cacheMisses : Rat

def auditEntry (data : AuditLog) (now : Nat) : AuditEntry where
  timestamp := now
  actor := data.actor
  action := data.action
  target := data.target
  before := data.before.getD .null
  after := data.after.getD .null
  reason := data.reason
  ipAddress := data.ipAddress

def metricEntry (data : PerformanceMetric) (now : Nat) : MetricEntry where
  timestamp := now
  endpoint := data.endpoint
  method := data.method
  duration := data.duration
  statusCode := data.statusCode
  userId := data.userId
  queryCount := data.queryCount.getD 0
  cacheHits := data.cacheHits.getD 0
  cacheMisses := data.cacheMisses.getD 0

inductive Entry where
  | audit (entry : AuditEntry)
  | metric (entry : MetricEntry)

/-- What is given to `create` of a model. `ref` is the identity of the object a call builds. -/
structure Document where
  ref : Nat
  model : String
  entry : Entry

abbrev Created : Document → Type := fun _ => Unit

/-- The lines logged, the documents the calls built, and the calls whose promise has resolved. -/
structure State where
  lines : List LogLine
  built : List Document
  settled : List Nat

abbrev Call : Type := Async State Document Created JsError Unit

def logLine (line : LogLine) (s : State) : State := { s with lines := s.lines ++ [line] }

def build (document : Document) (s : State) : State := { s with built := s.built ++ [document] }

def write (model : String) (entry : Entry) (failure : String) : Call := do
  let document : Document := ⟨(← Async.get).built.length, model, entry⟩
  Async.modify (build document)
  tryCatch (Async.await document) fun error => Async.modify (logLine (.error failure error))

def auditLog (data : AuditLog) (now : Nat) : Call :=
  write AUDIT_LOG (.audit (auditEntry data now)) "Failed to write audit log to MongoDB"

def performanceMetric (data : PerformanceMetric) (now : Nat) : Call :=
  write PERFORMANCE_METRIC (.metric (metricEntry data now)) "Failed to write performance metric to MongoDB"

/-! ## The service in use -/

/-- The documents stored, and the creates rejected: of which document, whether it
was stored, and with what. -/
structure Database where
  documents : List Document
  rejections : List (Document × Bool × JsError)

def create (outcome : Outcome JsError) (document : Document) (d : Database) : Option (Database × Except JsError Unit) :=
  match outcome with
  | .answered => some ({ d with documents := d.documents ++ [document] }, .ok ())
  | .rejected carriedOut error =>
    some (⟨d.documents ++ if carriedOut then [document] else [], d.rejections ++ [(document, carriedOut, error)]⟩,
      .error error)

def settle (k : Nat) (s : State) : State := { s with settled := s.settled ++ [k] }

def program (k : Nat) (call : Call) : Proc State Document Created JsError :=
  call (fun _ => .write (settle k) .done) .rejected

structure World where
  process : Process Nat State Document Created JsError
  database : Database

inductive Event where
  | auditLog (data : AuditLog) (now : Nat)
  | performanceMetric (data : PerformanceMetric) (now : Nat)
  /-- MongoDB deals with the `i`-th create under way. -/
  | exec (i : Nat) (outcome : Outcome JsError)
  | resume (j : Nat)

def World.start : World := ⟨Process.start ⟨[], [], []⟩, ⟨[], []⟩⟩

def World.call (call : Call) (w : World) : World :=
  let k := w.process.state.built.length
  { w with process := Process.call k (program k call) w.process }

def step (w : World) : Event → Option World
  | .auditLog data now => some (w.call (auditLog data now))
  | .performanceMetric data now => some (w.call (performanceMetric data now))
  | .exec i outcome => (w.process.answer (create outcome) i w.database).map fun x => ⟨x.2, x.1⟩
  | .resume j => (w.process.resume j).map fun process => { w with process := process }

/-! ## Where a call stops -/

/-- What the service says of a document that could not be written. -/
def Document.failure (document : Document) : String :=
  match document.entry with
  | .audit _ => "Failed to write audit log to MongoDB"
  | .metric _ => "Failed to write performance metric to MongoDB"

namespace Document

def failed (document : Document) (error : JsError) : LogLine := .error document.failure error

def cont (document : Document) : Except JsError Unit → Proc State Document Created JsError :=
  Async.settle (fun _ => .write (settle document.ref) .done) fun error =>
    .write (logLine (document.failed error)) (.write (settle document.ref) .done)

@[reducible] def thread (document : Document) : Thread Nat State Document Created JsError :=
  ⟨document.ref, document, document.cont⟩

def next (document : Document) : Except JsError Unit → State → PointTurn Document State JsError
  | .ok _, s => ⟨settle document.ref s, [], []⟩
  | .error error, s => ⟨settle document.ref (logLine (document.failed error) s), [], []⟩

end Document

def points : Points Document Nat State Document Created JsError := ⟨Document.thread, Document.next⟩

theorem points_sound : points.Sound := by
  intro document r s
  cases r <;> exact ⟨rfl, rfl, rfl⟩

/-- The document a call builds, if it is the `k`-th to build one. -/
def Event.document (k : Nat) : Event → Option Document
  | .auditLog data now => some ⟨k, AUDIT_LOG, .audit (auditEntry data now)⟩
  | .performanceMetric data now => some ⟨k, PERFORMANCE_METRIC, .metric (metricEntry data now)⟩
  | _ => none

def documents (k : Nat) : List Event → List Document
  | [] => []
  | e :: es =>
    match e.document k with
    | some document => document :: documents (k + 1) es
    | none => documents k es

structure Mirror where
  process : PointProcess points
  database : Database

namespace Mirror

def world (m : Mirror) : World := ⟨m.process.process, m.database⟩

def start : Mirror := ⟨PointProcess.start ⟨[], [], []⟩, ⟨[], []⟩⟩

def write (document : Document) (m : Mirror) : Mirror :=
  { m with process := PointProcess.turn ⟨build document m.process.state, [document], []⟩ m.process }

def step (m : Mirror) (e : Event) : Option Mirror :=
  match e.document m.process.state.built.length with
  | some document => some (m.write document)
  | none =>
    match e with
    | .exec i outcome => (m.process.answer (create outcome) i m.database).map fun x => ⟨x.2, x.1⟩
    | .resume j => (m.process.resume j).map fun process => { m with process := process }
    | _ => none

end Mirror

theorem world_call {call : Call} {document : Document} (m : Mirror)
    (h : points.Names m.process.state.built.length ⟨build document m.process.state, [document], []⟩
      ((program m.process.state.built.length call).run m.process.state)) :
    m.world.call call = (m.write document).world := by
  unfold World.call Mirror.write Mirror.world
  simp only [World.mk.injEq, and_true]
  exact PointProcess.process_call m.process h

theorem step_mirror (m : Mirror) (e : Event) : step m.world e = (m.step e).map Mirror.world := by
  cases e with
  | auditLog data now => exact congrArg some (world_call m ⟨rfl, rfl, rfl⟩)
  | performanceMetric data now => exact congrArg some (world_call m ⟨rfl, rfl, rfl⟩)
  | exec i outcome =>
    simp only [step, Mirror.step, Event.document, Mirror.world]
    rw [PointProcess.process_answer, Option.map_map, Option.map_map]
    rfl
  | resume j =>
    simp only [step, Mirror.step, Event.document, Mirror.world]
    rw [PointProcess.process_resume points_sound, Option.map_map, Option.map_map]
    rfl

/-! ## The account -/

abbrev Answered : Type := Σ document : Document, Except JsError (Created (points.thread document).cmd)

/-- The documents whose create was rejected and that were not stored. -/
def Database.lost (d : Database) : List Document :=
  (d.rejections.filter fun x => !x.2.1).map Prod.fst

def report (x : Document × Bool × JsError) : LogLine := x.1.failed x.2.2

def unreported (a : Answered) : Option LogLine :=
  match a.2 with
  | .ok _ => none
  | .error error => some (a.1.failed error)

structure Accounted (m : Mirror) : Prop where
  refs : m.process.state.built.map Document.ref = List.range m.process.state.built.length
  calls : Tally.tally Document.ref State.settled m.process = Multiset.range m.process.state.built.length
  stored : (↑m.process.issued + ↑m.database.documents + ↑m.database.lost : Multiset Document) =
    ↑m.process.state.built
  logged : (↑m.process.state.lines + ↑(m.process.replied.filterMap unreported) : Multiset LogLine) =
    ↑(m.database.rejections.map report)
  handled : m.process.unhandled = []

section
variable {m m' : Mirror} {e : Event}

theorem document_ref {k : Nat} {document : Document} (h : e.document k = some document) : document.ref = k := by
  cases e <;> simp only [Event.document, Option.some.injEq, reduceCtorEq] at h <;> rw [← h]

theorem accounted_start : Accounted Mirror.start := ⟨rfl, rfl, rfl, rfl, rfl⟩

theorem accounted_write {document : Document} (h : Accounted m) (hd : document.ref = m.process.state.built.length) :
    Accounted (m.write document) := by
  have hb : (m.write document).process.state.built = m.process.state.built ++ [document] := rfl
  have hi : (m.write document).process.issued = m.process.issued ++ [document] := rfl
  have ht : Tally.tally Document.ref State.settled (m.write document).process = _ :=
    Tally.tally_waits (t := ⟨build document m.process.state, [document], []⟩) rfl rfl
  refine ⟨?_, ?_, ?_, h.logged, ?_⟩
  · rw [hb, List.map_append, h.refs, List.length_append, List.length_singleton, List.range_succ, ← hd]
    rfl
  · rw [ht, h.calls, hb, List.length_append, List.length_singleton, Multiset.range_succ, hd, add_comm,
      Multiset.singleton_add]
  · show (_ + ↑m.database.documents + ↑m.database.lost : Multiset Document) = _
    rw [hb, hi, Tally.coe_snoc, Tally.coe_snoc, ← h.stored]
    abel
  · show m.process.unhandled ++ [] = []
    rw [h.handled]
    rfl

/-- A create that has been dealt with: its document is stored or lost, and a rejection is to be reported. -/
theorem create_spec {outcome : Outcome JsError} {document : Document} {d d' : Database} {r : Except JsError Unit}
    (h : create outcome document d = some (d', r)) :
    (↑d'.documents + ↑d'.lost : Multiset Document) = ↑d.documents + ↑d.lost + {document} ∧
      d'.rejections.map report = d.rejections.map report ++ (unreported (⟨document, r⟩ : Answered)).toList := by
  cases outcome with
  | answered =>
    obtain ⟨rfl, rfl⟩ := Prod.mk.inj (Option.some.inj h)
    refine ⟨?_, (List.append_nil _).symm⟩
    show (↑(d.documents ++ [document]) + ↑d.lost : Multiset Document) = _
    rw [Tally.coe_snoc]
    abel
  | rejected carriedOut error =>
    obtain ⟨rfl, rfl⟩ := Prod.mk.inj (Option.some.inj h)
    refine ⟨?_, List.map_append⟩
    unfold Database.lost
    cases carriedOut with
    | true => simpa using Tally.coe_middle _ _ document
    | false => simpa [Database.lost] using Tally.coe_snoc (d.documents ++ d.lost) document

theorem accounted_exec {i : Nat} {outcome : Outcome JsError} {d : Database} {P : PointProcess points}
    (h : Accounted m) (hs : m.process.answer (create outcome) i m.database = some (d, P)) : Accounted ⟨P, d⟩ := by
  have ht : Tally.tally Document.ref State.settled P = Tally.tally Document.ref State.settled m.process :=
    Tally.tally_answer hs
  obtain ⟨l₁, document, l₂, r, hi, -, hc, rfl⟩ := PointProcess.answer_eq_some hs
  obtain ⟨hstored, hreport⟩ := create_spec hc
  refine ⟨h.refs, ht.trans h.calls, ?_, ?_, h.handled⟩
  · show (↑(l₁ ++ l₂) + ↑d.documents + ↑d.lost : Multiset Document) = ↑m.process.state.built
    rw [← h.stored, hi, Tally.coe_middle, add_assoc, hstored]
    abel
  · show (↑m.process.state.lines + ↑((m.process.replied ++ [(⟨document, r⟩ : Answered)]).filterMap unreported) :
      Multiset LogLine) = ↑(d.rejections.map report)
    rw [hreport, List.filterMap_append, ← Multiset.coe_add, ← Multiset.coe_add, ← h.logged, add_assoc]
    cases r <;> rfl

theorem next_spec (a : Answered) (s : State) :
    points.next a.1 a.2 s = ⟨settle a.1.ref { s with lines := s.lines ++ (unreported a).toList }, [], []⟩ := by
  obtain ⟨document, r⟩ := a
  cases r with
  | ok _ =>
    show _ = (⟨settle document.ref { s with lines := s.lines ++ [] }, [], []⟩ : PointTurn Document State JsError)
    rw [List.append_nil]
    rfl
  | error error => rfl

theorem accounted_resume {j : Nat} {P : PointProcess points} (h : Accounted m)
    (hs : m.process.resume j = some P) : Accounted { m with process := P } := by
  have ht : Tally.tally Document.ref State.settled P = Tally.tally Document.ref State.settled m.process :=
    Tally.tally_resume (fun a _ => by rw [next_spec]; exact ⟨rfl, rfl⟩) hs
  obtain ⟨l₁, a, l₂, hr, -, rfl⟩ := PointProcess.resume_eq_some hs
  have hlogged := h.logged
  rw [hr, List.filterMap_append, List.filterMap_cons] at hlogged
  rw [next_spec] at ht ⊢
  refine ⟨h.refs, ht.trans h.calls, ?_, ?_, ?_⟩
  · show (↑(m.process.issued ++ ([] : List Document)) + ↑m.database.documents + ↑m.database.lost : Multiset Document) = _
    rw [List.append_nil]
    exact h.stored
  · show (↑(m.process.state.lines ++ (unreported a).toList) + ↑((l₁ ++ l₂).filterMap unreported) :
      Multiset LogLine) = ↑(m.database.rejections.map report)
    rw [← hlogged, List.filterMap_append, ← Multiset.coe_add]
    cases hu : unreported a with
    | none => exact congrArg (· + _) (add_zero _)
    | some line =>
      rw [Tally.coe_middle, Option.toList_some, Multiset.coe_singleton]
      abel
  · show m.process.unhandled ++ [] = []
    rw [h.handled]
    rfl

theorem accounted_step (h : Accounted m) (hs : m.step e = some m') : Accounted m' := by
  unfold Mirror.step at hs
  cases hd : e.document m.process.state.built.length with
  | some document =>
    simp only [hd, Option.some.injEq] at hs
    rw [← hs]
    exact accounted_write h (document_ref hd)
  | none =>
    simp only [hd] at hs
    cases e with
    | auditLog data now => cases hs
    | performanceMetric data now => cases hs
    | exec i outcome =>
      obtain ⟨x, hx, rfl⟩ := Option.map_eq_some_iff.mp hs
      exact accounted_exec h hx
    | resume j =>
      obtain ⟨P, hP, rfl⟩ := Option.map_eq_some_iff.mp hs
      exact accounted_resume h hP

theorem documents_cons (k : Nat) (e : Event) (es : List Event) : documents k (e :: es) =
    (e.document k).toList ++ documents (k + (e.document k).toList.length) es := by
  cases hd : e.document k <;> simp [documents, hd]

theorem built_step (hs : m.step e = some m') : m'.process.state.built =
    m.process.state.built ++ (e.document m.process.state.built.length).toList := by
  unfold Mirror.step at hs
  cases hd : e.document m.process.state.built.length with
  | some document =>
    simp only [hd, Option.some.injEq] at hs
    rw [← hs]
    rfl
  | none =>
    simp only [hd] at hs
    rw [Option.toList_none, List.append_nil]
    cases e with
    | auditLog data now => cases hs
    | performanceMetric data now => cases hs
    | exec i outcome =>
      obtain ⟨⟨d, P⟩, hx, rfl⟩ := Option.map_eq_some_iff.mp hs
      obtain ⟨l₁, p, l₂, r, -, -, -, rfl⟩ := PointProcess.answer_eq_some hx
      rfl
    | resume j =>
      obtain ⟨P, hP, rfl⟩ := Option.map_eq_some_iff.mp hs
      obtain ⟨l₁, a, l₂, -, -, rfl⟩ := PointProcess.resume_eq_some hP
      rw [next_spec]
      rfl

theorem built_run {es : List Event} (hr : run Mirror.step m es = some m') :
    m'.process.state.built = m.process.state.built ++ documents m.process.state.built.length es := by
  induction es generalizing m with
  | nil =>
    obtain rfl : m = m' := by simpa [run] using hr
    exact (List.append_nil _).symm
  | cons e es ih =>
    obtain ⟨t, ht, hr⟩ := run_cons hr
    rw [ih hr, built_step ht, documents_cons, List.length_append, List.append_assoc]

end

/-- What a reply on its way is going to have logged. -/
def owed (t : Replied Nat State Document Created JsError) : Option LogLine :=
  match t.reply with
  | .ok _ => none
  | .error error => some (t.cmd.failed error)

/-- Over every interleaving: no promise rejects, and each call waits for MongoDB,
or its reply is on its way, or it has settled; each document built waits, is
stored or is lost, once; and each create rejected is reported once. -/
theorem writes_accounted {es : List Event} {w : World} (hr : run step World.start es = some w) :
    w.process.unhandled = [] ∧
      (↑(w.process.issued.map fun t => t.origin) + ↑(w.process.replied.map fun t => t.origin) +
        ↑w.process.state.settled : Multiset Nat) = Multiset.range (documents 0 es).length ∧
      (↑(w.process.issued.map fun t => t.cmd) + ↑w.database.documents + ↑w.database.lost : Multiset Document) =
        ↑(documents 0 es) ∧
      (w.database.documents.map Document.ref).Nodup ∧
      (↑w.process.state.lines + ↑(w.process.replied.filterMap owed) : Multiset LogLine) =
        ↑(w.database.rejections.map report) := by
  obtain ⟨m, hm, rfl⟩ := run_lift (t := Mirror.start) step_mirror hr
  have hb : m.process.state.built = documents 0 es := built_run hm
  have h : Accounted m :=
    run_invariant (fun m e m' h _ hs => accounted_step h hs) accounted_start (along_true _ _) hm
  rw [← hb]
  refine ⟨h.handled, ?_, ?_, ?_, ?_⟩
  · have hi : m.world.process.issued.map (fun t => t.origin) = m.process.issued.map Document.ref := List.map_map ..
    have hj : m.world.process.replied.map (fun t => t.origin) = m.process.replied.map fun a => a.1.ref :=
      List.map_map ..
    rw [hi, hj]
    exact h.calls
  · have hi : m.world.process.issued.map (fun t => t.cmd) = m.process.issued := by
      show (m.process.issued.map points.thread).map (fun t => t.cmd) = m.process.issued
      rw [List.map_map]
      exact List.map_id _
    rw [hi]
    exact h.stored
  · have hle : (↑m.database.documents : Multiset Document) ≤ ↑m.process.state.built := by
      rw [← h.stored, add_right_comm]
      exact Multiset.le_add_left _ _
    have hn : (m.process.state.built.map Document.ref).Nodup := by
      rw [h.refs]
      exact List.nodup_range
    exact Multiset.coe_nodup.mp (Multiset.nodup_of_le (Multiset.map_le_map hle) hn)
  · have hj : m.world.process.replied.filterMap owed = m.process.replied.filterMap unreported := by
      show (m.process.replied.map _).filterMap owed = _
      rw [List.filterMap_map]
      refine List.filterMap_congr fun a _ => ?_
      obtain ⟨document, r⟩ := a
      cases r <;> rfl
    rw [hj]
    exact h.logged

def login : AuditLog := ⟨"admin", "LOGIN", "users", none, none, none, "203.0.113.7"⟩
def healthCheck : PerformanceMetric := ⟨"/api/v1/health", "GET", 12, 200, none, some 0, none, none⟩

/-- Two writes, the second rejected though it was carried out. -/
def loginAndMetric : List Event :=
  [.auditLog login 0, .performanceMetric healthCheck 5, .exec 1 (.rejected true ⟨"socket hang up"⟩), .exec 0 .answered,
    .resume 0]

theorem writes_accounted_login : ∃ w, run step World.start loginAndMetric = some w ∧
    (↑(w.process.issued.map fun t => t.cmd) + ↑w.database.documents + ↑w.database.lost : Multiset Document) =
      ↑(documents 0 loginAndMetric) := by
  obtain ⟨w, hw⟩ := Option.isSome_iff_exists.mp (show (run step World.start loginAndMetric).isSome = true from rfl)
  exact ⟨w, hw, (writes_accounted hw).2.2.1⟩

end LogWrites

end StayApi
