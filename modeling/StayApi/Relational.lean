import Mathlib.Data.List.Basic

/-!
# A relational store

Tables with keys, `NOT NULL`, `UNIQUE`, `CHECK` and foreign key constraints, and
what `INSERT`, `UPDATE` and `DELETE` do to their rows. A statement that would
break a constraint fails and changes nothing. What the references to a deleted row
ask for is done when the rows of the statement are gone, one reference after
another: a `NO ACTION` reference is checked in its turn, before the cascades that
come after it.
-/

set_option linter.unusedSectionVars false

namespace StayApi.Relational

inductive OnDelete where
  | noAction
  | cascade
  | setNull
  deriving DecidableEq

structure ForeignKey (τ κ : Type) where
  column : κ
  /-- the table whose key the column holds -/
  target : τ
  onDelete : OnDelete
  deriving DecidableEq

structure Table (τ κ ν : Type) where
  key : κ
  notNull : List κ
  unique : List (List κ)
  foreignKeys : List (ForeignKey τ κ)
  check : (κ → Option ν) → Bool
  key_notNull : key ∈ notNull

/-- The tables in the order in which they are created. No column has two references,
and none that may become null is a key. -/
structure Schema (τ κ ν : Type) where
  table : τ → Table τ κ ν
  tables : List τ
  complete : ∀ t, t ∈ tables
  columns_nodup : ∀ t, ((table t).foreignKeys.map ForeignKey.column).Nodup
  setNull_key : ∀ t, ∀ fk ∈ (table t).foreignKeys, fk.onDelete = .setNull → fk.column ≠ (table t).key

instance {τ κ ν : Type} : CoeFun (Schema τ κ ν) fun _ => τ → Table τ κ ν := ⟨Schema.table⟩

/-- `cols` are the columns that constraints speak of, `none` where they are null,
and `data` is the rest of the row. -/
structure Row (τ κ ν δ : Type) where
  table : τ
  cols : κ → Option ν
  data : δ

section
variable {τ κ ν δ : Type} [DecidableEq τ] [DecidableEq κ] [DecidableEq ν] (S : Schema τ κ ν)

def Row.id (r : Row τ κ ν δ) : Option (τ × ν) := (r.cols (S r.table).key).map fun v => (r.table, v)

def ForeignKey.ref (fk : ForeignKey τ κ) (r : Row τ κ ν δ) : Option (τ × ν) :=
  (r.cols fk.column).map fun v => (fk.target, v)

/-- Some foreign key of the row with this action refers to one of the rows `gone`. -/
def refers (a : OnDelete) (gone : List (τ × ν)) (r : Row τ κ ν δ) : Bool :=
  (S r.table).foreignKeys.any fun fk => fk.onDelete = a && (fk.ref r).any (· ∈ gone)

/-- The row meets the constraints that concern it alone. -/
def rowOk (r : Row τ κ ν δ) : Bool :=
  ((S r.table).notNull.all fun c => (r.cols c).isSome) && (S r.table).check r.cols

/-- Two rows agree in all the columns, and none of them is null. -/
def same (u : List κ) (r r' : Row τ κ ν δ) : Bool :=
  u.all fun c => (r.cols c).isSome && r.cols c = r'.cols c

def present (db : List (Row τ κ ν δ)) (i : τ × ν) : Bool := db.any fun d => d.id S = some i

def resolves (db : List (Row τ κ ν δ)) (r : Row τ κ ν δ) : Bool :=
  (S r.table).foreignKeys.all fun fk => (fk.ref r).all (present S db)

/-! ## The statements -/

def insert (r : Row τ κ ν δ) (db : List (Row τ κ ν δ)) : Option (List (Row τ κ ν δ)) :=
  let fresh := db.all fun r' => !(r'.table = r.table && (S r.table).unique.any fun u => same u r' r)
  if rowOk S r && fresh && resolves S (db ++ [r]) r then some (db ++ [r]) else none

/-- `UPDATE ... SET`: the columns `set` names, and the rest of the row, each an
expression over the row as it was. -/
def assign (set : List (κ × (Row τ κ ν δ → Option ν))) (f : Row τ κ ν δ → δ) (r : Row τ κ ν δ) : Row τ κ ν δ :=
  { r with cols := fun c => (set.lookup c).elim (r.cols c) fun g => g r, data := f r }

def updated (t : τ) (p : Row τ κ ν δ → Bool) (set : List (κ × (Row τ κ ν δ → Option ν))) (f : Row τ κ ν δ → δ)
    (r : Row τ κ ν δ) : Row τ κ ν δ :=
  if r.table = t && p r then assign set f r else r

/-- One row after another is put in the place of the old one, if it clashes with none
of those that are there by then: `done` have had their turn. -/
def uniqueInTurn (t : τ) (p : Row τ κ ν δ → Bool) (g : Row τ κ ν δ → Row τ κ ν δ) (u : List κ) :
    List (Row τ κ ν δ) → List (Row τ κ ν δ) → Bool
  | _, [] => true
  | done, r :: rows =>
    (!(r.table = t && p r) || (done ++ rows).all fun r' => !(r'.table = t && same u r' (g r))) &&
      uniqueInTurn t p g u (done ++ [g r]) rows

def update (t : τ) (p : Row τ κ ν δ → Bool) (set : List (κ × (Row τ κ ν δ → Option ν))) (f : Row τ κ ν δ → δ)
    (db : List (Row τ κ ν δ)) : Option (List (Row τ κ ν δ)) :=
  let db' := db.map (updated t p set f)
  let rows := db.all fun r => !(r.table = t && p r) || (rowOk S (assign set f r) && resolves S db' (assign set f r))
  let unique := (S t).unique.all fun u => uniqueInTurn t p (updated t p set f) u [] db
  -- a key that changes must not be referred to
  let referring := (set.lookup (S t).key).isNone ||
    db'.all fun r => (S r.table).foreignKeys.all fun fk => !(fk.target = t) || (fk.ref r).all (present S db')
  if rows && unique && referring then some db' else none

/-- What a reference asks for once a row it may lead to is gone, and waits for its turn. -/
structure Pending (τ κ ν : Type) where
  gone : τ × ν
  table : τ
  fk : ForeignKey τ κ

def Pending.hits (e : Pending τ κ ν) (r : Row τ κ ν δ) : Bool := r.table = e.table && e.fk.ref r = some e.gone

/-- All references to the row, in the order in which they were declared. -/
def pending (i : τ × ν) : List (Pending τ κ ν) :=
  S.tables.flatMap fun t => ((S t).foreignKeys.filter fun fk => fk.target = i.1).map fun fk => ⟨i, t, fk⟩

def Row.clear (c : κ) (r : Row τ κ ν δ) : Row τ κ ν δ := { r with cols := fun c' => if c' = c then none else r.cols c' }

namespace Pending

def fails (e : Pending τ κ ν) (live : List (Row τ κ ν δ)) : Bool :=
  match e.fk.onDelete with
  | .noAction => live.any e.hits
  | .cascade => false
  | .setNull => live.any fun r => e.hits r && !rowOk S (r.clear e.fk.column)

/-- The rows that a cascade takes have references to them in turn. -/
def adds (e : Pending τ κ ν) (live : List (Row τ κ ν δ)) : List (Pending τ κ ν) :=
  match e.fk.onDelete with
  | .cascade => ((live.filter e.hits).filterMap (Row.id S)).flatMap (pending S)
  | _ => []

def after (e : Pending τ κ ν) (live : List (Row τ κ ν δ)) : List (Row τ κ ν δ) :=
  match e.fk.onDelete with
  | .noAction => live
  | .cascade => live.filter fun r => !e.hits r
  | .setNull => live.map fun r => if e.hits r then r.clear e.fk.column else r

end Pending

/-- First in, first out. -/
def fire : Nat → List (Pending τ κ ν) → List (Row τ κ ν δ) → Option (List (Row τ κ ν δ))
  | _, [], live => some live
  | 0, _ :: _, _ => none
  | n + 1, e :: queue, live => if e.fails S live then none else fire n (queue ++ e.adds S live) (e.after live)

def matched (t : τ) (p : Row τ κ ν δ → Bool) (db : List (Row τ κ ν δ)) : List (Row τ κ ν δ) :=
  db.filter fun r => r.table = t && p r

def unmatched (t : τ) (p : Row τ κ ν δ → Bool) (db : List (Row τ κ ν δ)) : List (Row τ κ ν δ) :=
  db.filter fun r => !(r.table = t && p r)

def references : Nat := (S.tables.flatMap fun t => (S t).foreignKeys).length

/-- The scan finds the rows in the order of the list. Each row can be taken once only,
so that what waits is done in so many steps. -/
def delete (t : τ) (p : Row τ κ ν δ → Bool) (db : List (Row τ κ ν δ)) : Option (List (Row τ κ ν δ)) :=
  fire S (db.length * (references S + 1)) (((matched t p db).filterMap (Row.id S)).flatMap (pending S)) (unmatched t p db)

inductive Statement (τ κ ν δ : Type) where
  | insert (r : Row τ κ ν δ)
  | update (t : τ) (p : Row τ κ ν δ → Bool) (set : List (κ × (Row τ κ ν δ → Option ν))) (f : Row τ κ ν δ → δ)
  | delete (t : τ) (p : Row τ κ ν δ → Bool)

def exec : Statement τ κ ν δ → List (Row τ κ ν δ) → Option (List (Row τ κ ν δ))
  | .insert r => insert S r
  | .update t p set f => update S t p set f
  | .delete t p => delete S t p

/-- Each statement in its own transaction: one that fails is rolled back. -/
def execAll (db : List (Row τ κ ν δ)) (ss : List (Statement τ κ ν δ)) : List (Row τ κ ν δ) :=
  ss.foldl (fun db s => (exec S s db).getD db) db

/-! ## What a statement leaves if it succeeds -/

/-- The rows that fall with those `gone`, one round of `CASCADE` after another:
which rows are gone, and which are left. -/
def sweep : Nat → List (τ × ν) → List (Row τ κ ν δ) → List (τ × ν) × List (Row τ κ ν δ)
  | 0, gone, live => (gone, live)
  | n + 1, gone, live =>
    if live.any (refers S .cascade gone) then
      sweep n (gone ++ (live.filter (refers S .cascade gone)).filterMap (Row.id S))
        (live.filter fun r => !refers S .cascade gone r)
    else (gone, live)

/-- `SET NULL`. -/
def nullify (gone : List (τ × ν)) (r : Row τ κ ν δ) : Row τ κ ν δ :=
  { r with
    cols := fun c =>
      if (S r.table).foreignKeys.any fun fk => fk.column = c && fk.onDelete = .setNull && (fk.ref r).any (· ∈ gone)
      then none else r.cols c }

def swept (t : τ) (p : Row τ κ ν δ → Bool) (db : List (Row τ κ ν δ)) : List (τ × ν) × List (Row τ κ ν δ) :=
  sweep S db.length ((matched t p db).filterMap (Row.id S)) (unmatched t p db)

/-- A `DELETE` that makes its checks when all cascades are over. -/
def deleteAtEnd (t : τ) (p : Row τ κ ν δ → Bool) (db : List (Row τ κ ν δ)) : Option (List (Row τ κ ν δ)) :=
  let (gone, live) := swept S t p db
  if live.any (refers S .noAction gone) then none
  else if live.any fun r => refers S .setNull gone r && !rowOk S (nullify S gone r) then none
  else some (live.map (nullify S gone))

/-! ## The constraints -/

structure Sound (db : List (Row τ κ ν δ)) : Prop where
  rows : ∀ r ∈ db, rowOk S r = true
  unique : ∀ t, ∀ u ∈ (S t).unique, (db.filter fun r => r.table = t).Pairwise fun r r' => same u r r' = false
  refs : ∀ r ∈ db, ∀ fk ∈ (S r.table).foreignKeys, ∀ i, fk.ref r = some i → ∃ d ∈ db, d.id S = some i

section
variable {S} {db db' live : List (Row τ κ ν δ)} {gone : List (τ × ν)} {r d : Row τ κ ν δ} {t : τ}

theorem refers_iff {a : OnDelete} : refers S a gone r = true ↔
    ∃ fk ∈ (S r.table).foreignKeys, fk.onDelete = a ∧ ∃ i, fk.ref r = some i ∧ i ∈ gone := by
  simp only [refers, List.any_eq_true, Bool.and_eq_true, decide_eq_true_eq, Option.any_eq_true]

theorem present_iff {i : τ × ν} : present S db i = true ↔ ∃ d ∈ db, d.id S = some i := by
  simp only [present, List.any_eq_true, decide_eq_true_eq]

theorem resolves_iff : resolves S db r = true ↔
    ∀ fk ∈ (S r.table).foreignKeys, ∀ i, fk.ref r = some i → ∃ d ∈ db, d.id S = some i := by
  simp only [resolves, List.all_eq_true, Option.all_eq_true, present_iff]

theorem rowOk_notNull (h : rowOk S r = true) {c : κ} (hc : c ∈ (S r.table).notNull) : (r.cols c).isSome = true := by
  simp only [rowOk, Bool.and_eq_true, List.all_eq_true] at h
  exact h.1 c hc

theorem rowOk_id (h : rowOk S r = true) : ∃ v, r.cols (S r.table).key = some v ∧ r.id S = some (r.table, v) := by
  obtain ⟨v, hv⟩ := Option.isSome_iff_exists.mp (rowOk_notNull h (S r.table).key_notNull)
  exact ⟨v, hv, by rw [Row.id, hv]; rfl⟩

theorem id_table {i : τ × ν} (h : r.id S = some i) : r.table = i.1 := by
  obtain ⟨v, -, rfl⟩ := Option.map_eq_some_iff.mp h
  rfl

theorem id_eq_some {i : τ × ν} : r.id S = some i ↔ r.table = i.1 ∧ r.cols (S r.table).key = some i.2 := by
  unfold Row.id
  rw [Option.map_eq_some_iff]
  constructor
  · rintro ⟨v, hv, rfl⟩
    exact ⟨rfl, hv⟩
  · rintro ⟨ht, hv⟩
    exact ⟨i.2, hv, Prod.ext ht rfl⟩

theorem ref_eq_some {fk : ForeignKey τ κ} {i : τ × ν} :
    fk.ref r = some i ↔ fk.target = i.1 ∧ r.cols fk.column = some i.2 := by
  unfold ForeignKey.ref
  rw [Option.map_eq_some_iff]
  constructor
  · rintro ⟨v, hv, rfl⟩
    exact ⟨rfl, hv⟩
  · rintro ⟨ht, hv⟩
    exact ⟨i.2, hv, Prod.ext ht rfl⟩

/-! ## What a cascade takes along -/

theorem refers_mono {a : OnDelete} {gone' : List (τ × ν)} (hg : ∀ i ∈ gone, i ∈ gone') (h : refers S a gone r = true) :
    refers S a gone' r = true := by
  obtain ⟨fk, hfk, ha, i, hi, hm⟩ := refers_iff.mp h
  exact refers_iff.mpr ⟨fk, hfk, ha, i, hi, hg i hm⟩

theorem sweep_mono {n : Nat} {i : τ × ν} (h : i ∈ gone) : i ∈ (sweep S n gone live).1 := by
  induction n generalizing gone live with
  | zero => exact h
  | succ n ih =>
    unfold sweep
    split
    · exact ih (List.mem_append_left _ h)
    · exact h

/-- What is left is what does not refer to a row gone in the end. -/
theorem sweep_live {n : Nat} (hn : live.length ≤ n) :
    (sweep S n gone live).2 = live.filter fun r => !refers S .cascade (sweep S n gone live).1 r := by
  induction n generalizing gone live with
  | zero =>
    obtain rfl := List.eq_nil_of_length_eq_zero (Nat.le_zero.mp hn)
    rfl
  | succ n ih =>
    unfold sweep
    split
    · rename_i hany
      have hlt : (live.filter fun r => !refers S .cascade gone r).length < live.length := by
        obtain ⟨r, hr, hc⟩ := List.any_eq_true.mp hany
        exact List.length_filter_lt_length_iff_exists.mpr ⟨r, hr, by simp [hc]⟩
      rw [ih (by omega), List.filter_filter]
      apply List.filter_congr
      intro r hr
      by_cases hc : refers S .cascade gone r = true
      · have hG : refers S .cascade (sweep S n (gone ++ (live.filter (refers S .cascade gone)).filterMap (Row.id S))
            (live.filter fun r => !refers S .cascade gone r)).1 r = true :=
          refers_mono (fun i hi => sweep_mono (List.mem_append_left _ hi)) hc
        rw [hc, hG]
        rfl
      · simp [hc]
    · rename_i hany
      symm
      apply List.filter_eq_self.mpr
      intro r hr
      have hc : refers S .cascade gone r ≠ true := fun hc => hany (List.any_eq_true.mpr ⟨r, hr, hc⟩)
      simp [hc]

theorem sweep_closed {n : Nat} {i : τ × ν} (hn : live.length ≤ n) (hr : r ∈ live)
    (hc : refers S .cascade (sweep S n gone live).1 r = true) (hi : r.id S = some i) :
    i ∈ (sweep S n gone live).1 := by
  induction n generalizing gone live with
  | zero =>
    obtain rfl := List.eq_nil_of_length_eq_zero (Nat.le_zero.mp hn)
    cases hr
  | succ n ih =>
    unfold sweep at hc ⊢
    split at hc
    · rename_i hany
      rw [if_pos hany]
      have hlt : (live.filter fun r => !refers S .cascade gone r).length < live.length := by
        obtain ⟨r, hr, hc⟩ := List.any_eq_true.mp hany
        exact List.length_filter_lt_length_iff_exists.mpr ⟨r, hr, by simp [hc]⟩
      by_cases hg : refers S .cascade gone r = true
      · apply sweep_mono
        apply List.mem_append_right
        exact List.mem_filterMap.mpr ⟨r, List.mem_filter.mpr ⟨hr, hg⟩, hi⟩
      · exact ih (by omega) (List.mem_filter.mpr ⟨hr, by simp [hg]⟩) hc
    · rename_i hany
      exact absurd (List.any_eq_true.mpr ⟨r, hr, hc⟩) hany

/-- What holds of the rows taken away first, and of each row that refers to one of
which it holds, holds of every row gone in the end. -/
theorem sweep_induct {P : τ × ν → Prop} {n : Nat} (h0 : ∀ i ∈ gone, P i)
    (hs : ∀ r ∈ live, ∀ fk ∈ (S r.table).foreignKeys, fk.onDelete = .cascade → ∀ i j, fk.ref r = some i → P i →
      r.id S = some j → P j) :
    ∀ i ∈ (sweep S n gone live).1, P i := by
  induction n generalizing gone live with
  | zero => exact h0
  | succ n ih =>
    unfold sweep
    split
    · refine ih ?_ fun r hr => hs r (List.mem_filter.mp hr).1
      intro j hj
      rcases List.mem_append.mp hj with hj | hj
      · exact h0 j hj
      · obtain ⟨r, hr, hid⟩ := List.mem_filterMap.mp hj
        obtain ⟨hr, hc⟩ := List.mem_filter.mp hr
        obtain ⟨fk, hfk, ha, i, hi, hg⟩ := refers_iff.mp hc
        exact hs r hr fk hfk ha i j hi (h0 i hg) hid
    · exact h0

end

end

end StayApi.Relational
