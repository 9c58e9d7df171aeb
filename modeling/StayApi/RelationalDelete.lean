import Mathlib.Data.List.Nodup
import StayApi.Relational

/-!
# What waits after a delete

The references to the rows that go are seen to one after another. What they have
done so far can be read off the list of those that had their turn: which rows a
cascade took, and which columns of the others were made null. A `DELETE` that
succeeds so leaves what it leaves with all its checks at the end; and it succeeds
if the rows that a check would find are taken by a cascade before it.
-/

set_option linter.unusedSectionVars false

namespace StayApi.Relational

section
variable {τ κ ν δ : Type} [DecidableEq τ] [DecidableEq κ] [DecidableEq ν] {S : Schema τ κ ν}
variable {db db' live : List (Row τ κ ν δ)} {gone : List (τ × ν)} {r : Row τ κ ν δ} {t : τ} {p : Row τ κ ν δ → Bool}

/-! ## What falls with the rows deleted -/

theorem length_unmatched (t : τ) (p : Row τ κ ν δ → Bool) (db : List (Row τ κ ν δ)) :
    (unmatched t p db).length ≤ db.length := List.length_filter_le ..

theorem mem_matched : r ∈ matched t p db ↔ r ∈ db ∧ r.table = t ∧ p r = true := by
  simp only [matched, List.mem_filter, Bool.and_eq_true, decide_eq_true_eq]

theorem mem_unmatched : r ∈ unmatched t p db ↔ r ∈ db ∧ ¬ (r.table = t ∧ p r = true) := by
  simp only [unmatched, List.mem_filter, Bool.not_eq_true', ← Bool.not_eq_true, Bool.and_eq_true, decide_eq_true_eq]

theorem swept_live : (swept S t p db).2 = (unmatched t p db).filter fun r => !refers S .cascade (swept S t p db).1 r :=
  sweep_live (length_unmatched t p db)

theorem mem_swept_live : r ∈ (swept S t p db).2 ↔
    r ∈ db ∧ ¬ (r.table = t ∧ p r = true) ∧ refers S .cascade (swept S t p db).1 r = false := by
  rw [swept_live, List.mem_filter, mem_unmatched, Bool.not_eq_true', and_assoc]

theorem swept_hit {i : τ × ν} (hr : r ∈ db) (ht : r.table = t) (hp : p r = true) (hi : r.id S = some i) :
    i ∈ (swept S t p db).1 := by
  apply sweep_mono
  exact List.mem_filterMap.mpr ⟨r, mem_matched.mpr ⟨hr, ht, hp⟩, hi⟩

theorem swept_closed {i : τ × ν} (hr : r ∈ db) (hc : refers S .cascade (swept S t p db).1 r = true)
    (hi : r.id S = some i) : i ∈ (swept S t p db).1 := by
  by_cases h : r.table = t ∧ p r = true
  · exact swept_hit hr h.1 h.2 hi
  · exact sweep_closed (length_unmatched t p db) (mem_unmatched.mpr ⟨hr, h⟩) hc hi

theorem swept_left {i : τ × ν} (hr : r ∈ db) (hi : r.id S = some i) (hg : i ∉ (swept S t p db).1) :
    r ∈ (swept S t p db).2 := by
  refine mem_swept_live.mpr ⟨hr, ?_, ?_⟩
  · rintro ⟨ht, hp⟩
    exact hg (swept_hit hr ht hp hi)
  · apply Bool.eq_false_iff.mpr
    intro hc
    exact hg (swept_closed hr hc hi)

theorem swept_induct {P : τ × ν → Prop} (h0 : ∀ r ∈ db, r.table = t → p r = true → ∀ i, r.id S = some i → P i)
    (hs : ∀ r ∈ db, ∀ fk ∈ (S r.table).foreignKeys, fk.onDelete = .cascade → ∀ i j, fk.ref r = some i → P i →
      r.id S = some j → P j) : ∀ i ∈ (swept S t p db).1, P i := by
  refine sweep_induct ?_ fun r hr => hs r (mem_unmatched.mp hr).1
  intro i hi
  obtain ⟨r, hr, hid⟩ := List.mem_filterMap.mp hi
  obtain ⟨hr, ht, hp⟩ := mem_matched.mp hr
  exact h0 r hr ht hp i hid

theorem nullify_some {c : κ} {v : ν} (h : (nullify S gone r).cols c = some v) : r.cols c = some v := by
  simp only [nullify] at h
  split at h
  · cases h
  · exact h

theorem nullify_ref {fk : ForeignKey τ κ} {i : τ × ν} (h : fk.ref (nullify S gone r) = some i) : fk.ref r = some i := by
  obtain ⟨ht, hc⟩ := ref_eq_some.mp h
  exact ref_eq_some.mpr ⟨ht, nullify_some hc⟩

theorem nullify_clears {fk : ForeignKey τ κ} {i : τ × ν} (hfk : fk ∈ (S r.table).foreignKeys)
    (ha : fk.onDelete = .setNull) (h : fk.ref (nullify S gone r) = some i) : i ∉ gone := by
  intro hg
  have hi := nullify_ref h
  have hn : (nullify S gone r).cols fk.column = none := by
    simp only [nullify]
    apply if_pos
    exact List.any_eq_true.mpr ⟨fk, hfk, by simp [ha, hi, hg]⟩
  rw [(ref_eq_some.mp h).2] at hn
  cases hn

theorem nullify_self (h : refers S .setNull gone r = false) : nullify S gone r = r := by
  have hcols : (nullify S gone r).cols = r.cols := by
    funext c
    simp only [nullify]
    apply if_neg
    intro hany
    obtain ⟨fk, hfk, hc⟩ := List.any_eq_true.mp hany
    simp only [Bool.and_eq_true, decide_eq_true_eq] at hc
    have : refers S .setNull gone r = true :=
      List.any_eq_true.mpr ⟨fk, hfk, by simp only [Bool.and_eq_true, decide_eq_true_eq]; exact ⟨hc.1.2, hc.2⟩⟩
    rw [h] at this
    cases this
  cases r
  exact congrArg (Row.mk _ · _) hcols

theorem nullify_same {u : List κ} {r' : Row τ κ ν δ} (h : same u (nullify S gone r) (nullify S gone r') = true) :
    same u r r' = true := by
  simp only [same, List.all_eq_true, Bool.and_eq_true, decide_eq_true_eq] at h ⊢
  intro c hc
  obtain ⟨hs, he⟩ := h c hc
  obtain ⟨v, hv⟩ := Option.isSome_iff_exists.mp hs
  have h1 := nullify_some hv
  have h2 := nullify_some (he ▸ hv)
  rw [h1, h2]
  exact ⟨rfl, rfl⟩

theorem deleteAtEnd_eq_some : deleteAtEnd S t p db = some db' ↔
    (∀ r ∈ (swept S t p db).2, refers S .noAction (swept S t p db).1 r = false) ∧
    (∀ r ∈ (swept S t p db).2, refers S .setNull (swept S t p db).1 r = true →
      rowOk S (nullify S (swept S t p db).1 r) = true) ∧
    (swept S t p db).2.map (nullify S (swept S t p db).1) = db' := by
  simp only [deleteAtEnd]
  constructor
  · intro h
    split at h
    · cases h
    · rename_i hn
      split at h
      · cases h
      · rename_i hs
        refine ⟨?_, ?_, Option.some.inj h⟩
        · intro r hr
          apply Bool.eq_false_iff.mpr
          intro hc
          exact hn (List.any_eq_true.mpr ⟨r, hr, hc⟩)
        · intro r hr hc
          by_contra hk
          exact hs (List.any_eq_true.mpr ⟨r, hr, by simp [hc, hk]⟩)
  · rintro ⟨hn, hs, rfl⟩
    rw [if_neg, if_neg]
    · intro h
      obtain ⟨r, hr, hc⟩ := List.any_eq_true.mp h
      simp only [Bool.and_eq_true, Bool.not_eq_true'] at hc
      rw [hs r hr hc.1] at hc
      cases hc.2
    · intro h
      obtain ⟨r, hr, hc⟩ := List.any_eq_true.mp h
      rw [hn r hr] at hc
      cases hc

/-! ## What has had its turn -/

namespace Pending

def takes (e : Pending τ κ ν) (r : Row τ κ ν δ) : Bool := e.fk.onDelete = .cascade && e.hits r

def nulls (e : Pending τ κ ν) (c : κ) (r : Row τ κ ν δ) : Bool :=
  e.fk.onDelete = .setNull && (e.fk.column = c && e.hits r)

variable (S) in
def Declared (e : Pending τ κ ν) : Prop := e.fk ∈ (S e.table).foreignKeys ∧ e.fk.target = e.gone.1

end Pending

def stays (E : List (Pending τ κ ν)) (r : Row τ κ ν δ) : Bool := !E.any fun e => e.takes r

def cleared (E : List (Pending τ κ ν)) (r : Row τ κ ν δ) : Row τ κ ν δ :=
  { r with cols := fun c => if E.any fun e => e.nulls c r then none else r.cols c }

/-- What is left of the rows when those of `E` have had their turn. -/
def left (E : List (Pending τ κ ν)) (live : List (Row τ κ ν δ)) : List (Row τ κ ν δ) :=
  (live.filter (stays E)).map (cleared E)

variable {i : τ × ν} {e : Pending τ κ ν} {E queue : List (Pending τ κ ν)}

theorem hits_iff : e.hits r = true ↔ r.table = e.table ∧ e.fk.ref r = some e.gone := by
  simp only [Pending.hits, Bool.and_eq_true, decide_eq_true_eq]

theorem takes_iff : e.takes r = true ↔ e.fk.onDelete = .cascade ∧ e.hits r = true := by
  simp only [Pending.takes, Bool.and_eq_true, decide_eq_true_eq]

theorem nulls_iff {c : κ} : e.nulls c r = true ↔ e.fk.onDelete = .setNull ∧ e.fk.column = c ∧ e.hits r = true := by
  simp only [Pending.nulls, Bool.and_eq_true, decide_eq_true_eq]

theorem mem_pending : e ∈ pending S i ↔ e.gone = i ∧ e.Declared S := by
  unfold pending Pending.Declared
  simp only [List.mem_flatMap, List.mem_map, List.mem_filter, decide_eq_true_eq]
  constructor
  · rintro ⟨t, -, fk, ⟨hfk, ht⟩, rfl⟩
    exact ⟨rfl, hfk, ht⟩
  · rintro ⟨rfl, hfk, ht⟩
    exact ⟨e.table, S.complete _, e.fk, ⟨hfk, ht⟩, rfl⟩

theorem stays_iff : stays E r = true ↔ ∀ e ∈ E, e.takes r = false := by
  simp only [stays, Bool.not_eq_true', List.any_eq_false, Bool.not_eq_true]

theorem stays_snoc : stays (E ++ [e]) r = (stays E r && !e.takes r) := by
  simp [stays]

theorem mem_left {r' : Row τ κ ν δ} : r' ∈ left E live ↔ ∃ r ∈ live, stays E r = true ∧ cleared E r = r' := by
  simp only [left, List.mem_map, List.mem_filter, and_assoc]

/-! ## The columns made null -/

theorem column_unique {t : τ} {fk fk' : ForeignKey τ κ} (h : fk ∈ (S t).foreignKeys) (h' : fk' ∈ (S t).foreignKeys)
    (hc : fk.column = fk'.column) : fk = fk' :=
  List.inj_on_of_nodup_map (S.columns_nodup t) h h' hc

theorem cleared_same {c : κ} (h : ∀ e ∈ E, e.nulls c r = false) : (cleared E r).cols c = r.cols c := by
  apply if_neg
  simpa only [List.any_eq_true, not_exists, not_and, Bool.not_eq_true] using h

theorem cleared_null {c : κ} (he : e ∈ E) (h : e.nulls c r = true) : (cleared E r).cols c = none :=
  if_pos (List.any_eq_true.mpr ⟨e, he, h⟩)

theorem cleared_some {c : κ} {v : ν} (h : (cleared E r).cols c = some v) : r.cols c = some v := by
  simp only [cleared] at h
  split at h
  · cases h
  · exact h

/-- Only a column with `SET NULL` is made null. -/
theorem cleared_cols (hE : ∀ e ∈ E, e.Declared S) (r : Row τ κ ν δ) (c : κ) : (cleared E r).cols c = r.cols c ∨
    ∃ fk ∈ (S r.table).foreignKeys, fk.onDelete = .setNull ∧ fk.column = c := by
  by_cases h : ∀ e ∈ E, e.nulls c r = false
  · exact .inl (cleared_same h)
  · simp only [not_forall, Bool.not_eq_false] at h
    obtain ⟨e, he, hn⟩ := h
    obtain ⟨hs, hc, hh⟩ := nulls_iff.mp hn
    exact .inr ⟨e.fk, (hits_iff.mp hh).1 ▸ (hE e he).1, hs, hc⟩

theorem cleared_column (hE : ∀ e ∈ E, e.Declared S) {fk : ForeignKey τ κ} (hfk : fk ∈ (S r.table).foreignKeys)
    (ha : fk.onDelete ≠ .setNull) : (cleared E r).cols fk.column = r.cols fk.column := by
  rcases cleared_cols hE r fk.column with h | ⟨fk', hfk', ha', hc⟩
  · exact h
  · rw [column_unique hfk' hfk hc] at ha'
    exact absurd ha' ha

theorem cleared_id (hE : ∀ e ∈ E, e.Declared S) : (cleared E r).id S = r.id S := by
  have hkey : (cleared E r).cols (S r.table).key = r.cols (S r.table).key := by
    rcases cleared_cols hE r (S r.table).key with h | ⟨fk, hfk, ha, hc⟩
    · exact h
    · exact absurd hc (S.setNull_key r.table fk hfk ha)
  unfold Row.id
  rw [show (cleared E r).table = r.table from rfl, hkey]

theorem hits_cleared (hE : ∀ e ∈ E, e.Declared S) (he : e.Declared S) (ha : e.fk.onDelete ≠ .setNull) :
    e.hits (cleared E r) = e.hits r := by
  unfold Pending.hits ForeignKey.ref
  rw [show (cleared E r).table = r.table from rfl]
  by_cases ht : r.table = e.table
  · rw [cleared_column hE (ht ▸ he.1) ha]
  · simp [ht]

theorem hits_of_cleared (h : e.hits (cleared E r) = true) : e.hits r = true := by
  obtain ⟨ht, hr⟩ := hits_iff.mp h
  obtain ⟨htarget, hc⟩ := ref_eq_some.mp hr
  exact hits_iff.mpr ⟨ht, ref_eq_some.mpr ⟨htarget, cleared_some hc⟩⟩

theorem row_ext {r r' : Row τ κ ν δ} (ht : r.table = r'.table) (hc : ∀ c, r.cols c = r'.cols c) (hd : r.data = r'.data) :
    r = r' := by
  cases r
  cases r'
  obtain rfl := ht
  obtain rfl := hd
  exact congrArg (Row.mk _ · _) (funext hc)

theorem cleared_nil : cleared [] r = r := row_ext rfl (fun _ => rfl) rfl

theorem cleared_snoc (ha : e.fk.onDelete ≠ .setNull) : cleared (E ++ [e]) r = cleared E r := by
  refine row_ext rfl (fun c => ?_) rfl
  simp [cleared, Pending.nulls, ha]

/-- A column that was made null before is not made null again. -/
theorem cleared_clear (ha : e.fk.onDelete = .setNull) :
    (if e.hits (cleared E r) then (cleared E r).clear e.fk.column else cleared E r) = cleared (E ++ [e]) r := by
  have hold : ∀ c, (cleared E r).cols c = none → (cleared (E ++ [e]) r).cols c = none := by
    intro c h
    simp only [cleared, List.any_append, Bool.or_eq_true] at h ⊢
    split at h
    · rename_i hn
      rw [if_pos (.inl hn)]
    · rw [h, ite_self]
  by_cases hh : e.hits (cleared E r) = true
  · have hr := hits_of_cleared hh
    rw [if_pos hh]
    refine row_ext rfl (fun c => ?_) rfl
    by_cases hc : c = e.fk.column
    · subst hc
      have hn : e.nulls e.fk.column r = true := nulls_iff.mpr ⟨ha, rfl, hr⟩
      rw [cleared_null (List.mem_append_right _ (List.mem_singleton_self e)) hn]
      exact if_pos rfl
    · simp [Row.clear, hc, cleared, Pending.nulls, Ne.symm hc]
  · rw [if_neg hh]
    refine row_ext rfl (fun c => ?_) rfl
    by_cases hn : e.nulls c r = true
    · obtain ⟨-, rfl, hr⟩ := nulls_iff.mp hn
      obtain ⟨ht, hr⟩ := hits_iff.mp hr
      have hnull : (cleared E r).cols e.fk.column = none := by
        by_contra hne
        obtain ⟨v, hv⟩ := Option.ne_none_iff_exists'.mp hne
        obtain ⟨htarget, hc⟩ := ref_eq_some.mp hr
        rw [cleared_some hv] at hc
        exact hh (hits_iff.mpr ⟨ht, ref_eq_some.mpr ⟨htarget, hv.trans hc⟩⟩)
      rw [hnull, hold _ hnull]
    · simp [cleared, hn]

/-! ## One turn -/

theorem left_nil (live : List (Row τ κ ν δ)) : left [] live = live := by
  have hfilter : live.filter (stays []) = live := List.filter_eq_self.mpr fun r _ => rfl
  unfold left
  rw [hfilter]
  exact (List.map_congr_left fun r _ => cleared_nil).trans (List.map_id _)

theorem left_after (hE : ∀ e ∈ E, e.Declared S) (he : e.Declared S) : e.after (left E live) = left (E ++ [e]) live := by
  have hsame (ha : e.fk.onDelete ≠ .cascade) : live.filter (stays (E ++ [e])) = live.filter (stays E) :=
    List.filter_congr fun r _ => by simp [stays_snoc, Pending.takes, ha]
  unfold Pending.after
  cases ha : e.fk.onDelete with
  | noAction =>
    unfold left
    rw [hsame (by simp [ha])]
    exact List.map_congr_left fun r _ => (cleared_snoc (by simp [ha])).symm
  | cascade =>
    have hne : e.fk.onDelete ≠ .setNull := by simp [ha]
    unfold left
    rw [List.filter_map, List.filter_filter]
    have hfilter : live.filter (fun r => ((fun r => !e.hits r) ∘ cleared E) r && stays E r) =
        live.filter (stays (E ++ [e])) := by
      apply List.filter_congr
      intro r _
      simp [stays_snoc, Pending.takes, ha, hits_cleared hE he hne, Bool.and_comm]
    rw [hfilter]
    exact List.map_congr_left fun r _ => (cleared_snoc hne).symm
  | setNull =>
    unfold left
    rw [hsame (by simp [ha]), List.map_map]
    exact List.map_congr_left fun r _ => cleared_clear ha

/-- The first in the queue has its turn. -/
theorem fire_left (hE : ∀ e ∈ E, e.Declared S) (he : e.Declared S) (n : Nat) :
    fire S (n + 1) (e :: queue) (left E live) =
      if e.fails S (left E live) then none
      else fire S n (queue ++ e.adds S (left E live)) (left (E ++ [e]) live) := by
  rw [fire, left_after hE he]

/-! ## A delete that succeeds -/

variable (S db t p) in
/-- Those of `E` have had their turn, and `queue` waits for it. -/
structure Fired (E queue : List (Pending τ κ ν)) : Prop where
  declared : ∀ e ∈ E ++ queue, e.Declared S
  gone : ∀ e ∈ E ++ queue, e.gone ∈ (swept S t p db).1
  queued : ∀ r ∈ db, (r.table = t ∧ p r = true) ∨ stays E r = false → ∀ i, r.id S = some i →
    ∀ e ∈ pending S i, e ∈ E ++ queue

variable (S db t p) in
/-- None of them has failed. -/
structure Passed (E : List (Pending τ κ ν)) : Prop where
  checked : ∀ e ∈ E, e.fk.onDelete = .noAction → ∀ r ∈ unmatched t p db, stays E r = true → e.hits r = false
  rows : ∀ r ∈ unmatched t p db, stays E r = true → rowOk S (cleared E r) = true

theorem declared_refers (he : e.Declared S) (hh : e.hits r = true) (hg : e.gone ∈ gone) :
    refers S e.fk.onDelete gone r = true := by
  obtain ⟨ht, hr⟩ := hits_iff.mp hh
  exact refers_iff.mpr ⟨e.fk, ht ▸ he.1, rfl, _, hr, hg⟩

theorem mem_adds (hE : ∀ e ∈ E, e.Declared S) (he : e.Declared S) {e' : Pending τ κ ν} :
    e' ∈ e.adds S (left E live) ↔
      ∃ r ∈ live, stays E r = true ∧ e.takes r = true ∧ ∃ i, r.id S = some i ∧ e' ∈ pending S i := by
  have hids (ha : e.fk.onDelete = .cascade) (i : τ × ν) : i ∈ ((left E live).filter e.hits).filterMap (Row.id S) ↔
      ∃ r ∈ live, stays E r = true ∧ e.hits r = true ∧ r.id S = some i := by
    have hne : e.fk.onDelete ≠ .setNull := by simp [ha]
    simp only [List.mem_filterMap, List.mem_filter, mem_left]
    constructor
    · rintro ⟨-, ⟨⟨r, hr, hs, rfl⟩, hh⟩, hi⟩
      exact ⟨r, hr, hs, hits_cleared hE he hne ▸ hh, cleared_id hE ▸ hi⟩
    · rintro ⟨r, hr, hs, hh, hi⟩
      exact ⟨_, ⟨⟨r, hr, hs, rfl⟩, (hits_cleared hE he hne).trans hh⟩, (cleared_id hE).trans hi⟩
  unfold Pending.adds
  cases ha : e.fk.onDelete with
  | cascade =>
    simp only [List.mem_flatMap, hids ha, Pending.takes, ha, decide_true, Bool.true_and]
    constructor
    · rintro ⟨i, ⟨r, hr, hs, hh, hi⟩, hm⟩
      exact ⟨r, hr, hs, hh, i, hi, hm⟩
    · rintro ⟨r, hr, hs, hh, i, hi, hm⟩
      exact ⟨i, ⟨r, hr, hs, hh, hi⟩, hm⟩
  | noAction => simp [Pending.takes, ha]
  | setNull => simp [Pending.takes, ha]

theorem fired_start : Fired S db t p [] (((matched t p db).filterMap (Row.id S)).flatMap (pending S)) := by
  refine ⟨?_, ?_, ?_⟩
  · intro e he
    obtain ⟨i, -, he⟩ := List.mem_flatMap.mp he
    exact (mem_pending.mp he).2
  · intro e he
    obtain ⟨i, hi, he⟩ := List.mem_flatMap.mp he
    obtain ⟨r, hr, hid⟩ := List.mem_filterMap.mp hi
    obtain ⟨hr, ht, hp⟩ := mem_matched.mp hr
    exact (mem_pending.mp he).1 ▸ swept_hit hr ht hp hid
  · rintro r hr (⟨ht, hp⟩ | hs) i hi e he
    · exact List.mem_flatMap.mpr ⟨i, List.mem_filterMap.mpr ⟨r, mem_matched.mpr ⟨hr, ht, hp⟩, hi⟩, he⟩
    · cases hs

theorem fired_declared (h : Fired S db t p E (e :: queue)) : (∀ e ∈ E, e.Declared S) ∧ e.Declared S :=
  ⟨fun e he => h.declared e (List.mem_append_left _ he), h.declared e (by simp)⟩

theorem fired_next (h : Fired S db t p E (e :: queue)) :
    Fired S db t p (E ++ [e]) (queue ++ e.adds S (left E (unmatched t p db))) := by
  obtain ⟨hE, he⟩ := fired_declared h
  have hmem : e ∈ E ++ e :: queue := by simp
  have hold : ∀ {e'}, e' ∈ E ++ e :: queue → e' ∈ (E ++ [e]) ++ (queue ++ e.adds S (left E (unmatched t p db))) := by
    intro e' hm
    rw [List.append_assoc, List.singleton_append]
    rcases List.mem_append.mp hm with hm | hm
    · exact List.mem_append_left _ hm
    · exact List.mem_append_right _ (List.mem_append_left _ hm)
  have hnew : ∀ {e'}, e' ∈ (E ++ [e]) ++ (queue ++ e.adds S (left E (unmatched t p db))) →
      e' ∈ E ++ e :: queue ∨ e' ∈ e.adds S (left E (unmatched t p db)) := by
    intro e' hm
    rw [List.append_assoc, List.singleton_append, ← List.cons_append, ← List.append_assoc] at hm
    exact List.mem_append.mp hm
  refine ⟨fun e' hm => ?_, fun e' hm => ?_, fun r hr hout i hi e' he' => ?_⟩
  · rcases hnew hm with hm | hm
    · exact h.declared e' hm
    · obtain ⟨-, -, -, -, i, -, hp⟩ := (mem_adds hE he).mp hm
      exact (mem_pending.mp hp).2
  · rcases hnew hm with hm | hm
    · exact h.gone e' hm
    · obtain ⟨r, hr, -, ht, i, hi, hp⟩ := (mem_adds hE he).mp hm
      obtain ⟨ha, hh⟩ := takes_iff.mp ht
      rw [(mem_pending.mp hp).1]
      exact swept_closed (mem_unmatched.mp hr).1 (ha ▸ declared_refers he hh (h.gone e hmem)) hi
  · by_cases hbefore : (r.table = t ∧ p r = true) ∨ stays E r = false
    · exact hold (h.queued r hr hbefore i hi e' he')
    · simp only [not_or, Bool.not_eq_false] at hbefore
      obtain ⟨hm, hs⟩ := hbefore
      have ht : e.takes r = true := by
        simpa [stays_snoc, hs] using hout.resolve_left hm
      refine List.mem_append_right _ (List.mem_append_right _ ((mem_adds hE he).mpr ?_))
      exact ⟨r, mem_unmatched.mpr ⟨hr, hm⟩, hs, ht, i, hi, he'⟩

theorem passed_next (hE : ∀ e ∈ E, e.Declared S) (he : e.Declared S) (h : Passed S db t p E)
    (hf : e.fails S (left E (unmatched t p db)) = false) : Passed S db t p (E ++ [e]) := by
  have hstays : ∀ {r : Row τ κ ν δ}, stays (E ++ [e]) r = true → stays E r = true := by
    intro r hs
    rw [stays_snoc, Bool.and_eq_true] at hs
    exact hs.1
  unfold Pending.fails at hf
  constructor
  · intro e' he' ha r hr hs
    rcases List.mem_append.mp he' with he' | he'
    · exact h.checked e' he' ha r hr (hstays hs)
    · obtain rfl := List.mem_singleton.mp he'
      simp only [ha] at hf
      rw [← hits_cleared hE he (by simp [ha])]
      simpa using List.any_eq_false.mp hf _ (mem_left.mpr ⟨r, hr, hstays hs, rfl⟩)
  · intro r hr hs
    have hok := h.rows r hr (hstays hs)
    by_cases ha : e.fk.onDelete = .setNull
    · rw [← cleared_clear ha]
      split
      · rename_i hh
        simp only [ha] at hf
        have hrow := List.any_eq_false.mp hf _ (mem_left.mpr ⟨r, hr, hstays hs, rfl⟩)
        simpa [hh] using hrow
      · exact hok
    · rw [cleared_snoc ha]
      exact hok

/-- In the end all the references to what is gone have had their turn, and no others. -/
theorem fired_hits (h : Fired S db t p E []) (Q : ForeignKey τ κ → Prop) :
    (∃ e ∈ E, e.hits r = true ∧ Q e.fk) ↔
      ∃ fk ∈ (S r.table).foreignKeys, Q fk ∧ ∃ i, fk.ref r = some i ∧ i ∈ (swept S t p db).1 := by
  have hE : ∀ e, e ∈ E ↔ e ∈ E ++ [] := fun e => by rw [List.append_nil]
  have hall : ∀ i ∈ (swept S t p db).1, ∀ e ∈ pending S i, e ∈ E := by
    apply swept_induct
    · intro r hr ht hp i hi e he
      exact (hE e).mpr (h.queued r hr (.inl ⟨ht, hp⟩) i hi e he)
    · intro r hr fk hfk ha i j hi hP hj e he
      have hm : ⟨i, r.table, fk⟩ ∈ E := hP _ (mem_pending.mpr ⟨rfl, hfk, (ref_eq_some.mp hi).1⟩)
      have hout : stays E r = false := by
        apply Bool.eq_false_iff.mpr
        intro hs
        have hno := stays_iff.mp hs _ hm
        rw [takes_iff.mpr ⟨ha, hits_iff.mpr ⟨rfl, hi⟩⟩] at hno
        cases hno
      exact (hE e).mpr (h.queued r hr (.inr hout) j hj e he)
  constructor
  · rintro ⟨e, he, hh, hQ⟩
    obtain ⟨ht, hr⟩ := hits_iff.mp hh
    exact ⟨e.fk, ht ▸ (h.declared e ((hE e).mp he)).1, hQ, _, hr, h.gone e ((hE e).mp he)⟩
  · rintro ⟨fk, hfk, hQ, i, hi, hg⟩
    exact ⟨⟨i, r.table, fk⟩, hall i hg _ (mem_pending.mpr ⟨rfl, hfk, (ref_eq_some.mp hi).1⟩), hits_iff.mpr ⟨rfl, hi⟩, hQ⟩

theorem fired_stays (h : Fired S db t p E []) : stays E r = !refers S .cascade (swept S t p db).1 r := by
  have hc := fired_hits (r := r) h fun fk => fk.onDelete = .cascade
  rw [← refers_iff] at hc
  rw [Bool.eq_iff_iff, stays_iff, Bool.not_eq_true', ← Bool.not_eq_true, ← hc]
  constructor
  · rintro hs ⟨e, he, hh, ha⟩
    have hno := hs e he
    rw [takes_iff.mpr ⟨ha, hh⟩] at hno
    cases hno
  · intro hno e he
    apply Bool.eq_false_iff.mpr
    intro ht
    obtain ⟨ha, hh⟩ := takes_iff.mp ht
    exact hno ⟨e, he, hh, ha⟩

theorem fired_cleared (h : Fired S db t p E []) : nullify S (swept S t p db).1 r = cleared E r := by
  refine row_ext rfl (fun c => ?_) rfl
  have hc := fired_hits (r := r) h fun fk => fk.column = c ∧ fk.onDelete = .setNull
  have hany : ((S r.table).foreignKeys.any fun fk =>
      fk.column = c && fk.onDelete = .setNull && (fk.ref r).any (· ∈ (swept S t p db).1)) = true ↔
      (E.any fun e => e.nulls c r) = true := by
    simp only [List.any_eq_true, Bool.and_eq_true, decide_eq_true_eq, Option.any_eq_true, nulls_iff]
    rw [← hc]
    exact exists_congr fun e => and_congr_right fun _ =>
      ⟨fun ⟨hh, hcol, ha⟩ => ⟨ha, hcol, hh⟩, fun ⟨ha, hcol, hh⟩ => ⟨hh, hcol, ha⟩⟩
  simp only [nullify, cleared]
  rw [Bool.eq_iff_iff.mpr hany]

theorem fire_passed {n : Nat} (h : Fired S db t p E queue) (hp : Passed S db t p E)
    (hf : fire S n queue (left E (unmatched t p db)) = some db') :
    ∃ E', Fired S db t p E' [] ∧ Passed S db t p E' ∧ left E' (unmatched t p db) = db' := by
  induction n generalizing E queue with
  | zero =>
    cases queue with
    | nil => exact ⟨E, h, hp, Option.some.inj hf⟩
    | cons e queue => cases hf
  | succ n ih =>
    cases queue with
    | nil => exact ⟨E, h, hp, Option.some.inj hf⟩
    | cons e queue =>
      obtain ⟨hE, he⟩ := fired_declared h
      rw [fire_left hE he] at hf
      split at hf
      · cases hf
      · rename_i hok
        exact ih (fired_next h) (passed_next hE he hp (Bool.eq_false_iff.mpr hok)) hf

theorem delete_at_end (hrows : ∀ r ∈ db, rowOk S r = true) (hd : delete S t p db = some db') :
    deleteAtEnd S t p db = some db' := by
  have hstart : Passed S db t p [] := by
    refine ⟨fun e he => (List.not_mem_nil he).elim, fun r hr _ => ?_⟩
    rw [cleared_nil]
    exact hrows r (mem_unmatched.mp hr).1
  unfold delete at hd
  rw [← left_nil (unmatched t p db)] at hd
  obtain ⟨E, hf, hp, rfl⟩ := fire_passed fired_start hstart hd
  have hlive : (swept S t p db).2 = (unmatched t p db).filter (stays E) :=
    swept_live.trans (List.filter_congr fun r _ => (fired_stays hf).symm)
  have hmem : ∀ r ∈ (swept S t p db).2, r ∈ unmatched t p db ∧ stays E r = true := by
    intro r hr
    rw [hlive] at hr
    exact List.mem_filter.mp hr
  refine deleteAtEnd_eq_some.mpr ⟨fun r hr => ?_, fun r hr _ => ?_, ?_⟩
  · obtain ⟨hr, hs⟩ := hmem r hr
    apply Bool.eq_false_iff.mpr
    intro hc
    obtain ⟨e, he, hh, ha⟩ := (fired_hits hf fun fk => fk.onDelete = .noAction).mpr (refers_iff.mp hc)
    rw [hp.checked e he ha r hr hs] at hh
    cases hh
  · obtain ⟨hr, hs⟩ := hmem r hr
    rw [fired_cleared hf]
    exact hp.rows r hr hs
  · rw [hlive]
    exact List.map_congr_left fun r _ => fired_cleared hf

/-! ## A delete that nothing holds up -/

/-- Each row that a check in the queue would find has been seen, or is taken by a
cascade that has its turn before. -/
def Unblocked (live : List (Row τ κ ν δ)) : (Row τ κ ν δ → Prop) → List (Pending τ κ ν) → Prop
  | _, [] => True
  | seen, e :: queue =>
    (e.fk.onDelete = .noAction → ∀ r ∈ live, e.hits r = true → seen r) ∧
      Unblocked live (fun r => seen r ∨ e.takes r = true) queue

theorem unblocked_mono {seen seen' : Row τ κ ν δ → Prop} (hs : ∀ r ∈ live, seen r → seen' r)
    (h : Unblocked live seen queue) : Unblocked live seen' queue := by
  induction queue generalizing seen seen' with
  | nil => trivial
  | cons e queue ih =>
    refine ⟨fun ha r hr hh => hs r hr (h.1 ha r hr hh), ih (fun r hr => ?_) h.2⟩
    exact Or.imp_left (hs r hr)

theorem unblocked_append {seen : Row τ κ ν δ → Prop} {queue' : List (Pending τ κ ν)} (h : Unblocked live seen queue)
    (h' : Unblocked live (fun _ => False) queue') : Unblocked live seen (queue ++ queue') := by
  induction queue generalizing seen with
  | nil => exact unblocked_mono (fun _ _ hf => hf.elim) h'
  | cons e queue ih => exact ⟨h.1, ih h.2⟩

theorem unblocked_flatMap {is : List (τ × ν)} (h : ∀ i ∈ is, Unblocked live (fun _ => False) (pending S i)) :
    Unblocked live (fun _ => False) (is.flatMap (pending S)) := by
  induction is with
  | nil => trivial
  | cons i is ih =>
    rw [List.flatMap_cons]
    exact unblocked_append (h i List.mem_cons_self) (ih fun j hj => h j (List.mem_cons_of_mem _ hj))

theorem unblocked_of_before (hn : queue.Nodup) {seen : Row τ κ ν δ → Prop}
    (h : ∀ e ∈ queue, e.fk.onDelete = .noAction → ∀ r ∈ live, e.hits r = true →
      seen r ∨ ∃ e', [e', e].Sublist queue ∧ e'.takes r = true) : Unblocked live seen queue := by
  induction queue generalizing seen with
  | nil => trivial
  | cons e queue ih =>
    obtain ⟨hout, hn⟩ := List.nodup_cons.mp hn
    refine ⟨fun ha r hr hh => ?_, ih hn fun e₁ he₁ ha r hr hh => ?_⟩
    · rcases h e List.mem_cons_self ha r hr hh with hs | ⟨e', hsub, -⟩
      · exact hs
      · -- nothing is before the first
        have hmem : e ∈ queue := by
          cases hsub with
          | cons _ hsub => exact hsub.subset (by simp)
          | cons_cons _ hsub => exact hsub.subset (by simp)
        exact absurd hmem hout
    · rcases h e₁ (List.mem_cons_of_mem _ he₁) ha r hr hh with hs | ⟨e', hsub, ht⟩
      · exact .inl (.inl hs)
      · cases hsub with
        | cons _ hsub => exact .inr ⟨e', hsub, ht⟩
        | cons_cons _ hsub => exact .inl (.inr ht)

/-- No check holds a row up that a column declared earlier takes along. -/
theorem unblocked_pending (h : ∀ r ∈ live, ∀ fk ∈ (S r.table).foreignKeys, fk.onDelete = .noAction → fk.ref r = some i →
      ∃ fk', fk'.onDelete = .cascade ∧ fk'.ref r = some i ∧ [fk', fk].Sublist (S r.table).foreignKeys) :
    Unblocked live (fun _ => False) (pending S i) := by
  unfold pending
  induction S.tables with
  | nil => trivial
  | cons t ts ih =>
    rw [List.flatMap_cons]
    refine unblocked_append (unblocked_of_before ?_ fun e he ha r hr hh => .inr ?_) ih
    · have hkeys : (S t).foreignKeys.Nodup := (S.columns_nodup t).of_map _
      exact (hkeys.filter _).map fun fk fk' he => (Pending.mk.inj he).2.2
    · obtain ⟨fk, hfk, rfl⟩ := List.mem_map.mp he
      obtain ⟨ht, hi⟩ := hits_iff.mp hh
      obtain rfl : r.table = t := ht
      obtain ⟨fk', ha', hi', hsub⟩ := h r hr fk (List.mem_filter.mp hfk).1 ha hi
      refine ⟨⟨i, r.table, fk'⟩, ?_, takes_iff.mpr ⟨ha', hits_iff.mpr ⟨rfl, hi'⟩⟩⟩
      have hboth : [fk', fk].filter (fun fk => decide (fk.target = i.1)) = [fk', fk] := by
        have hi₁ := (ref_eq_some.mp hi').1
        have hi₂ := (ref_eq_some.mp hi).1
        apply List.filter_eq_self.mpr
        simp only [List.mem_cons, List.not_mem_nil, or_false, decide_eq_true_eq]
        rintro fk (rfl | rfl)
        · exact hi₁
        · exact hi₂
      have hsub := hsub.filter fun fk => decide (fk.target = i.1)
      rw [hboth] at hsub
      exact hsub.map (Pending.mk i r.table)

theorem length_pending : (pending S i).length ≤ references S := by
  unfold pending references
  induction S.tables with
  | nil => exact Nat.le_refl 0
  | cons t ts ih =>
    rw [List.flatMap_cons, List.flatMap_cons, List.length_append, List.length_append, List.length_map]
    exact Nat.add_le_add (List.length_filter_le ..) ih

theorem length_flatMap_pending (is : List (τ × ν)) : (is.flatMap (pending S)).length ≤ is.length * references S := by
  induction is with
  | nil => simp
  | cons i is ih =>
    rw [List.flatMap_cons, List.length_append, List.length_cons, Nat.succ_mul, Nat.add_comm]
    exact Nat.add_le_add ih length_pending

/-- What is left to do grows less: a row is taken once, and has so many references to it. -/
theorem turn_decreases (e : Pending τ κ ν) (live : List (Row τ κ ν δ)) (queue : List (Pending τ κ ν)) :
    (e.after live).length * (references S + 1) + (queue ++ e.adds S live).length + 1 ≤
      live.length * (references S + 1) + (e :: queue).length := by
  unfold Pending.after Pending.adds
  cases e.fk.onDelete with
  | noAction =>
    simp only [List.append_nil, List.length_cons]
    omega
  | setNull =>
    simp only [List.append_nil, List.length_map, List.length_cons]
    omega
  | cascade =>
    have hsplit := List.length_eq_length_filter_add e.hits (l := live)
    have hids := List.length_filterMap_le (Row.id S) (live.filter e.hits)
    have hadds := length_flatMap_pending (S := S) ((live.filter e.hits).filterMap (Row.id S))
    have hmul := Nat.mul_le_mul_right (references S) hids
    rw [hsplit, List.length_append, List.length_cons, Nat.add_mul, Nat.mul_succ (live.filter e.hits).length]
    dsimp only
    omega

theorem fire_steps {n m : Nat} (hn : live.length * (references S + 1) + queue.length ≤ n)
    (hm : live.length * (references S + 1) + queue.length ≤ m) : fire S n queue live = fire S m queue live := by
  induction n generalizing m queue live with
  | zero =>
    obtain rfl : queue = [] := List.eq_nil_of_length_eq_zero (by omega)
    cases m <;> rfl
  | succ n ih =>
    cases queue with
    | nil => cases m <;> rfl
    | cons e queue =>
      cases m with
      | zero => cases hm
      | succ m =>
        have hdecreases := turn_decreases (S := S) e live queue
        rw [fire, fire]
        split
        · rfl
        · exact ih (by omega) (by omega)

theorem start_steps (t : τ) (p : Row τ κ ν δ → Bool) (db : List (Row τ κ ν δ)) :
    (unmatched t p db).length * (references S + 1) +
      (((matched t p db).filterMap (Row.id S)).flatMap (pending S)).length ≤ db.length * (references S + 1) := by
  have hsplit := List.length_eq_length_filter_add (fun r : Row τ κ ν δ => r.table = t && p r) (l := db)
  have hlength := List.length_filterMap_le (Row.id S) (matched t p db)
  have hqueue := length_flatMap_pending (S := S) ((matched t p db).filterMap (Row.id S))
  have hmul := Nat.mul_le_mul_right (references S) hlength
  rw [hsplit, Nat.add_mul, Nat.mul_succ (db.filter _).length]
  unfold matched unmatched at *
  omega

/-- With more steps a `DELETE` does nothing else: it fails only where a check does. -/
theorem delete_steps {n : Nat} (hn : db.length * (references S + 1) ≤ n) : delete S t p db =
    fire S n (((matched t p db).filterMap (Row.id S)).flatMap (pending S)) (unmatched t p db) :=
  fire_steps (start_steps t p db) (Nat.le_trans (start_steps t p db) hn)

theorem fire_succeeds (hnull : ∀ r ∈ db, ∀ E : List (Pending τ κ ν), (∀ e ∈ E, e.Declared S) → rowOk S (cleared E r) = true)
    (hfree : ∀ i ∈ (swept S t p db).1, Unblocked (unmatched t p db) (fun _ => False) (pending S i)) {n : Nat}
    (h : Fired S db t p E queue) (hu : Unblocked (unmatched t p db) (fun r => stays E r = false) queue)
    (hn : (left E (unmatched t p db)).length * (references S + 1) + queue.length ≤ n) :
    ∃ db', fire S n queue (left E (unmatched t p db)) = some db' := by
  induction n generalizing E queue with
  | zero =>
    obtain rfl : queue = [] := List.eq_nil_of_length_eq_zero (by omega)
    exact ⟨_, rfl⟩
  | succ n ih =>
    cases queue with
    | nil => exact ⟨_, rfl⟩
    | cons e queue =>
      obtain ⟨hE, he⟩ := fired_declared h
      have hok : ¬ e.fails S (left E (unmatched t p db)) = true := by
        unfold Pending.fails
        intro hf
        cases ha : e.fk.onDelete with
        | noAction =>
          simp only [ha] at hf
          obtain ⟨r', hm, hh⟩ := List.any_eq_true.mp hf
          obtain ⟨r, hr, hs, rfl⟩ := mem_left.mp hm
          have hseen : stays E r = false := hu.1 ha r hr (hits_of_cleared hh)
          rw [hs] at hseen
          cases hseen
        | cascade => simp [ha] at hf
        | setNull =>
          simp only [ha] at hf
          obtain ⟨r', hm, hh⟩ := List.any_eq_true.mp hf
          obtain ⟨r, hr, -, rfl⟩ := mem_left.mp hm
          obtain ⟨hh, hrow⟩ := Bool.and_eq_true_iff.mp hh
          have hrow' := hnull r (mem_unmatched.mp hr).1 (E ++ [e]) fun e' hm => h.declared e' (by
            rw [List.append_cons]
            exact List.mem_append_left _ hm)
          rw [← cleared_clear ha, if_pos hh] at hrow'
          simp [hrow'] at hrow
      have hadded : Unblocked (unmatched t p db) (fun _ => False) (e.adds S (left E (unmatched t p db))) := by
        unfold Pending.adds
        cases ha : e.fk.onDelete with
        | cascade =>
          refine unblocked_flatMap fun i hi => hfree i ?_
          obtain ⟨r', hm, hid⟩ := List.mem_filterMap.mp hi
          obtain ⟨hm, hh⟩ := List.mem_filter.mp hm
          obtain ⟨r, hr, -, rfl⟩ := mem_left.mp hm
          rw [cleared_id hE] at hid
          exact swept_closed (mem_unmatched.mp hr).1
            (ha ▸ declared_refers he (hits_of_cleared hh) (h.gone e (by simp))) hid
        | noAction => trivial
        | setNull => trivial
      have hdecreases := turn_decreases (S := S) e (left E (unmatched t p db)) queue
      rw [left_after hE he] at hdecreases
      rw [fire_left hE he, if_neg hok]
      refine ih (fired_next h) (unblocked_append (unblocked_mono (fun r _ hs => ?_) hu.2) hadded) (by omega)
      rcases hs with hs | hs
      · simp [stays_snoc, hs]
      · simp [stays_snoc, hs]

theorem delete_succeeds (hnull : ∀ r ∈ db, ∀ E : List (Pending τ κ ν), (∀ e ∈ E, e.Declared S) → rowOk S (cleared E r) = true)
    (hfree : ∀ i ∈ (swept S t p db).1, Unblocked (unmatched t p db) (fun _ => False) (pending S i)) :
    ∃ db', delete S t p db = some db' := by
  have hids : ∀ i ∈ (matched t p db).filterMap (Row.id S), i ∈ (swept S t p db).1 := fun i hi => sweep_mono hi
  unfold delete
  rw [← left_nil (unmatched t p db)]
  refine fire_succeeds hnull hfree fired_start (unblocked_mono (fun _ _ hf => hf.elim) (unblocked_flatMap fun i hi =>
    hfree i (hids i hi))) ?_
  rw [left_nil]
  exact start_steps t p db

end

end StayApi.Relational
