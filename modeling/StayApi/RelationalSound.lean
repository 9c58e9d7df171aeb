import StayApi.RelationalDelete

/-!
# No statement breaks a constraint

Each statement that succeeds leaves a store in which all constraints hold, and
so does every sequence of statements. A row outlasts every sequence that deletes
only from tables from which no cascade leads to its own.
-/

set_option linter.unusedSectionVars false

namespace StayApi.Relational

section
variable {τ κ ν δ : Type} [DecidableEq τ] [DecidableEq κ] [DecidableEq ν] {S : Schema τ κ ν}
variable {db db' : List (Row τ κ ν δ)} {gone : List (τ × ν)} {r : Row τ κ ν δ} {t : τ}

/-! ## Deleting -/

section
variable {p : Row τ κ ν δ → Bool}

theorem sound_delete (h : Sound S db) (hd : delete S t p db = some db') : Sound S db' := by
  obtain ⟨hno, hnull, rfl⟩ := deleteAtEnd_eq_some.mp (delete_at_end h.rows hd)
  have hdb : ∀ {r}, r ∈ (swept S t p db).2 → r ∈ db := fun hr => (mem_swept_live.mp hr).1
  have hrow : ∀ r ∈ (swept S t p db).2, rowOk S (nullify S (swept S t p db).1 r) = true := by
    intro r hr
    cases hs : refers S .setNull (swept S t p db).1 r with
    | true => exact hnull r hr hs
    | false =>
      rw [nullify_self hs]
      exact h.rows r (hdb hr)
  have hsub : (swept S t p db).2.Sublist db := by
    rw [swept_live]
    exact List.filter_sublist.trans List.filter_sublist
  refine ⟨?_, ?_, ?_⟩
  · intro r' hr'
    obtain ⟨r, hr, rfl⟩ := List.mem_map.mp hr'
    exact hrow r hr
  · intro t' u hu
    rw [List.filter_map]
    apply List.Pairwise.map _ _ ((h.unique t' u hu).sublist (hsub.filter _))
    intro r r' hs
    apply Bool.eq_false_iff.mpr
    intro hc
    rw [nullify_same hc] at hs
    cases hs
  · intro r' hr' fk hfk i hi
    obtain ⟨r, hr, rfl⟩ := List.mem_map.mp hr'
    obtain ⟨d, hd, hid⟩ := h.refs r (hdb hr) fk hfk i (nullify_ref hi)
    -- each action sees to it that the row referred to is not gone
    have hfk' : fk ∈ (S r.table).foreignKeys := hfk
    have hg : i ∉ (swept S t p db).1 := by
      intro hg
      have hrefers : ∀ a, fk.onDelete = a → refers S a (swept S t p db).1 r = true :=
        fun a ha => refers_iff.mpr ⟨fk, hfk', ha, i, nullify_ref hi, hg⟩
      cases ha : fk.onDelete with
      | noAction =>
        have hc := hrefers _ ha
        rw [hno r hr] at hc
        cases hc
      | cascade =>
        have hc := hrefers _ ha
        rw [(mem_swept_live.mp hr).2.2] at hc
        cases hc
      | setNull => exact nullify_clears hfk' ha hi hg
    have hleft := swept_left hd hid hg
    refine ⟨_, List.mem_map.mpr ⟨d, hleft, rfl⟩, ?_⟩
    obtain ⟨v, hv, hidn⟩ := rowOk_id (hrow d hleft)
    obtain ⟨ht, hk⟩ := id_eq_some.mp hid
    have hkv := nullify_some hv
    rw [hidn]
    apply congrArg some
    refine Prod.ext ht ?_
    show v = i.2
    exact Option.some.inj (hkv.symm.trans hk)

end

/-! ## Inserting and updating -/

theorem insert_eq_some : insert S r db = some db' ↔
    rowOk S r = true ∧ (∀ r' ∈ db, r'.table = r.table → ∀ u ∈ (S r.table).unique, same u r' r = false) ∧
      resolves S (db ++ [r]) r = true ∧ db ++ [r] = db' := by
  have hfresh : (db.all fun r' => !(r'.table = r.table && (S r.table).unique.any fun u => same u r' r)) = true ↔
      ∀ r' ∈ db, r'.table = r.table → ∀ u ∈ (S r.table).unique, same u r' r = false := by
    simp only [List.all_eq_true, Bool.not_eq_true', Bool.and_eq_false_imp, decide_eq_true_eq, List.any_eq_false,
      Bool.not_eq_true]
  simp only [insert]
  rw [← hfresh]
  split
  · rename_i h
    simp only [Bool.and_eq_true] at h
    exact ⟨fun he => ⟨h.1.1, h.1.2, h.2, Option.some.inj he⟩, fun he => congrArg some he.2.2.2⟩
  · rename_i h
    simp only [Bool.and_eq_true, not_and] at h
    refine ⟨fun he => absurd he (by simp), ?_⟩
    rintro ⟨hok, hfr, hres, -⟩
    exact absurd hres (h ⟨hok, hfr⟩)

theorem sound_insert (h : Sound S db) (hi : insert S r db = some db') : Sound S db' := by
  obtain ⟨hok, hfresh, hres, rfl⟩ := insert_eq_some.mp hi
  refine ⟨?_, ?_, ?_⟩
  · intro r' hr'
    rcases List.mem_append.mp hr' with hr' | hr'
    · exact h.rows r' hr'
    · rw [List.mem_singleton.mp hr']
      exact hok
  · intro t' u hu
    rw [List.filter_append, List.pairwise_append]
    refine ⟨h.unique t' u hu, ?_, ?_⟩
    · exact (List.pairwise_singleton _ r).sublist List.filter_sublist
    · intro a ha b hb
      obtain ⟨ha', hta⟩ := List.mem_filter.mp ha
      obtain ⟨hb', htb⟩ := List.mem_filter.mp hb
      obtain rfl := List.mem_singleton.mp hb'
      obtain rfl := of_decide_eq_true htb
      exact hfresh a ha' (of_decide_eq_true hta) u hu
  · intro r' hr' fk hfk i hfi
    rcases List.mem_append.mp hr' with hr' | hr'
    · obtain ⟨d, hd, hid⟩ := h.refs r' hr' fk hfk i hfi
      exact ⟨d, List.mem_append_left _ hd, hid⟩
    · obtain rfl := List.mem_singleton.mp hr'
      exact resolves_iff.mp hres fk hfk i hfi

section
variable {p : Row τ κ ν δ → Bool} {set : List (κ × (Row τ κ ν δ → Option ν))} {f : Row τ κ ν δ → δ}

theorem updated_table : (updated t p set f r).table = r.table := by
  unfold updated
  split <;> rfl

theorem updated_other (h : r.table ≠ t) : updated t p set f r = r := by
  unfold updated
  rw [if_neg]
  simp [h]

theorem updated_id (h : set.lookup (S t).key = none) : (updated t p set f r).id S = r.id S := by
  unfold updated
  split
  · rename_i hh
    simp only [Bool.and_eq_true, decide_eq_true_eq] at hh
    obtain ⟨rfl, -⟩ := hh
    simp only [Row.id, assign, h, Option.elim_none]
  · rfl

theorem same_comm {u : List κ} {r' : Row τ κ ν δ} (h : same u r r' = false) : same u r' r = false := by
  apply Bool.eq_false_iff.mpr
  intro hs
  apply Bool.eq_false_iff.mp h
  simp only [same, List.all_eq_true, Bool.and_eq_true, decide_eq_true_eq] at hs ⊢
  intro c hc
  obtain ⟨hsome, he⟩ := hs c hc
  exact ⟨he ▸ hsome, he.symm⟩

theorem pairwise_inTurn {u : List κ} {done rows : List (Row τ κ ν δ)}
    (hp : ((done ++ rows).filter fun r => r.table = t).Pairwise fun r r' => same u r r' = false)
    (hu : uniqueInTurn t p (updated t p set f) u done rows = true) :
    ((done ++ rows.map (updated t p set f)).filter fun r => r.table = t).Pairwise fun r r' => same u r r' = false := by
  induction rows generalizing done with
  | nil => exact hp
  | cons r rows ih =>
    obtain ⟨hr, hrows⟩ := Bool.and_eq_true_iff.mp hu
    rw [List.map_cons, List.append_cons]
    refine ih ?_ hrows
    rw [← List.append_cons]
    by_cases hh : r.table = t ∧ p r = true
    · have hnew : (updated t p set f r).table = t := updated_table.trans hh.1
      have hcons (d : Row τ κ ν δ) (hd : d.table = t) :
          (d :: rows).filter (fun r => decide (r.table = t)) = d :: rows.filter fun r => decide (r.table = t) :=
        List.filter_cons_of_pos (by simp [hd])
      rw [List.filter_append, hcons _ hnew]
      rw [List.filter_append, hcons _ hh.1] at hp
      rw [List.pairwise_middle same_comm] at hp ⊢
      refine List.pairwise_cons.mpr ⟨fun r' hr' => same_comm ?_, (List.pairwise_cons.mp hp).2⟩
      rw [← List.filter_append] at hr'
      obtain ⟨hr', ht'⟩ := List.mem_filter.mp hr'
      have hall : ((done ++ rows).all fun r' => !(r'.table = t && same u r' (updated t p set f r))) = true := by
        simpa [hh] using hr
      simpa [of_decide_eq_true ht'] using List.all_eq_true.mp hall r' hr'
    · have hsame : updated t p set f r = r := if_neg (by simpa using hh)
      rw [hsame]
      exact hp

theorem update_eq_some : update S t p set f db = some db' ↔
    (∀ r ∈ db, r.table = t → p r = true → rowOk S (assign set f r) = true ∧
      resolves S (db.map (updated t p set f)) (assign set f r) = true) ∧
    (∀ u ∈ (S t).unique, uniqueInTurn t p (updated t p set f) u [] db = true) ∧
    (set.lookup (S t).key ≠ none → ∀ r ∈ db.map (updated t p set f), ∀ fk ∈ (S r.table).foreignKeys,
      fk.target = t → ∀ i, fk.ref r = some i → ∃ d ∈ db.map (updated t p set f), d.id S = some i) ∧
    db.map (updated t p set f) = db' := by
  have hrows : (db.all fun r => !(r.table = t && p r) ||
      (rowOk S (assign set f r) && resolves S (db.map (updated t p set f)) (assign set f r))) = true ↔
      ∀ r ∈ db, r.table = t → p r = true → rowOk S (assign set f r) = true ∧
        resolves S (db.map (updated t p set f)) (assign set f r) = true := by
    simp only [List.all_eq_true, Bool.or_eq_true, Bool.not_eq_true', Bool.and_eq_false_imp, decide_eq_true_eq,
      Bool.and_eq_true]
    constructor
    · intro h r hr ht hp
      rcases h r hr with hn | hk
      · rw [hn ht] at hp
        cases hp
      · exact hk
    · intro h r hr
      by_cases hm : r.table = t → p r = false
      · exact .inl hm
      · simp only [Classical.not_imp, Bool.not_eq_false] at hm
        exact .inr (h r hr hm.1 hm.2)
  have href : ((set.lookup (S t).key).isNone || (db.map (updated t p set f)).all fun r =>
      (S r.table).foreignKeys.all fun fk =>
        !(fk.target = t) || (fk.ref r).all (present S (db.map (updated t p set f)))) = true ↔
      (set.lookup (S t).key ≠ none → ∀ r ∈ db.map (updated t p set f), ∀ fk ∈ (S r.table).foreignKeys,
        fk.target = t → ∀ i, fk.ref r = some i → ∃ d ∈ db.map (updated t p set f), d.id S = some i) := by
    simp only [Bool.or_eq_true, Option.isNone_iff_eq_none, List.all_eq_true, Bool.not_eq_true',
      decide_eq_false_iff_not, Option.all_eq_true, present_iff, or_iff_not_imp_left, not_not, ne_eq]
  simp only [update]
  rw [← hrows, ← href]
  split
  · rename_i h
    simp only [Bool.and_eq_true, List.all_eq_true] at h
    exact ⟨fun he => ⟨List.all_eq_true.mpr h.1.1, h.1.2, h.2, Option.some.inj he⟩, fun he => congrArg some he.2.2.2⟩
  · rename_i h
    simp only [Bool.and_eq_true, List.all_eq_true] at h
    refine ⟨fun he => absurd he (by simp), ?_⟩
    rintro ⟨h1, h2, h3, -⟩
    exact absurd ⟨⟨List.all_eq_true.mp h1, h2⟩, h3⟩ h

theorem sound_update (h : Sound S db) (hu : update S t p set f db = some db') : Sound S db' := by
  obtain ⟨hrows, huniq, href, rfl⟩ := update_eq_some.mp hu
  refine ⟨?_, ?_, ?_⟩
  · intro r' hr'
    obtain ⟨r, hr, rfl⟩ := List.mem_map.mp hr'
    unfold updated
    split
    · rename_i hh
      simp only [Bool.and_eq_true, decide_eq_true_eq] at hh
      exact (hrows r hr hh.1 hh.2).1
    · exact h.rows r hr
  · intro t' u hu'
    by_cases ht : t' = t
    · subst ht
      exact pairwise_inTurn (h.unique t' u hu') (huniq u hu')
    · rw [List.filter_map]
      have hfilter : (db.filter ((fun r => decide (r.table = t')) ∘ updated t p set f)) =
          db.filter fun r => r.table = t' := by
        apply List.filter_congr
        intro r _
        simp only [Function.comp_apply, updated_table]
      have hmap : (db.filter fun r => r.table = t').map (updated t p set f) = db.filter fun r => r.table = t' := by
        conv_rhs => rw [← List.map_id (db.filter fun r => r.table = t')]
        apply List.map_congr_left
        intro r hr
        apply updated_other
        rw [of_decide_eq_true (List.mem_filter.mp hr).2]
        exact ht
      rw [hfilter, hmap]
      exact h.unique t' u hu'
  · intro r' hr' fk hfk i hi
    by_cases hk : fk.target = t ∧ set.lookup (S t).key ≠ none
    · exact href hk.2 r' hr' fk hfk hk.1 i hi
    · obtain ⟨r, hr, rfl⟩ := List.mem_map.mp hr'
      by_cases hh : r.table = t ∧ p r = true
      · have hres := (hrows r hr hh.1 hh.2).2
        have hupd : updated t p set f r = assign set f r := if_pos (by simp [hh])
        rw [hupd] at hfk hi
        exact resolves_iff.mp hres fk hfk i hi
      · have hupd : updated t p set f r = r := if_neg (by simpa using hh)
        rw [hupd] at hfk hi
        obtain ⟨d, hd, hid⟩ := h.refs r hr fk hfk i hi
        refine ⟨_, List.mem_map.mpr ⟨d, hd, rfl⟩, ?_⟩
        -- either the row referred to is of another table, or its key stays
        by_cases hdt : d.table = t
        · have hkey : set.lookup (S t).key = none := by
            by_contra hne
            exact hk ⟨(ref_eq_some.mp hi).1.trans ((id_table hid).symm.trans hdt), hne⟩
          rw [updated_id hkey]
          exact hid
        · rw [updated_other hdt]
          exact hid

end

theorem sound_exec {s : Statement τ κ ν δ} (h : Sound S db) (he : exec S s db = some db') : Sound S db' := by
  cases s with
  | insert r => exact sound_insert h he
  | update t p set f => exact sound_update h he
  | delete t p => exact sound_delete h he

theorem sound_execAll (h : Sound S db) (ss : List (Statement τ κ ν δ)) : Sound S (execAll S db ss) := by
  induction ss generalizing db with
  | nil => exact h
  | cons s ss ih =>
    apply ih
    show Sound S ((exec S s db).getD db)
    cases he : exec S s db with
    | none => exact h
    | some db' => exact sound_exec h he

theorem sound_empty : Sound S ([] : List (Row τ κ ν δ)) := by
  refine ⟨?_, fun t u _ => .nil, ?_⟩
  · intro r hr
    cases hr
  · intro r hr
    cases hr

/-- A reference that must not be null leads to a row. -/
theorem sound_follow (h : Sound S db) (hr : r ∈ db) {fk : ForeignKey τ κ} (hfk : fk ∈ (S r.table).foreignKeys)
    (hn : fk.column ∈ (S r.table).notNull) :
    ∃ d ∈ db, d.table = fk.target ∧ ∃ v, r.cols fk.column = some v ∧ d.cols (S fk.target).key = some v := by
  obtain ⟨v, hv⟩ := Option.isSome_iff_exists.mp (rowOk_notNull (h.rows r hr) hn)
  obtain ⟨d, hd, hid⟩ := h.refs r hr fk hfk (fk.target, v) (ref_eq_some.mpr ⟨rfl, hv⟩)
  obtain ⟨ht, hk⟩ := id_eq_some.mp hid
  rw [ht] at hk
  exact ⟨d, hd, ht, v, hv, hk⟩

/-! ## The rows that stay -/

variable (S) in
/-- The tables that a cascade must start in to reach one of `A` are in `A`. -/
def Upstream (A : List τ) : Prop :=
  ∀ a ∈ A, ∀ fk ∈ (S a).foreignKeys, fk.onDelete = .cascade → fk.target ∈ A

variable (S) in
/-- `r'` is `r`, but that some of its `SET NULL` columns may have become null. -/
structure Kept (r r' : Row τ κ ν δ) : Prop where
  table : r'.table = r.table
  data : r'.data = r.data
  cols : ∀ c, r'.cols c = r.cols c ∨
    (r'.cols c = none ∧ ∃ fk ∈ (S r.table).foreignKeys, fk.column = c ∧ fk.onDelete = .setNull)

def Statement.spares (A : List τ) (t : τ) : Statement τ κ ν δ → Bool
  | .insert _ => true
  | .update t' _ _ _ => t' ≠ t
  | .delete t' _ => t' ∉ A

theorem kept_refl (r : Row τ κ ν δ) : Kept S r r := ⟨rfl, rfl, fun _ => .inl rfl⟩

theorem kept_trans {r' r'' : Row τ κ ν δ} (h : Kept S r r') (h' : Kept S r' r'') : Kept S r r'' := by
  refine ⟨h'.table.trans h.table, h'.data.trans h.data, ?_⟩
  intro c
  rcases h'.cols c with hc | ⟨hc, hfk⟩
  · rcases h.cols c with hc' | ⟨hc', hfk'⟩
    · exact .inl (hc.trans hc')
    · exact .inr ⟨hc.trans hc', hfk'⟩
  · rw [h.table] at hfk
    exact .inr ⟨hc, hfk⟩

theorem kept_nullify : Kept S r (nullify S gone r) := by
  refine ⟨rfl, rfl, ?_⟩
  intro c
  simp only [nullify]
  split
  · rename_i h
    obtain ⟨fk, hfk, hc⟩ := List.any_eq_true.mp h
    simp only [Bool.and_eq_true, decide_eq_true_eq] at hc
    exact .inr ⟨rfl, fk, hfk, hc.1.1, hc.1.2⟩
  · exact .inl rfl

section
variable {A : List τ} {p : Row τ κ ν δ → Bool}

theorem swept_upstream (hA : Upstream S A) (ht : t ∉ A) : ∀ i ∈ (swept S t p db).1, i.1 ∉ A := by
  apply swept_induct
  · intro r _ hrt _ i hi
    rw [← id_table hi, hrt]
    exact ht
  · intro r _ fk hfk ha i j hi hP hj hjA
    rw [← id_table hj] at hjA
    apply hP
    rw [← (ref_eq_some.mp hi).1]
    exact hA r.table hjA fk hfk ha

theorem delete_keeps (hs : Sound S db) (hA : Upstream S A) (ht : t ∉ A) (hd : delete S t p db = some db')
    (hr : r ∈ db) (hrA : r.table ∈ A) : ∃ r' ∈ db', Kept S r r' := by
  obtain ⟨-, -, rfl⟩ := deleteAtEnd_eq_some.mp (delete_at_end hs.rows hd)
  obtain ⟨v, -, hid⟩ := rowOk_id (hs.rows r hr)
  have hg : (r.table, v) ∉ (swept S t p db).1 := fun hg => swept_upstream hA ht _ hg hrA
  exact ⟨_, List.mem_map.mpr ⟨r, swept_left hr hid hg, rfl⟩, kept_nullify⟩

theorem exec_keeps {s : Statement τ κ ν δ} (hs : Sound S db) (hA : Upstream S A) (hsp : s.spares A r.table = true)
    (he : exec S s db = some db') (hr : r ∈ db) (hrA : r.table ∈ A) : ∃ r' ∈ db', Kept S r r' := by
  cases s with
  | insert d =>
    obtain ⟨-, -, -, rfl⟩ := insert_eq_some.mp he
    exact ⟨r, List.mem_append_left _ hr, kept_refl r⟩
  | update t p set f =>
    obtain ⟨-, -, -, rfl⟩ := update_eq_some.mp he
    refine ⟨r, List.mem_map.mpr ⟨r, hr, updated_other ?_⟩, kept_refl r⟩
    exact (of_decide_eq_true hsp).symm
  | delete t p => exact delete_keeps hs hA (of_decide_eq_true hsp) he hr hrA

/-- A row outlasts every run that deletes from no table upstream of its own and
does not update its own. -/
theorem execAll_keeps (hs : Sound S db) (hA : Upstream S A) {ss : List (Statement τ κ ν δ)}
    (hsp : ∀ s ∈ ss, s.spares A r.table = true) (hr : r ∈ db) (hrA : r.table ∈ A) :
    ∃ r' ∈ execAll S db ss, Kept S r r' := by
  induction ss generalizing db r with
  | nil => exact ⟨r, hr, kept_refl r⟩
  | cons s ss ih =>
    have hss : ∀ s' ∈ ss, s'.spares A r.table = true := fun s' hs' => hsp s' (List.mem_cons_of_mem _ hs')
    have hrun : execAll S db (s :: ss) = execAll S ((exec S s db).getD db) ss := rfl
    rw [hrun]
    cases he : exec S s db with
    | none => exact ih hs hss hr hrA
    | some db' =>
      obtain ⟨r', hr', hk⟩ := exec_keeps hs hA (hsp s List.mem_cons_self) he hr hrA
      rw [← hk.table] at hss hrA
      obtain ⟨r'', hr'', hk'⟩ := ih (sound_exec hs he) hss hr' hrA
      exact ⟨r'', hr'', kept_trans hk hk'⟩

end

end

end StayApi.Relational
