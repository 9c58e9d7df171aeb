import Mathlib.Data.List.Basic

/-!
# Delimiters

Parts joined by a delimiter that none of them has are read back by splitting at
it, so what is joined determines its parts.
-/

namespace Delimited

section
variable {α : Type} [BEq α] [LawfulBEq α] {d : α} {x x' y y' : List α}

/-- A list is cut at the first delimiter in one way. -/
theorem cut_first (hx : d ∉ x) (hx' : d ∉ x') (h : x ++ d :: y = x' ++ d :: y') : x = x' ∧ y = y' := by
  have hs := congrArg (List.splitOn d) h
  rw [List.splitOn_append_cons_self_of_not_mem hx, List.splitOn_append_cons_self_of_not_mem hx'] at hs
  have he : x = x' := (List.cons.inj hs).1
  rw [he] at h
  exact ⟨he, (List.cons.inj (List.append_cancel_left h)).2⟩

theorem cut_last (hy : d ∉ y) (hy' : d ∉ y') (h : x ++ d :: y = x' ++ d :: y') : x = x' ∧ y = y' := by
  have hr : y.reverse ++ d :: x.reverse = y'.reverse ++ d :: x'.reverse := by
    have := congrArg List.reverse h
    simpa using this
  obtain ⟨hy, hx⟩ := cut_first (mt List.mem_reverse.mp hy) (mt List.mem_reverse.mp hy') hr
  exact ⟨List.reverse_injective hx, List.reverse_injective hy⟩

end

section
variable {d : Char} {sep : String} {x y : List String}

theorem intercalate_injective (hs : sep.toList = [d]) (hx : x ≠ []) (hy : y ≠ []) (hdx : ∀ s ∈ x, d ∉ s.toList)
    (hdy : ∀ s ∈ y, d ∉ s.toList) (h : sep.intercalate x = sep.intercalate y) : x = y := by
  have hparts : ∀ z : List String, z ≠ [] → (∀ s ∈ z, d ∉ s.toList) →
      List.splitOn d (sep.intercalate z).toList = z.map String.toList := by
    intro z hz hd
    rw [String.toList_intercalate, hs]
    refine List.splitOn_intercalate d (fun l hl => ?_) (by simpa using hz)
    obtain ⟨s, hm, rfl⟩ := List.mem_map.mp hl
    exact hd s hm
  have he : x.map String.toList = y.map String.toList := by
    rw [← hparts x hx hdx, ← hparts y hy hdy, h]
  exact List.map_injective_iff.mpr (fun _ _ => String.toList_injective) he

theorem intercalate_snoc (hx : x ≠ []) (s : String) : sep.intercalate (x ++ [s]) = sep.intercalate x ++ sep ++ s := by
  rw [String.intercalate_append_of_ne_nil hx (by simp), String.intercalate_singleton]

theorem intercalate_ne_empty (hx : x ≠ []) (hn : ∀ s ∈ x, s ≠ "") : sep.intercalate x ≠ "" := by
  obtain ⟨s, x, rfl⟩ := List.exists_cons_of_ne_nil hx
  have hs : s ≠ "" := hn s List.mem_cons_self
  by_cases h : x = []
  · rw [h, String.intercalate_singleton]
    exact hs
  · rw [String.intercalate_cons_of_ne_nil h]
    intro he
    have := congrArg String.toList he
    simp [hs] at this

end

end Delimited
