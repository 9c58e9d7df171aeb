import Mathlib.Data.List.Nodup
import Mathlib.Data.List.Basic

/-!
# Insertion-ordered maps

A finite map kept as the list of its entries in the order in which the keys
were first set, with distinct keys. Setting an existing key replaces its value
in place; deleting a key and setting it again moves it to the end.
-/

namespace StayApi

structure OrdMap (κ ν : Type) where
  entries : List (κ × ν)
  nodup : (entries.map Prod.fst).Nodup

namespace OrdMap

section
variable {κ ν : Type} [DecidableEq κ]

def upsert (k : κ) (v : ν) : List (κ × ν) → List (κ × ν)
  | [] => [(k, v)]
  | e :: es => if e.1 = k then (k, v) :: es else e :: upsert k v es

theorem map_fst_upsert (k : κ) (v : ν) (es : List (κ × ν)) :
    (upsert k v es).map Prod.fst =
      if k ∈ es.map Prod.fst then es.map Prod.fst else es.map Prod.fst ++ [k] := by
  induction es with
  | nil => simp [upsert]
  | cons e es ih =>
    by_cases he : e.1 = k
    · simp [upsert, he]
    · simp only [upsert, he, if_false, List.map_cons, ih, List.mem_cons, Ne.symm he, false_or]
      split <;> simp

theorem nodup_upsert (k : κ) (v : ν) {es : List (κ × ν)} (h : (es.map Prod.fst).Nodup) :
    ((upsert k v es).map Prod.fst).Nodup := by
  rw [map_fst_upsert]
  split
  · exact h
  · rename_i hk
    exact List.nodup_append.mpr ⟨h, List.nodup_singleton k, fun a ha b hb hab =>
      hk (List.mem_singleton.mp hb ▸ hab ▸ ha)⟩

def empty : OrdMap κ ν := ⟨[], List.nodup_nil⟩

def get (m : OrdMap κ ν) (k : κ) : Option ν := m.entries.lookup k

def set (m : OrdMap κ ν) (k : κ) (v : ν) : OrdMap κ ν :=
  ⟨upsert k v m.entries, nodup_upsert k v m.nodup⟩

def delete (m : OrdMap κ ν) (k : κ) : OrdMap κ ν :=
  ⟨m.entries.filter fun e => e.1 ≠ k, m.nodup.sublist (List.filter_sublist.map Prod.fst)⟩

/-- Replace the value at a key the map has; a map without the key is unchanged. -/
def modify (m : OrdMap κ ν) (k : κ) (f : ν → ν) : OrdMap κ ν :=
  match m.get k with
  | some v => m.set k (f v)
  | none => m

def keys (m : OrdMap κ ν) : List κ := m.entries.map Prod.fst

theorem lookup_cons (k : κ) (e : κ × ν) (es : List (κ × ν)) :
    (e :: es).lookup k = if k = e.1 then some e.2 else es.lookup k := by
  obtain ⟨k', v⟩ := e
  rw [List.lookup_cons]
  by_cases h : k = k'
  · simp [h]
  · have hb : (k == k') = false := by simpa using h
    simp [h, hb]

theorem lookup_upsert (k k' : κ) (v : ν) (es : List (κ × ν)) :
    (upsert k v es).lookup k' = if k' = k then some v else es.lookup k' := by
  induction es with
  | nil => simp [upsert, lookup_cons]
  | cons e es ih =>
    by_cases he : e.1 = k
    · simp only [upsert, he, if_true, lookup_cons]
      split <;> rfl
    · simp only [upsert, he, if_false, lookup_cons, ih]
      by_cases h : k' = k
      · have : ¬ k' = e.1 := fun hk => he (hk.symm.trans h)
        simp [h, Ne.symm he]
      · simp [h]

theorem lookup_filter (k k' : κ) (es : List (κ × ν)) :
    (es.filter fun e => e.1 ≠ k).lookup k' = if k' = k then none else es.lookup k' := by
  induction es with
  | nil => simp
  | cons e es ih =>
    by_cases he : e.1 = k
    · rw [List.filter_cons_of_neg (by simpa using he), ih, lookup_cons, he]
      split <;> rfl
    · rw [List.filter_cons_of_pos (by simpa using he), lookup_cons, lookup_cons, ih]
      by_cases h : k' = k
      · simp [h, Ne.symm he]
      · simp [h]

theorem eq_empty {m : OrdMap κ ν} (h : m.entries = []) : m = empty := by
  obtain ⟨entries, nodup⟩ := m
  subst h
  rfl

@[simp] theorem get_empty (k : κ) : (empty : OrdMap κ ν).get k = none := rfl

theorem get_set (m : OrdMap κ ν) (k k' : κ) (v : ν) :
    (m.set k v).get k' = if k' = k then some v else m.get k' :=
  lookup_upsert k k' v m.entries

@[simp] theorem get_set_self (m : OrdMap κ ν) (k : κ) (v : ν) : (m.set k v).get k = some v := by
  simp [get_set]

@[simp] theorem get_set_ne (m : OrdMap κ ν) {k k' : κ} (h : k' ≠ k) (v : ν) :
    (m.set k v).get k' = m.get k' := by
  simp [get_set, h]

theorem get_delete (m : OrdMap κ ν) (k k' : κ) :
    (m.delete k).get k' = if k' = k then none else m.get k' :=
  lookup_filter k k' m.entries

@[simp] theorem get_delete_self (m : OrdMap κ ν) (k : κ) : (m.delete k).get k = none := by
  simp [get_delete]

@[simp] theorem get_delete_ne (m : OrdMap κ ν) {k k' : κ} (h : k' ≠ k) :
    (m.delete k).get k' = m.get k' := by
  simp [get_delete, h]

theorem get_modify (m : OrdMap κ ν) (k k' : κ) (f : ν → ν) :
    (m.modify k f).get k' = if k' = k then (m.get k).map f else m.get k' := by
  unfold modify
  cases h : m.get k with
  | none => by_cases hk : k' = k <;> simp [hk, h]
  | some v => simp [get_set]

theorem mem_of_get {m : OrdMap κ ν} {k : κ} {v : ν} (h : m.get k = some v) : (k, v) ∈ m.entries := by
  obtain ⟨es, hn⟩ := m
  simp only [get] at h ⊢
  clear hn
  induction es with
  | nil => simp at h
  | cons e es ih =>
    rw [lookup_cons] at h
    by_cases he : k = e.1
    · simp only [he, if_true, Option.some.injEq] at h
      subst h; subst he
      exact List.mem_cons_self ..
    · simp only [he, if_false] at h
      exact List.mem_cons_of_mem _ (ih h)

theorem get_of_mem {m : OrdMap κ ν} {k : κ} {v : ν} (h : (k, v) ∈ m.entries) : m.get k = some v := by
  obtain ⟨es, hn⟩ := m
  simp only [get] at h ⊢
  induction es with
  | nil => cases h
  | cons e es ih =>
    rw [List.map_cons, List.nodup_cons] at hn
    rw [lookup_cons]
    rcases List.mem_cons.mp h with rfl | h
    · simp
    · have hk : k ∈ es.map Prod.fst := List.mem_map.mpr ⟨_, h, rfl⟩
      have : ¬ k = e.1 := fun he => hn.1 (he ▸ hk)
      simp only [this, if_false]
      exact ih hn.2 h

/-- At most one entry is filed under a key. -/
theorem countP_entries (m : OrdMap κ ν) (k : κ) (p : ν → Bool) :
    m.entries.countP (fun e => e.1 = k ∧ p e.2) = ((m.get k).any p).toNat := by
  obtain ⟨es, hn⟩ := m
  simp only [get]
  induction es with
  | nil => rfl
  | cons e es ih =>
    rw [List.map_cons, List.nodup_cons] at hn
    rw [lookup_cons, List.countP_cons]
    by_cases hk : k = e.1
    · subst hk
      have hrest : es.countP (fun f => f.1 = e.1 ∧ p f.2) = 0 := by
        apply List.countP_eq_zero.mpr
        intro f hf h
        have he := (of_decide_eq_true h).1
        exact hn.1 (he ▸ List.mem_map_of_mem hf)
      rw [hrest]
      cases hp : p e.2 <;> simp [hp]
    · have hne : ¬ e.1 = k := fun h => hk h.symm
      rw [ih hn.2, if_neg hk]
      simp [hne]

theorem mem_keys {m : OrdMap κ ν} {k : κ} : k ∈ m.keys ↔ (m.get k).isSome := by
  constructor
  · intro h
    obtain ⟨⟨_, v⟩, he, rfl⟩ := List.mem_map.mp h
    rw [get_of_mem he]; rfl
  · intro h
    obtain ⟨v, hv⟩ := Option.isSome_iff_exists.mp h
    exact List.mem_map.mpr ⟨_, mem_of_get hv, rfl⟩

end

/-! ## Plain objects -/

section
variable {ν : Type} {m : OrdMap String ν} {k : String}

/-- `object[key] = value` on a plain object: under `__proto__` a value that is no
object is dropped. -/
def assign (m : OrdMap String ν) (k : String) (v : ν) : OrdMap String ν :=
  if k = "__proto__" then m else m.set k v

/-- The number of a key that is an array index. -/
def arrayIndex (k : String) : Option Nat := k.toNat?.filter fun n => n < 0xFFFFFFFF ∧ toString n = k

/-- The entries in the order in which an object lists them: array indices come first, by number. -/
def properties (m : OrdMap String ν) : List (String × ν) :=
  (m.entries.filter fun e => (arrayIndex e.1).isSome).mergeSort
      (fun d e => (arrayIndex d.1).getD 0 ≤ (arrayIndex e.1).getD 0) ++
    m.entries.filter fun e => !(arrayIndex e.1).isSome

theorem properties_perm (m : OrdMap String ν) : m.properties.Perm m.entries :=
  ((List.mergeSort_perm _ _).append_right _).trans (List.filter_append_perm _ _)

theorem nodup_properties (m : OrdMap String ν) : (m.properties.map Prod.fst).Nodup :=
  (m.properties_perm.map _).nodup_iff.mpr m.nodup

theorem mem_properties : k ∈ m.properties.map Prod.fst ↔ (m.get k).isSome :=
  (m.properties_perm.map _).mem_iff.trans mem_keys

def fill (ks : List String) (v : ν) : OrdMap String ν := ks.foldl (fun m k => m.assign k v) empty

theorem get_assign (m : OrdMap String ν) (k : String) (v : ν) (k' : String) :
    (m.assign k v).get k' = if k' = k ∧ k ≠ "__proto__" then some v else m.get k' := by
  unfold assign
  by_cases hk : k = "__proto__"
  · simp [hk]
  · simp [hk, get_set]

theorem get_foldl_assign (ks : List String) (v : ν) (m : OrdMap String ν) (k : String) :
    (ks.foldl (fun m k => m.assign k v) m).get k =
      if k ∈ ks ∧ k ≠ "__proto__" then some v else m.get k := by
  induction ks generalizing m with
  | nil => simp
  | cons a ks ih =>
    rw [List.foldl_cons, ih, get_assign]
    by_cases hk : k = a
    · subst hk
      by_cases hp : k = "__proto__"
      · simp [hp]
      · simp [hp]
    · simp [hk]

theorem get_fill (ks : List String) (v : ν) (k : String) :
    (fill ks v).get k = if k ∈ ks ∧ k ≠ "__proto__" then some v else none :=
  get_foldl_assign ks v empty k

theorem get_fill_eq {ks : List String} {v : ν} (hk : k ≠ "__proto__") : (fill ks v).get k = some v ↔ k ∈ ks := by
  rw [get_fill]
  by_cases hm : k ∈ ks
  · simp [hm, hk]
  · simp [hm]

end

end OrdMap

end StayApi
