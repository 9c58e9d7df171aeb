import StayApi.OrdMap

/-!
# Replicas kept by frames

A reader of a map holds a copy of it: it is sent a snapshot of the whole map
now and then, and between them the keys that changed. `replay` is the copy after
some frames; `settled` is the value of one key once the writes in a queue have
reached a copy.
-/

namespace StayApi

inductive Frame (κ ν : Type) where
  | snapshot (m : OrdMap κ ν)
  | delta (d : OrdMap κ ν)

namespace OrdMap

section
variable {κ ν : Type} [DecidableEq κ]

def merge (m d : OrdMap κ ν) : OrdMap κ ν := d.entries.foldl (fun m e => m.set e.1 e.2) m

theorem get_foldl_entries (l : List (κ × ν)) (hl : (l.map Prod.fst).Nodup) (m : OrdMap κ ν) (k : κ) :
    (l.foldl (fun m e => m.set e.1 e.2) m).get k = (l.lookup k).or (m.get k) := by
  induction l generalizing m with
  | nil => rfl
  | cons e l ih =>
    rw [List.map_cons, List.nodup_cons] at hl
    rw [List.foldl_cons, ih hl.2, get_set, lookup_cons]
    by_cases hk : k = e.1
    · have hn : l.lookup k = none := by
        apply List.lookup_eq_none_iff.mpr
        intro p hp
        have hne : ¬ k = p.1 := fun h => hl.1 (hk ▸ h ▸ List.mem_map.mpr ⟨p, hp, rfl⟩)
        simpa using hne
      rw [if_pos hk, if_pos hk, hn]
      rfl
    · rw [if_neg hk, if_neg hk]

theorem get_merge (m d : OrdMap κ ν) (k : κ) : (m.merge d).get k = (d.get k).or (m.get k) :=
  get_foldl_entries d.entries d.nodup m k

end

end OrdMap

section
variable {κ ν : Type} [DecidableEq κ]

def Frame.apply : Option (OrdMap κ ν) → Frame κ ν → Option (OrdMap κ ν)
  | _, .snapshot m => some m
  | v, .delta d => v.map fun m => m.merge d

/-- The copy a reader has after some frames; one that has no copy yet waits for a snapshot. -/
def replay (v : Option (OrdMap κ ν)) (l : List (Frame κ ν)) : Option (OrdMap κ ν) := l.foldl Frame.apply v

theorem replay_append (v : Option (OrdMap κ ν)) (l l' : List (Frame κ ν)) :
    replay v (l ++ l') = replay (replay v l) l' :=
  List.foldl_append

theorem map_merge (v : Option (OrdMap κ ν)) (d : OrdMap κ ν) (k : κ) :
    (v.map fun m => m.merge d).map (fun m => m.get k) = v.map fun m => (d.get k).or (m.get k) := by
  cases v with
  | none => rfl
  | some m => exact congrArg some (OrdMap.get_merge m d k)

theorem replay_deltas (v : Option (OrdMap κ ν)) (d : OrdMap κ ν) (n : Nat) (k : κ) :
    (replay v (List.replicate (n + 1) (.delta d))).map (fun m => m.get k) =
      v.map fun m => (d.get k).or (m.get k) := by
  induction n generalizing v with
  | zero => exact map_merge v d k
  | succ n ih =>
    rw [List.replicate_succ]
    show (replay (v.map fun m => m.merge d) (List.replicate (n + 1) (.delta d))).map _ = _
    rw [ih]
    cases v with
    | none => rfl
    | some m =>
      show some ((d.get k).or ((m.merge d).get k)) = some _
      rw [OrdMap.get_merge]
      cases d.get k <;> rfl

end

section
variable {α ν : Type} (f : α → Option ν)

/-- The value the writes in `q` leave, where `f` says what each of them writes. -/
def settled (x : Option ν) (q : List α) : Option ν := q.foldl (fun x a => (f a).or x) x

variable {f}

theorem settled_append (x : Option ν) (q q' : List α) : settled f x (q ++ q') = settled f (settled f x q) q' :=
  List.foldl_append

theorem settled_silent {x : Option ν} {q : List α} (h : ∀ a ∈ q, f a = none) : settled f x q = x := by
  induction q with
  | nil => rfl
  | cons a q ih =>
    have hx : settled f x (a :: q) = settled f ((f a).or x) q := rfl
    rw [hx, h a List.mem_cons_self]
    exact ih fun b hb => h b (List.mem_cons_of_mem a hb)

/-- Taking a write out of the queue and into the value, when those before it write nothing. -/
theorem settled_take {x : Option ν} {l₁ l₂ : List α} {a : α} (h : ∀ b ∈ l₁, f b = none) :
    settled f ((f a).or x) (l₁ ++ l₂) = settled f x (l₁ ++ a :: l₂) := by
  rw [settled_append, settled_append, settled_silent h, settled_silent h]
  rfl

end

end StayApi
