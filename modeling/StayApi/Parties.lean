import Mathlib.Algebra.GroupWithZero.Nat
import Mathlib.Logic.Function.Basic

/-!
# Parties around a shared store

Any number of parties of one kind, each with a part of the state to itself and
all with one store. A party acts on the store and on its own part; something
from outside changes the store and tells every party.

A race of the parties is for a prize in the store that is free until one of them
takes it. Who wins is settled by the first that takes it, in whatever order
they run.
-/

namespace StayApi

structure Parties (n : Nat) (δ α : Type) where
  store : δ
  parts : Fin n → α

namespace Parties

section
variable {n : Nat} {δ α β : Type}

def party (S : Parties n δ α) (i : Fin n) : δ × α := (S.store, S.parts i)

def put (S : Parties n δ α) (i : Fin n) (x : δ × α) : Parties n δ α := ⟨x.1, Function.update S.parts i x.2⟩

def act (S : Parties n δ α) (i : Fin n) (f : δ × α → Option (δ × α)) : Option (Parties n δ α) :=
  (f (S.party i)).map (S.put i)

def tell (S : Parties n δ α) (d : δ) (f : α → α) : Parties n δ α := ⟨d, fun i => f (S.parts i)⟩

def map (g : α → β) (S : Parties n δ α) : Parties n δ β := ⟨S.store, fun i => g (S.parts i)⟩

@[simp] theorem put_store (S : Parties n δ α) (i : Fin n) (x : δ × α) : (S.put i x).store = x.1 := rfl

@[simp] theorem put_self (S : Parties n δ α) (i : Fin n) (x : δ × α) : (S.put i x).parts i = x.2 :=
  Function.update_self ..

@[simp] theorem put_other (S : Parties n δ α) {i j : Fin n} (h : j ≠ i) (x : δ × α) :
    (S.put i x).parts j = S.parts j :=
  Function.update_of_ne h ..

theorem put_map (g : α → β) (S : Parties n δ α) (i : Fin n) (x : δ × α) :
    (S.map g).put i (x.1, g x.2) = (S.put i x).map g := by
  unfold put map
  congr 1
  funext j
  by_cases h : j = i
  · subst h
    simp
  · simp [h]

/-- A simulation of one party by another is one of the whole. -/
theorem act_map {g : α → β} {f : δ × β → Option (δ × β)} {f' : δ × α → Option (δ × α)} (S : Parties n δ α)
    (i : Fin n) (h : ∀ x : δ × α, f (x.1, g x.2) = (f' x).map fun y => (y.1, g y.2)) :
    (S.map g).act i f = (S.act i f').map (map g) := by
  unfold act
  have hp : (S.map g).party i = ((S.party i).1, g (S.party i).2) := rfl
  rw [hp, h, Option.map_map, Option.map_map]
  cases f' (S.party i) with
  | none => rfl
  | some x => exact congrArg some (put_map g S i x)

/-! ### Sums over the parties -/

/-- What the parts come to, measured by `f`. -/
def total (f : α → Nat) (S : Parties n δ α) : Nat := ((List.finRange n).map fun i => f (S.parts i)).sum

theorem sum_except {ι : Type} {l : List ι} (hl : l.Nodup) {i : ι} (hi : i ∈ l) {f g : ι → Nat}
    (h : ∀ j, j ≠ i → g j = f j) : (l.map g).sum + f i = (l.map f).sum + g i := by
  induction l with
  | nil => cases hi
  | cons j l ih =>
    obtain ⟨hj, hl⟩ := List.nodup_cons.mp hl
    simp only [List.map_cons, List.sum_cons]
    by_cases hij : i = j
    · subst hij
      have hrest : l.map g = l.map f := List.map_congr_left fun k hk => h k fun e => hj (e ▸ hk)
      rw [hrest]
      omega
    · have hmem : i ∈ l := (List.mem_cons.mp hi).resolve_left hij
      have hsum := ih hl hmem
      rw [h j (Ne.symm hij)]
      omega

theorem sum_each {ι : Type} (l : List ι) (f : ι → Nat) (k : Nat) :
    (l.map fun i => f i + k).sum = (l.map f).sum + k * l.length := by
  induction l with
  | nil => rfl
  | cons i l ih =>
    simp only [List.map_cons, List.sum_cons, List.length_cons, ih, Nat.mul_succ]
    omega

theorem total_zero {f : α → Nat} {S : Parties n δ α} (h : ∀ i, f (S.parts i) = 0) : S.total f = 0 := by
  refine List.sum_eq_zero_iff_forall_eq_nat.mpr fun k hk => ?_
  obtain ⟨i, -, rfl⟩ := List.mem_map.mp hk
  exact h i

/-- An act changes the total by what it changes for its party. -/
theorem total_put (f : α → Nat) (S : Parties n δ α) (i : Fin n) (x : δ × α) :
    (S.put i x).total f + f (S.parts i) = S.total f + f x.2 := by
  have h := sum_except (List.nodup_finRange n) (List.mem_finRange i) (f := fun j => f (S.parts j))
    (g := fun j => f ((S.put i x).parts j)) fun j hj => congrArg f (put_other S hj x)
  rw [put_self] at h
  exact h

theorem total_tell {f : α → Nat} {g : α → α} {k : Nat} (h : ∀ a, f (g a) = f a + k) (S : Parties n δ α) (d : δ) :
    (S.tell d g).total f = S.total f + k * n := by
  have hsum := sum_each (List.finRange n) (fun i => f (S.parts i)) k
  rw [List.length_finRange] at hsum
  refine Eq.trans ?_ hsum
  exact congrArg List.sum (List.map_congr_left fun i _ => h (S.parts i))

end

end Parties

/-! ## Races -/

section
variable {S ι : Type} (free : S → Prop) (won : ι → S → Prop)

/-- What one step may do to a race: nothing, or one party takes the prize. -/
inductive Raced (s s' : S) : Prop
  | idle (hf : free s' ↔ free s) (hw : ∀ i, won i s' ↔ won i s)
  | take (i : ι) (hf : free s) (hf' : ¬ free s') (hi : won i s') (hw : ∀ j, j ≠ i → (won j s' ↔ won j s))

def Claimed (s : S) : Prop := free s ∨ ∃ i, won i s

def ClaimedOnce (s : S) : Prop :=
  (free s ∧ ∀ i, ¬ won i s) ∨ (¬ free s ∧ ∃ i, won i s ∧ ∀ j, j ≠ i → ¬ won j s)

variable {free won} {s s' : S}

theorem claimed_raced (h : Claimed free won s) (hs : Raced free won s s') : Claimed free won s' := by
  cases hs with
  | idle hf hw =>
    unfold Claimed
    simp only [hf, hw]
    exact h
  | take i _ _ hi _ => exact .inr ⟨i, hi⟩

theorem claimedOnce_raced (h : ClaimedOnce free won s) (hs : Raced free won s s') : ClaimedOnce free won s' := by
  cases hs with
  | idle hf hw =>
    unfold ClaimedOnce
    simp only [hf, hw]
    exact h
  | take i hf hf' hi hw =>
    rcases h with ⟨-, hnone⟩ | ⟨hn, -⟩
    · refine .inr ⟨hf', i, hi, ?_⟩
      intro j hj hjw
      exact hnone j ((hw j hj).mp hjw)
    · exact absurd hf hn

theorem claimed_winner (h : Claimed free won s) (hf : ¬ free s) : ∃ i, won i s := by
  rcases h with h | h
  · exact absurd h hf
  · exact h

theorem claimedOnce_winner (h : ClaimedOnce free won s) (hf : ¬ free s) :
    ∃ i, won i s ∧ ∀ j, j ≠ i → ¬ won j s := by
  rcases h with ⟨h, -⟩ | ⟨-, h⟩
  · exact absurd h hf
  · exact h

end

end StayApi
