import Mathlib.Algebra.Order.Group.Multiset
import Mathlib.Data.Multiset.Range
import Mathlib.Tactic.Abel
import StayApi.Points

/-!
# Calls that wait once

In a process whose calls stop at one place at most, each call waits for its
command to be carried out, or for the reply to be delivered, or is settled. The
state keeps the numbers of the settled calls; `tally` is the multiset of all
three, and every step either leaves it as it is or adds the call just made.
-/

namespace StayApi

namespace Tally

section
variable {α β : Type}

theorem coe_middle (l₁ l₂ : List α) (a : α) : (↑(l₁ ++ a :: l₂) : Multiset α) = ↑(l₁ ++ l₂) + {a} := by
  rw [← Multiset.coe_singleton, Multiset.coe_add]
  exact Multiset.coe_eq_coe.mpr (List.perm_middle.trans (List.perm_append_singleton _ _).symm)

theorem coe_snoc (l : List α) (a : α) : (↑(l ++ [a]) : Multiset α) = ↑l + {a} := by
  rw [← Multiset.coe_singleton, Multiset.coe_add]

theorem map_middle (f : α → β) (l₁ l₂ : List α) (a : α) :
    (↑((l₁ ++ a :: l₂).map f) : Multiset β) = ↑((l₁ ++ l₂).map f) + {f a} := by
  rw [List.map_append, List.map_cons, coe_middle, List.map_append]

theorem map_snoc (f : α → β) (l : List α) (a : α) :
    (↑((l ++ [a]).map f) : Multiset β) = ↑(l.map f) + {f a} := by
  rw [List.map_append, List.map_singleton, coe_snoc]

end

section
variable {π ℓ σ κ ε δ : Type} {ρ : κ → Type} {K : Points π ℓ σ κ ρ ε} (call : π → Nat) (settled : σ → List Nat)

def tally (m : PointProcess K) : Multiset Nat :=
  ↑(m.issued.map call) + ↑(m.replied.map fun a => call a.1) + ↑(settled m.state)

variable {call} {settled} {m m' : PointProcess K} {t : PointTurn π σ ε}

theorem tally_waits {p : π} (hp : t.suspended = [p]) (hs : settled t.state = settled m.state) :
    tally call settled (PointProcess.turn t m) = tally call settled m + {call p} := by
  show (↑((m.issued ++ t.suspended).map call) : Multiset Nat) + ↑(m.replied.map fun a => call a.1) +
    ↑(settled t.state) = _
  rw [hp, hs, map_snoc]
  unfold tally
  abel

theorem tally_settles {k : Nat} (hp : t.suspended = []) (hs : settled t.state = settled m.state ++ [k]) :
    tally call settled (PointProcess.turn t m) = tally call settled m + {k} := by
  show (↑((m.issued ++ t.suspended).map call) : Multiset Nat) + ↑(m.replied.map fun a => call a.1) +
    ↑(settled t.state) = _
  rw [hp, hs, List.append_nil, ← Multiset.coe_add, Multiset.coe_singleton]
  unfold tally
  abel

theorem tally_answer {serve : (c : κ) → δ → Option (δ × Except ε (ρ c))} {i : Nat} {d d' : δ}
    (h : PointProcess.answer serve i d m = some (d', m')) : tally call settled m' = tally call settled m := by
  obtain ⟨l₁, p, l₂, r, hi, -, -, rfl⟩ := PointProcess.answer_eq_some h
  have hs := map_snoc (fun a : Σ p : π, Except ε (ρ (K.thread p).cmd) => call a.1) m.replied ⟨p, r⟩
  unfold tally
  rw [hs, hi, map_middle call l₁ l₂ p]
  abel

/-- A delivered reply settles its call. -/
theorem tally_resume {j : Nat}
    (hn : ∀ a ∈ m.replied, (K.next a.1 a.2 m.state).suspended = [] ∧
      settled (K.next a.1 a.2 m.state).state = settled m.state ++ [call a.1])
    (h : PointProcess.resume j m = some m') : tally call settled m' = tally call settled m := by
  obtain ⟨l₁, a, l₂, hr, -, rfl⟩ := PointProcess.resume_eq_some h
  obtain ⟨hp, hs⟩ := hn a (by rw [hr]; simp)
  rw [tally_settles (m := { m with replied := l₁ ++ l₂ }) hp hs]
  unfold tally
  rw [hr, map_middle _ l₁ l₂ a]
  abel

end

end Tally

end StayApi
