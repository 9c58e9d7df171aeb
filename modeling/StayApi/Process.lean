import Mathlib.Tactic.Tauto
import StayApi.Async

/-!
# Processes

A process interleaves its programs at their `await`s. A suspended program is a
`Thread`; its command is carried out by the outside world at some later moment
(`answer`), and the program goes on with the reply at another (`resume`). Both
choices are free, so every interleaving at the `await`s is a run.
-/

namespace StayApi

/-- A program suspended at a command; `origin` names the call it belongs to. -/
structure Thread (ℓ σ κ : Type) (ρ : κ → Type) (ε : Type) where
  origin : ℓ
  cmd : κ
  cont : Except ε (ρ cmd) → Proc σ κ ρ ε

/-- A thread whose command has been carried out and whose reply is on its way. -/
structure Replied (ℓ σ κ : Type) (ρ : κ → Type) (ε : Type) extends Thread ℓ σ κ ρ ε where
  reply : Except ε (ρ cmd)

/-- `replied` is kept in the order in which the commands were carried out. -/
structure Process (ℓ σ κ : Type) (ρ : κ → Type) (ε : Type) where
  state : σ
  issued : List (Thread ℓ σ κ ρ ε)
  replied : List (Replied ℓ σ κ ρ ε)
  unhandled : List ε

namespace Process

section
variable {ℓ σ κ ε : Type} {ρ : κ → Type}

def start (s : σ) : Process ℓ σ κ ρ ε := ⟨s, [], [], []⟩

def threads (l : ℓ) (t : Turn σ κ ρ ε) : List (Thread ℓ σ κ ρ ε) :=
  t.suspended.map fun p => ⟨l, p.1, p.2⟩

/-- Run a program up to its next `await`s, on behalf of the call `l`. -/
def call (l : ℓ) (p : Proc σ κ ρ ε) (P : Process ℓ σ κ ρ ε) : Process ℓ σ κ ρ ε :=
  let t := p.run P.state
  { state := t.state
    issued := P.issued ++ threads l t
    replied := P.replied
    unhandled := P.unhandled ++ t.unhandled }

/-- Carry out the `i`-th issued command: `serve` gives the reply, or nothing
when the world does not allow that outcome. -/
def answer {δ : Type} (serve : (c : κ) → δ → Option (δ × Except ε (ρ c))) (i : Nat) (d : δ)
    (P : Process ℓ σ κ ρ ε) : Option (δ × Process ℓ σ κ ρ ε) :=
  match P.issued[i]? with
  | none => none
  | some t =>
    match serve t.cmd d with
    | none => none
    | some (d', r) =>
      some (d', { P with issued := P.issued.eraseIdx i, replied := P.replied ++ [⟨t, r⟩] })

/-- Deliver the `j`-th reply: its program runs up to its next `await`s. -/
def resume (j : Nat) (P : Process ℓ σ κ ρ ε) : Option (Process ℓ σ κ ρ ε) :=
  match P.replied[j]? with
  | none => none
  | some t => some (call t.origin (t.cont t.reply) { P with replied := P.replied.eraseIdx j })

def idle (P : Process ℓ σ κ ρ ε) : Prop := P.issued = [] ∧ P.replied = []

end

section
variable {α : Type}

theorem eraseIdx_split {l : List α} {i : Nat} {a : α} (h : l[i]? = some a) :
    ∃ l₁ l₂, l = l₁ ++ a :: l₂ ∧ l₁.length = i ∧ l.eraseIdx i = l₁ ++ l₂ := by
  obtain ⟨hi, rfl⟩ := List.getElem?_eq_some_iff.mp h
  refine ⟨l.take i, l.drop (i + 1), ?_, by simp; omega, List.eraseIdx_eq_take_drop_succ ..⟩
  rw [List.getElem_cons_drop, List.take_append_drop]

end

end Process

/-! ## Taking one element out of a list -/

section
variable {α : Type} {l₁ l₂ : List α} {a b : α}

theorem mem_skip (h : b ∈ l₁ ++ a :: l₂) (hb : b ≠ a) : b ∈ l₁ ++ l₂ := by
  simp only [List.mem_append, List.mem_cons] at h ⊢
  tauto

theorem mem_unskip (h : b ∈ l₁ ++ l₂) : b ∈ l₁ ++ a :: l₂ :=
  (List.Sublist.append_left (List.sublist_cons_self a l₂) l₁).subset h

end

end StayApi
