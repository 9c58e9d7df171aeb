import Mathlib.Data.List.InsertIdx
import StayApi.Process

/-!
# Control points

The programs of a process stop at finitely many places of its source. `Points`
names them: each point stands for a thread, and `next` says in closed form what
the process does when the thread's reply arrives. A process over points runs in
step with the process over threads, so a property of every run of the one is a
property of every run of the other.
-/

namespace StayApi

/-- What `Turn` is for programs, with the suspensions named. -/
structure PointTurn (π σ ε : Type) where
  state : σ
  suspended : List π
  unhandled : List ε

structure Points (π ℓ σ κ : Type) (ρ : κ → Type) (ε : Type) where
  thread : π → Thread ℓ σ κ ρ ε
  next : (p : π) → Except ε (ρ (thread p).cmd) → σ → PointTurn π σ ε

structure PointProcess {π ℓ σ κ ε : Type} {ρ : κ → Type} (K : Points π ℓ σ κ ρ ε) where
  state : σ
  issued : List π
  replied : List (Σ p : π, Except ε (ρ (K.thread p).cmd))
  unhandled : List ε

namespace Points

section
variable {π ℓ σ κ ε : Type} {ρ : κ → Type} (K : Points π ℓ σ κ ρ ε)

/-- `t` is what running a program on behalf of `l` gives. -/
def Names (l : ℓ) (t : PointTurn π σ ε) (u : Turn σ κ ρ ε) : Prop :=
  u.state = t.state ∧ Process.threads l u = t.suspended.map K.thread ∧ u.unhandled = t.unhandled

variable {K} in
theorem names_origin {l : ℓ} {t : PointTurn π σ ε} {u : Turn σ κ ρ ε} (h : K.Names l t u) :
    ∀ p ∈ t.suspended, (K.thread p).origin = l := by
  intro p hp
  have hm : K.thread p ∈ Process.threads l u := by
    rw [h.2.1]
    exact List.mem_map.mpr ⟨p, hp, rfl⟩
  obtain ⟨x, -, hx⟩ := List.mem_map.mp hm
  rw [← hx]

/-- The points name every suspension that resuming a point leads to. -/
def Sound : Prop :=
  ∀ p r s, K.Names (K.thread p).origin (K.next p r s) (((K.thread p).cont r).run s)

end

end Points

namespace PointProcess

section
variable {π ℓ σ κ ε : Type} {ρ : κ → Type} {K : Points π ℓ σ κ ρ ε}

def start (s : σ) : PointProcess K := ⟨s, [], [], []⟩

def process (P : PointProcess K) : Process ℓ σ κ ρ ε :=
  { state := P.state
    issued := P.issued.map K.thread
    replied := P.replied.map fun a => ⟨K.thread a.1, a.2⟩
    unhandled := P.unhandled }

def turn (t : PointTurn π σ ε) (P : PointProcess K) : PointProcess K :=
  { state := t.state
    issued := P.issued ++ t.suspended
    replied := P.replied
    unhandled := P.unhandled ++ t.unhandled }

def answer {δ : Type} (serve : (c : κ) → δ → Option (δ × Except ε (ρ c))) (i : Nat) (d : δ)
    (P : PointProcess K) : Option (δ × PointProcess K) :=
  match P.issued[i]? with
  | none => none
  | some p =>
    match serve (K.thread p).cmd d with
    | none => none
    | some (d', r) =>
      some (d', { P with issued := P.issued.eraseIdx i, replied := P.replied ++ [⟨p, r⟩] })

def resume (j : Nat) (P : PointProcess K) : Option (PointProcess K) :=
  match P.replied[j]? with
  | none => none
  | some a => some (turn (K.next a.1 a.2 P.state) { P with replied := P.replied.eraseIdx j })

@[simp] theorem process_state (P : PointProcess K) : P.process.state = P.state := rfl

theorem process_call {l : ℓ} {t : PointTurn π σ ε} {p : Proc σ κ ρ ε} (P : PointProcess K)
    (h : K.Names l t (p.run P.state)) : Process.call l p P.process = (turn t P).process := by
  obtain ⟨hs, hi, hu⟩ := h
  simp only [Process.call, process, turn, hs, hi, hu, List.map_append]

theorem process_answer {δ : Type} (serve : (c : κ) → δ → Option (δ × Except ε (ρ c))) (i : Nat) (d : δ)
    (P : PointProcess K) :
    Process.answer serve i d P.process = (answer serve i d P).map fun x => (x.1, x.2.process) := by
  unfold Process.answer answer
  simp only [process, List.getElem?_map]
  cases P.issued[i]? with
  | none => rfl
  | some p =>
    simp only [Option.map_some]
    cases serve (K.thread p).cmd d with
    | none => rfl
    | some x => simp [List.eraseIdx_map]

theorem process_resume (hK : K.Sound) (j : Nat) (P : PointProcess K) :
    Process.resume j P.process = (resume j P).map process := by
  unfold Process.resume resume
  have hj : P.process.replied[j]? = P.replied[j]?.map fun a => ⟨K.thread a.1, a.2⟩ := List.getElem?_map ..
  rw [hj]
  cases P.replied[j]? with
  | none => rfl
  | some a =>
    simp only [Option.map_some, Option.some.injEq]
    have hP : { P.process with replied := P.process.replied.eraseIdx j } =
        ({ P with replied := P.replied.eraseIdx j } : PointProcess K).process := by
      simp only [process, List.eraseIdx_map]
    rw [hP]
    exact process_call _ (hK a.1 a.2 P.state)

theorem answer_eq_some {δ : Type} {serve : (c : κ) → δ → Option (δ × Except ε (ρ c))} {i : Nat} {d d' : δ}
    {P P' : PointProcess K} (h : answer serve i d P = some (d', P')) :
    ∃ l₁ p l₂ r, P.issued = l₁ ++ p :: l₂ ∧ l₁.length = i ∧ serve (K.thread p).cmd d = some (d', r) ∧
      P' = { P with issued := l₁ ++ l₂, replied := P.replied ++ [⟨p, r⟩] } := by
  unfold answer at h
  cases hi : P.issued[i]? with
  | none => simp [hi] at h
  | some p =>
    simp only [hi] at h
    cases hs : serve (K.thread p).cmd d with
    | none => simp [hs] at h
    | some x =>
      simp only [hs, Option.some.injEq, Prod.mk.injEq] at h
      obtain ⟨l₁, l₂, hl, hlen, he⟩ := Process.eraseIdx_split hi
      refine ⟨l₁, p, l₂, x.2, hl, hlen, ?_, ?_⟩
      · rw [← h.1]; exact hs
      · rw [← h.2, he]

theorem answer_split {δ : Type} {serve : (c : κ) → δ → Option (δ × Except ε (ρ c))} {d d' : δ}
    {P : PointProcess K} {l₁ l₂ : List π} {p : π} {r : Except ε (ρ (K.thread p).cmd)}
    (hi : P.issued = l₁ ++ p :: l₂) (hs : serve (K.thread p).cmd d = some (d', r)) :
    answer serve l₁.length d P =
      some (d', { P with issued := l₁ ++ l₂, replied := P.replied ++ [⟨p, r⟩] }) := by
  have hg : P.issued[l₁.length]? = some p := by
    rw [hi]
    simp
  have he : P.issued.eraseIdx l₁.length = l₁ ++ l₂ := by
    rw [hi]
    simp [List.eraseIdx_append_of_length_le]
  unfold answer
  simp only [hg, hs, he]

theorem resume_split {P : PointProcess K} {l₁ l₂ : List (Σ p : π, Except ε (ρ (K.thread p).cmd))}
    {a : Σ p : π, Except ε (ρ (K.thread p).cmd)} (hr : P.replied = l₁ ++ a :: l₂) :
    resume l₁.length P = some (turn (K.next a.1 a.2 P.state) { P with replied := l₁ ++ l₂ }) := by
  have hg : P.replied[l₁.length]? = some a := by
    rw [hr]
    simp
  have he : P.replied.eraseIdx l₁.length = l₁ ++ l₂ := by
    rw [hr]
    simp [List.eraseIdx_append_of_length_le]
  unfold resume
  simp only [hg, he]

theorem resume_eq_some {j : Nat} {P P' : PointProcess K} (h : resume j P = some P') :
    ∃ l₁ a l₂, P.replied = l₁ ++ a :: l₂ ∧ l₁.length = j ∧
      P' = turn (K.next a.1 a.2 P.state) { P with replied := l₁ ++ l₂ } := by
  unfold resume at h
  cases hj : P.replied[j]? with
  | none => simp [hj] at h
  | some a =>
    simp only [hj, Option.some.injEq] at h
    obtain ⟨l₁, l₂, hl, hlen, he⟩ := Process.eraseIdx_split hj
    exact ⟨l₁, a, l₂, hl, hlen, by rw [← h, he]⟩

end

end PointProcess

end StayApi
