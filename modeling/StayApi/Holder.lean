import StayApi.Run

/-!
# Holders

An object that holds at most one resource at a time. It acquires a fresh one in
place of the one it has, lends what it holds, and releases what it holds.
Resources are numbered in the order in which they are acquired.
-/

namespace StayApi

structure Holder where
  held : Option Nat
  acquired : Nat
  released : List Nat
  lent : List Nat

namespace Holder

/-- `idle` is a use that comes to nothing. -/
inductive Use where
  | acquire
  | lend
  | release
  | idle
  deriving DecidableEq

def start : Holder := ⟨none, 0, [], []⟩

def use (h : Holder) : Use → Holder
  | .acquire => { h with held := some h.acquired, acquired := h.acquired + 1 }
  | .lend => { h with lent := h.lent ++ h.held.toList }
  | .release => { h with released := h.released ++ h.held.toList }
  | .idle => h

def step (h : Holder) (u : Use) : Option Holder := some (h.use u)

def NoLeak (h : Holder) : Prop := ∀ r < h.acquired, r ∈ h.released

def Current (h : Holder) : Prop := ∀ r ∈ h.lent, h.held = some r

/-- A resource is acquired only when the one before it is released and nothing was lent. -/
def Clean (h : Holder) (u : Use) : Prop :=
  u = .acquire → (∀ r, h.held = some r → r ∈ h.released) ∧ h.lent = []

def Numbered (h : Holder) : Prop := ∀ r, h.held = some r → r < h.acquired

/-- `r` can no longer be released. -/
def Lost (r : Nat) (h : Holder) : Prop := r < h.acquired ∧ r ∉ h.released ∧ h.held ≠ some r

structure Tidy (h : Holder) : Prop where
  kept : ∀ r < h.acquired, r ∈ h.released ∨ h.held = some r
  current : h.Current

section
variable {h h' : Holder} {u : Use} {us : List Use} {r : Nat}

theorem numbered_use (hn : h.Numbered) : (h.use u).Numbered := by
  cases u with
  | acquire =>
    intro r hr
    obtain rfl := Option.some.inj hr
    exact Nat.lt_succ_self _
  | lend => exact hn
  | release => exact hn
  | idle => exact hn

theorem lost_use (hl : Lost r h) : Lost r (h.use u) := by
  obtain ⟨hr, hrel, hheld⟩ := hl
  cases u with
  | acquire =>
    refine ⟨Nat.lt_succ_of_lt hr, hrel, ?_⟩
    intro he
    have := Option.some.inj he
    omega
  | lend => exact ⟨hr, hrel, hheld⟩
  | release =>
    refine ⟨hr, ?_, hheld⟩
    intro hm
    rcases List.mem_append.mp hm with hm | hm
    · exact hrel hm
    · exact hheld (Option.mem_toList.mp hm)
  | idle => exact ⟨hr, hrel, hheld⟩

theorem lost_acquire (hn : h.Numbered) (hr : h.held = some r) (hrel : r ∉ h.released) : Lost r (h.use .acquire) := by
  have hlt := hn r hr
  refine ⟨Nat.lt_succ_of_lt hlt, hrel, ?_⟩
  intro he
  have := Option.some.inj he
  omega

theorem not_current_acquire (hn : h.Numbered) (hc : h.Current) (hl : h.lent ≠ []) : ¬ (h.use .acquire).Current := by
  intro hcurrent
  obtain ⟨r, hr⟩ := List.exists_mem_of_ne_nil _ hl
  have hlt := hn r (hc r hr)
  have := Option.some.inj (hcurrent r hr)
  omega

theorem tidy_use (ht : h.Tidy) (hc : h.Clean u) : (h.use u).Tidy := by
  cases u with
  | acquire =>
    obtain ⟨hrel, hlent⟩ := hc rfl
    constructor
    · intro r hr
      rcases Nat.lt_succ_iff_lt_or_eq.mp hr with hlt | rfl
      · rcases ht.kept r hlt with hk | hk
        · exact .inl hk
        · exact .inl (hrel r hk)
      · exact .inr rfl
    · intro r hr
      change r ∈ h.lent at hr
      rw [hlent] at hr
      cases hr
  | lend =>
    refine ⟨ht.kept, ?_⟩
    intro r hr
    rcases List.mem_append.mp hr with hr | hr
    · exact ht.current r hr
    · exact Option.mem_toList.mp hr
  | release =>
    refine ⟨?_, ht.current⟩
    intro r hr
    rcases ht.kept r hr with hk | hk
    · exact .inl (List.mem_append_left _ hk)
    · exact .inr hk
  | idle => exact ht

theorem noLeak_release (ht : h.Tidy) : (h.use .release).NoLeak := by
  intro r hr
  rcases ht.kept r hr with hk | hk
  · exact List.mem_append_left _ hk
  · exact List.mem_append_right _ (Option.mem_toList.mpr hk)

theorem numbered_run (hr : run step start us = some h) : h.Numbered := by
  refine run_invariant ?_ ?_ (along_true start us) hr
  · intro h u h' hn _ hs
    obtain rfl := Option.some.inj hs
    exact numbered_use hn
  · intro r hr
    cases hr

theorem tidy_step (ht : h.Tidy) (hc : h.Clean u) (hs : step h u = some h') : h'.Tidy := by
  obtain rfl := Option.some.inj hs
  exact tidy_use ht hc

theorem tidy_start : start.Tidy := by
  constructor
  · intro r hr
    cases hr
  · intro r hr
    cases hr

end

/-- **When a holder leaks nothing and lends nothing stale.** Released at the end,
it has released all it acquired, and until then has lent nothing but what it
holds, exactly if it acquires cleanly. -/
theorem noLeak_iff {us : List Use} {h : Holder} (hr : run step start us = some h) :
    (h.use .release).NoLeak ∧ (Along step (fun h _ => h.Current) start us ∧ h.Current) ↔
      Along step (fun h u => h.Clean u) start us := by
  constructor
  · rintro ⟨hleak, hcurrent⟩
    by_contra hc
    obtain ⟨us₁, u, us₂, t, rfl, ht, hu⟩ := not_along hr hc
    obtain rfl : u = .acquire := by
      by_contra hne
      exact hu fun he => absurd he hne
    have hn := numbered_run ht
    obtain ⟨t', ht', hrest⟩ := run_append.mp hr
    obtain rfl : t = t' := Option.some.inj (ht.symm.trans ht')
    have hfrom : Along step (fun h _ => h.Current) t (.acquire :: us₂) := ((along_append ht).mp hcurrent.1).2
    obtain ⟨hbefore, hafter⟩ := (along_next (P := Current) hrest).mp ⟨hfrom, hcurrent.2⟩
    have hnext : (t.use .acquire).Current := hafter.1 _ rfl
    obtain ⟨v, hv, hrest⟩ := run_cons hrest
    obtain rfl := Option.some.inj hv
    by_cases hlent : t.lent = []
    · have hex : ∃ r, t.held = some r ∧ r ∉ t.released := by
        by_contra hno
        apply hu
        intro _
        refine ⟨?_, hlent⟩
        intro r hheld
        by_contra hrel
        exact hno ⟨r, hheld, hrel⟩
      obtain ⟨r, hheld, hrel⟩ := hex
      have hlost : Lost r h := by
        refine run_invariant ?_ (lost_acquire hn hheld hrel) (along_true _ us₂) hrest
        intro h u h' hl _ hs
        obtain rfl := Option.some.inj hs
        exact lost_use hl
      have hend : Lost r (h.use .release) := lost_use hlost
      exact hend.2.1 (hleak r hend.1)
    · exact not_current_acquire hn hbefore hlent hnext
  · intro hc
    have htidy : h.Tidy := run_invariant (fun h u h' ht hc hs => tidy_step ht hc hs) tidy_start hc hr
    refine ⟨noLeak_release htidy, ?_, htidy.current⟩
    exact along_mono (fun h u ht => ht.1.current) (along_invariant (fun h u h' ht hc hs => tidy_step ht hc hs) tidy_start hc)

end Holder

end StayApi
